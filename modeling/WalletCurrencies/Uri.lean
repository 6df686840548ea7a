import WalletCurrencies.Text.Ascii
import WalletCurrencies.Text.Cut

/-! Whether what follows the scheme can be read as part of a URI, for a scheme of no special
standing. Only an authority, after two slashes, can go wrong: in its host or in its port. -/

namespace WalletCurrencies.Uri

/-- Up to 255, and without leading zeros. -/
def isOctet (text : List Char) : Bool :=
  match text.mapM Text.digitValue? with
  | none => false
  | some [] => false
  | some (first :: rest) =>
    (first != 0 || rest.isEmpty) && rest.foldl (fun value digit => value * 10 + digit) first ≤ 255

/-- As many octets as `dots`, each with a dot after it, and one more. -/
def isDotted : (dots : Nat) → List Char → Bool
  | 0, text => isOctet text
  | dots + 1, text =>
    match Text.cutAtFirst '.' text with
    | some (octet, rest) => isOctet octet && isDotted dots rest
    | none => false

def hexGroup : (digits : Nat) → List Char → List Char
  | 0, text => text
  | _ + 1, [] => []
  | digits + 1, c :: rest => if (Text.hexValue? c).isSome then hexGroup digits rest else c :: rest

/-- The groups of an address of which `left` are still to come. Two colons in a row stand once
for any number of them, and four octets may stand for the last two. -/
def isGroups : (left : Nat) → (shortened : Bool) → List Char → Bool
  | left, shortened, [] => shortened || left == 0
  | 0, _, _ :: _ => false
  | left + 1, shortened, c :: rest =>
    if c = ':' then !shortened && isGroups left true rest
    else
      match hexGroup 4 (c :: rest) with
      | [] => isGroups left shortened []
      | ':' :: [] => false
      | ':' :: more => isGroups left shortened more
      | '.' :: _ =>
        c != '.' && 1 ≤ left && (shortened || left == 1) && isDotted 3 (c :: rest)
      | _ :: _ => false

def isLongAddress : List Char → Bool
  | ':' :: ':' :: rest => isGroups 7 true rest
  | ':' :: _ => false
  | text => 2 ≤ text.length && isGroups 8 false text

def isForbiddenInHost (c : Char) : Bool :=
  ['\x00', '\t', '\n', '\r', ' ', '#', '/', ':', '<', '>', '?', '@', '[', '\\', ']', '^', '|'].contains c

/-- A host in brackets is an address in groups. -/
def isHost : List Char → Bool
  | '[' :: rest => rest.getLast? == some ']' && isLongAddress rest.dropLast
  | text => !text.any isForbiddenInHost

def endsAuthority (c : Char) : Bool := c == '/' || c == '?' || c == '#'

/-- The host ends at a colon outside of brackets. -/
def cutHost (inside : Bool) : List Char → List Char × List Char
  | [] => ([], [])
  | c :: rest =>
    if endsAuthority c || (c == ':' && !inside) then ([], c :: rest)
    else
      let (host, after) := cutHost (if c = '[' then true else if c = ']' then false else inside) rest
      (c :: host, after)

def isPort (value : Nat) : List Char → Bool
  | [] => true
  | c :: rest =>
    match Text.digitValue? c with
    | some digit => value * 10 + digit ≤ 65535 && isPort (value * 10 + digit) rest
    | none => endsAuthority c || c == '\\'

/-- A host may be missing only where neither a port nor credentials are given. -/
def isHostAndPort (credentials : Bool) (text : List Char) : Bool :=
  match cutHost false text with
  | ([], ':' :: _) => false
  | ([], _) => !credentials
  | (host, ':' :: port) => isHost host && isPort 0 port
  | (host, _) => isHost host

/-- The last at sign ends the credentials. A single colon before it gives none. -/
def isAuthority (text : List Char) : Bool :=
  let reach := text.takeWhile (!endsAuthority ·)
  match Text.cutAtLast '@' reach with
  | none => isHostAndPort false text
  | some ([], after) =>
    (!after.isEmpty || reach.length == text.length) && isHostAndPort false (text.drop 1)
  | some (credentials, _) =>
    isHostAndPort (credentials != [':']) (text.drop (credentials.length + 1))

/-- Blanks and controls at the end, and tabs and line ends anywhere, are ignored. -/
def relevant (text : List Char) : List Char :=
  (text.reverse.dropWhile (· ≤ ' ')).reverse.filter fun c => c != '\t' && c != '\n' && c != '\r'

def isReadable (afterScheme : String) : Bool :=
  match relevant afterScheme.toList with
  | '/' :: '/' :: rest => isAuthority rest
  | _ => true

end WalletCurrencies.Uri
