import Mathlib.Data.List.DropRight
import WalletCurrencies.Uri
import WalletCurrencies.Proofs.IdParts

/-! How the URL standard reads a text that stands alone, one state after the other, as far as a text
can be rejected. A scheme of no special standing leaves that to the states of an authority, and what
they take is readable. -/

namespace WalletCurrencies.Uri

def fragmentState : List Char → Bool
  | [] => true
  | _ :: rest => fragmentState rest

def queryState : List Char → Bool
  | [] => true
  | c :: rest => if c = '#' then fragmentState rest else queryState rest

/-- A path without a slash at its beginning ends in the same way. -/
def pathState : List Char → Bool
  | [] => true
  | c :: rest =>
    if c = '?' then queryState rest else if c = '#' then fragmentState rest else pathState rest

def pathStartState : List Char → Bool
  | '/' :: rest => pathState rest
  | text => pathState text

/-- The digits so far are those of `value`. -/
def portState (value : Nat) : List Char → Bool
  | [] => value ≤ 65535
  | c :: rest =>
    match Text.digitValue? c with
    | some digit => portState (value * 10 + digit) rest
    | none => endsAuthority c && value ≤ 65535 && pathStartState (c :: rest)

def hostState (inside : Bool) (buffer : List Char) : List Char → Bool
  | [] => isHost buffer
  | c :: rest =>
    if c == ':' && !inside then !buffer.isEmpty && isHost buffer && portState 0 rest
    else if endsAuthority c then isHost buffer && pathStartState (c :: rest)
    else hostState (if c = '[' then true else if c = ']' then false else inside) (buffer ++ [c]) rest

/-- What the buffer holds is read once more, as the host. -/
def authorityState (credentials : Bool) (buffer : List Char) : List Char → Bool
  | [] => !(credentials && buffer.isEmpty) && hostState false [] buffer
  | c :: rest =>
    if c = '@' then authorityState true [] rest
    else if endsAuthority c then !(credentials && buffer.isEmpty) && hostState false [] (buffer ++ c :: rest)
    else authorityState credentials (buffer ++ [c]) rest

def pathOrAuthorityState : List Char → Bool
  | '/' :: rest => authorityState false [] rest
  | text => pathState text

def specialSchemes : List String := ["file", "ftp", "http", "https", "ws", "wss"]

-- How the rest of a text is read after a scheme of special standing.
variable (special : List Char → List Char → Bool)

def schemeState (scheme : List Char) : List Char → Bool
  | [] => false
  | c :: rest =>
    if c.isAlphanum || ['+', '-', '.'].contains c then schemeState (scheme ++ [c.toLower]) rest
    else if c != ':' then false
    else if specialSchemes.contains (String.ofList scheme) then special scheme rest
    else
      match rest with
      | '/' :: after => pathOrAuthorityState after
      | text => pathState text

def schemeStartState : List Char → Bool
  | [] => false
  | c :: rest => c.isAlpha && schemeState special [c.toLower] rest

/-- Blanks and controls around the text do not count. -/
def reads (text : String) : Bool := schemeStartState special (relevant (text.toList.dropWhile (· ≤ ' ')))

theorem fragmentState_eq_true (text : List Char) : fragmentState text = true := by
  induction text with
  | nil => rfl
  | cons _ _ ih => exact ih

theorem queryState_eq_true (text : List Char) : queryState text = true := by
  induction text with
  | nil => rfl
  | cons c rest ih =>
    rw [queryState]
    split
    next => exact fragmentState_eq_true rest
    next => exact ih

theorem pathState_eq_true (text : List Char) : pathState text = true := by
  induction text with
  | nil => rfl
  | cons c rest ih =>
    rw [pathState]
    split
    next => exact queryState_eq_true rest
    next =>
      split
      next => exact fragmentState_eq_true rest
      next => exact ih

theorem pathStartState_eq_true (text : List Char) : pathStartState text = true := by
  unfold pathStartState
  split
  next => exact pathState_eq_true _
  next => exact pathState_eq_true _

variable {text buffer : List Char} {value : Nat}

/-- More digits never make the port smaller. -/
theorem le_of_portState (reads : portState value text = true) : value ≤ 65535 := by
  induction text generalizing value with
  | nil => simpa [portState] using reads
  | cons c rest ih =>
    rw [portState] at reads
    split at reads
    next digit _ =>
      have bound := ih reads
      omega
    next =>
      simp only [Bool.and_eq_true, decide_eq_true_eq] at reads
      exact reads.1.2

theorem isPort_of_portState (reads : portState value text = true) : isPort value text = true := by
  induction text generalizing value with
  | nil => rfl
  | cons c rest ih =>
    rw [portState] at reads
    rw [isPort]
    cases known : Text.digitValue? c with
    | some digit =>
      simp only [known] at reads
      simp [le_of_portState reads, ih reads]
    | none =>
      simp only [known, Bool.and_eq_true] at reads
      obtain ⟨⟨ends, -⟩, -⟩ := reads
      simp [ends]

/-- A host has been cut off, and a port may follow. -/
def takesHost (host : List Char) : List Char → Bool
  | ':' :: port => !host.isEmpty && isHost host && portState 0 port
  | _ => isHost host

theorem ne_of_endsAuthority {c mark : Char} (ends : endsAuthority c = true) (inner : endsAuthority mark = false) :
    c ≠ mark := by
  rintro rfl
  exact Bool.false_ne_true (inner.symm.trans ends)

theorem takesHost_of_endsAuthority {c : Char} (ends : endsAuthority c = true) (host rest : List Char) :
    takesHost host (c :: rest) = isHost host := by
  unfold takesHost
  split
  next same => exact absurd (List.cons.inj same).1 (ne_of_endsAuthority ends (by decide))
  next => rfl

/-- The buffer ends up with the host that `cutHost` cuts off. -/
theorem hostState_eq (inside : Bool) (buffer text : List Char) : hostState inside buffer text
    = takesHost (buffer ++ (cutHost inside text).1) (cutHost inside text).2 := by
  induction text generalizing inside buffer with
  | nil => simp [hostState, cutHost, takesHost]
  | cons c rest ih =>
    rw [hostState, cutHost]
    by_cases ends : endsAuthority c = true
    · have differs : c ≠ ':' := ne_of_endsAuthority ends (by decide)
      simp [ends, differs, takesHost_of_endsAuthority, pathStartState_eq_true]
    · by_cases colon : (c == ':' && !inside) = true
      · have mark : c = ':' := eq_of_beq (Bool.and_eq_true_iff.mp colon).1
        subst mark
        simp only [colon, Bool.or_true, if_true, List.append_nil, takesHost]
      · simp [ends, colon, ih, List.append_assoc]

/-- Without a name the authority starts with what ends its host. -/
theorem takeWhile_of_cutHost_eq_nil {inside : Bool} {after : List Char}
    (cut : cutHost inside text = ([], after)) :
    text.takeWhile (!endsAuthority ·) = [] ∨ ∃ rest, after = ':' :: rest := by
  cases text with
  | nil => exact Or.inl rfl
  | cons c rest =>
    rw [cutHost] at cut
    split at cut
    next stops =>
      rw [Bool.or_eq_true] at stops
      rcases stops with ends | colon
      · exact Or.inl (by simp [ends])
      · refine Or.inr ⟨rest, ?_⟩
        have mark : c = ':' := eq_of_beq (Bool.and_eq_true_iff.mp colon).1
        rw [← mark]
        exact (Prod.mk.inj cut).2.symm
    next => simp at cut

/-- Behind credentials a host has to be named. -/
theorem isHostAndPort_of_hostState {credentials : Bool} (reads : hostState false [] text = true)
    (named : credentials = true → text.takeWhile (!endsAuthority ·) ≠ []) :
    isHostAndPort credentials text = true := by
  rw [hostState_eq, List.nil_append] at reads
  unfold isHostAndPort
  split
  next cut => simp [cut, takesHost] at reads
  next after noPort cut =>
    rcases takeWhile_of_cutHost_eq_nil cut with empty | ⟨port, rfl⟩
    · cases credentials with
      | false => rfl
      | true => exact absurd empty (named rfl)
    · exact absurd rfl (noPort port)
  next cut =>
    simp only [cut, takesHost, Bool.and_eq_true] at reads
    obtain ⟨⟨-, host⟩, port⟩ := reads
    simp [host, isPort_of_portState port]
  next host after _ noPort cut =>
    rw [cut] at reads
    unfold takesHost at reads
    split at reads
    next port same => exact absurd same (noPort port)
    next => exact reads

/-- Every at sign starts the buffer anew, so that the last one counts. -/
theorem authorityState_eq (credentials : Bool) (buffer text : List Char) :
    authorityState credentials buffer text =
      match Text.cutAtLast '@' (text.takeWhile (!endsAuthority ·)) with
      | none => !(credentials && (buffer ++ text.takeWhile (!endsAuthority ·)).isEmpty)
          && hostState false [] (buffer ++ text)
      | some (before, after) => !after.isEmpty && hostState false [] (text.drop (before.length + 1)) := by
  induction text generalizing credentials buffer with
  | nil => simp [authorityState, Text.cutAtLast]
  | cons c rest ih =>
    rw [authorityState]
    by_cases ends : endsAuthority c = true
    · have differs : c ≠ '@' := ne_of_endsAuthority ends (by decide)
      simp [ends, differs, Text.cutAtLast]
    · by_cases mark : c = '@'
      · subst mark
        rw [if_pos rfl, ih, List.takeWhile_cons_of_pos (by simpa using ends), Text.cutAtLast]
        cases Text.cutAtLast '@' (rest.takeWhile (!endsAuthority ·)) with
        | none => simp
        | some pieces => simp
      · rw [if_neg mark, if_neg ends, ih, List.takeWhile_cons_of_pos (by simpa using ends), Text.cutAtLast]
        cases Text.cutAtLast '@' (rest.takeWhile (!endsAuthority ·)) with
        | none => simp [mark]
        | some pieces => simp

/-- Whatever stands between the last at sign and the end of the authority begins the host. -/
theorem takeWhile_drop_ne_nil {before after : List Char}
    (reach : text.takeWhile (!endsAuthority ·) = before ++ '@' :: after) (nonempty : after ≠ []) :
    (text.drop (before.length + 1)).takeWhile (!endsAuthority ·) ≠ [] := by
  have split : text.drop (before.length + 1) = after ++ text.dropWhile (!endsAuthority ·) := by
    conv_lhs => rw [← List.takeWhile_append_dropWhile (p := (!endsAuthority ·)) (l := text), reach]
    simp
  have kept : ∀ c ∈ after, (!endsAuthority c) = true := by
    intro c member
    have inReach : c ∈ text.takeWhile (!endsAuthority ·) := by simp [reach, member]
    exact List.mem_takeWhile_imp (p := (!endsAuthority ·)) inReach
  rw [split, List.takeWhile_append_of_pos kept]
  exact List.append_ne_nil_of_left_ne_nil nonempty _

theorem isAuthority_of_authorityState (reads : authorityState false [] text = true) : isAuthority text = true := by
  rw [authorityState_eq] at reads
  rw [isAuthority]
  cases cut : Text.cutAtLast '@' (text.takeWhile (!endsAuthority ·)) with
  | none =>
    simp only [cut, Bool.false_and, Bool.not_false, Bool.true_and, List.nil_append] at reads
    exact isHostAndPort_of_hostState reads (absurd · Bool.false_ne_true)
  | some pieces =>
    obtain ⟨before, after⟩ := pieces
    simp only [cut, Bool.and_eq_true, Bool.not_eq_true', List.isEmpty_eq_false_iff] at reads
    obtain ⟨nonempty, host⟩ := reads
    obtain ⟨reach, -⟩ := Text.cutAtLast_eq_some_iff.mp cut
    have taken : ∀ credentials, isHostAndPort credentials (text.drop (before.length + 1)) = true :=
      fun _ => isHostAndPort_of_hostState host fun _ => takeWhile_drop_ne_nil reach nonempty
    cases before with
    | nil =>
      simp only [Bool.and_eq_true, Bool.or_eq_true, Bool.not_eq_true', List.isEmpty_eq_false_iff]
      exact ⟨Or.inl nonempty, taken false⟩
    | cons c more => exact taken _

/-- Without tabs and line ends. -/
def unbroken (text : List Char) : List Char := text.filter fun c => c != '\t' && c != '\n' && c != '\r'

theorem relevant_eq (text : List Char) : relevant text = unbroken (text.rdropWhile (· ≤ ' ')) := rfl

theorem relevant_append {before : List Char} (solid : before.rdropWhile (· ≤ ' ') = before) (text : List Char) :
    relevant (before ++ text) = unbroken before ++ relevant text := by
  rw [List.rdropWhile, ← List.reverse_inj, List.reverse_reverse] at solid
  rw [relevant_eq, relevant_eq, unbroken, unbroken, unbroken, ← List.filter_append, List.rdropWhile, List.rdropWhile,
    List.reverse_append, List.dropWhile_append, solid]
  cases text.reverse.dropWhile (· ≤ ' ') with
  | nil => simp
  | cons => simp

/-- The scheme of bitcoin is not special. -/
theorem schemeStartState_bitcoin (rest : List Char) :
    schemeStartState special ("bitcoin:".toList ++ rest) =
      match rest with
      | '/' :: after => pathOrAuthorityState after
      | text => pathState text := rfl

theorem reads_bitcoin (text : String) : reads special ("bitcoin:" ++ text) =
    match relevant text.toList with
    | '/' :: '/' :: rest => authorityState false [] rest
    | _ => true := by
  have start : ("bitcoin:" ++ text).toList.dropWhile (· ≤ ' ') = "bitcoin:".toList ++ text.toList := by
    rw [String.toList_append]
    rfl
  have kept : relevant ("bitcoin:".toList ++ text.toList) = "bitcoin:".toList ++ relevant text.toList :=
    relevant_append (by decide) text.toList
  rw [reads, start, kept, schemeStartState_bitcoin]
  split
  next after shape =>
    unfold pathOrAuthorityState
    split
    next rest => simp only [shape]
    next noAuthority =>
      rw [shape, pathState_eq_true]
      split
      next rest same => exact absurd (List.cons.inj same).2 (noAuthority rest)
      next => rfl
  next noPath =>
    rw [pathState_eq_true]
    split
    next rest same => exact absurd same (noPath _)
    next => rfl

/-- Only an authority can make a URI of bitcoin fail. -/
theorem slashes_prefix_of_reads_bitcoin {text : String} (rejected : reads special ("bitcoin:" ++ text) = false) :
    ['/', '/'] <+: unbroken text.toList := by
  rw [reads_bitcoin] at rejected
  split at rejected
  next rest shape =>
    have shown : ['/', '/'] <+: relevant text.toList := ⟨rest, shape.symm⟩
    have cut : text.toList.rdropWhile (· ≤ ' ') <+: text.toList := List.rdropWhile_prefix _ _
    exact shown.trans (cut.filter _)
  next => cases rejected

theorem isReadable_of_reads_bitcoin {text : String} (taken : reads special ("bitcoin:" ++ text) = true) :
    isReadable text = true := by
  rw [reads_bitcoin] at taken
  unfold isReadable
  split
  next rest shape =>
    simp only [shape] at taken
    exact isAuthority_of_authorityState taken
  next => rfl

-- Not the other way round: an at sign with nothing around it is readable.
example : isReadable "//@" = true ∧ reads (fun _ _ => false) "bitcoin://@" = false := by decide

end WalletCurrencies.Uri
