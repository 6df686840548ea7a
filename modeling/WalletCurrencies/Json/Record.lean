import WalletCurrencies.Json.Scalar
import WalletCurrencies.Json.Skip

/-! Records, written as an object with their fields in any order or as a list with their fields
in the order of the declaration. What has been read so far is a draft, to be completed at the
end. -/

namespace WalletCurrencies.Json

/-- One field of a record that is collected in drafts of type `δ`. -/
structure Field (δ : Type) where
  name : String
  required : Bool
  given : δ → Bool
  read : δ → Reader δ

/-- The field's value is kept in a place of the draft that is empty at first. -/
def Field.storing {δ β : Type} (name : String) (required : Bool) (reader : Reader β)
    (stored : δ → Option β) (store : δ → β → δ) : Field δ where
  name := name
  required := required
  given draft := (stored draft).isSome
  read draft text := do
    let (value, rest) ← reader text
    return (store draft value, rest)

structure Shape (δ α : Type) where
  name : String
  fields : List (Field δ)
  blank : δ
  /-- A draft without a required field is answered by the name of that field. -/
  complete : δ → Except String α

namespace Reader

variable {δ α : Type}

/-- The brace that closes an object counts as read when it follows a repeated key. -/
def pastBrace (text : List Char) : List Char :=
  match skipBlanks text with
  | '\x7d' :: rest => rest
  | rest => rest

/-- Unknown keys are passed over. -/
def memberRound (fields : List (Field δ)) (state : Bool × δ) :
    Reader (Round (Bool × δ) δ) := fun text => do
  let (first, draft) := state
  let (more, rest) ← nextMember first text
  if more then
    let (key, rest) ← textBody rest
    match fields.find? (·.name == key) with
    | none =>
      let ((), rest) ← colon rest
      let ((), rest) ← skipValue rest
      return (.again (false, draft), rest)
    | some field =>
      if field.given draft then throw (.here (.shape (.duplicateField key)) (pastBrace rest))
      else
        let ((), rest) ← colon rest
        let (draft, rest) ← field.read draft rest
        return (.again (false, draft), rest)
  else return (.done draft, rest)

def members (shape : Shape δ α) : Reader α := fun text => do
  let (draft, rest) ← repeated (memberRound shape.fields) (true, shape.blank) text
  match shape.complete draft with
  | .ok value => return (value, rest)
  | .error name => throw (.here (.shape (.missingField name)) rest)

/-- Nothing may follow the last field. -/
def endOfFields : Reader Unit := fun text =>
  match skipBlanks text with
  | [] => .error (.here .endOfList [])
  | ']' :: rest => .ok ((), rest)
  | ',' :: rest =>
    match skipBlanks rest with
    | ']' :: rest => .error (.past .trailingComma (']' :: rest))
    | rest => .error (.past .trailingText rest)
  | rest => .error (.past .trailingText rest)

/-- A list may end early only where no required field is left. -/
def positional (name : String) (total : Nat) : (index : Nat) → List (Field δ) → δ → Reader δ
  | _, [], draft, text => do
    let ((), rest) ← endOfFields text
    return (draft, rest)
  | index, field :: fields, draft, text => do
    let (more, rest) ← nextElement (index == 0) text
    if more then
      let (draft, rest) ← field.read draft rest
      positional name total (index + 1) fields draft rest
    else
      match (field :: fields).findIdx? (·.required) with
      | some further =>
        throw (.here (.shape (.wrongLength (index + further) (.recordOf name total))) rest)
      | none => return (draft, rest)

def elements (shape : Shape δ α) : Reader α := fun text => do
  let (draft, rest) ← positional shape.name shape.fields.length 0 shape.fields shape.blank text
  match shape.complete draft with
  | .ok value => return (value, rest)
  | .error name => throw (.here (.shape (.missingField name)) rest)

def record (shape : Shape δ α) : Reader α := fun text =>
  match skipBlanks text with
  | '[' :: rest => elements shape rest
  | '\x7b' :: rest => members shape rest
  | rest => mismatched (.record shape.name) rest

end Reader

end WalletCurrencies.Json
