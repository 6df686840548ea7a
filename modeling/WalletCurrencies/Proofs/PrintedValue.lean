import WalletCurrencies.Json.Document
import WalletCurrencies.Proofs.Entries
import WalletCurrencies.Proofs.PrintedNumber
import WalletCurrencies.Proofs.PrintedText
import WalletCurrencies.Proofs.Punctuation

/-! A printed value is read back as itself, except that its objects come back with the members in
ascending order. This holds of values that nest no deeper than a reader goes, and whose numbers
are whole and small enough to be read exactly. -/

namespace WalletCurrencies.Json

namespace Value

mutual

/-- What reading a printed value gives. -/
def readBack : Value → Value
  | .null => .null
  | .bool value => .bool value
  | .number value => .number value
  | .text value => .text value
  | .list items => .list (readBackItems items)
  | .object members => .object (Entries.ofList (readBackMembers members))
termination_by structural value => value

def readBackItems : List Value → List Value
  | [] => []
  | item :: rest => readBack item :: readBackItems rest
termination_by structural items => items

def readBackMembers : List (String × Value) → List (String × Value)
  | [] => []
  | member :: rest => readBackMember member :: readBackMembers rest
termination_by structural members => members

def readBackMember : String × Value → String × Value
  | (key, value) => (key, readBack value)
termination_by structural member => member

end

theorem readBackItems_eq_map (items : List Value) : readBackItems items = items.map readBack := by
  induction items with
  | nil => rfl
  | cons item rest ih => rw [readBackItems, ih, List.map_cons]

theorem readBackMembers_eq_map (members : List (String × Value)) :
    readBackMembers members = members.map fun member => (member.1, member.2.readBack) := by
  induction members with
  | nil => rfl
  | cons member rest ih =>
    obtain ⟨key, value⟩ := member
    rw [readBackMembers, ih, List.map_cons]
    rfl

theorem readBackMembers_of_forall {members : List (String × Value)}
    (kept : ∀ member ∈ members, member.2.readBack = member.2) : readBackMembers members = members := by
  rw [readBackMembers_eq_map]
  have same : ∀ member ∈ members, (member.1, member.2.readBack) = id member := by
    intro member inside
    rw [kept member inside]
    rfl
  rw [List.map_congr_left same, List.map_id]

/-- Every text but the first follows a comma. -/
def afterCommas (texts : List (List Char)) : List Char := texts.flatMap fun text => ',' :: text

theorem afterCommas_cons (text : List Char) (texts : List (List Char)) :
    afterCommas (text :: texts) = ',' :: (text ++ afterCommas texts) := by
  rw [afterCommas, List.flatMap_cons, List.cons_append]
  rfl

theorem printItems_cons (item : Value) (rest : List Value) :
    printItems (item :: rest) = item.print ++ afterCommas (rest.map print) := by
  induction rest generalizing item with
  | nil => simp [printItems, afterCommas]
  | cons next rest ih => rw [printItems, ih, List.map_cons, afterCommas_cons]

theorem printMembers_cons (member : String × Value) (rest : List (String × Value)) :
    printMembers (member :: rest) = printMember member ++ afterCommas (rest.map printMember) := by
  induction rest generalizing member with
  | nil => simp [printMembers, afterCommas]
  | cons next rest ih => rw [printMembers, ih, List.map_cons, afterCommas_cons]

theorem printMember_append (key : String) (value : Value) (rest : List Char) :
    printMember (key, value) ++ rest
      = '"' :: (key.toList.flatMap escapedChar ++ '"' :: ':' :: (value.print ++ rest)) := by
  simp [printMember, printText]

/-- Lists and objects nest at most this deep, and no number is rounded. -/
def Fits : Nat → Value → Prop
  | _, .null => True
  | _, .bool _ => True
  | _, .number (.whole value) => Exact value
  | _, .number (.real _) => False
  | _, .text _ => True
  | 0, .list _ => False
  | 0, .object _ => False
  | depth + 1, .list items => ∀ item ∈ items, Fits depth item
  | depth + 1, .object members => ∀ member ∈ members, Fits depth member.2

end Value

namespace Reader

/-- The text begins with a character that belongs to a value. -/
def Begun (text : List Char) : Prop := ∃ c rest, text = c :: rest ∧ isBlank c = false ∧ c ≠ ']'

/-- The reader takes the value back from its print, whatever closes it. -/
structure Rereads (reader : Reader Value) (value : Value) : Prop where
  begun : Begun value.print
  read : ∀ rest, Ends rest → reader (value.print ++ rest) = .ok (value.readBack, rest)

theorem ends_afterCommas (texts : List (List Char)) {closer : Char} {rest : List Char}
    (ends : Ends (closer :: rest)) : Ends (Value.afterCommas texts ++ closer :: rest) := by
  cases texts with
  | nil => exact ends
  | cons text texts => exact ends_cons (by decide) _

theorem nextElement_first {text : List Char} (begun : Begun text) (rest : List Char) :
    nextElement true (text ++ rest) = .ok (true, text ++ rest) := by
  obtain ⟨c, chars, rfl, notBlank, notEnd⟩ := begun
  rw [List.cons_append, nextElement, skipBlanks_cons notBlank]
  split
  next impossible => cases impossible
  next same =>
    cases same
    exact absurd rfl notEnd
  next same =>
    cases same
    rfl

theorem nextElement_later {text : List Char} (begun : Begun text) (rest : List Char) :
    nextElement false (',' :: (text ++ rest)) = .ok (true, text ++ rest) := by
  obtain ⟨c, chars, rfl, notBlank, notEnd⟩ := begun
  have comma : skipBlanks (',' :: (c :: chars ++ rest)) = ',' :: c :: (chars ++ rest) := skipBlanks_cons rfl _
  unfold nextElement
  rw [comma]
  split
  next impossible => cases impossible
  next impossible => cases impossible
  next same =>
    cases same
    simp only [Bool.false_eq_true, if_false, if_true, skipBlanks_cons notBlank]
    split
    next impossible => cases impossible
    next same =>
      cases same
      exact absurd rfl notEnd
    next => rfl

section

variable {item : Reader Value}

theorem listRound_first {value : Value} (rereads : Rereads item value) {rest : List Char} (ends : Ends rest) :
    listRound item [] (value.print ++ rest) = .ok (.again [value.readBack], rest) := by
  simp only [listRound, List.isEmpty_nil, nextElement_first rereads.begun, rereads.read rest ends, bind,
    Except.bind, if_true]
  rfl

theorem listRound_later {value : Value} (rereads : Rereads item value) {rest : List Char} (ends : Ends rest)
    {collected : List Value} (started : collected ≠ []) :
    listRound item collected (',' :: (value.print ++ rest)) = .ok (.again (value.readBack :: collected), rest) := by
  have later : collected.isEmpty = false := List.isEmpty_eq_false_iff.mpr started
  simp only [listRound, later, nextElement_later rereads.begun, rereads.read rest ends, bind, Except.bind,
    if_true]
  rfl

theorem listRound_end (collected : List Value) (rest : List Char) :
    listRound item collected (']' :: rest) = .ok (.done (.list collected.reverse), rest) := by
  rfl

theorem loops_laterItems {items : List Value} (rereads : ∀ value ∈ items, Rereads item value)
    {collected : List Value} (started : collected ≠ []) (rest : List Char) :
    Loops (listRound item) collected (Value.afterCommas (items.map Value.print) ++ ']' :: rest)
      (.list (collected.reverse ++ items.map Value.readBack)) rest := by
  induction items generalizing collected with
  | nil =>
    apply Loops.done
    rw [List.map_nil, List.map_nil, List.append_nil]
    exact listRound_end collected rest
  | cons value items ih =>
    have ends : Ends (Value.afterCommas (items.map Value.print) ++ ']' :: rest) :=
      ends_afterCommas _ (ends_cons (by decide) rest)
    have read := listRound_later (rereads value List.mem_cons_self) ends started
    have left := ih (fun other member => rereads other (List.mem_cons_of_mem value member))
      (List.cons_ne_nil value.readBack collected)
    rw [List.map_cons, Value.afterCommas_cons, List.cons_append, List.append_assoc]
    refine .again read ?_ ?_
    · simp only [List.length_cons, List.length_append]
      omega
    · rwa [List.reverse_cons, List.append_assoc, List.singleton_append] at left

theorem repeated_listRound {items : List Value} (rereads : ∀ value ∈ items, Rereads item value)
    (rest : List Char) :
    repeated (listRound item) [] (Value.printItems items ++ ']' :: rest)
      = .ok (.list (items.map Value.readBack), rest) := by
  apply repeated_of_loops
  cases items with
  | nil => exact .done (listRound_end [] rest)
  | cons value items =>
    have first := rereads value List.mem_cons_self
    have ends : Ends (Value.afterCommas (items.map Value.print) ++ ']' :: rest) :=
      ends_afterCommas _ (ends_cons (by decide) rest)
    have read := listRound_first first ends
    have left := loops_laterItems (fun other member => rereads other (List.mem_cons_of_mem value member))
      (List.cons_ne_nil value.readBack []) rest
    obtain ⟨c, chars, printed, _, _⟩ := first.begun
    rw [Value.printItems_cons, List.append_assoc]
    refine .again read ?_ left
    rw [printed]
    simp only [List.length_cons, List.length_append]
    omega

theorem objectRound_of_next (key : String) {value : Value} (rereads : Rereads item value) {rest : List Char}
    (ends : Ends rest) {kept : List (String × Value)} {text : List Char}
    (next : nextMember kept.isEmpty text
      = .ok (true, key.toList.flatMap escapedChar ++ '"' :: ':' :: (value.print ++ rest))) :
    objectRound item kept text = .ok (.again (Entries.put key value.readBack kept), rest) := by
  have past : colon (':' :: (value.print ++ rest)) = .ok ((), value.print ++ rest) := rfl
  simp only [objectRound, next, textBody_escaped, past, rereads.read rest ends, bind, Except.bind, if_true]
  rfl

theorem objectRound_first (key : String) {value : Value} (rereads : Rereads item value) {rest : List Char}
    (ends : Ends rest) :
    objectRound item [] (Value.printMember (key, value) ++ rest)
      = .ok (.again (Entries.put key value.readBack []), rest) := by
  apply objectRound_of_next key rereads ends
  rw [Value.printMember_append]
  rfl

theorem objectRound_later (key : String) {value : Value} (rereads : Rereads item value) {rest : List Char}
    (ends : Ends rest) {kept : List (String × Value)} (started : kept ≠ []) :
    objectRound item kept (',' :: (Value.printMember (key, value) ++ rest))
      = .ok (.again (Entries.put key value.readBack kept), rest) := by
  apply objectRound_of_next key rereads ends
  rw [Value.printMember_append, List.isEmpty_eq_false_iff.mpr started]
  rfl

theorem objectRound_end (kept : List (String × Value)) (rest : List Char) :
    objectRound item kept ('\x7d' :: rest) = .ok (.done (.object kept), rest) := by
  rfl

/-- What is kept of printed members that are read after others. -/
def keptMembers (kept members : List (String × Value)) : List (String × Value) :=
  members.foldl (fun kept member => Entries.put member.1 member.2.readBack kept) kept

theorem loops_laterMembers {members : List (String × Value)}
    (rereads : ∀ member ∈ members, Rereads item member.2) {kept : List (String × Value)} (started : kept ≠ [])
    (rest : List Char) :
    Loops (objectRound item) kept (Value.afterCommas (members.map Value.printMember) ++ '\x7d' :: rest)
      (.object (keptMembers kept members)) rest := by
  induction members generalizing kept with
  | nil => exact .done (objectRound_end kept rest)
  | cons member members ih =>
    obtain ⟨key, value⟩ := member
    have ends : Ends (Value.afterCommas (members.map Value.printMember) ++ '\x7d' :: rest) :=
      ends_afterCommas _ (ends_cons (by decide) rest)
    have read := objectRound_later key (rereads (key, value) List.mem_cons_self) ends started
    have left := ih (fun other member => rereads other (List.mem_cons_of_mem (key, value) member))
      (Entries.put_ne_nil key value.readBack kept)
    rw [List.map_cons, Value.afterCommas_cons, List.cons_append, List.append_assoc]
    refine .again read ?_ left
    simp only [List.length_cons, List.length_append]
    omega

theorem repeated_objectRound {members : List (String × Value)}
    (rereads : ∀ member ∈ members, Rereads item member.2) (rest : List Char) :
    repeated (objectRound item) [] (Value.printMembers members ++ '\x7d' :: rest)
      = .ok (.object (keptMembers [] members), rest) := by
  apply repeated_of_loops
  cases members with
  | nil => exact .done (objectRound_end [] rest)
  | cons member members =>
    obtain ⟨key, value⟩ := member
    have ends : Ends (Value.afterCommas (members.map Value.printMember) ++ '\x7d' :: rest) :=
      ends_afterCommas _ (ends_cons (by decide) rest)
    have read := objectRound_first key (rereads (key, value) List.mem_cons_self) ends
    have left := loops_laterMembers (fun other member => rereads other (List.mem_cons_of_mem (key, value) member))
      (Entries.put_ne_nil key value.readBack []) rest
    rw [Value.printMembers_cons, List.append_assoc]
    refine .again read ?_ left
    rw [Value.printMember_append]
    simp only [List.length_cons, List.length_append]
    omega

end

theorem valueWith_number (list object : Reader Value) {c : Char} {chars rest : List Char} {value : Number}
    (starts : StartsNumber c) (read : number (c :: chars) = .ok (value, rest)) :
    valueWith list object (c :: chars) = .ok (.number value, rest) := by
  unfold valueWith
  rw [skipBlanks_cons starts.not_blank]
  split
  case h_1 impossible => cases impossible
  case h_8 same =>
    cases same
    have number : c = '-' ∨ (Text.digitValue? c).isSome = true := starts
    rw [if_pos number]
    simp only [read, bind, Except.bind]
    rfl
  -- Every other kind begins with a character that starts no number.
  all_goals
    next same =>
      cases same
      exact absurd starts (by decide)

theorem valueWith_text (list object : Reader Value) {chars rest : List Char} {text : String}
    (read : textBody chars = .ok (text, rest)) : valueWith list object ('"' :: chars) = .ok (.text text, rest) := by
  have quote : skipBlanks ('"' :: chars) = '"' :: chars := skipBlanks_cons rfl chars
  unfold valueWith
  rw [quote]
  simp only [read, bind, Except.bind]
  rfl

theorem begun_print {depth : Nat} {value : Value} (fits : value.Fits depth) : Begun value.print := by
  cases value with
  | null => exact ⟨'n', _, rfl, by decide, by decide⟩
  | bool value =>
    cases value with
    | false => exact ⟨'f', _, rfl, by decide, by decide⟩
    | true => exact ⟨'t', _, rfl, by decide, by decide⟩
  | number value =>
    cases value with
    | whole value =>
      obtain ⟨c, chars, printed, starts⟩ := Number.print_starts value
      exact ⟨c, chars, printed, starts.not_blank, starts.ne (by decide)⟩
    | real value => cases depth <;> exact fits.elim
  | text value => exact ⟨'"', _, rfl, by decide, by decide⟩
  | list items => exact ⟨'[', _, rfl, by decide, by decide⟩
  | object members => exact ⟨'\x7b', _, rfl, by decide, by decide⟩

/-- Only lists and objects are left to the readers given. -/
theorem valueWith_print {depth : Nat} {value : Value} (fits : value.Fits depth) (list object : Reader Value)
    {rest : List Char} (ends : Ends rest)
    (lists : ∀ items, value = .list items →
      list (Value.printItems items ++ ']' :: rest) = .ok (value.readBack, rest))
    (objects : ∀ members, value = .object members →
      object (Value.printMembers members ++ '\x7d' :: rest) = .ok (value.readBack, rest)) :
    valueWith list object (value.print ++ rest) = .ok (value.readBack, rest) := by
  cases value with
  | null => rfl
  | bool value => cases value <;> rfl
  | number value =>
    cases value with
    | whole value =>
      have exact : Exact value := by cases depth <;> exact fits
      have read := number_whole exact ends.stops
      obtain ⟨c, chars, printed, starts⟩ := Number.print_starts value
      rw [printed, List.cons_append] at read
      rw [Value.print, printed, List.cons_append, valueWith_number list object starts read]
      rfl
    | real value => cases depth <;> exact fits.elim
  | text value =>
    have read := textBody_escaped value rest
    rw [Value.print, printText, List.cons_append, List.cons_append, List.append_assoc, List.singleton_append]
    exact valueWith_text list object read
  | list items =>
    have read := lists items rfl
    rw [Value.print, List.cons_append, List.cons_append, List.append_assoc, List.singleton_append]
    exact read
  | object members =>
    have read := objects members rfl
    rw [Value.print, List.cons_append, List.cons_append, List.append_assoc, List.singleton_append]
    exact read

theorem rereads_value {depth : Nat} {value : Value} (fits : value.Fits depth) :
    Rereads (Reader.value depth) value := by
  induction depth generalizing value with
  | zero =>
    refine ⟨begun_print fits, fun rest ends => valueWith_print fits _ _ ends ?_ ?_⟩
    · intro items same
      subst same
      exact fits.elim
    · intro members same
      subst same
      exact fits.elim
  | succ depth ih =>
    refine ⟨begun_print fits, fun rest ends => valueWith_print fits _ _ ends ?_ ?_⟩
    · intro items same
      subst same
      rw [Value.readBack, Value.readBackItems_eq_map]
      exact repeated_listRound (fun item member => ih (fits item member)) rest
    · intro members same
      subst same
      have ordered : Entries.ofList (Value.readBackMembers members) = keptMembers [] members := by
        rw [Value.readBackMembers_eq_map, Entries.ofList, List.foldl_map]
        rfl
      rw [Value.readBack, ordered]
      exact repeated_objectRound (fun member inside => ih (fits member inside)) rest

end Reader

/-- Printing and reading a document changes nothing but the order of the members. -/
theorem parse_toText {value : Value} (fits : value.Fits depthLimit) : parse value.toText = .ok value.readBack := by
  have read := (Reader.rereads_value fits).read [] ends_nil
  rw [List.append_nil] at read
  unfold parse Reader.run
  rw [Value.toText, String.toList_ofList, read]
  rfl

end WalletCurrencies.Json
