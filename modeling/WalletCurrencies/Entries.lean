/-! Keyed entries in ascending order of their keys, each key once. The functions on plain lists
also serve where a list of entries is part of an inductive type; `Index` carries the order as
part of its type. -/

namespace WalletCurrencies

variable {α : Type}

namespace Entries

def find? (key : String) : List (String × α) → Option α
  | [] => none
  | (other, value) :: rest => if other = key then some value else find? key rest

/-- An entry of the same key is replaced. -/
def put (key : String) (value : α) : List (String × α) → List (String × α)
  | [] => [(key, value)]
  | (other, old) :: rest =>
    if key < other then (key, value) :: (other, old) :: rest
    else if key = other then (key, value) :: rest
    else (other, old) :: put key value rest

/-- Later entries replace earlier ones of the same key. -/
def ofList (entries : List (String × α)) : List (String × α) :=
  entries.foldl (fun kept entry => put entry.1 entry.2 kept) []

def Ascending (entries : List (String × α)) : Prop :=
  entries.Pairwise fun first second => first.1 < second.1

theorem find?_put (key wanted : String) (value : α) (entries : List (String × α)) :
    find? wanted (put key value entries) = if key = wanted then some value else find? wanted entries := by
  induction entries with
  | nil => simp [put, find?]
  | cons entry rest ih =>
    obtain ⟨other, old⟩ := entry
    unfold put
    split
    · simp [find?]
    · split <;> grind [find?]

theorem mem_put {key : String} {value : α} {entry : String × α} {entries : List (String × α)}
    (member : entry ∈ put key value entries) : entry = (key, value) ∨ entry ∈ entries := by
  induction entries with
  | nil => simpa [put] using member
  | cons first rest ih =>
    obtain ⟨other, old⟩ := first
    unfold put at member
    split at member
    · simpa using member
    · split at member <;> grind

theorem Ascending.put {entries : List (String × α)} (ascending : Ascending entries) (key : String)
    (value : α) : Ascending (put key value entries) := by
  induction entries with
  | nil => simp [Entries.put, Ascending]
  | cons first rest ih =>
    obtain ⟨other, old⟩ := first
    obtain ⟨least, remaining⟩ := List.pairwise_cons.mp ascending
    unfold Entries.put
    split
    next smaller =>
      exact List.pairwise_cons.mpr ⟨fun entry member => by
        cases List.mem_cons.mp member with
        | inl same => simpa [same] using smaller
        | inr later => exact String.lt_trans smaller (least entry later), ascending⟩
    next notSmaller =>
      split
      next same => exact List.pairwise_cons.mpr ⟨fun entry member => same ▸ least entry member, remaining⟩
      next differs =>
        exact List.pairwise_cons.mpr ⟨fun entry member => by
          cases mem_put member with
          | inl placed =>
            have above : other < key := Std.lt_of_le_of_ne (String.not_lt.mp notSmaller) (Ne.symm differs)
            simpa [placed] using above
          | inr later => exact least entry later, ih remaining⟩

end Entries

/-- Entries whose keys ascend. -/
structure Index (α : Type) where
  entries : List (String × α)
  ascending : Entries.Ascending entries

namespace Index

def empty : Index α := ⟨[], List.Pairwise.nil⟩

instance : EmptyCollection (Index α) := ⟨empty⟩

def find? (index : Index α) (key : String) : Option α := Entries.find? key index.entries

def contains (index : Index α) (key : String) : Bool := (index.find? key).isSome

def put (index : Index α) (key : String) (value : α) : Index α :=
  ⟨Entries.put key value index.entries, index.ascending.put key value⟩

/-- An entry that is there already stays. -/
def putIfAbsent (index : Index α) (key : String) (value : α) : Index α :=
  if index.contains key then index else index.put key value

def size (index : Index α) : Nat := index.entries.length

def values (index : Index α) : List α := index.entries.map (·.2)

theorem find?_put (index : Index α) (key wanted : String) (value : α) :
    (index.put key value).find? wanted = if key = wanted then some value else index.find? wanted :=
  Entries.find?_put key wanted value index.entries

theorem find?_putIfAbsent (index : Index α) (key wanted : String) (value : α) :
    (index.putIfAbsent key value).find? wanted
      = if key = wanted then some ((index.find? key).getD value) else index.find? wanted := by
  unfold putIfAbsent contains
  cases found : index.find? key with
  | none => simp [find?_put]
  | some old =>
    by_cases same : key = wanted
    · subst same
      simp [found]
    · simp [same]

end Index

end WalletCurrencies
