import Mathlib.Data.List.Induction
import Mathlib.Data.List.Sort
import WalletCurrencies.Entries

/-! What is found in entries decides them: where the keys ascend, entries are equal as soon as
every key finds the same in both. -/

namespace WalletCurrencies

variable {α β : Type}

namespace Entries

theorem put_ne_nil (key : String) (value : α) (entries : List (String × α)) : put key value entries ≠ [] := by
  cases entries with
  | nil => simp [put]
  | cons entry rest =>
    unfold put
    repeat' split
    all_goals simp

theorem length_put_of_absent {key : String} (value : α) {entries : List (String × α)}
    (absent : find? key entries = none) : (put key value entries).length = entries.length + 1 := by
  induction entries with
  | nil => rfl
  | cons entry rest ih =>
    obtain ⟨other, old⟩ := entry
    unfold find? at absent
    split at absent
    next => cases absent
    next differs =>
      unfold put
      rw [if_neg (Ne.symm differs)]
      split
      next => rfl
      next => rw [List.length_cons, List.length_cons, ih absent]

theorem mem_of_find? {key : String} {value : α} {entries : List (String × α)}
    (found : find? key entries = some value) : (key, value) ∈ entries := by
  induction entries with
  | nil => cases found
  | cons entry rest ih =>
    obtain ⟨other, old⟩ := entry
    unfold find? at found
    split at found
    next same =>
      cases found
      exact same ▸ List.mem_cons_self
    next => exact List.mem_cons_of_mem _ (ih found)

theorem find?_of_nodup {key : String} {value : α} {entries : List (String × α)}
    (distinct : (entries.map (·.1)).Nodup) (member : (key, value) ∈ entries) :
    find? key entries = some value := by
  induction entries with
  | nil => cases member
  | cons entry rest ih =>
    obtain ⟨other, old⟩ := entry
    obtain ⟨absent, remaining⟩ := List.nodup_cons.mp distinct
    unfold find?
    cases List.mem_cons.mp member with
    | inl same =>
      cases same
      exact if_pos rfl
    | inr later =>
      have differs : other ≠ key := by
        intro same
        subst same
        exact absent (List.mem_map_of_mem (f := (·.1)) later)
      rw [if_neg differs]
      exact ih remaining later

theorem Ascending.nodup_keys {entries : List (String × α)} (ascending : Ascending entries) :
    (entries.map (·.1)).Nodup :=
  (List.pairwise_map.mpr ascending).nodup

theorem Ascending.mem_iff {entries : List (String × α)} (ascending : Ascending entries) (key : String)
    (value : α) : (key, value) ∈ entries ↔ find? key entries = some value :=
  ⟨find?_of_nodup ascending.nodup_keys, mem_of_find?⟩

theorem Ascending.ext {first second : List (String × α)} (left : Ascending first) (right : Ascending second)
    (same : ∀ key, find? key first = find? key second) : first = second := by
  have antisymm : Std.Antisymm fun before after : String × α => before.1 < after.1 :=
    ⟨fun _ _ smaller greater => absurd greater (String.lt_asymm smaller)⟩
  have irrefl : Std.Irrefl fun before after : String × α => before.1 < after.1 :=
    ⟨fun _ smaller => String.lt_irrefl _ smaller⟩
  apply List.Pairwise.eq_of_mem_iff left right
  intro ⟨key, value⟩
  rw [left.mem_iff, right.mem_iff, same]

/-- Of several entries put with one key the last one stays. -/
theorem find?_foldl_put (wanted : String) (entries kept : List (String × α)) :
    find? wanted (entries.foldl (fun kept entry => put entry.1 entry.2 kept) kept)
      = (find? wanted entries.reverse).or (find? wanted kept) := by
  induction entries using List.reverseRecOn with
  | nil => rfl
  | append_singleton entries entry ih =>
    simp only [List.foldl_append, List.foldl_cons, List.foldl_nil, List.reverse_append, List.reverse_singleton,
      List.singleton_append, find?_put, ih, find?]
    split <;> rfl

theorem ascending_foldl_put (entries kept : List (String × α)) (ascending : Ascending kept) :
    Ascending (entries.foldl (fun kept entry => put entry.1 entry.2 kept) kept) := by
  induction entries generalizing kept with
  | nil => exact ascending
  | cons entry rest ih => exact ih _ (ascending.put entry.1 entry.2)

theorem ascending_ofList (entries : List (String × α)) : Ascending (ofList entries) :=
  ascending_foldl_put entries [] List.Pairwise.nil

/-- Where every key stands once, the order of the entries does not matter. -/
theorem find?_ofList {entries : List (String × α)} (distinct : (entries.map (·.1)).Nodup) (wanted : String) :
    find? wanted (ofList entries) = find? wanted entries := by
  unfold ofList
  rw [find?_foldl_put, find?, Option.or_none]
  have reversed : (entries.reverse.map (·.1)).Nodup := by
    rw [List.map_reverse]
    exact List.nodup_reverse.mpr distinct
  apply Option.ext
  intro value
  constructor
  · exact fun found => find?_of_nodup distinct (List.mem_reverse.mp (mem_of_find? found))
  · exact fun found => find?_of_nodup reversed (List.mem_reverse.mpr (mem_of_find? found))

theorem Ascending.ofList_eq {entries : List (String × α)} (ascending : Ascending entries) :
    ofList entries = entries :=
  (ascending_ofList entries).ext ascending (find?_ofList ascending.nodup_keys)

end Entries

namespace Index

theorem mem_entries (index : Index α) (key : String) (value : α) :
    (key, value) ∈ index.entries ↔ index.find? key = some value :=
  index.ascending.mem_iff key value

theorem mem_values (index : Index α) (value : α) :
    value ∈ index.values ↔ ∃ key, index.find? key = some value := by
  unfold values
  constructor
  · intro member
    obtain ⟨⟨key, _⟩, inside, rfl⟩ := List.mem_map.mp member
    exact ⟨key, (index.mem_entries key _).mp inside⟩
  · intro ⟨key, found⟩
    exact List.mem_map.mpr ⟨(key, value), (index.mem_entries key value).mpr found, rfl⟩

theorem size_put_of_absent {index : Index α} {key : String} (absent : index.find? key = none) (value : α) :
    (index.put key value).size = index.size + 1 :=
  Entries.length_put_of_absent value absent

theorem ext_find? {first second : Index α} (same : ∀ key, first.find? key = second.find? key) :
    first = second := by
  cases first with
  | mk entries ascending =>
    cases second with
    | mk others sorted =>
      have equal : entries = others := ascending.ext sorted same
      subst equal
      rfl

end Index

end WalletCurrencies
