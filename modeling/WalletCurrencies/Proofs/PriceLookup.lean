import WalletCurrencies.PriceId
import WalletCurrencies.Proofs.AsciiCase
import WalletCurrencies.Proofs.ByteOrder
import WalletCurrencies.Proofs.Entries

/-! Where the keys ascend, halving the entries finds what reading through all of them finds: an entry
of the key stands in the part that is left, or nowhere. The tickers ascend in the order of their bytes. -/

namespace WalletCurrencies.PriceId

open Proofs

section Bisection

variable {α : Type} {entries : Array (String × α)} {key : String} {low high middle : Nat}
  {entry : String × α}

/-- The places of two entries are in the order of their keys. -/
theorem lt_of_key_lt (ascending : Entries.Ascending entries.toList) {first second : Nat}
    {before after : String × α} (left : entries[first]? = some before) (right : entries[second]? = some after)
    (smaller : before.1 < after.1) : first < second := by
  obtain ⟨leftPlaced, rfl⟩ := Array.getElem?_eq_some_iff.mp left
  obtain ⟨rightPlaced, rfl⟩ := Array.getElem?_eq_some_iff.mp right
  rcases Nat.lt_trichotomy first second with earlier | same | later
  · exact earlier
  · subst same
    exact absurd smaller (String.lt_irrefl _)
  · have greater : entries[second].1 < entries[first].1 :=
      List.pairwise_iff_getElem.mp ascending second first rightPlaced leftPlaced later
    exact absurd smaller (String.lt_asymm greater)

/-- An entry of the key can only stand from `low` up to but not including `high`. -/
structure Confined (entries : Array (String × α)) (key : String) (low high : Nat) : Prop where
  bounded : high ≤ entries.size
  inside : ∀ place value, entries[place]? = some (key, value) → low ≤ place ∧ place < high

theorem Confined.all : Confined entries key 0 entries.size where
  bounded := Nat.le_refl _
  inside place _ found := ⟨Nat.zero_le place, (Array.getElem?_eq_some_iff.mp found).1⟩

theorem Confined.above (confined : Confined entries key low high)
    (ascending : Entries.Ascending entries.toList) (found : entries[middle]? = some entry)
    (smaller : entry.1 < key) : Confined entries key (middle + 1) high where
  bounded := confined.bounded
  inside place value same :=
    ⟨lt_of_key_lt ascending found same smaller, (confined.inside place value same).2⟩

theorem Confined.below (confined : Confined entries key low high)
    (ascending : Entries.Ascending entries.toList) (found : entries[middle]? = some entry)
    (greater : key < entry.1) : Confined entries key low middle where
  bounded := Nat.le_of_lt (Array.getElem?_eq_some_iff.mp found).1
  inside place value same :=
    ⟨(confined.inside place value same).1, lt_of_key_lt ascending same found greater⟩

/-- No place is left for the key. -/
theorem Confined.find?_eq_none (confined : Confined entries key low high) (empty : ¬ low < high) :
    Entries.find? key entries.toList = none := by
  apply Option.eq_none_iff_forall_ne_some.mpr
  intro value read
  obtain ⟨place, found⟩ := Array.mem_iff_getElem?.mp (Array.mem_toList_iff.mp (Entries.mem_of_find? read))
  have within := confined.inside place value found
  omega

/-- Every round keeps the key confined to fewer places, until one is an entry of the key or none is left. -/
theorem Confined.search_eq (confined : Confined entries key low high)
    (ascending : Entries.Ascending entries.toList) :
    search entries key low high = Entries.find? key entries.toList := by
  fun_induction search entries key low high with
  | case1 low high active middle missing =>
    -- The middle stands among the entries as long as `high` does not pass their end.
    have beyond : entries.size ≤ middle := Array.getElem?_eq_none_iff.mp missing
    have bounded := confined.bounded
    omega
  | case2 low high active middle value found =>
    have member := Array.mem_toList_iff.mpr (Array.mem_of_getElem? found)
    exact ((ascending.mem_iff key value).mp member).symm
  | case3 low high active middle other value found differs smaller ih =>
    exact ih (confined.above ascending found smaller)
  | case4 low high active middle other value found differs notSmaller ih =>
    have greater : key < other := Std.lt_of_le_of_ne (String.not_lt.mp notSmaller) (Ne.symm differs)
    exact ih (confined.below ascending found greater)
  | case5 low high inactive => exact (confined.find?_eq_none inactive).symm

end Bisection

/-- The tickers ascend byte by byte, and so none of them stands twice. -/
theorem table_bytes_ascend :
    table.toList.Pairwise fun first second => ByteOrder.bytes first.1 < ByteOrder.bytes second.1 := by
  simp only [ByteOrder.bytes_lt_iff]
  decide

theorem table_ascending : Entries.Ascending table.toList :=
  table_bytes_ascend.imp fun smaller => (ByteOrder.bytes_lt_iff _ _).mp smaller

theorem find?_eq_scan (code : String) : find? code = Entries.find? (Text.uppercase code) table.toList :=
  Confined.all.search_eq table_ascending

theorem find?_eq_some_iff {code id : String} : find? code = some id ↔ (Text.uppercase code, id) ∈ table := by
  rw [find?_eq_scan, ← table_ascending.mem_iff, Array.mem_toList_iff]

theorem find?_eq_none_iff {code : String} :
    find? code = none ↔ ∀ entry ∈ table, entry.1 ≠ Text.uppercase code := by
  rw [Option.eq_none_iff_forall_ne_some]
  constructor
  · intro missing entry member same
    exact missing entry.2 (find?_eq_some_iff.mpr (same ▸ member))
  · intro absent id found
    exact absent _ (find?_eq_some_iff.mp found) rfl

theorem find?_of_uppercase_eq {first second : String} (same : Text.uppercase first = Text.uppercase second) :
    find? first = find? second := by
  rw [find?_eq_scan, find?_eq_scan, same]

/-- What is found for a code, against the table read from end to end. -/
structure LooksUp (code : String) : Prop where
  scanned : find? code = Entries.find? (Text.uppercase code) table.toList
  found : ∀ id, find? code = some id ↔ ∃ entry ∈ table, entry.1 = Text.uppercase code ∧ entry.2 = id
  unique : ∀ first ∈ table, ∀ second ∈ table,
    first.1 = Text.uppercase code → second.1 = Text.uppercase code → first = second
  missing : find? code = none ↔ ∀ entry ∈ table, entry.1 ≠ Text.uppercase code
  caseless : ∀ other, Text.uppercase other = Text.uppercase code → find? other = find? code
  letters : ∀ other, Text.SameLetters other code → find? other = find? code

theorem looksUp (code : String) : LooksUp code where
  scanned := find?_eq_scan code
  found id := by
    rw [find?_eq_some_iff]
    constructor
    · exact fun member => ⟨_, member, rfl, rfl⟩
    · intro holds
      obtain ⟨entry, member, same, rfl⟩ := holds
      rw [← same]
      exact member
  unique first left second right same again :=
    List.inj_on_of_nodup_map table_ascending.nodup_keys (Array.mem_toList_iff.mpr left)
      (Array.mem_toList_iff.mpr right) (same.trans again.symm)
  missing := find?_eq_none_iff
  caseless _ := find?_of_uppercase_eq
  letters _ same := find?_of_uppercase_eq (Text.uppercase_eq_of_sameLetters same)

/-- Every code finds the entry of its ticker and no other, whatever the case of its letters. -/
theorem find?_readsTable :
    (table.toList.Pairwise fun first second => ByteOrder.bytes first.1 < ByteOrder.bytes second.1) ∧
    ∀ code, LooksUp code :=
  ⟨table_bytes_ascend, looksUp⟩

/-- The capital of a dotless i is the letter of the ticker, as that of any other i is. -/
example : find? "l\u0131nk" = some "chainlink" := by
  rw [find?_eq_scan]
  decide

end WalletCurrencies.PriceId
