import Mathlib.Data.List.TakeWhile
import WalletCurrencies.Text.Blank

/-! Removal of blanks at both ends of a text, told without the two passes that do it: what is left has
no blank at its ends, and around it there was nothing but blanks. -/

namespace WalletCurrencies.Text

variable {text core : List Char}

/-- The core of a text is the text without the blanks at its ends. -/
structure Trimmed (text core : List Char) : Prop where
  cut : ∃ before after, text = before ++ core ++ after ∧ (∀ c ∈ before, isBlank c = true) ∧
    ∀ c ∈ after, isBlank c = true
  first : ∀ c ∈ core.head?, isBlank c = false
  last : ∀ c ∈ core.getLast?, isBlank c = false

/-- What has no blanks inside is found again between blanks. -/
theorem Trimmed.between {before after : List Char} (left : ∀ c ∈ before, isBlank c = true)
    (plain : ∀ c ∈ core, isBlank c = false) (right : ∀ c ∈ after, isBlank c = true) :
    Trimmed (before ++ core ++ after) core where
  cut := ⟨before, after, rfl, left, right⟩
  first c starts := plain c (List.mem_of_mem_head? starts)
  last c ends := plain c (List.mem_of_mem_getLast? ends)

theorem dropBlanks_append {before : List Char} (blank : ∀ c ∈ before, isBlank c = true) (rest : List Char) :
    dropBlanks (before ++ rest) = dropBlanks rest :=
  List.dropWhile_append_of_pos blank

theorem dropBlanks_of_head (inked : ∀ c ∈ text.head?, isBlank c = false) : dropBlanks text = text := by
  cases text with
  | nil => rfl
  | cons c rest =>
    have starts : ¬ isBlank c = true := by simp [inked c rfl]
    exact List.dropWhile_cons_of_neg starts

theorem exists_dropBlanks (text : List Char) :
    ∃ before, text = before ++ dropBlanks text ∧ ∀ c ∈ before, isBlank c = true :=
  ⟨text.takeWhile isBlank, List.takeWhile_append_dropWhile.symm, fun _ => List.mem_takeWhile_imp⟩

theorem head_dropBlanks (text : List Char) : ∀ c ∈ (dropBlanks text).head?, isBlank c = false := by
  intro c starts
  have inked := List.head?_dropWhile_not isBlank text
  rwa [show (text.dropWhile isBlank).head? = some c from starts] at inked

theorem trimmed_trim (text : List Char) : Trimmed text (trim text) := by
  obtain ⟨before, whole, left⟩ := exists_dropBlanks text
  obtain ⟨after, rest, right⟩ := exists_dropBlanks (dropBlanks text).reverse
  have kept : dropBlanks text = trim text ++ after.reverse := by
    rw [trim, ← List.reverse_append, ← rest, List.reverse_reverse]
  constructor
  case cut =>
    refine ⟨before, after.reverse, ?_, left, fun c member => right c (List.mem_reverse.mp member)⟩
    rw [List.append_assoc, ← kept]
    exact whole
  case first =>
    intro c starts
    apply head_dropBlanks text
    rw [kept, List.head?_append, Option.mem_def.mp starts]
    rfl
  case last =>
    intro c ends
    rw [trim, List.getLast?_reverse] at ends
    exact head_dropBlanks _ c ends

theorem Trimmed.trim_eq (trimmed : Trimmed text core) : trim text = core := by
  obtain ⟨⟨before, after, rfl, left, right⟩, first, last⟩ := trimmed
  have reversed : ∀ c ∈ after.reverse, isBlank c = true := fun c member => right c (List.mem_reverse.mp member)
  rw [trim, List.append_assoc, dropBlanks_append left]
  cases core with
  | nil =>
    have nothing : dropBlanks after = [] := List.dropWhile_eq_nil_iff.mpr right
    rw [List.nil_append, nothing]
    rfl
  | cons c rest =>
    rw [← List.head?_reverse] at last
    have starts : dropBlanks (c :: rest ++ after) = c :: rest ++ after := dropBlanks_of_head first
    rw [starts, List.reverse_append, dropBlanks_append reversed, dropBlanks_of_head last, List.reverse_reverse]

theorem trim_eq_iff : trim text = core ↔ Trimmed text core :=
  ⟨fun same => same ▸ trimmed_trim text, Trimmed.trim_eq⟩

end WalletCurrencies.Text
