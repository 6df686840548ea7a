import WalletCurrencies.Proofs.AsciiCase

/-! Lower case leaves slashes and dots where they are. No other character becomes one of the two and
none vanishes, so these marks divide a text in the same way as its lower case. -/

namespace WalletCurrencies.Text

/-- The characters that matter in a path. -/
def IsMark (c : Char) : Prop := c = '/' ∨ c = '.'

/-- Something, but none of the marks. -/
structure Plain (image : List Char) : Prop where
  nonempty : image ≠ []
  unmarked : ∀ c ∈ image, ¬ IsMark c

/-- The marks of one text are those of the other, and what is between them is there in both. -/
inductive SameMarks : List Char → List Char → Prop where
  | nil : SameMarks [] []
  | mark {c : Char} {rest others : List Char} (mark : IsMark c) (later : SameMarks rest others) :
      SameMarks (c :: rest) (c :: others)
  | other {c : Char} {image rest others : List Char} (other : ¬ IsMark c) (plain : Plain image)
      (later : SameMarks rest others) : SameMarks (c :: rest) (image ++ others)

private theorem lowerSpans_above_marks : ∀ span ∈ lowerSpans, 48 ≤ span.target := by
  decide +kernel

private theorem lowerExpansions_above_marks : ∀ entry ∈ lowerExpansions,
    entry.2 ≠ [] ∧ ∀ code ∈ entry.2, 48 ≤ code := by
  decide

theorem IsMark.toNat_lt {c : Char} (mark : IsMark c) : 0 < c.toNat ∧ c.toNat < 48 := by
  rcases mark with rfl | rfl <;> decide

/-- A code that is none of a character stands for the first one. -/
theorem toNat_ofNat_eq_or (code : Nat) : (Char.ofNat code).toNat = code ∨ (Char.ofNat code).toNat = 0 := by
  by_cases valid : code.isValidChar
  · left
    rw [Char.ofNat, dif_pos valid]
    rfl
  · right
    rw [Char.ofNat, dif_neg valid]
    rfl

theorem not_isMark_ofNat {code : Nat} (above : 48 ≤ code) : ¬ IsMark (Char.ofNat code) := by
  intro mark
  have bounds := mark.toNat_lt
  have value := toNat_ofNat_eq_or code
  omega

theorem plain_singleton {c : Char} (other : ¬ IsMark c) : Plain [c] :=
  ⟨List.cons_ne_nil c [], fun _ member => List.mem_singleton.mp member ▸ other⟩

theorem plain_mapped {c : Char} (other : ¬ IsMark c) : Plain (mapped lowerExpansions lowerSpans c) := by
  unfold mapped
  split
  next code image expanded =>
    obtain ⟨nonempty, above⟩ := lowerExpansions_above_marks _ (List.mem_of_find?_eq_some expanded)
    refine ⟨by simpa using nonempty, ?_⟩
    intro d member
    obtain ⟨code, inside, rfl⟩ := List.mem_map.mp member
    exact not_isMark_ofNat (above code inside)
  next =>
    split
    next span found =>
      have above := lowerSpans_above_marks span (List.mem_of_find?_eq_some found)
      exact plain_singleton (not_isMark_ofNat (Nat.le_add_right_of_le above))
    next => exact plain_singleton other

theorem isMark_toLower_iff (c : Char) : IsMark c.toLower ↔ IsMark c := by
  have slash : (c.toLower = '/') = (c = '/') := apply_toLower (· = '/') (by decide) c
  have dot : (c.toLower = '.') = (c = '.') := apply_toLower (· = '.') (by decide) c
  rw [IsMark, IsMark, slash, dot]

theorem plain_lowerChar {c : Char} (other : ¬ IsMark c) : Plain (lowerChar c) := by
  unfold lowerChar
  split
  · exact plain_singleton (mt (isMark_toLower_iff c).mp other)
  · exact plain_mapped other

theorem lowerChar_of_isMark {c : Char} (mark : IsMark c) : lowerChar c = [c] := by
  rcases mark with rfl | rfl <;> rfl

theorem sameMarks_lowerAfter (before text : List Char) : SameMarks text (lowerAfter before text) := by
  induction text generalizing before with
  | nil => exact .nil
  | cons c rest ih =>
    have later := ih (c :: before)
    unfold lowerAfter
    split
    next sigma =>
      subst sigma
      refine .other (by simp [IsMark]) (plain_singleton ?_) later
      split <;> simp [IsMark]
    next =>
      by_cases mark : IsMark c
      · rw [lowerChar_of_isMark mark]
        exact .mark mark later
      · exact .other mark (plain_lowerChar mark) later

theorem SameMarks.refl (text : List Char) : SameMarks text text := by
  induction text with
  | nil => exact .nil
  | cons c rest ih =>
    by_cases mark : IsMark c
    · exact .mark mark ih
    · exact .other mark (plain_singleton mark) ih

theorem SameMarks.append {text other : List Char} (same : SameMarks text other) (ending : List Char) :
    SameMarks (text ++ ending) (other ++ ending) := by
  induction same with
  | nil => exact .refl ending
  | mark mark _ ih => exact .mark mark ih
  | other other plain _ ih =>
    rw [List.append_assoc]
    exact .other other plain ih

theorem SameMarks.head?_eq_slash_iff {text other : List Char} (same : SameMarks text other) :
    text.head? = some '/' ↔ other.head? = some '/' := by
  cases same with
  | nil => rfl
  | mark => rfl
  | @other c image _ _ other plain _ =>
    cases image with
    | nil => exact absurd rfl plain.nonempty
    | cons d image =>
      have unmarked := plain.unmarked d List.mem_cons_self
      simp only [List.cons_append, List.head?_cons, Option.some_inj]
      exact iff_of_false (fun slash => other (Or.inl slash)) (fun slash => unmarked (Or.inl slash))

/-- What has been read since the last slash is the same in both texts, or it has more than dots in
both. -/
structure Alike (piece other : List Char) : Prop where
  unbroken : '/' ∉ piece
  whole : '/' ∉ other
  dots : piece = other ∨ (∃ c ∈ piece, c ≠ '.') ∧ ∃ c ∈ other, c ≠ '.'

theorem Alike.eq_dots_iff {piece other : List Char} (alike : Alike piece other) :
    ['.', '.'] = piece ↔ ['.', '.'] = other := by
  have only {text : List Char} (unlike : ∃ c ∈ text, c ≠ '.') : ['.', '.'] ≠ text := by
    rintro rfl
    simp at unlike
  rcases alike.dots with rfl | ⟨left, right⟩
  · rfl
  · exact iff_of_false (only left) (only right)

theorem Alike.dot {piece other : List Char} (alike : Alike piece other) : Alike (piece ++ ['.']) (other ++ ['.']) := by
  obtain ⟨unbroken, whole, dots⟩ := alike
  refine ⟨by simpa using unbroken, by simpa using whole, ?_⟩
  rcases dots with rfl | ⟨⟨c, member, left⟩, d, inside, right⟩
  · exact Or.inl rfl
  · exact Or.inr ⟨⟨c, List.mem_append_left _ member, left⟩, d, List.mem_append_left _ inside, right⟩

theorem Alike.other {piece other image : List Char} {c : Char} (alike : Alike piece other) (unmarked : ¬ IsMark c)
    (plain : Plain image) : Alike (piece ++ [c]) (other ++ image) := by
  have unslashed : '/' ∉ image := fun member => plain.unmarked '/' member (Or.inl rfl)
  obtain ⟨d, member⟩ := List.exists_mem_of_ne_nil image plain.nonempty
  refine ⟨?_, ?_, Or.inr ⟨⟨c, by simp, fun dot => unmarked (Or.inr dot)⟩, d, List.mem_append_right _ member, ?_⟩⟩
  · simp only [List.mem_append, List.mem_singleton, not_or]
    exact ⟨alike.unbroken, fun slash => unmarked (Or.inl slash.symm)⟩
  · simp only [List.mem_append, not_or]
    exact ⟨alike.whole, unslashed⟩
  · exact fun dot => plain.unmarked d member (Or.inr dot)

/-- Both texts have two dots and nothing else between slashes, or neither has. -/
theorem SameMarks.dots_mem_splitOn_iff {text other piece start : List Char} (same : SameMarks text other)
    (alike : Alike piece start) :
    ['.', '.'] ∈ (piece ++ text).splitOn '/' ↔ ['.', '.'] ∈ (start ++ other).splitOn '/' := by
  -- At a slash the pieces before it are compared, and two new ones begin.
  induction same generalizing piece start with
  | nil =>
    rw [List.append_nil, List.append_nil, List.splitOn_eq_singleton alike.unbroken,
      List.splitOn_eq_singleton alike.whole, List.mem_singleton, List.mem_singleton]
    exact alike.eq_dots_iff
  | @mark c rest others mark _ ih =>
    rcases mark with rfl | rfl
    · rw [List.splitOn_append_cons_self_of_not_mem alike.unbroken,
        List.splitOn_append_cons_self_of_not_mem alike.whole, List.mem_cons, List.mem_cons, alike.eq_dots_iff]
      exact or_congr_right (ih ⟨List.not_mem_nil, List.not_mem_nil, Or.inl rfl⟩)
    · rw [List.append_cons piece, List.append_cons start]
      exact ih alike.dot
  | @other c image rest others unmarked plain _ ih =>
    rw [List.append_cons piece, ← List.append_assoc]
    exact ih (alike.other unmarked plain)

end WalletCurrencies.Text
