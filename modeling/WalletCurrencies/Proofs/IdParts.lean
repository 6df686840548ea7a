import WalletCurrencies.CurrencyId

/-! Splitting an id and joining its parts undo each other. Of the parts only the address may hold
any character: a colon ends the network, and the last dash of the network ends the chain. A text
splits where these two marks leave three pieces, and parts are found again where they hold none of
the marks that would end them earlier. -/

namespace WalletCurrencies

namespace Text

variable {mark : Char} {text before after : List Char}

/-- The pieces lie on both sides of the first mark in the text. -/
structure CutsAtFirst (mark : Char) (text before after : List Char) : Prop where
  whole : text = before ++ mark :: after
  first : mark ∉ before

/-- The pieces lie on both sides of the last mark in the text. -/
structure CutsAtLast (mark : Char) (text before after : List Char) : Prop where
  whole : text = before ++ mark :: after
  last : mark ∉ after

theorem cutAtFirst_append (absent : mark ∉ before) (after : List Char) :
    cutAtFirst mark (before ++ mark :: after) = some (before, after) := by
  induction before with
  | nil => simp [cutAtFirst]
  | cons c rest ih =>
    have differs := List.ne_of_not_mem_cons absent
    have remaining := List.not_mem_of_not_mem_cons absent
    rw [List.cons_append, cutAtFirst, if_neg (Ne.symm differs), ih remaining]
    rfl

theorem cutAtFirst_of_not_mem (absent : mark ∉ text) : cutAtFirst mark text = none := by
  induction text with
  | nil => rfl
  | cons c rest ih =>
    have differs := List.ne_of_not_mem_cons absent
    have remaining := List.not_mem_of_not_mem_cons absent
    rw [cutAtFirst, if_neg (Ne.symm differs), ih remaining]
    rfl

theorem cutAtFirst_eq_some_iff :
    cutAtFirst mark text = some (before, after) ↔ text = before ++ mark :: after ∧ mark ∉ before := by
  constructor
  · intro cut
    by_cases present : mark ∈ text
    · obtain ⟨left, right, rfl, absent⟩ := List.eq_append_cons_of_mem present
      rw [cutAtFirst_append absent] at cut
      cases cut
      exact ⟨rfl, absent⟩
    · rw [cutAtFirst_of_not_mem present] at cut
      cases cut
  · intro holds
    obtain ⟨rfl, absent⟩ := holds
    exact cutAtFirst_append absent after

theorem cutAtLast_of_not_mem (absent : mark ∉ text) : cutAtLast mark text = none := by
  induction text with
  | nil => rfl
  | cons c rest ih =>
    have differs := List.ne_of_not_mem_cons absent
    have remaining := List.not_mem_of_not_mem_cons absent
    rw [cutAtLast, ih remaining]
    exact if_neg (Ne.symm differs)

theorem cutAtLast_append (before : List Char) (absent : mark ∉ after) :
    cutAtLast mark (before ++ mark :: after) = some (before, after) := by
  induction before with
  | nil =>
    rw [List.nil_append, cutAtLast, cutAtLast_of_not_mem absent]
    exact if_pos rfl
  | cons c rest ih => rw [List.cons_append, cutAtLast, ih]

/-- The last mark is the first one from behind. -/
theorem cutAtLast_eq_some_iff :
    cutAtLast mark text = some (before, after) ↔ text = before ++ mark :: after ∧ mark ∉ after := by
  constructor
  · intro cut
    by_cases present : mark ∈ text
    · obtain ⟨left, right, reversed, absent⟩ := List.eq_append_cons_of_mem (List.mem_reverse.mpr present)
      have same : text = right.reverse ++ mark :: left.reverse := by
        rw [← List.reverse_reverse text, reversed]
        simp
      subst same
      rw [cutAtLast_append _ (fun member => absent (List.mem_reverse.mp member))] at cut
      cases cut
      exact ⟨rfl, fun member => absent (List.mem_reverse.mp member)⟩
    · rw [cutAtLast_of_not_mem present] at cut
      cases cut
  · intro holds
    obtain ⟨rfl, absent⟩ := holds
    exact cutAtLast_append before absent

end Text

namespace CurrencyId

/-- Parts that an id can split into. -/
structure Parts.Proper (parts : Parts) : Prop where
  chain_nonempty : parts.chain ≠ ""
  segment_nonempty : parts.segment ≠ ""
  address_nonempty : parts.address ≠ ""
  chain_colon : ':' ∉ parts.chain.toList
  segment_colon : ':' ∉ parts.segment.toList
  segment_dash : '-' ∉ parts.segment.toList

theorem toList_join (parts : Parts) : (join parts).text.toList
    = (parts.chain.toList ++ '-' :: parts.segment.toList) ++ ':' :: parts.address.toList := by
  simp [join]

theorem split?_join {parts : Parts} (proper : parts.Proper) : split? (join parts).text = some parts := by
  have network_colon : ':' ∉ parts.chain.toList ++ '-' :: parts.segment.toList := by
    simp [proper.chain_colon, proper.segment_colon]
  unfold split?
  rw [toList_join, Text.cutAtFirst_append network_colon]
  simp only [Option.bind_eq_bind, Option.bind_some, Text.cutAtLast_append _ proper.segment_dash]
  simp [proper.chain_nonempty, proper.segment_nonempty, proper.address_nonempty]

private theorem eq_join_of_split? {text : String} {parts : Parts} (split : split? text = some parts) :
    (join parts).text = text ∧ parts.Proper := by
  unfold split? at split
  simp only [Option.bind_eq_bind, Option.bind_eq_some_iff] at split
  obtain ⟨⟨network, address⟩, atColon, ⟨chain, segment⟩, atDash, complete⟩ := split
  obtain ⟨whole, network_colon⟩ := Text.cutAtFirst_eq_some_iff.mp atColon
  obtain ⟨rfl, segment_dash⟩ := Text.cutAtLast_eq_some_iff.mp atDash
  split at complete
  next => cases complete
  next nonempty =>
    cases complete
    simp only [Bool.or_eq_true, List.isEmpty_iff, not_or] at nonempty
    obtain ⟨⟨chain_nonempty, segment_nonempty⟩, address_nonempty⟩ := nonempty
    constructor
    · rw [← String.toList_inj, toList_join, whole]
      simp
    · simp only [List.mem_append, List.mem_cons, not_or] at network_colon
      obtain ⟨chain_colon, -, segment_colon⟩ := network_colon
      exact {
        chain_nonempty := by simpa using chain_nonempty
        segment_nonempty := by simpa using segment_nonempty
        address_nonempty := by simpa using address_nonempty
        chain_colon := by simpa using chain_colon
        segment_colon := by simpa using segment_colon
        segment_dash := by simpa using segment_dash }

theorem split?_eq_some_iff {text : String} {parts : Parts} :
    split? text = some parts ↔ (join parts).text = text ∧ parts.Proper :=
  ⟨eq_join_of_split?, fun ⟨joined, proper⟩ => joined ▸ split?_join proper⟩

theorem split?_join_iff {parts : Parts} : split? (join parts).text = some parts ↔ parts.Proper :=
  ⟨fun split => (split?_eq_some_iff.mp split).2, split?_join⟩

/-- Cut at its first colon, and before it at the last dash, the text falls into three pieces, none of
which is empty. -/
structure FallsInto (text chain segment address : List Char) : Prop where
  atColon : Text.CutsAtFirst ':' text (chain ++ '-' :: segment) address
  atDash : Text.CutsAtLast '-' (chain ++ '-' :: segment) chain segment
  chain_nonempty : chain ≠ []
  segment_nonempty : segment ≠ []
  address_nonempty : address ≠ []

theorem exists_split?_iff {text : String} : (∃ parts, split? text = some parts) ↔
    ':' ∈ text.toList ∧ ∃ chain segment address, FallsInto text.toList chain segment address := by
  constructor
  · intro splits
    obtain ⟨parts, split⟩ := splits
    obtain ⟨rfl, proper⟩ := split?_eq_some_iff.mp split
    rw [toList_join]
    refine ⟨by simp, _, _, _, ⟨rfl, ?_⟩, ⟨rfl, proper.segment_dash⟩, ?_, ?_, ?_⟩
    · simp [proper.chain_colon, proper.segment_colon]
    · simpa using proper.chain_nonempty
    · simpa using proper.segment_nonempty
    · simpa using proper.address_nonempty
  · intro holds
    obtain ⟨-, chain, segment, address, falls⟩ := holds
    obtain ⟨whole, first⟩ := falls.atColon
    simp only [List.mem_append, List.mem_cons, not_or] at first
    refine ⟨⟨String.ofList chain, String.ofList segment, String.ofList address⟩, split?_eq_some_iff.mpr ⟨?_, ?_⟩⟩
    · rw [← String.toList_inj, toList_join, whole]
      simp
    · exact {
        chain_nonempty := by simpa using falls.chain_nonempty
        segment_nonempty := by simpa using falls.segment_nonempty
        address_nonempty := by simpa using falls.address_nonempty
        chain_colon := by simpa using first.1
        segment_colon := by simpa using first.2.2
        segment_dash := by simpa using falls.atDash.last }

/-- What splitting a text tells of it. -/
structure SplitsAsJoined (text : String) : Prop where
  joined : ∀ parts, split? text = some parts → (join parts).text = text
  network : ∀ parts, split? text = some parts →
    ∃ network, networkId? ⟨text⟩ = some network ∧ network.text ++ ":" ++ parts.address = text
  splits : (∃ parts, split? text = some parts) ↔
    ':' ∈ text.toList ∧ ∃ chain segment address, FallsInto text.toList chain segment address
  together : (∃ chain segment address network, (parts? ⟨text⟩).map (·.chain) = some chain ∧
      (parts? ⟨text⟩).map (·.segment) = some segment ∧ (parts? ⟨text⟩).map (·.address) = some address ∧
      networkId? ⟨text⟩ = some network) ∨
    (parts? ⟨text⟩).map (·.chain) = none ∧ (parts? ⟨text⟩).map (·.segment) = none ∧
      (parts? ⟨text⟩).map (·.address) = none ∧ networkId? ⟨text⟩ = none

theorem splitsAsJoined (text : String) : SplitsAsJoined text where
  joined _ split := (split?_eq_some_iff.mp split).1
  network parts split := by
    refine ⟨⟨parts.chain ++ "-" ++ parts.segment⟩, ?_, (split?_eq_some_iff.mp split).1⟩
    rw [networkId?, parts?, split, Option.map_some]
  splits := exists_split?_iff
  together := by
    cases split : parts? ⟨text⟩ with
    | none => exact Or.inr ⟨rfl, rfl, rfl, by rw [networkId?, split, Option.map_none]⟩
    | some parts => exact Or.inl ⟨_, _, _, _, rfl, rfl, rfl, by rw [networkId?, split, Option.map_some]⟩

/-- Ids that split are the joins of their parts, and parts are split off again unless one is empty or a
mark inside them stands before the one that ends them. -/
theorem split_join_inverse : (∀ text, SplitsAsJoined text) ∧
    ∀ parts : Parts, split? (join parts).text = some parts ↔
      (parts.chain ≠ "" ∧ parts.segment ≠ "" ∧ parts.address ≠ "") ∧ ':' ∉ parts.chain.toList ∧
        ':' ∉ parts.segment.toList ∧ '-' ∉ parts.segment.toList := by
  refine ⟨splitsAsJoined, fun parts => split?_join_iff.trans ⟨?_, ?_⟩⟩
  · exact fun proper => ⟨⟨proper.chain_nonempty, proper.segment_nonempty, proper.address_nonempty⟩,
      proper.chain_colon, proper.segment_colon, proper.segment_dash⟩
  · exact fun ⟨⟨chain, segment, address⟩, chainColon, segmentColon, segmentDash⟩ =>
      ⟨chain, segment, address, chainColon, segmentColon, segmentDash⟩

end CurrencyId

end WalletCurrencies
