import WalletCurrencies.Proofs.SpelledChoice
import WalletCurrencies.Settings

/-! What a text of settings means. Each setting is what its key is given, once, or its default where the key
is absent. Neither the order of the members nor any member of another key has a say in it. -/

namespace WalletCurrencies

open Json

namespace Settings

variable {β : Type}

/-- All the values that stand under a key, in their order. -/
def valuesOf (key : String) (members : List (String × List Char)) : List (List Char) :=
  (members.filter (·.1 = key)).map (·.2)

theorem valuesOf_cons (key other : String) (chars : List Char) (members : List (String × List Char)) :
    valuesOf key ((other, chars) :: members) =
      if other = key then chars :: valuesOf key members else valuesOf key members := by
  unfold valuesOf
  rw [List.filter_cons]
  split <;> simp_all

/-- At most one value stands for a setting, which is left at its default without one. -/
inductive Sets (spells : List Char → β → Prop) (default : β) : List (List Char) → β → Prop where
  | absent : Sets spells default [] default
  | given {chars : List Char} {value : β} (spelled : spells chars value) : Sets spells default [chars] value

/-- An environment is spelled by its name. -/
def SpellsEnvironment (chars : List Char) (environment : Environment) : Prop :=
  SpellsName chars environment.name

/-- What members of a text make of the three settings, where the defaults are lenient loading for the main
networks with the final icons. -/
structure Means (members : List (String × List Char)) (settings : Settings) : Prop where
  environment : Sets SpellsEnvironment .mainnet (valuesOf "network" members) settings.environment
  strict : Sets SpellsBoolean false (valuesOf "strict" members) settings.strict
  stagingIcons : Sets SpellsBoolean false (valuesOf "staging_assets" members) settings.stagingIcons

/-- No second value, and none that is invalid. -/
structure Valid (spells : List Char → β → Prop) (values : List (List Char)) : Prop where
  once : values.length ≤ 1
  spelled : ∀ chars ∈ values, ∃ value, spells chars value

structure AllValid (members : List (String × List Char)) : Prop where
  environment : Valid SpellsEnvironment (valuesOf "network" members)
  strict : Valid SpellsBoolean (valuesOf "strict" members)
  stagingIcons : Valid SpellsBoolean (valuesOf "staging_assets" members)

theorem exists_sets_iff {spells : List Char → β → Prop} {default : β} {values : List (List Char)} :
    (∃ value, Sets spells default values value) ↔ Valid spells values := by
  constructor
  · intro holds
    obtain ⟨value, sets⟩ := holds
    cases sets with
    | absent => exact ⟨Nat.zero_le 1, List.forall_mem_nil _⟩
    | given spelled => exact ⟨Nat.le_refl 1, List.forall_mem_singleton.mpr ⟨value, spelled⟩⟩
  · intro valid
    obtain ⟨once, spelled⟩ := valid
    match values with
    | [] => exact ⟨default, .absent⟩
    | [chars] =>
      obtain ⟨value, spelled⟩ := spelled chars List.mem_cons_self
      exact ⟨value, .given spelled⟩
    | _ :: _ :: _ => exact absurd once (by simp)

theorem exists_means_iff {members : List (String × List Char)} :
    (∃ settings, Means members settings) ↔ AllValid members := by
  constructor
  · intro holds
    obtain ⟨settings, environment, strict, stagingIcons⟩ := holds
    exact ⟨exists_sets_iff.mp ⟨_, environment⟩, exists_sets_iff.mp ⟨_, strict⟩, exists_sets_iff.mp ⟨_, stagingIcons⟩⟩
  · intro valid
    obtain ⟨environment, sets⟩ := exists_sets_iff.mpr valid.environment
    obtain ⟨strict, setsStrict⟩ := exists_sets_iff.mpr valid.strict
    obtain ⟨stagingIcons, setsIcons⟩ := exists_sets_iff.mpr valid.stagingIcons
    exact ⟨⟨environment, strict, stagingIcons⟩, sets, setsStrict, setsIcons⟩

/-- The place of a setting in a draft, before and after the values that are still to come. -/
def Continues (spells : List Char → β → Prop) : Option β → List (List Char) → Option β → Prop
  | given, [], final => final = given
  | given, chars :: values, final =>
    given = none ∧ ∃ value, spells chars value ∧ Continues spells (some value) values final

theorem sets_iff {spells : List Char → β → Prop} {default value : β} {values : List (List Char)} :
    Sets spells default values value ↔ ∃ final, Continues spells none values final ∧ value = final.getD default := by
  constructor
  · intro sets
    cases sets with
    | absent => exact ⟨none, rfl, rfl⟩
    | given spelled => exact ⟨some value, ⟨rfl, value, spelled, rfl⟩, rfl⟩
  · intro holds
    obtain ⟨final, continues, rfl⟩ := holds
    match values, continues with
    | [], continues =>
      cases continues
      exact .absent
    | [chars], ⟨_, value, spelled, last⟩ =>
      cases last
      exact .given spelled
    | _ :: _ :: _, ⟨_, _, _, taken, _⟩ => cases taken

theorem environment_recognizes : Environment.codec.read.Recognizes SpellsEnvironment := by
  intro text value rest
  rw [Environment.codec, Reader.variant_recognizes]
  have known (name : String) : Entries.find? name [("mainnet", Environment.mainnet), ("testnet", .testnet)] =
      some value ↔ name = value.name := by
    cases value <;> grind [Entries.find?, Environment.name]
  simp only [known, exists_eq_right]
  rfl

theorem SpellsEnvironment.skipped {chars : List Char} {environment : Environment}
    (spelled : SpellsEnvironment chars environment) : Skipped .value chars :=
  SpellsName.skipped spelled

variable {draft result : Draft} {members : List (String × List Char)}

theorem fills_iff (passable : Passable members) : Fills shape.fields draft members result ↔
    Continues SpellsEnvironment draft.environment (valuesOf "network" members) result.environment ∧
    Continues SpellsBoolean draft.strict (valuesOf "strict" members) result.strict ∧
    Continues SpellsBoolean draft.stagingIcons (valuesOf "staging_assets" members) result.stagingIcons := by
  induction members generalizing draft with
  | nil =>
    constructor
    · intro fills
      cases fills
      exact ⟨rfl, rfl, rfl⟩
    · intro unchanged
      obtain ⟨environment, strict, stagingIcons⟩ := unchanged
      have same : result = draft := by
        cases result
        cases draft
        simp_all [Continues, valuesOf]
      exact same ▸ .nil
  | cons member members ih =>
    obtain ⟨key, chars⟩ := member
    obtain ⟨skipped, others⟩ := List.forall_mem_cons.mp passable
    simp only [valuesOf_cons]
    -- A known key fills its own place of the draft and leaves the other two as they are.
    by_cases network : key = "network"
    · subst network
      rw [fills_storing_iff rfl environment_recognizes SpellsEnvironment.skipped skipped]
      simp only [ih others]
      constructor
      · rintro ⟨fresh, environment, spelled, continues, rest⟩
        exact ⟨⟨fresh, environment, spelled, continues⟩, rest⟩
      · rintro ⟨⟨fresh, environment, spelled, continues⟩, rest⟩
        exact ⟨fresh, environment, spelled, continues, rest⟩
    by_cases strict : key = "strict"
    · subst strict
      rw [fills_storing_iff rfl Reader.boolean_recognizes SpellsBoolean.skipped skipped]
      simp only [ih others]
      constructor
      · rintro ⟨fresh, value, spelled, first, continues, last⟩
        exact ⟨first, ⟨fresh, value, spelled, continues⟩, last⟩
      · rintro ⟨first, ⟨fresh, value, spelled, continues⟩, last⟩
        exact ⟨fresh, value, spelled, first, continues, last⟩
    by_cases stagingIcons : key = "staging_assets"
    · subst stagingIcons
      rw [fills_storing_iff rfl Reader.boolean_recognizes SpellsBoolean.skipped skipped]
      simp only [ih others]
      constructor
      · rintro ⟨fresh, value, spelled, first, second, continues⟩
        exact ⟨first, second, fresh, value, spelled, continues⟩
      · rintro ⟨first, second, fresh, value, spelled, continues⟩
        exact ⟨fresh, value, spelled, first, second, continues⟩
    have unknown : shape.fields.find? (·.name == key) = none := by
      simp [shape, Field.storing, Ne.symm network, Ne.symm strict, Ne.symm stagingIcons]
    rw [fills_unknown_iff unknown skipped, ih others, if_neg network, if_neg strict, if_neg stagingIcons]

theorem fields_sound : ∀ field ∈ shape.fields, field.Sound := by
  intro field member
  simp only [shape, List.mem_cons, List.not_mem_nil, or_false] at member
  obtain rfl | rfl | rfl := member
  · exact storing_sound environment_recognizes SpellsEnvironment.skipped
  · exact storing_sound Reader.boolean_recognizes SpellsBoolean.skipped
  · exact storing_sound Reader.boolean_recognizes SpellsBoolean.skipped

variable {settings : Settings} {text : String}

theorem means_iff (passable : Passable members) : Means members settings ↔
    ∃ draft, Fills shape.fields shape.blank members draft ∧ shape.complete draft = .ok settings := by
  constructor
  · intro means
    obtain ⟨environment, first, same⟩ := sets_iff.mp means.environment
    obtain ⟨strict, second, sameStrict⟩ := sets_iff.mp means.strict
    obtain ⟨stagingIcons, third, sameIcons⟩ := sets_iff.mp means.stagingIcons
    refine ⟨⟨environment, strict, stagingIcons⟩, (fills_iff passable).mpr ⟨first, second, third⟩, ?_⟩
    cases settings
    subst same sameStrict sameIcons
    rfl
  · intro holds
    obtain ⟨draft, fills, complete⟩ := holds
    obtain ⟨first, second, third⟩ := (fills_iff passable).mp fills
    cases complete
    exact ⟨sets_iff.mpr ⟨_, first, rfl⟩, sets_iff.mpr ⟨_, second, rfl⟩, sets_iff.mpr ⟨_, third, rfl⟩⟩

theorem ofJson_eq_ok_iff_ofText : ofJson text = .ok settings ↔ codec.ofText text = .ok settings := by
  unfold ofJson
  cases codec.ofText text <;> simp [Except.mapError]

theorem undecodableRecord_of_ofJson {failure : Failure} (failed : ofJson text = .error failure) :
    ∃ reason, failure = .undecodableRecord reason := by
  unfold ofJson at failed
  cases read : codec.ofText text with
  | ok value =>
    rw [read] at failed
    cases failed
  | error problem =>
    rw [read] at failed
    cases failed
    exact ⟨_, rfl⟩

theorem ofJson_eq_ok_iff_means (opens : ∃ rest, skipBlanks text.toList = '\x7b' :: rest) :
    ofJson text = .ok settings ↔ ∃ members, ObjectText text members ∧ Means members settings := by
  rw [ofJson_eq_ok_iff_ofText, Codec.ofText, codec, Reader.run_record_iff fields_sound opens]
  constructor
  · intro holds
    obtain ⟨members, draft, object, filled⟩ := holds
    exact ⟨members, object, (means_iff object.passable).mpr ⟨draft, filled⟩⟩
  · intro holds
    obtain ⟨members, object, means⟩ := holds
    obtain ⟨draft, filled⟩ := (means_iff object.passable).mp means
    exact ⟨members, draft, object, filled⟩

/-- The keys of settings. -/
def IsKnown (key : String) : Prop := key = "network" ∨ key = "strict" ∨ key = "staging_assets"

instance (key : String) : Decidable (IsKnown key) := inferInstanceAs (Decidable (_ ∨ _ ∨ _))

theorem valuesOf_known {key : String} (known : IsKnown key) (members : List (String × List Char)) :
    valuesOf key (members.filter (IsKnown ·.1)) = valuesOf key members := by
  unfold valuesOf
  rw [List.filter_filter]
  congr 1
  apply List.filter_congr
  intro member _
  by_cases same : member.1 = key <;> simp [same, known]

theorem Sets.perm {spells : List Char → β → Prop} {default value : β} {values others : List (List Char)}
    (sets : Sets spells default values value) (perm : values.Perm others) : Sets spells default others value := by
  cases sets with
  | absent =>
    rw [List.nil_perm.mp perm]
    exact .absent
  | given spelled =>
    rw [List.perm_singleton.mp perm.symm]
    exact .given spelled

variable {others : List (String × List Char)}

theorem Means.perm (means : Means members settings)
    (perm : (members.filter (IsKnown ·.1)).Perm (others.filter (IsKnown ·.1))) : Means others settings := by
  have values {key : String} (known : IsKnown key) : (valuesOf key members).Perm (valuesOf key others) := by
    rw [← valuesOf_known known, ← valuesOf_known known others]
    exact (perm.filter _).map _
  exact ⟨means.environment.perm (values (Or.inl rfl)), means.strict.perm (values (Or.inr (Or.inl rfl))),
    means.stagingIcons.perm (values (Or.inr (Or.inr rfl)))⟩

/-- A text that begins as an object is accepted exactly if it is one in which each setting is given at most
once and validly. It then means what its known keys say, in any order and among any other members. -/
theorem ofJson_readsKeys (opens : ∃ rest, skipBlanks text.toList = '\x7b' :: rest) :
    ((∃ settings, ofJson text = .ok settings) ↔ ∃ members, ObjectText text members ∧ AllValid members) ∧
    (∀ members, ObjectText text members → ∀ settings, ofJson text = .ok settings ↔ Means members settings) ∧
    (∀ failure, ofJson text = .error failure → ∃ reason, failure = .undecodableRecord reason) ∧
    ∀ other members others, ObjectText text members → ObjectText other others →
      (members.filter (IsKnown ·.1)).Perm (others.filter (IsKnown ·.1)) →
      ∀ settings, ofJson other = .ok settings ↔ ofJson text = .ok settings := by
  have meaning {text : String} {members : List (String × List Char)} (object : ObjectText text members)
      (settings : Settings) : ofJson text = .ok settings ↔ Means members settings := by
    rw [ofJson_eq_ok_iff_means object.opens]
    constructor
    · intro holds
      obtain ⟨others, object', means⟩ := holds
      rw [object.unique object']
      exact means
    · intro means
      exact ⟨members, object, means⟩
  refine ⟨?_, fun _ object => meaning object, fun _ => undecodableRecord_of_ofJson, ?_⟩
  · simp only [ofJson_eq_ok_iff_means opens, ← exists_means_iff]
    constructor
    · intro holds
      obtain ⟨settings, members, object, means⟩ := holds
      exact ⟨members, object, settings, means⟩
    · intro holds
      obtain ⟨members, object, settings, means⟩ := holds
      exact ⟨settings, members, object, means⟩
  · intro other members others object object' perm settings
    rw [meaning object', meaning object]
    exact ⟨fun means => means.perm perm.symm, fun means => means.perm perm⟩

theorem ofJson_readsKeys_strict :
    ∃ members, ObjectText " \x7b\"strict\": true, \"x\": [null]\x7d" members ∧
      Means members ⟨.mainnet, true, false⟩ := by
  have opens : ∃ rest, skipBlanks " \x7b\"strict\": true, \"x\": [null]\x7d".toList = '\x7b' :: rest := ⟨_, rfl⟩
  have accepted : ofJson " \x7b\"strict\": true, \"x\": [null]\x7d" = .ok ⟨.mainnet, true, false⟩ := by rfl
  obtain ⟨members, object, -⟩ := (ofJson_readsKeys opens).1.mp ⟨_, accepted⟩
  exact ⟨members, object, ((ofJson_readsKeys opens).2.1 members object _).mp accepted⟩

end Settings

end WalletCurrencies
