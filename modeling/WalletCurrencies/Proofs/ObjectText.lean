import WalletCurrencies.Json.Record
import WalletCurrencies.Proofs.SkippedValue

/-! An object in a text is a list of members, each with the characters of its value. A record is read from
such a list one member at a time: a known key fills its place in the draft, once, and every other member is
passed over. -/

namespace WalletCurrencies.Json

/-- Members with all that stands between them, up to the closing brace. What the values look like is left
open. -/
inductive Members : Bool → List Char → List (String × List Char) → Prop where
  | close {first : Bool} {blanks : List Char} (blank : Blanks blanks) : Members first (blanks ++ ['\x7d']) []
  | member {first : Bool} {key : String} {lead body before after value rest : List Char}
      {members : List (String × List Char)} (leads : Leads first lead) (spelled : SpellsText body key)
      (left : Blanks before) (right : Blanks after) (later : Members false rest members) :
      Members first (lead ++ '"' :: (body ++ '"' :: (before ++ ':' :: (after ++ (value ++ rest)))))
        ((key, value) :: members)

/-- Every value could be passed over. -/
def Passable (members : List (String × List Char)) : Prop := ∀ member ∈ members, Skipped .value member.2

/-- The text is an object with these members. Keys are read as texts, whether they are known or not. -/
def ObjectText (text : String) (members : List (String × List Char)) : Prop :=
  ∃ before layout after, Blanks before ∧ Members true layout members ∧ Passable members ∧ Blanks after ∧
    text.toList = before ++ '\x7b' :: (layout ++ after)

theorem Members.ends {layout : List Char} {members : List (String × List Char)} (laid : Members false layout members)
    (rest : List Char) : Ends (layout ++ rest) := by
  cases laid with
  | close blank =>
    rw [List.append_assoc]
    exact ends_append blank (ends_cons (by decide) _)
  | member leads =>
    cases leads with
    | later left right =>
      simp only [List.append_assoc]
      exact ends_append left (ends_cons (by decide) _)

variable {δ α : Type}

/-- The characters are taken as a value of the field, whatever comes before and after them. -/
def Field.Takes (field : Field δ) (draft : δ) (value : List Char) (next : δ) : Prop :=
  ∀ {blanks rest}, Blanks blanks → Ends rest → field.read draft (blanks ++ (value ++ rest)) = .ok (next, rest)

/-- What a list of members makes of a draft. -/
inductive Fills (fields : List (Field δ)) : δ → List (String × List Char) → δ → Prop where
  | nil {draft : δ} : Fills fields draft [] draft
  | unknown {draft result : δ} {key : String} {value : List Char} {members : List (String × List Char)}
      (unknown : fields.find? (·.name == key) = none) (skipped : Skipped .value value)
      (later : Fills fields draft members result) : Fills fields draft ((key, value) :: members) result
  | known {draft next result : δ} {field : Field δ} {key : String} {value : List Char}
      {members : List (String × List Char)} (known : fields.find? (·.name == key) = some field)
      (fresh : field.given draft = false) (takes : field.Takes draft value next)
      (later : Fills fields next members result) : Fills fields draft ((key, value) :: members) result

section Fills

variable {fields : List (Field δ)} {draft result : δ} {field : Field δ} {key : String} {value : List Char}
  {members : List (String × List Char)}

theorem fills_unknown_iff (unknown : fields.find? (·.name == key) = none) (skipped : Skipped .value value) :
    Fills fields draft ((key, value) :: members) result ↔ Fills fields draft members result := by
  constructor
  · intro fills
    cases fills with
    | unknown _ _ later => exact later
    | known known =>
      rw [unknown] at known
      cases known
  · exact .unknown unknown skipped

theorem fills_known_iff (known : fields.find? (·.name == key) = some field) :
    Fills fields draft ((key, value) :: members) result ↔
      field.given draft = false ∧ ∃ next, field.Takes draft value next ∧ Fills fields next members result := by
  constructor
  · intro fills
    cases fills with
    | unknown unknown =>
      rw [unknown] at known
      cases known
    | known found fresh takes later =>
      rw [found] at known
      cases known
      exact ⟨fresh, _, takes, later⟩
  · intro holds
    obtain ⟨fresh, next, takes, later⟩ := holds
    exact .known known fresh takes later

end Fills

namespace Reader

variable {fields : List (Field δ)} {draft result : δ} {text rest layout : List Char} {first : Bool}
  {members : List (String × List Char)}

/-- A member is read up to the blanks before its value, as far as its key is known not to be given yet. -/
theorem memberRound_append {lead body before : List Char} {key : String} (leads : Leads first lead)
    (spelled : SpellsText body key) (left : Blanks before) :
    memberRound fields (first, draft) (lead ++ '"' :: (body ++ '"' :: (before ++ ':' :: text))) =
      match fields.find? (·.name == key) with
      | none => do
        let ((), rest) ← skipValue text
        return (.again (false, draft), rest)
      | some field =>
        if field.given draft then
          .error (.here (.shape (.duplicateField key)) (pastBrace (before ++ ':' :: text)))
        else do
          let (draft, rest) ← field.read draft text
          return (.again (false, draft), rest) := by
  have member : nextMember first (lead ++ '"' :: (body ++ '"' :: (before ++ ':' :: text))) = .ok (true, _) :=
    nextMember_eq_true_iff.mpr ⟨lead, leads, rfl⟩
  have named : textBody (body ++ '"' :: (before ++ ':' :: text)) = .ok (key, _) :=
    textBody_eq_ok_iff.mpr ⟨body, spelled, rfl⟩
  have marked : colon (before ++ ':' :: text) = .ok ((), text) := colon_eq_ok_iff.mpr ⟨before, left, rfl⟩
  unfold memberRound
  simp only [member, named, bind, Except.bind, if_true]
  cases fields.find? (·.name == key) with
  | none => simp only [marked]
  | some field =>
    dsimp only
    split
    next => rfl
    next => simp only [marked]

theorem memberRound_close {blanks : List Char} (blank : Blanks blanks) :
    memberRound fields (first, draft) (blanks ++ '\x7d' :: rest) = .ok (.done draft, rest) := by
  have close : nextMember first (blanks ++ '\x7d' :: rest) = .ok (false, rest) :=
    nextMember_eq_false_iff.mpr ⟨blanks, blank, rfl⟩
  unfold memberRound
  simp only [close, bind, Except.bind]
  rfl

theorem loops_memberRound (fills : Fills fields draft members result) (laid : Members first layout members)
    (rest : List Char) : Loops (memberRound fields) (first, draft) (layout ++ rest) result rest := by
  induction fills generalizing first layout with
  | nil =>
    cases laid with
    | close blank =>
      rw [List.append_assoc]
      exact .done (memberRound_close blank)
  | @unknown draft result key value members unknown skipped _ ih =>
    cases laid with
    | @member _ _ lead body before after _ others _ leads spelled left right later =>
      have passed : skipValue (after ++ (value ++ (others ++ rest))) = .ok ((), others ++ rest) :=
        skipValue_append right skipped (later.ends rest).stops
      simp only [List.append_assoc, List.cons_append]
      refine .again ?_ ?_ (ih later)
      · rw [memberRound_append leads spelled left, unknown]
        simp only [passed]
        rfl
      · simp only [List.length_append, List.length_cons]
        omega
  | @known draft next result field key value members known fresh takes _ ih =>
    cases laid with
    | @member _ _ lead body before after _ others _ leads spelled left right later =>
      have taken : field.read draft (after ++ (value ++ (others ++ rest))) = .ok (next, others ++ rest) :=
        takes right (later.ends rest)
      simp only [List.append_assoc, List.cons_append]
      refine .again ?_ ?_ (ih later)
      · rw [memberRound_append leads spelled left, known]
        simp only [fresh, taken]
        rfl
      · simp only [List.length_append, List.length_cons]
        omega

end Reader

/-- Whatever is read for the field could be passed over, and would be read wherever it stands. -/
def Field.Sound (field : Field δ) : Prop :=
  ∀ {draft text next rest}, field.read draft text = .ok (next, rest) →
    ∃ blanks value, Blanks blanks ∧ Skipped .value value ∧ field.Takes draft value next ∧
      text = blanks ++ (value ++ rest)

namespace Reader

variable {fields : List (Field δ)} {draft result : δ} {text rest layout : List Char} {first : Bool}
  {members : List (String × List Char)}

/-- The inverse of a round: it reads the closing brace, or one member. -/
theorem cases_memberRound {round : Round (Bool × δ) δ} (sound : ∀ field ∈ fields, field.Sound)
    (read : memberRound fields (first, draft) text = .ok (round, rest)) :
    (∃ blanks, Blanks blanks ∧ round = .done draft ∧ text = blanks ++ '\x7d' :: rest) ∨
    ∃ lead body before after value key next, Leads first lead ∧ SpellsText body key ∧ Blanks before ∧
      Blanks after ∧ Skipped .value value ∧ round = .again (false, next) ∧
      (∀ members result, Fills fields next members result → Fills fields draft ((key, value) :: members) result) ∧
      text = lead ++ '"' :: (body ++ '"' :: (before ++ ':' :: (after ++ (value ++ rest)))) := by
  unfold memberRound at read
  obtain ⟨⟨more, others⟩, member, settled⟩ := bind_eq_ok_iff.mp read
  dsimp only at settled
  cases more with
  | false =>
    obtain ⟨blanks, blank, rfl⟩ := nextMember_eq_false_iff.mp member
    cases settled
    exact Or.inl ⟨blanks, blank, rfl, rfl⟩
  | true =>
    right
    obtain ⟨lead, leads, rfl⟩ := nextMember_eq_true_iff.mp member
    obtain ⟨⟨key, afterKey⟩, named, found⟩ := bind_eq_ok_iff.mp settled
    obtain ⟨body, spelled, rfl⟩ := textBody_eq_ok_iff.mp named
    dsimp only at found
    split at found
    next unknown =>
      obtain ⟨⟨⟨⟩, afterColon⟩, marked, valued⟩ := bind_eq_ok_iff.mp found
      obtain ⟨before, left, rfl⟩ := colon_eq_ok_iff.mp marked
      obtain ⟨⟨⟨⟩, afterValue⟩, passed, again⟩ := bind_eq_ok_iff.mp valued
      obtain ⟨after, value, right, skipped, rfl⟩ := skipped_of_skipValue passed
      cases again
      exact ⟨lead, body, before, after, value, key, draft, leads, spelled, left, right, skipped, rfl,
        fun _ _ => .unknown unknown skipped, rfl⟩
    next field known =>
      split at found
      next => cases found
      next fresh =>
        obtain ⟨⟨⟨⟩, afterColon⟩, marked, valued⟩ := bind_eq_ok_iff.mp found
        obtain ⟨before, left, rfl⟩ := colon_eq_ok_iff.mp marked
        obtain ⟨⟨next, afterValue⟩, taken, again⟩ := bind_eq_ok_iff.mp valued
        obtain ⟨after, value, right, skipped, takes, rfl⟩ := sound field (List.mem_of_find?_eq_some known) taken
        cases again
        exact ⟨lead, body, before, after, value, key, next, leads, spelled, left, right, skipped, rfl,
          fun _ _ => .known known (Bool.eq_false_iff.mpr fresh) takes, rfl⟩

theorem fills_of_runs {state : Bool × δ} (sound : ∀ field ∈ fields, field.Sound)
    (runs : Runs (memberRound fields) state text result rest) : ∃ layout members, Members state.1 layout members ∧
      Passable members ∧ Fills fields state.2 members result ∧ text = layout ++ rest := by
  induction runs with
  | done settled =>
    obtain ⟨blanks, blank, same, rfl⟩ | ⟨_, _, _, _, _, _, _, _, _, _, _, _, impossible, _⟩ :=
      cases_memberRound sound settled
    · cases same
      exact ⟨_, [], .close blank, List.forall_mem_nil _, .nil, by simp⟩
    · cases impossible
  | again read _ ih =>
    obtain ⟨_, _, impossible, _⟩ |
      ⟨lead, body, before, after, value, key, next, leads, spelled, left, right, skipped, same, fills, rfl⟩ :=
      cases_memberRound sound read
    · cases impossible
    · cases same
      obtain ⟨layout, members, laid, passable, filled, rfl⟩ := ih
      exact ⟨_, (key, value) :: members, .member leads spelled left right laid,
        List.forall_mem_cons.mpr ⟨skipped, passable⟩, fills members _ filled, by simp⟩

end Reader

section Unique

/-! What is read of a text depends on the text alone, so its parts can be told apart in one way only. -/

variable {first : Bool} {blanks blanks' lead lead' body body' value value' rest rest' : List Char} {key key' : String}

theorem Leads.rest_eq (leads : Leads first lead) (leads' : Leads first lead')
    (same : lead ++ '"' :: rest = lead' ++ '"' :: rest') : rest = rest' := by
  have read : Reader.nextMember first (lead ++ '"' :: rest) = .ok (true, rest) :=
    Reader.nextMember_eq_true_iff.mpr ⟨lead, leads, rfl⟩
  rw [Reader.nextMember_eq_true_iff.mpr ⟨lead', leads', same⟩] at read
  cases read
  rfl

theorem Leads.not_closed (leads : Leads first lead) (blank : Blanks blanks) :
    lead ++ '"' :: rest ≠ blanks ++ '\x7d' :: rest' := by
  intro same
  have read : Reader.nextMember first (lead ++ '"' :: rest) = .ok (true, rest) :=
    Reader.nextMember_eq_true_iff.mpr ⟨lead, leads, rfl⟩
  rw [Reader.nextMember_eq_false_iff.mpr ⟨blanks, blank, same⟩] at read
  cases read

theorem SpellsText.unique (spelled : SpellsText body key) (spelled' : SpellsText body' key')
    (same : body ++ '"' :: rest = body' ++ '"' :: rest') : key = key' ∧ rest = rest' := by
  have read : Reader.textBody (body ++ '"' :: rest) = .ok (key, rest) :=
    Reader.textBody_eq_ok_iff.mpr ⟨body, spelled, rfl⟩
  rw [Reader.textBody_eq_ok_iff.mpr ⟨body', spelled', same⟩] at read
  cases read
  exact ⟨rfl, rfl⟩

theorem Blanks.rest_eq (blank : Blanks blanks) (blank' : Blanks blanks')
    (same : blanks ++ ':' :: rest = blanks' ++ ':' :: rest') : rest = rest' := by
  have read : Reader.colon (blanks ++ ':' :: rest) = .ok ((), rest) :=
    Reader.colon_eq_ok_iff.mpr ⟨blanks, blank, rfl⟩
  rw [Reader.colon_eq_ok_iff.mpr ⟨blanks', blank', same⟩] at read
  cases read
  rfl

theorem Skipped.unique (blank : Blanks blanks) (blank' : Blanks blanks') (skipped : Skipped .value value)
    (skipped' : Skipped .value value') (stops : Stops rest) (stops' : Stops rest')
    (same : blanks ++ (value ++ rest) = blanks' ++ (value' ++ rest')) : value = value' ∧ rest = rest' := by
  have read := Reader.skipValue_append blank skipped stops
  rw [same, Reader.skipValue_append blank' skipped' stops'] at read
  cases read
  refine ⟨?_, rfl⟩
  rw [← List.append_assoc, ← List.append_assoc, List.append_left_inj] at same
  -- A value begins with no blank.
  have bare {blanks value : List Char} (blank : Blanks blanks) (skipped : Skipped .value value) :
      skipBlanks (blanks ++ value) = value := by
    obtain ⟨c, others, rfl, begins⟩ := skipped.head
    exact Reader.skipBlanks_between blank begins.1 others
  rw [← bare blank skipped, same, bare blank' skipped']

theorem Members.unique {layout layout' : List Char} {members members' : List (String × List Char)}
    (laid : Members first layout members) (laid' : Members first layout' members')
    (passable : Passable members) (passable' : Passable members')
    (same : layout ++ rest = layout' ++ rest') : members = members' := by
  induction laid generalizing layout' members' with
  | close blank =>
    cases laid' with
    | close => rfl
    | member leads =>
      rw [List.append_assoc, List.append_assoc] at same
      exact absurd same.symm (leads.not_closed blank)
  | @member first key lead body before after value tail members leads spelled left right later ih =>
    cases laid' with
    | close blank =>
      rw [List.append_assoc, List.append_assoc] at same
      exact absurd same (leads.not_closed blank)
    | member leads' spelled' left' right' later' =>
      obtain ⟨skipped, others⟩ := List.forall_mem_cons.mp passable
      obtain ⟨skipped', others'⟩ := List.forall_mem_cons.mp passable'
      simp only [List.append_assoc, List.cons_append] at same
      obtain ⟨rfl, afterKey⟩ := spelled.unique spelled' (leads.rest_eq leads' same)
      obtain ⟨sameValue, afterValue⟩ := skipped.unique right right' skipped' (later.ends rest).stops
        (later'.ends rest').stops (left.rest_eq left' afterKey)
      rw [show value = _ from sameValue, ih later' others others' afterValue]

theorem ObjectText.unique {text : String} {members members' : List (String × List Char)}
    (object : ObjectText text members) (object' : ObjectText text members') : members = members' := by
  obtain ⟨before, layout, after, left, laid, passable, right, same⟩ := object
  obtain ⟨before', layout', after', left', laid', passable', right', same'⟩ := object'
  have opened := congrArg skipBlanks (same.symm.trans same')
  rw [Reader.skipBlanks_between left (by decide), Reader.skipBlanks_between left' (by decide)] at opened
  exact laid.unique laid' passable passable' (List.cons.inj opened).2

theorem ObjectText.passable {text : String} {members : List (String × List Char)} (object : ObjectText text members) :
    Passable members := by
  obtain ⟨_, _, _, _, _, passable, _, _⟩ := object
  exact passable

theorem ObjectText.opens {text : String} {members : List (String × List Char)} (object : ObjectText text members) :
    ∃ rest, skipBlanks text.toList = '\x7b' :: rest := by
  obtain ⟨before, layout, after, left, -, -, -, same⟩ := object
  rw [same]
  exact ⟨_, Reader.skipBlanks_between left (by decide) _⟩

end Unique

namespace Reader

variable {shape : Shape δ α} {draft : δ} {value : α} {members : List (String × List Char)} {layout rest : List Char}
  {text : String}

theorem run_eq_ok_iff {reader : Reader α} :
    run reader text = .ok value ↔ ∃ rest, reader text.toList = .ok (value, rest) ∧ Blanks rest := by
  constructor
  · intro ran
    unfold run at ran
    split at ran
    next => cases ran
    next rest read =>
      split at ran
      next blank =>
        cases ran
        exact ⟨rest, read, skipBlanks_eq_nil_iff.mp blank⟩
      next => cases ran
  · intro holds
    obtain ⟨rest, read, blank⟩ := holds
    simp only [run, read, skipBlanks_eq_nil_iff.mpr blank]

theorem record_append {before : List Char} (blank : Blanks before) (laid : Members true layout members)
    (fills : Fills shape.fields shape.blank members draft) (complete : shape.complete draft = .ok value)
    (rest : List Char) : record shape (before ++ '\x7b' :: (layout ++ rest)) = .ok (value, rest) := by
  have read : repeated (memberRound shape.fields) (true, shape.blank) (layout ++ rest) = .ok (draft, rest) :=
    repeated_of_loops (loops_memberRound fills laid rest)
  unfold record
  rw [skipBlanks_between blank (by decide)]
  simp only [Reader.members, read, bind, Except.bind, complete]
  rfl

theorem fills_of_record {before text : List Char} (sound : ∀ field ∈ shape.fields, field.Sound)
    (blank : Blanks before) (read : record shape (before ++ '\x7b' :: text) = .ok (value, rest)) :
    ∃ layout members draft, Members true layout members ∧ Passable members ∧
      Fills shape.fields shape.blank members draft ∧ shape.complete draft = .ok value ∧ text = layout ++ rest := by
  unfold record at read
  rw [skipBlanks_between blank (by decide)] at read
  obtain ⟨⟨draft, afterMembers⟩, filled, settled⟩ := bind_eq_ok_iff.mp read
  obtain ⟨layout, members, laid, passable, fills, rfl⟩ := fills_of_runs sound (runs_of_repeated filled)
  dsimp only at settled
  split at settled
  next complete =>
    cases settled
    exact ⟨layout, members, draft, laid, passable, fills, complete, rfl⟩
  next => cases settled

/-- A text that begins as an object is read as a record exactly if it is one whose members make a whole draft. -/
theorem run_record_iff (sound : ∀ field ∈ shape.fields, field.Sound)
    (opens : ∃ rest, skipBlanks text.toList = '\x7b' :: rest) :
    run (record shape) text = .ok value ↔ ∃ members draft, ObjectText text members ∧
      Fills shape.fields shape.blank members draft ∧ shape.complete draft = .ok value := by
  rw [run_eq_ok_iff]
  constructor
  · intro holds
    obtain ⟨after, read, right⟩ := holds
    obtain ⟨rest, opened⟩ := opens
    obtain ⟨before, left, same⟩ := exists_blanks_of_skipBlanks opened
    rw [same] at read
    obtain ⟨layout, members, draft, laid, passable, fills, complete, rfl⟩ := fills_of_record sound left read
    exact ⟨members, draft, ⟨before, layout, after, left, laid, passable, right, same⟩, fills, complete⟩
  · intro holds
    obtain ⟨members, draft, ⟨before, layout, after, left, laid, -, right, same⟩, fills, complete⟩ := holds
    exact ⟨after, same ▸ record_append left laid fills complete after, right⟩

end Reader

end WalletCurrencies.Json
