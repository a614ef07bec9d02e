import EditableProfile.Wire.Record
import EditableProfile.Proofs.SpelledReading
import Mathlib.Data.List.Nodup
import Mathlib.Data.List.Induction

set_option autoImplicit false

namespace EditableProfile

open Json Wire

namespace Wire

theorem draft_of_stepwise : Stepwise draftOf := by
  refine ⟨fun draft => rfl, ?_⟩
  intro draft member rest
  cases known : Field.ofName? member.1 with
  | none => simp [draftOf, known, bind, Except.bind]
  | some field =>
      by_cases taken : (draft.get field).isSome
      · simp [draftOf, known, taken, bind, Except.bind]
      · cases content : stringOf member.2 <;>
          simp [draftOf, known, taken, content, bind, Except.bind]

theorem string_of_text_for (value : Value) : stringOf value = textFor .string value := by
  cases value <;> rfl

theorem draft_member_read (member : String × Value) :
    MemberRead draftMember (stepOf draftOf) member := by
  intro name gap lead core speltName spacesGap spacesLead spelt draft before rest spaces
  rw [draftMember, key_spelt member.1 name before _ speltName spaces, stepOf]
  simp only [bind, Except.bind, mark_spaces ':' gap _ spacesGap rfl, draftOf]
  cases known : Field.ofName? member.1 with
  | none => rw [skip_value_spelt member.2 core lead rest spelt spacesLead]; rfl
  | some field =>
      by_cases taken : (draft.get field).isSome
      · simp only [taken, if_true]
        rfl
      · rw [string_for_spelt .string member.2 core lead rest spelt spacesLead,
          ← string_of_text_for]
        simp only [taken, Bool.false_eq_true, if_false]
        cases stringOf member.2 <;> rfl

theorem element_first (value : Value) :
    ReadAs (element 0) value ((stringOf value).mapError Fault.mismatch) := by
  intro core lead rest spelt spaces
  obtain ⟨head, tail, rfl, solid, open_⟩ := opens_spelt value core spelt
  have read := string_for_spelt .string value (head :: tail) [] rest spelt (by decide)
  rw [← string_of_text_for, List.nil_append, List.cons_append] at read
  rw [element, List.cons_append, skip_spaces_solid lead head _ spaces solid]
  simp only [if_neg open_, if_true]
  exact read

theorem element_next (count : Nat) (value : Value) (core gap lead rest : List Char)
    (spelt : Spells value core) (spacesGap : Spaces gap) (spaces : Spaces lead) :
    element (count + 1) (gap ++ ',' :: (lead ++ (core ++ rest))) =
      ((stringOf value).mapError Fault.mismatch).map fun content => (content, rest) := by
  rw [element, skip_spaces_solid gap ',' _ spacesGap rfl, string_of_text_for]
  exact string_for_spelt .string value core lead rest spelt spaces

end Wire

namespace Record

theorem object_read (members : List (String × Value)) :
    ReadAs reader (.object members) ((ofValue (.object members)).mapError Fault.mismatch) := by
  intro core lead rest spelt spaces
  obtain ⟨parts, gap, speltMembers, spacesGap, rfl⟩ := spelt
  have advances := members_advance draftMember (stepOf draftOf) members parts speltMembers
    fun member _ => draft_member_read member
  have read := entries_close '}' draftMember (stepOf draftOf) members parts Draft.empty gap rest rfl
    (by decide) spacesGap advances
  rw [← draft_of_stepwise.fold] at read
  rw [reader, List.cons_append, skip_spaces_solid lead '{' _ spaces rfl]
  simp only [List.append_assoc, List.cons_append, List.nil_append, read, ofValue, bind, Except.bind]
  cases draftOf Draft.empty members with
  | error cause => rfl
  | ok draft => cases found : draft.finish <;> simp [Except.map, Except.mapError, found, pure, Except.pure]

def ofThree (username email avatar : Value) : Except Mismatch Record := do
  let username ← stringOf username
  let email ← stringOf email
  let avatar ← stringOf avatar
  return ⟨username, email, avatar⟩

theorem of_value_named (username email avatar : Value) :
    ofValue (.object [("username", username), ("email", email), ("avatar", avatar)]) =
      ofThree username email avatar := by
  have names : Field.ofName? "username" = some .username ∧ Field.ofName? "email" = some .email ∧
      Field.ofName? "avatar" = some .avatar := by decide
  cases first : stringOf username with
  | error cause => simp [ofValue, draftOf, ofThree, names, first, Draft.get, Draft.empty, bind, Except.bind]
  | ok username =>
      cases second : stringOf email with
      | error cause =>
          simp [ofValue, draftOf, ofThree, names, first, second, Draft.get, Draft.set, Draft.empty, bind,
            Except.bind]
      | ok email =>
          cases third : stringOf avatar <;>
            simp [ofValue, draftOf, ofThree, names, first, second, third, Draft.get, Draft.set,
              Draft.empty, Draft.finish, bind, Except.bind, pure, Except.pure]

theorem three_read (first second third : Value) : ReadAs reader (.array [first, second, third])
    ((ofThree first second third).mapError Fault.mismatch) := by
  intro core lead rest spelt spaces
  obtain ⟨parts, gap, speltItems, spacesGap, rfl⟩ := spelt
  obtain ⟨_, _, ⟨beforeA, coreA, afterA, spacesBeforeA, speltA, spacesAfterA, rfl⟩, later, rfl⟩ :=
    speltItems
  obtain ⟨_, _, ⟨beforeB, coreB, afterB, spacesBeforeB, speltB, spacesAfterB, rfl⟩, last, rfl⟩ :=
    later
  obtain ⟨_, _, ⟨beforeC, coreC, afterC, spacesBeforeC, speltC, spacesAfterC, rfl⟩, none, rfl⟩ :=
    last
  rw [show _ = [] from none]
  let behindC := afterC ++ (gap ++ ']' :: rest)
  let behindB := afterB ++ ',' :: (beforeC ++ (coreC ++ behindC))
  let behindA := afterA ++ ',' :: (beforeB ++ (coreB ++ behindB))
  have readA := element_first first coreA beforeA behindA speltA spacesBeforeA
  have readB : element 1 behindA = _ :=
    element_next 0 second coreB afterA beforeB behindB speltB spacesAfterA spacesBeforeB
  have readC : element 2 behindB = _ :=
    element_next 1 third coreC afterB beforeC behindC speltC spacesAfterB spacesBeforeC
  have close : mark ']' behindC = .ok ((), rest) := by
    rw [mark, skip_spaces afterC _ spacesAfterC, skip_spaces_solid gap ']' rest spacesGap rfl]
    exact if_pos rfl
  have written : lead ++ ('[' :: (separated [beforeA ++ (coreA ++ afterA),
      beforeB ++ (coreB ++ afterB), beforeC ++ (coreC ++ afterC)] ++ (gap ++ [']'])) ++ rest) =
      lead ++ '[' :: (beforeA ++ (coreA ++ behindA)) := by
    simp [separated, behindA, behindB, behindC]
  rw [written, reader, skip_spaces_solid lead '[' _ spaces rfl, ofThree]
  simp only [readA, bind, Except.bind]
  cases stringOf first with
  | error cause => rfl
  | ok username =>
      simp only [Except.map, Except.mapError, readB]
      cases stringOf second with
      | error cause => rfl
      | ok email =>
          simp only [readC]
          cases stringOf third with
          | error cause => rfl
          | ok avatar =>
              simp only [Except.map, Except.mapError, close]
              rfl

def Fitting (member : String × Value) : Prop :=
  (∃ field content, member = (Field.name field, .string content)) ∨
    ∀ field, member.1 ≠ Field.name field

def fieldOf (member : String × Value) : Option Field := Field.ofName? member.1

def fields (members : List (String × Value)) : List Field := members.filterMap fieldOf

/-- What members come to: the field whose second member comes first, or else the first field without
a member, or else the record they make. -/
inductive Verdict (members : List (String × Value)) : Except Mismatch Record → Prop where
  | repeated (before after : List (String × Value)) (field : Field) (value : Value)
      (split : members = before ++ (field.name, value) :: after) (once : (fields before).Nodup)
      (again : field ∈ fields before) : Verdict members (.error (.repeatedKey field.name))
  | missing (field : Field) (once : (fields members).Nodup)
      (first : [Field.username, .email, .avatar].find? (fun other => other ∉ fields members) =
        some field) : Verdict members (.error (.missingKey field.name))
  | complete (record : Record) (once : (fields members).Nodup)
      (present : ∀ field, (Field.name field, .string (record.get field)) ∈ members) :
      Verdict members (.ok record)

theorem field_of_name (field : Field) (value : Value) : fieldOf (field.name, value) = some field :=
  Field.ofName_name field

theorem field_of_foreign (member : String × Value) (foreign : ∀ field, member.1 ≠ Field.name field) :
    fieldOf member = none := by
  cases known : fieldOf member with
  | none => rfl
  | some field => exact absurd ((Field.ofName_eq_some _ _).mp known) (foreign field)

theorem mem_fields (members : List (String × Value)) (fitting : ∀ member ∈ members, Fitting member)
    (field : Field) :
    field ∈ fields members ↔ ∃ content, (field.name, .string content) ∈ members := by
  rw [fields, List.mem_filterMap]
  constructor
  · rintro ⟨member, present, known⟩
    rcases fitting member present with ⟨other, content, rfl⟩ | foreign
    · rw [field_of_name] at known
      cases known
      exact ⟨content, present⟩
    · rw [field_of_foreign member foreign] at known
      cases known
  · rintro ⟨content, present⟩
    exact ⟨_, present, field_of_name field _⟩

theorem fields_append (first second : List (String × Value)) :
    fields (first ++ second) = fields first ++ fields second :=
  List.filterMap_append

-- By induction on the members from the end, where a field that comes again comes last.
theorem first_repeat (members : List (String × Value)) (repeats : ¬ (fields members).Nodup) :
    ∃ before member after field, members = before ++ member :: after ∧
      fieldOf member = some field ∧ (fields before).Nodup ∧ field ∈ fields before := by
  induction members using List.reverseRecOn with
  | nil => exact absurd List.nodup_nil repeats
  | append_singleton front last hypothesis =>
      by_cases once : (fields front).Nodup
      · cases known : fieldOf last with
        | none =>
            rw [fields_append, fields, fields, List.filterMap_cons, known] at repeats
            simp only [List.filterMap_nil, List.append_nil] at repeats
            exact absurd once repeats
        | some field =>
            refine ⟨front, last, [], field, rfl, known, once, ?_⟩
            by_contra fresh
            apply repeats
            rw [fields_append]
            simp only [fields, List.filterMap_cons, known, List.filterMap_nil]
            rw [List.nodup_append]
            refine ⟨once, List.nodup_singleton field, ?_⟩
            intro other present one same
            rw [List.mem_singleton.mp same]
            intro equal
            exact fresh (equal ▸ present)
      · obtain ⟨before, member, after, field, split, known, once, again⟩ := hypothesis once
        exact ⟨before, member, after ++ [last], field, by rw [split]; simp, known, once, again⟩

theorem verdict_exists (members : List (String × Value))
    (fitting : ∀ member ∈ members, Fitting member) : ∃ verdict, Verdict members verdict := by
  by_cases once : (fields members).Nodup
  · cases first : [Field.username, .email, .avatar].find? fun other => other ∉ fields members with
    | some field => exact ⟨_, .missing field once first⟩
    | none =>
        have present : ∀ field : Field, field ∈ fields members := by
          intro field
          have found := List.find?_eq_none.mp first field (by cases field <;> decide)
          simpa using found
        have texts := fun field => (mem_fields members fitting field).mp (present field)
        obtain ⟨username, hasUsername⟩ := texts .username
        obtain ⟨email, hasEmail⟩ := texts .email
        obtain ⟨avatar, hasAvatar⟩ := texts .avatar
        refine ⟨_, .complete ⟨username, email, avatar⟩ once fun field => ?_⟩
        cases field with
        | username => exact hasUsername
        | email => exact hasEmail
        | avatar => exact hasAvatar
  · obtain ⟨before, member, after, field, split, known, once, again⟩ := first_repeat members once
    have name : member.1 = field.name := (Field.ofName_eq_some _ _).mp known
    refine ⟨_, .repeated before after field member.2 ?_ once again⟩
    rw [split, ← name]

theorem draft_get_set (draft : Draft) (field other : Field) (content : String) :
    (draft.set field content).get other = if other = field then some content else draft.get other := by
  cases field <;> cases other <;> rfl

theorem draft_of_once (draft : Draft) (members : List (String × Value))
    (fitting : ∀ member ∈ members, Fitting member) (once : (fields members).Nodup)
    (fresh : ∀ field ∈ fields members, draft.get field = none) :
    ∃ next, draftOf draft members = .ok next ∧ ∀ field content, next.get field = some content ↔
      draft.get field = some content ∨ (field.name, .string content) ∈ members := by
  induction members generalizing draft with
  | nil => exact ⟨draft, rfl, by simp⟩
  | cons member rest hypothesis =>
      obtain ⟨fits, fittingRest⟩ := List.forall_mem_cons.mp fitting
      rcases fits with ⟨field, content, rfl⟩ | foreign
      · have known : fields ((field.name, .string content) :: rest) = field :: fields rest := by
          simp [fields, field_of_name]
        rw [known] at once fresh
        obtain ⟨absent, onceRest⟩ := List.nodup_cons.mp once
        obtain ⟨vacant, freshRest⟩ := List.forall_mem_cons.mp fresh
        have freshNext : ∀ other ∈ fields rest, (draft.set field content).get other = none := by
          intro other present
          have different : other ≠ field := fun same => absent (same ▸ present)
          rw [draft_get_set, if_neg different]
          exact freshRest other present
        obtain ⟨next, read, holds⟩ := hypothesis _ fittingRest onceRest freshNext
        refine ⟨next, ?_, ?_⟩
        · rw [draft_of_stepwise.cons]
          simp only [draftOf, Field.ofName_name, vacant, stringOf]
          exact read
        · intro other text
          rw [holds other text, draft_get_set, List.mem_cons]
          by_cases same : other = field
          · subst same
            simp [vacant, eq_comm]
          · have name : other.name ≠ field.name := by
              intro equal
              have read := Field.ofName_name other
              rw [equal, Field.ofName_name] at read
              exact same (Option.some.inj read).symm
            simp [same, name]
      · have known := field_of_foreign member foreign
        have skipped : fields (member :: rest) = fields rest := by simp [fields, known]
        rw [skipped] at once fresh
        obtain ⟨next, read, holds⟩ := hypothesis draft fittingRest once fresh
        refine ⟨next, ?_, ?_⟩
        · rw [draft_of_stepwise.cons]
          simp only [draftOf, show Field.ofName? member.1 = none from known]
          exact read
        · intro field content
          rw [holds field content, List.mem_cons]
          have other : (field.name, .string content) ≠ member :=
            fun same => foreign field (congrArg Prod.fst same.symm)
          simp [other]

theorem finish_missing (draft : Draft) (field : Field)
    (first : [Field.username, .email, .avatar].find? (fun other => draft.get other = none) =
      some field) : draft.finish = .error (.missingKey field.name) := by
  obtain ⟨username, email, avatar⟩ := draft
  cases username <;> cases email <;> cases avatar <;> cases first <;> rfl

theorem finish_complete (draft : Draft) (record : Record)
    (present : ∀ field, draft.get field = some (record.get field)) : draft.finish = .ok record := by
  have username := present .username
  have email := present .email
  have avatar := present .avatar
  simp only [Draft.get] at username email avatar
  rw [Draft.finish, username, email, avatar]
  rfl

theorem of_value_verdict (members : List (String × Value))
    (fitting : ∀ member ∈ members, Fitting member) (verdict : Except Mismatch Record)
    (decided : Verdict members verdict) : ofValue (.object members) = verdict := by
  have vacant : ∀ field, Draft.empty.get field = none := fun field => by cases field <;> rfl
  rw [ofValue]
  cases decided with
  | repeated before after field value split once again =>
      have fittingBefore : ∀ member ∈ before, Fitting member := fun member present =>
        fitting member (split ▸ List.mem_append_left _ present)
      obtain ⟨next, read, holds⟩ := draft_of_once Draft.empty before fittingBefore once
        fun field _ => vacant field
      obtain ⟨content, present⟩ := (mem_fields before fittingBefore field).mp again
      have taken : next.get field = some content := (holds field content).mpr (.inr present)
      rw [split, draft_of_stepwise.append, read]
      simp [draftOf, Field.ofName_name, taken, bind, Except.bind]
  | missing field once first =>
      obtain ⟨next, read, holds⟩ := draft_of_once Draft.empty members fitting once
        fun field _ => vacant field
      have absent : ∀ field, field ∉ fields members ↔ next.get field = none := by
        intro field
        rw [mem_fields members fitting, Option.eq_none_iff_forall_ne_some, not_exists]
        simp only [ne_eq, holds, vacant, reduceCtorEq, false_or]
      simp only [absent] at first
      rw [read]
      exact finish_missing next field first
  | complete record once present =>
      obtain ⟨next, read, holds⟩ := draft_of_once Draft.empty members fitting once
        fun field _ => vacant field
      rw [read]
      exact finish_complete next record fun field => (holds field _).mpr (.inr (present field))

theorem fields_filter (members : List (String × Value)) :
    fields (members.filter fun member => (fieldOf member).isSome) = fields members := by
  induction members with
  | nil => rfl
  | cons member rest hypothesis =>
      rw [fields, fields] at hypothesis
      cases known : fieldOf member <;> simp [fields, known, hypothesis]

-- Where no field is repeated the members for fields decide, whatever their order.
theorem verdict_rearranged (members others : List (String × Value))
    (same : (members.filter fun member => (fieldOf member).isSome).Perm
      (others.filter fun member => (fieldOf member).isSome))
    (once : (fields members).Nodup) (verdict : Except Mismatch Record)
    (decided : Verdict members verdict) : Verdict others verdict := by
  have permuted : (fields members).Perm (fields others) := by
    rw [← fields_filter members, ← fields_filter others]
    exact same.filterMap fieldOf
  have onceOthers : (fields others).Nodup := permuted.nodup_iff.mp once
  cases decided with
  | repeated before after field value split onceBefore again =>
      have all : fields members = fields before ++ field :: fields after := by
        rw [split, fields_append]
        simp [fields, field_of_name]
      rw [all, List.nodup_append] at once
      exact absurd rfl (once.2.2 field again field List.mem_cons_self)
  | missing field _ first =>
      simp only [permuted.mem_iff] at first
      exact .missing field onceOthers first
  | complete record _ present =>
      refine .complete record onceOthers fun field => ?_
      have kept : (field.name, .string (record.get field)) ∈
          members.filter fun member => (fieldOf member).isSome :=
        List.mem_filter.mpr ⟨present field, by rw [field_of_name]; rfl⟩
      exact (List.mem_filter.mp (same.mem_iff.mp kept)).1

theorem read_by_members :
    (∀ (members : List (String × Value)) (text : String), Denotes text (.object members) →
      (∀ member ∈ members, Fitting member) →
        (∃ verdict, Verdict members verdict) ∧
        ∀ verdict, Verdict members verdict → read text = verdict.mapError Fault.mismatch) ∧
    (∀ (members others : List (String × Value)) (first second : String),
      Denotes first (.object members) → Denotes second (.object others) →
      (∀ member ∈ members, Fitting member) → (∀ member ∈ others, Fitting member) →
      (members.filter fun member => (fieldOf member).isSome).Perm
        (others.filter fun member => (fieldOf member).isSome) →
      (fields members).Nodup → read first = read second) ∧
    (∀ (username email avatar : Value) (positional named : String),
      Denotes positional (.array [username, email, avatar]) →
      Denotes named (.object [("username", username), ("email", email), ("avatar", avatar)]) →
      read positional = read named) := by
  refine ⟨?_, ?_, ?_⟩
  · intro members text denotes fitting
    refine ⟨verdict_exists members fitting, fun verdict decided => ?_⟩
    rw [read, whole_denoted _ _ _ (object_read members) text denotes,
      of_value_verdict members fitting verdict decided]
  · intro members others first second denotes denotesOthers fitting fittingOthers same once
    obtain ⟨verdict, decided⟩ := verdict_exists members fitting
    have decidedOthers := verdict_rearranged members others same once verdict decided
    rw [read, read, whole_denoted _ _ _ (object_read members) first denotes,
      whole_denoted _ _ _ (object_read others) second denotesOthers,
      of_value_verdict members fitting verdict decided,
      of_value_verdict others fittingOthers verdict decidedOthers]
  · intro username email avatar positional named denotes denotesNamed
    rw [read, read, whole_denoted _ _ _ (three_read username email avatar) positional denotes,
      whole_denoted _ _ _ (object_read _) named denotesNamed, of_value_named]

theorem read_by_members_strayed :
    (Denotes (Value.object [("avatar", .string "c"), ("note", .array [.null, .object []]),
        ("username", .string "a"), ("email", .string "b")]).text
      (.object [("avatar", .string "c"), ("note", .array [.null, .object []]),
        ("username", .string "a"), ("email", .string "b")]) ∧
      read (Value.object [("avatar", .string "c"), ("note", .array [.null, .object []]),
        ("username", .string "a"), ("email", .string "b")]).text = .ok ⟨"a", "b", "c"⟩) ∧
    read (Value.object [("email", .string "a"), ("email", .string "b")]).text =
      .error (.mismatch (.repeatedKey "email")) ∧
    read (Value.object [("note", .null), ("email", .string "a"), ("avatar", .string "b")]).text =
      read (Value.object [("avatar", .string "b"), ("email", .string "a")]).text ∧
    read (Value.array [.string "a", .null, .string "c"]).text =
      read (Value.object [("username", .string "a"), ("email", .null), ("avatar", .string "c")]).text :=
    by
  have text : ∀ (field : Field) (content : String), Fitting (field.name, .string content) :=
    fun field content => .inl ⟨field, content, rfl⟩
  have note : ∀ value, Fitting ("note", value) :=
    fun value => .inr fun field => by cases field <;> simp [Field.name]
  refine ⟨?_, ?_, ?_, ?_⟩
  · have denotes := denotes_text (.object [("avatar", .string "c"),
      ("note", .array [.null, .object []]), ("username", .string "a"), ("email", .string "b")])
      (by simp [Value.Plain, Value.PlainMembers, Value.PlainItems])
    have fitting := read_by_members.1 _ _ denotes (by
      simp only [List.forall_mem_cons]
      exact ⟨text .avatar "c", note _, text .username "a", text .email "b", nofun⟩)
    exact ⟨denotes, fitting.2 _ (.complete ⟨"a", "b", "c"⟩ (by decide) fun field => by
      cases field <;> simp [Field.name, Record.get])⟩
  · have denotes := denotes_text (.object [("email", .string "a"), ("email", .string "b")])
      (by simp [Value.Plain, Value.PlainMembers])
    have fitting := read_by_members.1 _ _ denotes (by
      simp only [List.forall_mem_cons]
      exact ⟨text .email "a", text .email "b", nofun⟩)
    exact fitting.2 _ (.repeated [("email", .string "a")] [] .email (.string "b") rfl (by decide)
      (by decide))
  · refine read_by_members.2.1 _ _ _ _
      (denotes_text _ (by simp [Value.Plain, Value.PlainMembers]))
      (denotes_text _ (by simp [Value.Plain, Value.PlainMembers])) ?_ ?_ ?_ (by decide)
    · simp only [List.forall_mem_cons]
      exact ⟨note _, text .email "a", text .avatar "b", nofun⟩
    · simp only [List.forall_mem_cons]
      exact ⟨text .avatar "b", text .email "a", nofun⟩
    · exact .swap _ _ []
  · exact read_by_members.2.2 (.string "a") .null (.string "c") _ _
      (denotes_text _ (by simp [Value.Plain, Value.PlainItems]))
      (denotes_text _ (by simp [Value.Plain, Value.PlainMembers]))

end Record

end EditableProfile
