import EditableProfile.Proofs.RecordMembers
import EditableProfile.Proofs.WireRoundTrip

set_option autoImplicit false

namespace EditableProfile

open Json Wire

namespace Wire

theorem tag_read (value : Value) : ReadAs tagReader value ((tagOf value).mapError Fault.mismatch) := by
  intro core lead rest spelt spaces
  rw [tagReader, string_for_spelt .choiceName value core lead rest spelt spaces]
  cases value with
  | string name =>
      simp only [textFor, tagOf, Choice.accept, bind, Except.bind, Except.map, Except.mapError]
      cases Tag.choice.named name <;> rfl
  | _ => rfl

theorem envelope_of_stepwise : Stepwise envelopeOf := by
  refine ⟨fun envelope => rfl, ?_⟩
  intro envelope member rest
  by_cases same : member.1 = "type"
  · by_cases taken : envelope.tag.isSome
    · simp [envelopeOf, same, taken, bind, Except.bind]
    · cases told : tagOf member.2 <;> simp [envelopeOf, same, taken, told, bind, Except.bind]
  · simp [envelopeOf, same, bind, Except.bind]

theorem envelope_member_read (member : String × Value) (shallow : member.2.depth < nesting) :
    MemberRead envelopeMember (stepOf envelopeOf) member := by
  intro name gap lead core speltName spacesGap spacesLead spelt envelope before rest spaces
  rw [envelopeMember, key_spelt member.1 name before _ speltName spaces, stepOf]
  simp only [bind, Except.bind, mark_spaces ':' gap _ spacesGap rfl, envelopeOf]
  by_cases same : member.1 = "type"
  · by_cases taken : envelope.tag.isSome
    · simp only [same, taken, if_true]
      rfl
    · rw [tag_read member.2 core lead rest spelt spacesLead]
      simp only [same, taken, if_true, Bool.false_eq_true, if_false]
      cases tagOf member.2 <;> rfl
  · have enough : member.2.depth ≤ nesting - 1 := Nat.le_sub_one_of_lt shallow
    have read := nested_read value id value_nested (nesting - 1) member.2 enough core lead rest spelt
      spacesLead
    rw [detail, read]
    simp only [same, if_false]
    rfl

def values (key : String) (members : List (String × Value)) : List Value :=
  (members.filter fun member => member.1 = key).map Prod.snd

theorem values_own (key : String) (value : Value) (rest : List (String × Value)) :
    values key ((key, value) :: rest) = value :: values key rest := by
  simp [values]

theorem values_other (key : String) (member : String × Value) (rest : List (String × Value))
    (other : member.1 ≠ key) : values key (member :: rest) = values key rest := by
  simp [values, other]

theorem values_append (key : String) (first second : List (String × Value)) :
    values key (first ++ second) = values key first ++ values key second := by
  simp [values]

theorem values_foreign (key : String) (members : List (String × Value))
    (foreign : ∀ member ∈ members, member.1 ≠ key) : values key members = [] := by
  simpa [values, List.filter_eq_nil_iff] using foreign

theorem values_perm (key : String) (members others : List (String × Value))
    (same : members.Perm others) : (values key members).Perm (values key others) :=
  (same.filter _).map _

theorem values_filter (key dropped : String) (members : List (String × Value))
    (other : key ≠ dropped) :
    values key (members.filter fun member => member.1 ≠ dropped) = values key members := by
  rw [values, values, List.filter_filter]
  congr 1
  apply List.filter_congr
  intro member _
  by_cases same : member.1 = key <;> simp [same, other]

theorem values_among (key : String) (value : Value) (own others members : List (String × Value))
    (same : members.Perm (own ++ others)) (once : values key own = [value])
    (foreign : ∀ member ∈ others, member.1 ≠ key) : values key members = [value] := by
  have permuted := values_perm key members _ same
  rw [values_append, once, values_foreign key others foreign, List.append_nil] at permuted
  exact List.perm_singleton.mp permuted

theorem tag_of_name (tag : Tag) : tagOf (.string tag.name) = .ok tag := by
  cases tag <;> rfl

theorem field_of_name_value (field : Field) :
    Field.choice.ofValue true (.string field.name) = .ok field := by
  cases field <;> rfl

-- What has been taken already and what is still to come make up one at most.
theorem taken_nothing {α : Type} (write : α → Value) (injective : Function.Injective write)
    (taken final : Option α)
    (one : taken.toList.map write ++ [] = final.toList.map write) : taken = final := by
  rw [List.append_nil] at one
  cases taken with
  | none =>
      cases final with
      | none => rfl
      | some made => cases one
  | some before =>
      cases final with
      | none => cases one
      | some made => exact congrArg some (injective (List.cons.inj one).1)

theorem taken_one {α : Type} (write : α → Value) (taken final : Option α) (value : Value)
    (rest : List Value)
    (one : taken.toList.map write ++ value :: rest = final.toList.map write) :
    taken = none ∧ ∃ made, final = some made ∧ value = write made ∧ rest = [] := by
  cases final with
  | none => simp at one
  | some made =>
      cases taken with
      | none => exact ⟨rfl, made, rfl, by simpa using one⟩
      | some before => simp at one

theorem written_injective {α : Type} (write : α → Value) (read : Value → Except Mismatch α)
    (back : ∀ made, read (write made) = .ok made) : Function.Injective write := by
  intro first second same
  have told := back first
  rw [same, back second] at told
  exact (Except.ok.inj told).symm

theorem envelope_of_values (envelope : Envelope) (members : List (String × Value))
    (final : Option Tag)
    (one : envelope.tag.toList.map (fun tag => Value.string tag.name) ++ values "type" members =
      final.toList.map fun tag => Value.string tag.name) :
    envelopeOf envelope members =
      .ok ⟨final, (members.filter fun member => member.1 ≠ "type").reverse ++ envelope.members⟩ := by
  induction members generalizing envelope with
  | nil =>
      have same := taken_nothing _ (written_injective _ tagOf tag_of_name) _ _ one
      rw [← same]
      rfl
  | cons member rest hypothesis =>
      obtain ⟨key, value⟩ := member
      rw [envelope_of_stepwise.cons]
      by_cases same : key = "type"
      · subst same
        rw [values_own] at one
        obtain ⟨vacant, tag, rfl, rfl, none⟩ := taken_one _ _ _ _ _ one
        have later := hypothesis ⟨some tag, envelope.members⟩ (by rw [none]; rfl)
        simp only [envelopeOf, vacant, if_true, Option.isSome_none, Bool.false_eq_true, if_false,
          tag_of_name, bind, Except.bind, later]
        simp
      · rw [values_other "type" (key, value) rest same] at one
        have later := hypothesis { envelope with members := (key, value) :: envelope.members } one
        simp only [envelopeOf, if_neg same, bind, Except.bind, later]
        simp [same]

theorem change_of_stepwise : Stepwise changeOf := by
  refine ⟨fun change => rfl, ?_⟩
  intro change member rest
  by_cases isField : member.1 = "field"
  · by_cases taken : change.field.isSome
    · simp [changeOf, isField, taken, bind, Except.bind]
    · cases told : Field.choice.ofValue true member.2 <;>
        simp [changeOf, isField, taken, told, bind, Except.bind]
  · by_cases isValue : member.1 = "value"
    · by_cases taken : change.value.isSome
      · simp [changeOf, isValue, taken, bind, Except.bind]
      · cases told : stringOf member.2 <;>
          simp [changeOf, isValue, taken, told, bind, Except.bind]
    · simp [changeOf, isField, isValue, bind, Except.bind]

theorem change_of_values (change : Change) (members : List (String × Value)) (field : Field)
    (content : String)
    (fields : change.field.toList.map (fun field => Value.string field.name) ++
      values "field" members = [.string field.name])
    (contents : change.value.toList.map Value.string ++ values "value" members =
      [.string content]) :
    changeOf change members = .ok ⟨some field, some content⟩ := by
  induction members generalizing change with
  | nil =>
      have sameField := taken_nothing _
        (written_injective _ (Field.choice.ofValue true) field_of_name_value) _ (some field) fields
      have sameValue := taken_nothing Value.string (written_injective _ stringOf fun _ => rfl) _
        (some content) contents
      obtain ⟨_, _⟩ := change
      cases sameField
      cases sameValue
      rfl
  | cons member rest hypothesis =>
      obtain ⟨key, value⟩ := member
      rw [change_of_stepwise.cons]
      by_cases isField : key = "field"
      · subst isField
        rw [values_own] at fields
        rw [values_other "value" _ rest (show "field" ≠ "value" by decide)] at contents
        obtain ⟨vacant, _, same, rfl, none⟩ := taken_one _ _ (some field) _ _ fields
        cases same
        have later := hypothesis { change with field := some field } (by rw [none]; rfl) contents
        simp only [changeOf, vacant, if_true, Option.isSome_none, Bool.false_eq_true, if_false,
          field_of_name_value, bind, Except.bind, later]
      · rw [values_other "field" _ rest isField] at fields
        by_cases isValue : key = "value"
        · subst isValue
          rw [values_own] at contents
          obtain ⟨vacant, _, same, rfl, none⟩ := taken_one _ _ (some content) _ _ contents
          cases same
          have later := hypothesis { change with value := some content } fields (by rw [none]; rfl)
          simp only [changeOf, isField, vacant, if_true, Option.isSome_none, Bool.false_eq_true,
            if_false, stringOf, bind, Except.bind, later]
        · rw [values_other "value" _ rest isValue] at contents
          have later := hypothesis change fields contents
          simp only [changeOf, isField, isValue, if_false, bind, Except.bind, later]

end Wire

namespace Action

theorem object_read (members : List (String × Value))
    (shallow : ∀ member ∈ members, member.2.depth < nesting) :
    ReadAs reader (.object members) ((ofValue (.object members)).mapError Fault.mismatch) := by
  intro core lead rest spelt spaces
  obtain ⟨parts, gap, speltMembers, spacesGap, rfl⟩ := spelt
  have advances := members_advance envelopeMember (stepOf envelopeOf) members parts speltMembers
    fun member present => envelope_member_read member (shallow member present)
  have read := entries_close '}' envelopeMember _ members parts ⟨none, []⟩ gap rest rfl (by decide)
    spacesGap advances
  rw [← envelope_of_stepwise.fold] at read
  rw [reader, envelopeReader, List.cons_append, skip_spaces_solid lead '{' _ spaces rfl]
  simp only [List.append_assoc, List.cons_append, List.nil_append, read, ofValue, bind, Except.bind]
  cases envelopeOf ⟨none, []⟩ members with
  | error cause => rfl
  | ok envelope =>
      simp only [Except.map, Except.mapError]
      cases envelope.tag with
      | none => rfl
      | some tag =>
          cases told : actionOf tag (.members envelope.members.reverse) <;>
            simp only [pure, Except.pure, told]

theorem array_read (first : Value) (items : List Value)
    (shallow : ∀ value ∈ items, value.depth < nesting) : ReadAs reader (.array (first :: items))
      ((ofValue (.array (first :: items))).mapError Fault.mismatch) := by
  intro core lead rest spelt spaces
  obtain ⟨_, gap, ⟨_, parts, padded, speltItems, rfl⟩, spacesGap, rfl⟩ := spelt
  obtain ⟨before, type, after, spacesBefore, speltType, spacesAfter, rfl⟩ := padded
  obtain ⟨head, tail, rfl, solid, different⟩ := opens_spelt first type speltType
  have advances := items_advance (item detail) push items parts speltItems
    fun value present core spelt => item_advances _ value core
      (nested_read Json.value id value_nested (nesting - 1) value
        (Nat.le_sub_one_of_lt (shallow value present))) spelt
  have bound := length_le_flat_map_comma parts
  let behind := after ++ ((parts.flatMap fun part => ',' :: part) ++ (gap ++ ']' :: rest))
  have enough : parts.length < behind.length := by
    simp only [behind, List.length_append, List.length_cons]
    omega
  have loop := more_entries_close ']' (item detail) push items parts [] behind.length gap rest rfl
    (by decide) spacesGap enough advances
  have told := tag_read first (head :: tail) [] behind speltType (by decide)
  rw [fold_push, List.append_nil] at loop
  have written : lead ++ ('[' :: (separated ((before ++ (head :: tail ++ after)) :: parts) ++
      (gap ++ [']'])) ++ rest) = lead ++ '[' :: (before ++ head :: (tail ++ behind)) := by
    simp [separated_cons, behind]
  have next : moreEntries ']' (item detail) behind.length [] behind =
      .ok (items.reverse, rest) := by
    exact (more_entries_spaces ']' _ _ _ after _ spacesAfter).trans loop
  rw [List.nil_append, List.cons_append] at told
  rw [written, reader, envelopeReader, skip_spaces_solid lead '[' _ spaces rfl]
  simp only [skip_spaces_solid before head _ spacesBefore solid]
  split
  · rename_i same
    exact absurd (List.cons.inj same).1 different
  · rw [told, ofValue]
    cases tagOf first with
    | error cause => rfl
    | ok tag =>
        simp only [bind, Except.bind, Except.map, Except.mapError, next, List.reverse_reverse]
        cases acted : actionOf tag (.items items) <;> simp only [pure, Except.pure, acted]

def members (action : Action) : List (String × Value) :=
  ("type", .string action.tag.name) :: textMembers action.texts

theorem own_values (action : Action) (entry : String × Value) (own : entry ∈ action.members) :
    values entry.1 action.members = [entry.2] := by
  cases action with
  | change field content =>
      simp only [members, texts, textMembers, List.map_cons, List.map_nil, List.mem_cons,
        List.not_mem_nil, or_false] at own ⊢
      rcases own with rfl | rfl | rfl <;> rfl
  | _ =>
      obtain rfl := List.mem_singleton.mp own
      rfl

theorem members_flat (action : Action) :
    ∀ member ∈ action.members, member.2.depth = 0 := by
  intro member own
  rw [members, List.mem_cons] at own
  rcases own with rfl | own
  · rfl
  · obtain ⟨_, _, rfl⟩ := List.mem_map.mp own
    rfl

theorem action_of_values (action : Action) (members : List (String × Value))
    (own : ∀ entry ∈ action.texts, values entry.1 members = [.string entry.2]) :
    actionOf action.tag (.members members) = .ok action := by
  cases action with
  | change field content =>
      have fields := own ("field", field.name) (by simp [texts])
      have contents := own ("value", content) (by simp [texts])
      have read := change_of_values ⟨none, none⟩ members field content fields contents
      simp only [tag, actionOf, changeAction, bind, Except.bind, read]
      rfl
  | _ => rfl

theorem of_value_rearranged (action : Action) (members others : List (String × Value))
    (same : members.Perm (action.members ++ others))
    (foreign : ∀ member ∈ others, member.1 ∉ action.members.map Prod.fst) :
    ofValue (.object members) = .ok action := by
  have own : ∀ entry ∈ action.members, values entry.1 members = [entry.2] := by
    intro entry present
    refine values_among entry.1 entry.2 action.members others members same
      (own_values action entry present) fun member other equal => ?_
    exact foreign member other (List.mem_map.mpr ⟨entry, present, equal.symm⟩)
  have type := own _ List.mem_cons_self
  have read := envelope_of_values ⟨none, []⟩ members (some action.tag) type
  have acted := action_of_values action (members.filter fun member => member.1 ≠ "type") ?_
  · rw [ofValue, read]
    simp only [bind, Except.bind, List.append_nil, List.reverse_reverse, acted]
  · intro entry text
    rw [values_filter entry.1 "type" members (texts_not_type action entry text)]
    exact own (entry.1, .string entry.2) (List.mem_cons_of_mem _ (List.mem_map.mpr ⟨entry, text, rfl⟩))

theorem of_value_untyped (members : List (String × Value))
    (untyped : ∀ member ∈ members, member.1 ≠ "type") :
    ofValue (.object members) = .error (.missingKey "type") := by
  have none := envelope_of_values ⟨none, []⟩ members none (by rw [values_foreign _ _ untyped]; rfl)
  rw [ofValue, none]
  rfl

theorem of_value_positional (field value : Value) :
    ofValue (.array [.string Tag.change.name, field, value]) =
      ofValue (.object [("type", .string Tag.change.name), ("field", field), ("value", value)]) := by
  have enveloped : envelopeOf ⟨none, []⟩
      [("type", .string Tag.change.name), ("field", field), ("value", value)] =
      .ok ⟨some .change, [("value", value), ("field", field)]⟩ := rfl
  rw [ofValue, ofValue, enveloped]
  simp only [tag_of_name, bind, Except.bind, actionOf, changeAction, List.reverse_cons,
    List.reverse_nil, List.nil_append, List.cons_append]
  cases told : Field.choice.ofValue true field with
  | error cause => simp [changeOf, told, bind, Except.bind]
  | ok field =>
      cases content : stringOf value <;>
        simp [changeOf, told, content, bind, Except.bind, Change.finish, pure, Except.pure]

-- A second type is found as soon as its key has been read.
theorem type_repeated (tag : Tag) (members : List (String × Value)) (parts : List (List Char))
    (lead gap quoted rest : List Char) (spelt : SpellsMembers members parts)
    (shallow : ∀ member ∈ members, member.2.depth < nesting)
    (once : values "type" members = [.string tag.name]) (spaces : Spaces lead)
    (spacesGap : Spaces gap) (speltName : SpellsString "type" quoted) :
    reader (lead ++ '{' :: (separated parts ++ ',' :: (gap ++ (quoted ++ rest)))) =
      .error (.mismatch (.repeatedKey "type")) := by
  have advances := members_advance envelopeMember (stepOf envelopeOf) members parts spelt
    fun member present => envelope_member_read member (shallow member present)
  have typed := envelope_of_values ⟨none, []⟩ members (some tag) once
  have reached := envelope_of_stepwise.fold ⟨none, []⟩ members
  rw [typed] at reached
  cases advances with
  | nil => cases once
  | cons first later =>
      have stuck : ∀ seen, envelopeMember ⟨some tag, seen⟩ (gap ++ (quoted ++ rest)) =
          .error (.mismatch (.repeatedKey "type")) := by
        intro seen
        rw [envelopeMember, key_spelt "type" quoted gap rest speltName spacesGap]
        rfl
      have read := entries_stuck '}' envelopeMember (stepOf envelopeOf) _ _ _ ⟨none, []⟩ _
        (gap ++ (quoted ++ rest)) _ (by decide) (.cons first later) reached.symm (stuck _)
      rw [reader, envelopeReader, skip_spaces_solid lead '{' _ spaces rfl]
      simp only [read, bind, Except.bind]

theorem read_by_own_members :
    (∀ (action : Action) (members others : List (String × Value)) (text : String),
      Denotes text (.object members) → members.Perm (action.members ++ others) →
      (∀ member ∈ others, member.1 ∉ action.members.map Prod.fst ∧ member.2.depth < nesting) →
      read text = .ok action) ∧
    (∀ (field value : Value) (positional named : String),
      field.depth < nesting → value.depth < nesting →
      Denotes positional (.array [.string Tag.change.name, field, value]) →
      Denotes named
        (.object [("type", .string Tag.change.name), ("field", field), ("value", value)]) →
      read positional = read named) ∧
    (∀ (members : List (String × Value)) (text : String), Denotes text (.object members) →
      (∀ member ∈ members, member.1 ≠ "type" ∧ member.2.depth < nesting) →
      read text = .error (.mismatch (.missingKey "type"))) ∧
    (∀ (tag : Tag) (members : List (String × Value)) (parts : List (List Char))
      (lead gap quoted rest : List Char), SpellsMembers members parts →
      (∀ member ∈ members, member.2.depth < nesting) →
      values "type" members = [.string tag.name] → Spaces lead → Spaces gap →
      SpellsString "type" quoted →
      read (String.ofList (lead ++ '{' :: (separated parts ++ ',' :: (gap ++ (quoted ++ rest))))) =
        .error (.mismatch (.repeatedKey "type"))) := by
  refine ⟨?_, ?_, ?_, ?_⟩
  · intro action members others text denotes same foreign
    have shallow : ∀ member ∈ members, member.2.depth < nesting := by
      intro member present
      rcases List.mem_append.mp (same.mem_iff.mp present) with own | other
      · rw [members_flat action member own]
        decide
      · exact (foreign member other).2
    rw [read, whole_denoted _ _ _ (object_read members shallow) text denotes,
      of_value_rearranged action members others same fun member other => (foreign member other).1]
    rfl
  · intro field value positional named shallowField shallowValue denotes denotesNamed
    have inOrder := array_read (.string Tag.change.name) [field, value]
      (by simp [shallowField, shallowValue])
    have byName := object_read
      [("type", .string Tag.change.name), ("field", field), ("value", value)]
      (List.forall_mem_cons.mpr ⟨(by decide : 0 < nesting), by simp [shallowField, shallowValue]⟩)
    rw [read, read, whole_denoted _ _ _ inOrder positional denotes,
      whole_denoted _ _ _ byName named denotesNamed, of_value_positional]
  · intro members text denotes untyped
    rw [read, whole_denoted _ _ _ (object_read members fun member present =>
        (untyped member present).2) text denotes,
      of_value_untyped members fun member present => (untyped member present).1]
    rfl
  · intro tag members parts lead gap quoted rest spelt shallow once spaces spacesGap speltName
    rw [read, whole, String.toList_ofList,
      type_repeated tag members parts lead gap quoted rest spelt shallow once spaces spacesGap
        speltName]
    rfl

theorem read_by_own_members_backwards :
    (Denotes (Value.object [("note", .null), ("note", .array [.null, .object [("type", .bool true)]]),
        ("value", .string "Ann"), ("field", .string "email"), ("type", .string "fieldChange")]).text
      (.object [("note", .null), ("note", .array [.null, .object [("type", .bool true)]]),
        ("value", .string "Ann"), ("field", .string "email"), ("type", .string "fieldChange")]) ∧
      read (Value.object [("note", .null), ("note", .array [.null, .object [("type", .bool true)]]),
        ("value", .string "Ann"), ("field", .string "email"), ("type", .string "fieldChange")]).text =
        .ok (.change .email "Ann")) ∧
    read (Value.array [.string "fieldChange", .string "email", .null]).text =
      read (Value.object [("type", .string "fieldChange"), ("field", .string "email"),
        ("value", .null)]).text ∧
    (Denotes " \x7b \x7d " (.object []) ∧ read " \x7b \x7d " = .error (.mismatch (.missingKey "type"))) ∧
    read "\x7b\"type\":\"confirm\", \"type\":1e" = .error (.mismatch (.repeatedKey "type")) := by
  refine ⟨?_, ?_, ?_, ?_⟩
  · have denotes := denotes_text (.object [("note", .null),
      ("note", .array [.null, .object [("type", .bool true)]]), ("value", .string "Ann"),
      ("field", .string "email"), ("type", .string "fieldChange")])
      (by simp [Value.Plain, Value.PlainMembers, Value.PlainItems])
    have reversed := List.reverse_perm (members (.change .email "Ann") ++
      [("note", .array [.null, .object [("type", .bool true)]]), ("note", .null)])
    exact ⟨denotes, read_by_own_members.1 (.change .email "Ann") _ _ _ denotes reversed (by decide)⟩
  · exact read_by_own_members.2.1 (.string "email") .null _ _ (by decide) (by decide)
      (denotes_text _ (by simp [Value.Plain, Value.PlainItems]))
      (denotes_text _ (by simp [Value.Plain, Value.PlainMembers]))
  · have denotes : Denotes " \x7b \x7d " (.object []) :=
      ⟨[' '], ['{', ' ', '}'], [' '], by decide, ⟨[], [' '], rfl, by decide, rfl⟩, by decide, rfl⟩
    exact ⟨denotes, read_by_own_members.2.2.1 [] _ denotes (by decide)⟩
  · have spelt := spells_write_members [("type", .string "confirm")]
      (by simp [Value.Plain, Value.PlainMembers])
    have written : "\x7b\"type\":\"confirm\", \"type\":1e" = String.ofList ([] ++ '{' ::
        (separated (Value.writeMembers [("type", .string "confirm")]) ++
          ',' :: ([' '] ++ (quote "type" ++ [':', '1', 'e'])))) := by decide
    rw [written]
    exact read_by_own_members.2.2.2 .confirm _ _ [] [' '] (quote "type") [':', '1', 'e'] spelt
      (by simp [Value.depth, nesting]) rfl (by decide) (by decide) (spells_quote "type")

end Action

end EditableProfile
