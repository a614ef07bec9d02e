import EditableProfile.Wire.Action
import EditableProfile.Proofs.SpelledReading

set_option autoImplicit false

namespace EditableProfile

open Json

namespace Json

theorem whole_read {α : Type} (reader : Reader α) (text : List Char) (result : α)
    (read : reader text = .ok (result, [])) : whole reader (String.ofList text) = .ok result := by
  rw [whole, String.toList_ofList, read]
  rfl

end Json

namespace Wire

theorem draft_member_consumes (draft : Draft) (field : Field) (text : String)
    (absent : draft.get field = none) :
    Consumes (draftMember draft) (quote field.name ++ ':' :: quote text) (draft.set field text) := by
  refine (key_consumes field.name _ (spells_quote _)).bind ?_
  simp only [Field.ofName_name, absent]
  exact (mark_consumes ':' rfl).bind
    ((string_for_consumes .string text _ (spells_quote text)).finish fun _ => rfl)

theorem tag_accept_name (tag : Tag) : Tag.choice.accept tag.name = .ok tag := by
  cases tag <;> rfl

theorem tag_reader_consumes (tag : Tag) : Consumes tagReader (quote tag.name) tag := by
  refine (string_for_consumes .choiceName tag.name _ (spells_quote _)).finish fun rest => ?_
  simp only [tag_accept_name]
  rfl

theorem envelope_member_type_consumes (tag : Tag) (members : List (String × Value)) :
    Consumes (envelopeMember ⟨none, members⟩) (quote "type" ++ ':' :: quote tag.name)
      ⟨some tag, members⟩ :=
  (key_consumes "type" _ (spells_quote _)).bind
    ((mark_consumes ':' rfl).bind ((tag_reader_consumes tag).finish fun _ => rfl))

theorem envelope_member_text_consumes (envelope : Envelope) (key text : String)
    (other : key ≠ "type") :
    Consumes (envelopeMember envelope) (quote key ++ ':' :: quote text)
      { envelope with members := (key, .string text) :: envelope.members } := by
  refine (key_consumes key _ (spells_quote key)).bind ?_
  simp only [if_neg other]
  exact (mark_consumes ':' rfl).bind
    ((value_consumes _ text _ (spells_quote text)).finish fun _ => rfl)

def textMembers (texts : List (String × String)) : List (String × Value) :=
  texts.map fun entry => (entry.1, .string entry.2)

theorem envelope_members_follow (envelope : Envelope) (texts : List (String × String))
    (others : ∀ entry ∈ texts, entry.1 ≠ "type") :
    Follow envelopeMember envelope (Value.writeMembers (textMembers texts))
      ⟨envelope.tag, (textMembers texts).reverse ++ envelope.members⟩ := by
  induction texts generalizing envelope with
  | nil => exact .nil envelope
  | cons entry texts hypothesis =>
      obtain ⟨first, later⟩ := List.forall_mem_cons.mp others
      have rest := hypothesis ⟨envelope.tag, (entry.1, .string entry.2) :: envelope.members⟩ later
      rw [textMembers, List.map_cons, List.reverse_cons, List.append_assoc]
      exact .cons _ _ _ _ _ (envelope_member_text_consumes envelope entry.1 entry.2 first) rest

theorem envelope_reader_consumes (tag : Tag) (texts : List (String × String))
    (others : ∀ entry ∈ texts, entry.1 ≠ "type") :
    Consumes envelopeReader
      (Value.object (("type", .string tag.name) :: textMembers texts)).write
      (tag, .members (textMembers texts)) := by
  have follow : Follow envelopeMember ⟨none, []⟩
      (Value.writeMembers (("type", .string tag.name) :: textMembers texts)) _ :=
    .cons _ _ _ _ _ (envelope_member_type_consumes tag [])
      (envelope_members_follow ⟨some tag, []⟩ texts others)
  have consumes := entries_consume '}' envelopeMember _ _ _ _ rfl (by decide)
    (opens_quote '}' "type" _ (by decide)) follow
  refine .behind rfl (fun _ => rfl) (consumes.finish fun rest => ?_)
  simp [pure, Except.pure]

end Wire

open Wire

theorem Record.reader_consumes (record : Record) :
    Consumes Record.reader record.toValue.write record := by
  have follow : Follow draftMember Draft.empty (Value.writeMembers
      [("username", .string record.username), ("email", .string record.email),
        ("avatar", .string record.avatar)])
      ⟨some record.username, some record.email, some record.avatar⟩ :=
    .cons _ _ _ _ _ (draft_member_consumes _ .username record.username rfl) <|
      .cons _ _ _ _ _ (draft_member_consumes _ .email record.email rfl) <|
        .cons _ _ _ _ _ (draft_member_consumes _ .avatar record.avatar rfl) (.nil _)
  have consumes := entries_consume '}' draftMember _ _ _ _ rfl (by decide)
    (opens_quote '}' "username" _ (by decide)) follow
  exact .behind rfl (fun _ => rfl) (consumes.finish fun _ => rfl)

theorem Record.reader_write (record : Record) (rest : List Char) :
    Record.reader (record.toValue.write ++ rest) = .ok (record, rest) :=
  record.reader_consumes.read rest

namespace Action

def tag : Action → Tag
  | .beginEdit => .beginEdit
  | .change _ _ => .change
  | .confirm => .confirm
  | .discard => .discard

def texts : Action → List (String × String)
  | .change field value => [("field", field.name), ("value", value)]
  | _ => []

theorem to_value_texts (action : Action) :
    action.toValue = .object (("type", .string action.tag.name) :: textMembers action.texts) := by
  cases action <;> rfl

theorem texts_not_type (action : Action) : ∀ entry ∈ action.texts, entry.1 ≠ "type" := by
  cases action <;> simp [texts]

theorem action_of_texts (action : Action) :
    actionOf action.tag (.members (textMembers action.texts)) = .ok action := by
  cases action with
  | change field value => cases field <;> rfl
  | _ => rfl

theorem reader_consumes (action : Action) :
    Consumes reader action.toValue.write action := by
  rw [to_value_texts]
  refine (envelope_reader_consumes action.tag action.texts (texts_not_type action)).finish
    fun rest => ?_
  simp only [action_of_texts]
  rfl

theorem reader_write (action : Action) (rest : List Char) :
    reader (action.toValue.write ++ rest) = .ok (action, rest) :=
  action.reader_consumes.read rest

end Action

theorem json_reads_back :
    (∀ record : Record, Record.read record.json = .ok record) ∧
    (∀ action : Action, Action.read action.json = .ok action) ∧
    Function.Injective Record.json ∧ Function.Injective Action.json := by
  have records : ∀ record : Record, Record.read record.json = .ok record := by
    intro record
    apply whole_read
    simpa using record.reader_write []
  have actions : ∀ action : Action, Action.read action.json = .ok action := by
    intro action
    apply whole_read
    simpa using action.reader_write []
  refine ⟨records, actions, ?_, ?_⟩
  · intro first second same
    have equal := records first
    rw [same, records second] at equal
    exact (Except.ok.inj equal).symm
  · intro first second same
    have equal := actions first
    rw [same, actions second] at equal
    exact (Except.ok.inj equal).symm

end EditableProfile
