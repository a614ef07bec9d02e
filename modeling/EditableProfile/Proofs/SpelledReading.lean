import EditableProfile.Json.Nested
import EditableProfile.Proofs.EntryReading
import Mathlib.Data.List.TakeWhile

set_option autoImplicit false

namespace EditableProfile.Json

namespace Value

mutual

def depth : Value → Nat
  | .array items => depthItems items + 1
  | .object members => depthMembers members + 1
  | _ => 0

def depthItems : List Value → Nat
  | [] => 0
  | value :: rest => max value.depth (depthItems rest)

def depthMembers : List (String × Value) → Nat
  | [] => 0
  | (_, value) :: rest => max value.depth (depthMembers rest)

end

end Value

open Value

variable {σ : Type}

theorem string_for_consumes (wanted : Wanted) (content : String) (quoted : List Char)
    (spelt : SpellsString content quoted) : Consumes (stringFor wanted) quoted content := by
  obtain ⟨body, chars, rfl⟩ := spelt
  exact .behind rfl (fun _ => rfl) (string_consumes content body chars)

theorem value_consumes (allowed : Nat) (content : String) (quoted : List Char)
    (spelt : SpellsString content quoted) : Consumes (value allowed) quoted (.string content) := by
  obtain ⟨body, chars, rfl⟩ := spelt
  cases allowed <;>
    exact .behind rfl (fun _ => rfl)
      ((string_consumes content body chars).finish fun _ => rfl)

theorem key_spelt (content : String) (quoted lead rest : List Char)
    (spelt : SpellsString content quoted) (spaces : Spaces lead) :
    key (lead ++ (quoted ++ rest)) = .ok (content, rest) := by
  obtain ⟨body, chars, rfl⟩ := spelt
  rw [key, List.cons_append, mark_spaces '"' lead _ spaces rfl, List.append_assoc]
  exact string_spelt content body rest chars

theorem skip_key_spelt (content : String) (quoted lead rest : List Char)
    (spelt : SpellsString content quoted) (spaces : Spaces lead) :
    skipKey (lead ++ (quoted ++ rest)) = .ok ((), rest) := by
  obtain ⟨body, chars, rfl⟩ := spelt
  rw [skipKey, List.cons_append, mark_spaces '"' lead _ spaces rfl, List.append_assoc]
  exact skip_string_spelt content body rest chars

theorem opens_spelt (value : Value) (core : List Char) (spelt : Spells value core) :
    Opens ']' core := by
  cases value with
  | null => exact ⟨'n', _, spelt, rfl, by decide⟩
  | bool truth =>
      cases truth with
      | true => exact ⟨'t', _, spelt, rfl, by decide⟩
      | false => exact ⟨'f', _, spelt, rfl, by decide⟩
  | number number => exact spelt.elim
  | string content =>
      obtain ⟨body, _, rfl⟩ := spelt
      exact ⟨'"', _, rfl, rfl, by decide⟩
  | array items =>
      obtain ⟨parts, gap, _, _, rfl⟩ := spelt
      exact ⟨'[', _, rfl, rfl, by decide⟩
  | object members =>
      obtain ⟨parts, gap, _, _, rfl⟩ := spelt
      exact ⟨'{', _, rfl, rfl, by decide⟩

theorem items_advance (entry : σ → Reader σ) (step : σ → Value → Except Fault σ)
    (items : List Value) (parts : List (List Char)) (spelt : SpellsItems items parts)
    (each : ∀ value ∈ items, ∀ core, Spells value core → Advances ']' entry step value core) :
    List.Forall₂ (fun value => Padded (Advances ']' entry step value)) items parts := by
  induction items generalizing parts with
  | nil =>
      have none : parts = [] := spelt
      rw [none]
      exact .nil
  | cons value items hypothesis =>
      obtain ⟨part, others, padded, later, rfl⟩ := spelt
      obtain ⟨before, core, after, spacesBefore, here, spacesAfter, rfl⟩ := padded
      obtain ⟨first, rest⟩ := List.forall_mem_cons.mp each
      exact .cons ⟨before, core, after, spacesBefore, first core here, spacesAfter, rfl⟩
        (hypothesis others later rest)

def MemberRead (entry : σ → Reader σ) (step : σ → String × Value → Except Fault σ)
    (member : String × Value) : Prop :=
  ∀ name gap lead core, SpellsString member.1 name → Spaces gap → Spaces lead →
    Spells member.2 core → ∀ state before rest, Spaces before →
      entry state (before ++ (name ++ (gap ++ ':' :: (lead ++ (core ++ rest))))) =
        (step state member).map fun next => (next, rest)

theorem members_advance (entry : σ → Reader σ) (step : σ → String × Value → Except Fault σ)
    (members : List (String × Value)) (parts : List (List Char))
    (spelt : SpellsMembers members parts) (each : ∀ member ∈ members, MemberRead entry step member) :
    List.Forall₂ (fun member => Padded (Advances '}' entry step member)) members parts := by
  induction members generalizing parts with
  | nil =>
      have none : parts = [] := spelt
      rw [none]
      exact .nil
  | cons member members hypothesis =>
      obtain ⟨name, part, others, named, valued, later, rfl⟩ := spelt
      obtain ⟨before, quoted, gap, spacesBefore, speltName, spacesGap, rfl⟩ := named
      obtain ⟨lead, core, after, spacesLead, speltValue, spacesAfter, rfl⟩ := valued
      obtain ⟨first, rest⟩ := List.forall_mem_cons.mp each
      refine .cons ⟨before, quoted ++ (gap ++ ':' :: (lead ++ core)), after, spacesBefore, ?_,
        spacesAfter, by simp⟩ (hypothesis others later rest)
      constructor
      · obtain ⟨body, _, rfl⟩ := speltName
        exact ⟨'"', _, rfl, rfl, by decide⟩
      · intro state front behind spacesFront
        have read := first quoted gap lead core speltName spacesGap spacesLead speltValue state front
          behind spacesFront
        simpa only [List.append_assoc, List.cons_append] using read

theorem depth_item (items : List Value) (value : Value) (member : value ∈ items) :
    value.depth ≤ depthItems items := by
  induction items with
  | nil => cases member
  | cons first rest hypothesis =>
      rcases List.mem_cons.mp member with same | later
      · rw [same]
        exact Nat.le_max_left _ _
      · exact Nat.le_trans (hypothesis later) (Nat.le_max_right _ _)

theorem depth_member (members : List (String × Value)) (entry : String × Value)
    (member : entry ∈ members) : entry.2.depth ≤ depthMembers members := by
  induction members with
  | nil => cases member
  | cons first rest hypothesis =>
      rcases List.mem_cons.mp member with same | later
      · rw [same]
        exact Nat.le_max_left _ _
      · exact Nat.le_trans (hypothesis later) (Nat.le_max_right _ _)

-- What is made of a value, however it is written and whatever follows it.
def ReadAs {α : Type} (read : Reader α) (value : Value) (result : Except Fault α) : Prop :=
  ∀ core lead rest, Spells value core → Spaces lead →
    read (lead ++ (core ++ rest)) = result.map fun made => (made, rest)

/-- A reader that may spend so many brackets, inside each pair of them one less. -/
structure Nested {α : Type} (read : Nat → Reader α) (meant : Value → α) : Prop where
  spaces : ∀ allowed lead text, Spaces lead → read allowed (lead ++ text) = read allowed text
  flat : ∀ allowed value core rest, value.depth = 0 → Spells value core →
    read allowed (core ++ rest) = .ok (meant value, rest)
  array : ∀ allowed items core rest,
    (∀ value ∈ items, ReadAs (read allowed) value (.ok (meant value))) →
    Spells (.array items) core → read (allowed + 1) (core ++ rest) = .ok (meant (.array items), rest)
  object : ∀ allowed members core rest,
    (∀ entry ∈ members, ReadAs (read allowed) entry.2 (.ok (meant entry.2))) →
    Spells (.object members) core →
    read (allowed + 1) (core ++ rest) = .ok (meant (.object members), rest)

theorem nested_read {α : Type} (read : Nat → Reader α) (meant : Value → α)
    (nested : Nested read meant) (allowed : Nat) (value : Value) (enough : value.depth ≤ allowed) :
    ReadAs (read allowed) value (.ok (meant value)) := by
  induction allowed generalizing value with
  | zero =>
      intro core lead rest spelt spaces
      rw [nested.spaces 0 lead _ spaces]
      exact nested.flat 0 value core rest (Nat.le_zero.mp enough) spelt
  | succ allowed hypothesis =>
      intro core lead rest spelt spaces
      rw [nested.spaces _ lead _ spaces]
      cases value with
      | array items =>
          refine nested.array allowed items core rest (fun value present => ?_) spelt
          exact hypothesis value
            (Nat.le_trans (depth_item items value present) (Nat.le_of_succ_le_succ enough))
      | object members =>
          refine nested.object allowed members core rest (fun entry present => ?_) spelt
          exact hypothesis entry.2
            (Nat.le_trans (depth_member members entry present) (Nat.le_of_succ_le_succ enough))
      | _ => exact nested.flat _ _ core rest rfl spelt

def push {α : Type} (seen : List α) (one : α) : Except Fault (List α) := .ok (one :: seen)

theorem fold_push {α : Type} (list seen : List α) :
    list.foldlM push seen = .ok (list.reverse ++ seen) := by
  induction list generalizing seen with
  | nil => rfl
  | cons one list hypothesis =>
      rw [List.foldlM_cons, List.reverse_cons, List.append_assoc]
      exact hypothesis (one :: seen)

theorem item_advances (read : Reader Value) (value : Value) (core : List Char)
    (reads : ReadAs read value (.ok value)) (spelt : Spells value core) :
    Advances ']' (item read) push value core := by
  refine ⟨opens_spelt value core spelt, ?_⟩
  intro state lead rest spaces
  rw [item, reads core lead rest spelt spaces]
  rfl

theorem member_advances (read : Reader Value) (entry : String × Value)
    (reads : ReadAs read entry.2 (.ok entry.2)) : MemberRead (member read) push entry := by
  intro name gap lead core speltName spacesGap spacesLead spelt state before rest spaces
  rw [member, key_spelt entry.1 name before _ speltName spaces]
  simp only [bind, Except.bind, mark_spaces ':' gap _ spacesGap rfl,
    reads core lead rest spelt spacesLead]
  rfl

theorem scalar_string (content : String) (body rest : List Char)
    (chars : SpellsChars content.toList body) :
    scalar ('"' :: (body ++ '"' :: rest)) = .ok (.string content, rest) := by
  simp only [scalar, string_spelt content body rest chars]
  rfl

theorem value_nested : Nested value id := by
  constructor
  case spaces =>
    intro allowed lead text spaces
    cases allowed <;> simp only [value, skip_spaces lead text spaces]
  case flat =>
    intro allowed subject core rest flat spelt
    cases subject with
    | null =>
        rw [show core = _ from spelt]
        cases allowed <;> rfl
    | bool truth => cases truth <;> rw [show core = _ from spelt] <;> cases allowed <;> rfl
    | number number => exact spelt.elim
    | string content =>
        obtain ⟨body, chars, rfl⟩ := spelt
        have read := scalar_string content body rest chars
        rw [List.cons_append, List.append_assoc]
        cases allowed <;> exact read
    | array items => cases flat
    | object members => cases flat
  case array =>
    intro allowed items core rest inner spelt
    obtain ⟨parts, gap, speltItems, spacesGap, rfl⟩ := spelt
    have advances := items_advance (item (value allowed)) push items parts speltItems
      fun value present core spelt => item_advances _ value core (inner value present) spelt
    have read := entries_close ']' _ push items parts [] gap rest rfl (by decide) spacesGap advances
    rw [fold_push, List.append_nil] at read
    simp only [List.cons_append, List.append_assoc, List.nil_append, value,
      skip_space_solid '[' _ rfl, read]
    simp [Except.map, bind, Except.bind, pure, Except.pure]
  case object =>
    intro allowed members core rest inner spelt
    obtain ⟨parts, gap, speltMembers, spacesGap, rfl⟩ := spelt
    have advances := members_advance (member (value allowed)) push members parts speltMembers
      fun entry present => member_advances _ entry (inner entry present)
    have read := entries_close '}' _ push members parts [] gap rest rfl (by decide) spacesGap advances
    rw [fold_push, List.append_nil] at read
    simp only [List.cons_append, List.append_assoc, List.nil_append, value,
      skip_space_solid '{' _ rfl, read]
    simp [Except.map, bind, Except.bind, pure, Except.pure]

def pass {α : Type} (_ : Unit) (_ : α) : Except Fault Unit := .ok ()

theorem fold_pass {α : Type} (list : List α) : list.foldlM pass () = .ok () := by
  induction list with
  | nil => rfl
  | cons one list hypothesis => exact hypothesis

theorem skip_nested : Nested skipNested fun _ => () := by
  constructor
  case spaces =>
    intro allowed lead text spaces
    cases allowed <;> simp only [skipNested, skip_spaces lead text spaces]
  case flat =>
    intro allowed subject core rest flat spelt
    cases subject with
    | null =>
        rw [show core = _ from spelt]
        cases allowed <;> rfl
    | bool truth => cases truth <;> rw [show core = _ from spelt] <;> cases allowed <;> rfl
    | number number => exact spelt.elim
    | string content =>
        obtain ⟨body, chars, rfl⟩ := spelt
        have read := skip_string_spelt content body rest chars
        rw [List.cons_append, List.append_assoc]
        cases allowed <;> exact read
    | array items => cases flat
    | object members => cases flat
  case array =>
    intro allowed items core rest inner spelt
    obtain ⟨parts, gap, speltItems, spacesGap, rfl⟩ := spelt
    have advances := items_advance (skipItem (skipNested allowed)) pass items parts speltItems
      fun value present core spelt => ⟨opens_spelt value core spelt,
        fun _ lead rest spaces => inner value present core lead rest spelt spaces⟩
    have read := entries_close ']' _ pass items parts () gap rest rfl (by decide) spacesGap advances
    rw [fold_pass] at read
    simp only [List.cons_append, List.append_assoc, List.nil_append, skipNested,
      skip_space_solid '[' _ rfl, read]
    rfl
  case object =>
    intro allowed members core rest inner spelt
    obtain ⟨parts, gap, speltMembers, spacesGap, rfl⟩ := spelt
    have advances := members_advance (skipMember (skipNested allowed)) pass members parts speltMembers
      fun entry present => by
        intro name gap lead core speltName spacesGap spacesLead spelt state before rest spaces
        rw [skipMember, skip_key_spelt entry.1 name before _ speltName spaces]
        simp only [bind, Except.bind, mark_spaces ':' gap _ spacesGap rfl]
        exact inner entry present core lead rest spelt spacesLead
    have read := entries_close '}' _ pass members parts () gap rest rfl (by decide) spacesGap advances
    rw [fold_pass] at read
    simp only [List.cons_append, List.append_assoc, List.nil_append, skipNested,
      skip_space_solid '{' _ rfl, read]
    rfl

theorem separated_part_length (part : List Char) (parts : List (List Char)) :
    part.length ≤ (separated (part :: parts)).length ∧
      (separated parts).length ≤ (separated (part :: parts)).length := by
  rw [separated_cons, List.length_append]
  refine ⟨Nat.le_add_right _ _, ?_⟩
  cases parts with
  | nil => exact Nat.zero_le _
  | cons next others =>
      rw [separated_cons, List.flatMap_cons, List.cons_append, List.length_cons]
      omega

mutual

theorem depth_spelt (subject : Value) (core : List Char) (spelt : Spells subject core) :
    subject.depth ≤ core.length := by
  cases subject with
  | array items =>
      obtain ⟨parts, gap, speltItems, _, rfl⟩ := spelt
      have inner := depth_items_spelt items parts speltItems
      simp only [depth, List.length_cons, List.length_append]
      omega
  | object members =>
      obtain ⟨parts, gap, speltMembers, _, rfl⟩ := spelt
      have inner := depth_members_spelt members parts speltMembers
      simp only [depth, List.length_cons, List.length_append]
      omega
  | _ => exact Nat.zero_le _

theorem depth_items_spelt (items : List Value) (parts : List (List Char))
    (spelt : SpellsItems items parts) : depthItems items ≤ (separated parts).length := by
  cases items with
  | nil => exact Nat.zero_le _
  | cons value rest =>
      obtain ⟨part, others, ⟨before, core, after, _, here, _, rfl⟩, later, rfl⟩ := spelt
      have first := depth_spelt value core here
      have behind := depth_items_spelt rest others later
      have lengths := separated_part_length (before ++ (core ++ after)) others
      simp only [List.length_append] at lengths
      exact Nat.max_le.mpr ⟨by omega, by omega⟩

theorem depth_members_spelt (members : List (String × Value)) (parts : List (List Char))
    (spelt : SpellsMembers members parts) : depthMembers members ≤ (separated parts).length := by
  cases members with
  | nil => exact Nat.zero_le _
  | cons entry rest =>
      obtain ⟨name, part, others, _, ⟨before, core, after, _, here, _, rfl⟩, later, rfl⟩ := spelt
      have first := depth_spelt entry.2 core here
      have behind := depth_members_spelt rest others later
      have lengths := separated_part_length (name ++ ':' :: (before ++ (core ++ after))) others
      simp only [List.length_append, List.length_cons] at lengths
      exact Nat.max_le.mpr ⟨by omega, by omega⟩

end

theorem skip_value_spelt (value : Value) : ReadAs skipValue value (.ok ()) := by
  intro core lead rest spelt spaces
  have enough := depth_spelt value core spelt
  rw [skipValue]
  refine nested_read skipNested _ skip_nested _ value ?_ core lead rest spelt spaces
  simp only [List.length_append]
  omega

def textFor (wanted : Wanted) : Value → Except Mismatch String
  | .string content => .ok content
  | value => .error (.wrongType value.found wanted)

theorem string_for_spelt (wanted : Wanted) (value : Value) :
    ReadAs (stringFor wanted) value ((textFor wanted value).mapError Fault.mismatch) := by
  intro core lead rest spelt spaces
  rw [stringFor, skip_spaces lead _ spaces]
  cases value with
  | null => rw [show core = _ from spelt]; rfl
  | bool truth => cases truth <;> rw [show core = _ from spelt] <;> rfl
  | number number => exact spelt.elim
  | string content =>
      obtain ⟨body, chars, rfl⟩ := spelt
      rw [List.cons_append, List.append_assoc, skip_space_solid '"' _ rfl]
      exact string_spelt content body rest chars
  | array items =>
      obtain ⟨parts, gap, _, _, rfl⟩ := spelt
      rfl
  | object members =>
      obtain ⟨parts, gap, _, _, rfl⟩ := spelt
      rfl

theorem whole_denoted {α : Type} (reader : Reader α) (value : Value) (result : Except Fault α)
    (reads : ReadAs reader value result) (text : String) (denotes : Denotes text value) :
    whole reader text = result := by
  obtain ⟨before, core, after, spacesBefore, spelt, spacesAfter, written⟩ := denotes
  have nothing : skipSpace after = [] := List.dropWhile_eq_nil_iff.mpr spacesAfter
  rw [whole, written, reads core before after spelt spacesBefore]
  cases result with
  | error fault => rfl
  | ok made =>
      change (if (skipSpace after).isEmpty then _ else _) = _
      rw [nothing]
      rfl

theorem value_write (subject : Value) (plain : subject.Plain) (allowed : Nat)
    (enough : subject.depth ≤ allowed) (rest : List Char) :
    value allowed (subject.write ++ rest) = .ok (subject, rest) :=
  nested_read value id value_nested allowed subject enough subject.write [] rest
    (spells_write subject plain) nofun

theorem write_unique (left right : Value) (plainLeft : left.Plain) (plainRight : right.Plain)
    (leftRest rightRest : List Char)
    (same : left.write ++ leftRest = right.write ++ rightRest) :
    left = right ∧ leftRest = rightRest := by
  let allowed := max left.depth right.depth
  have readLeft := value_write left plainLeft allowed (Nat.le_max_left _ _) leftRest
  have readRight := value_write right plainRight allowed (Nat.le_max_right _ _) rightRest
  rw [same, readRight] at readLeft
  obtain ⟨values, rests⟩ := Prod.mk.inj (Except.ok.inj readLeft)
  exact ⟨values.symm, rests.symm⟩

theorem text_unique (left right : Value) (plainLeft : left.Plain) (plainRight : right.Plain)
    (same : left.text = right.text) : left = right := by
  have written : left.write = right.write := String.ofList_injective same
  exact (write_unique left right plainLeft plainRight [] [] (by rw [written])).1

end EditableProfile.Json
