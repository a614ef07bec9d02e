import EditableProfile.Proofs.WireRoundTrip
import Mathlib.Data.List.TakeWhile

set_option autoImplicit false

namespace EditableProfile

open Json Wire

namespace Json

def Printable (text : List Char) : Prop := ∀ c ∈ text, 0x20 ≤ c.toNat

theorem printable_append (first second : List Char) (here : Printable first)
    (later : Printable second) : Printable (first ++ second) :=
  List.forall_mem_append.mpr ⟨here, later⟩

theorem printable_cons (c : Char) (rest : List Char) (here : 0x20 ≤ c.toNat)
    (later : Printable rest) : Printable (c :: rest) :=
  List.forall_mem_cons.mpr ⟨here, later⟩

theorem printable_escape (c : Char) : Printable (escape c) := by
  have digits : ∀ m < 16, 0x20 ≤ (Nat.digitChar m).toNat := by decide
  have digit : ∀ n, 0x20 ≤ (hexDigit n).toNat := fun n => digits _ (Nat.mod_lt n (by decide))
  unfold escape
  split
  case h_8 =>
    split
    · simp [Printable, digit]
    · rename_i printable
      simpa [Printable] using Nat.not_lt.mp printable
  all_goals simp [Printable]

theorem printable_quote (text : String) : Printable (quote text) := by
  refine printable_cons '"' _ (by decide) (printable_append _ _ ?_ (by simp [Printable]))
  intro c present
  obtain ⟨source, _, inside⟩ := List.mem_flatMap.mp present
  exact printable_escape source c inside

theorem printable_separated (parts : List (List Char)) (each : ∀ part ∈ parts, Printable part) :
    Printable (separated parts) := by
  cases parts with
  | nil => exact nofun
  | cons part parts =>
      obtain ⟨here, later⟩ := List.forall_mem_cons.mp each
      rw [separated_cons]
      refine printable_append _ _ here fun c present => ?_
      obtain ⟨other, listed, inside⟩ := List.mem_flatMap.mp present
      exact printable_cons ',' other (by decide) (later other listed) c inside

theorem printable_between (opening closing : Char) (parts : List (List Char))
    (each : ∀ part ∈ parts, Printable part) (left : 0x20 ≤ opening.toNat)
    (right : 0x20 ≤ closing.toNat) : Printable (opening :: (separated parts ++ [closing])) :=
  printable_cons _ _ left
    (printable_append _ _ (printable_separated parts each) (by simpa [Printable] using right))

mutual

theorem printable_write (value : Value) (plain : value.Plain) : Printable value.write := by
  cases value with
  | null => simp [Value.write, Printable]
  | bool truth => cases truth <;> simp [Value.write, Printable]
  | number number => cases plain
  | string content => exact printable_quote content
  | array items =>
      exact printable_between '[' ']' _ (printable_write_items items plain) (by decide) (by decide)
  | object members =>
      exact printable_between '{' '}' _ (printable_write_members members plain) (by decide)
        (by decide)

theorem printable_write_items (items : List Value) (plain : Value.PlainItems items) :
    ∀ part ∈ Value.writeItems items, Printable part := by
  cases items with
  | nil => exact nofun
  | cons value rest =>
      exact List.forall_mem_cons.mpr
        ⟨printable_write value plain.1, printable_write_items rest plain.2⟩

theorem printable_write_members (members : List (String × Value))
    (plain : Value.PlainMembers members) : ∀ part ∈ Value.writeMembers members, Printable part := by
  cases members with
  | nil => exact nofun
  | cons entry rest =>
      have member := printable_append _ _ (printable_quote entry.1)
        (printable_cons ':' _ (by decide) (printable_write entry.2 plain.1))
      exact List.forall_mem_cons.mpr ⟨member, printable_write_members rest plain.2⟩

end

/-- What it takes for a text to be told from every text around it. -/
structure StandsAlone {α : Type} (read : String → Except Fault α) (json : String) (made : α) :
    Prop where
  oneLine : Printable json.toList
  cut : ∀ front back, front ++ back = json → back ≠ "" → read front = .error .ended
  extended : ∀ (more : String) (c : Char), c ∈ more.toList → isSpace c = false →
    read (json ++ more) = .error .malformed
  spaced : ∀ before after : String, Spaces before.toList → Spaces after.toList →
    read (before ++ json ++ after) = .ok made

theorem text_stands_alone {α : Type} (reader : Reader α) (value : Value) (made : α)
    (plain : value.Plain) (consumes : Consumes reader value.write made)
    (leading : ∀ gap text, Spaces gap → reader (gap ++ text) = reader text) :
    StandsAlone (whole reader) value.text made := by
  have written : value.text.toList = value.write := String.toList_ofList
  constructor
  · rw [written]
    exact printable_write value plain
  · intro front back split missing
    have parts : value.write = front.toList ++ back.toList := by
      rw [← written, ← split, String.toList_append]
    have left : back.toList ≠ [] := fun none => missing (String.toList_inj.mp none)
    rw [whole, consumes.cut _ _ parts left]
    rfl
  · intro more c present solid
    have kept : skipSpace more.toList ≠ [] := by
      intro none
      have space := List.dropWhile_eq_nil_iff.mp none c present
      rw [solid] at space
      cases space
    rw [whole, String.toList_append, written, consumes.read]
    simp [bind, Except.bind, kept]
  · intro before after spacesBefore spacesAfter
    have nothing : skipSpace after.toList = [] := List.dropWhile_eq_nil_iff.mpr spacesAfter
    rw [whole, String.toList_append, String.toList_append, List.append_assoc, written,
      leading _ _ spacesBefore, consumes.read]
    simp [bind, Except.bind, nothing, pure, Except.pure]

end Json

theorem json_stands_alone :
    (∀ record : Record, StandsAlone Record.read record.json record) ∧
    ∀ action : Action, StandsAlone Action.read action.json action := by
  constructor
  · intro record
    refine text_stands_alone Record.reader record.toValue record ?_ record.reader_consumes ?_
    · simp [Record.toValue, Value.Plain, Value.PlainMembers]
    · intro gap text spaces
      rw [Record.reader, Record.reader, skip_spaces gap text spaces]
  · intro action
    refine text_stands_alone Action.reader action.toValue action ?_ action.reader_consumes ?_
    · cases action <;> simp [Action.toValue, Value.Plain, Value.PlainMembers]
    · intro gap text spaces
      rw [Action.reader, Action.reader, envelopeReader, envelopeReader, skip_spaces gap text spaces]

theorem json_stands_alone_padded :
    let action := Action.change .email "a\n"
    let front := "\x7b\"type\":\"fieldChange\",\"field\":\"email\",\"value\":\"a\\"
    front ++ "n\"\x7d" = action.json ∧
      Action.read (" \t" ++ action.json ++ "\r\n") = .ok action ∧
      Action.read front = .error .ended ∧
      Action.read (action.json ++ " ,") = .error .malformed := by
  intro action front
  have split : front ++ "n\"\x7d" = action.json := by decide +kernel
  have alone := json_stands_alone.2 action
  refine ⟨split, ?_, ?_, ?_⟩
  · exact alone.spaced " \t" "\r\n" (by decide) (by decide)
  · exact alone.cut front "n\"\x7d" split (by decide)
  · exact alone.extended " ," ',' (by decide) rfl

end EditableProfile
