import EditableProfile.Json.Reader

/-!
All the texts that a value without numbers can be written as: spaces wherever they may stand, and any
character of a string as itself, behind a backslash or by its code units. The compact text is one of
them.
-/

set_option autoImplicit false

namespace EditableProfile.Json

def Spaces (text : List Char) : Prop := ∀ c ∈ text, isSpace c = true

instance (text : List Char) : Decidable (Spaces text) :=
  List.decidableBAll (fun c => isSpace c = true) text

def shortEscapes : List (Char × Char) :=
  [('"', '"'), ('\\', '\\'), ('/', '/'), ('b', '\x08'), ('f', '\x0c'), ('n', '\n'), ('r', '\r'),
    ('t', '\t')]

def SpellsDigit (digit : Nat) (c : Char) : Prop :=
  digit < 16 ∧ (c = Nat.digitChar digit ∨ c = (Nat.digitChar digit).toUpper)

def SpellsUnit (unit : Nat) (text : List Char) : Prop :=
  ∃ a b c d, SpellsDigit (unit / 0x1000) a ∧ SpellsDigit (unit / 0x100 % 16) b ∧
    SpellsDigit (unit / 0x10 % 16) c ∧ SpellsDigit (unit % 16) d ∧ text = [a, b, c, d]

/-- The ways to write a character between quotes. One beyond the first plane takes two code units.
-/
inductive SpellsChar : Char → List Char → Prop where
  | plain (c : Char) (unquoted : c ≠ '"') (unescaped : c ≠ '\\') (printable : ¬ c.toNat < 0x20) :
      SpellsChar c [c]
  | short (letter c : Char) (known : (letter, c) ∈ shortEscapes) : SpellsChar c ['\\', letter]
  | unit (c : Char) (text : List Char) (spelt : SpellsUnit c.toNat text) :
      SpellsChar c ('\\' :: 'u' :: text)
  | pair (c : Char) (high low : List Char) (beyond : 0x10000 ≤ c.toNat)
      (spelt : SpellsUnit (0xd800 + (c.toNat - 0x10000) / 0x400) high)
      (speltLow : SpellsUnit (0xdc00 + (c.toNat - 0x10000) % 0x400) low) :
      SpellsChar c ('\\' :: 'u' :: (high ++ '\\' :: 'u' :: low))

def SpellsChars : List Char → List Char → Prop
  | [], text => text = []
  | c :: rest, text => ∃ here later, SpellsChar c here ∧ SpellsChars rest later ∧ text = here ++ later

def SpellsString (content : String) (text : List Char) : Prop :=
  ∃ body, SpellsChars content.toList body ∧ text = '"' :: (body ++ ['"'])

def Padded (kind : List Char → Prop) (text : List Char) : Prop :=
  ∃ before core after, Spaces before ∧ kind core ∧ Spaces after ∧ text = before ++ (core ++ after)

mutual

def Spells : Value → List Char → Prop
  | .null, text => text = ['n', 'u', 'l', 'l']
  | .bool true, text => text = ['t', 'r', 'u', 'e']
  | .bool false, text => text = ['f', 'a', 'l', 's', 'e']
  | .number _, _ => False
  | .string content, text => SpellsString content text
  | .array items, text => ∃ parts gap, SpellsItems items parts ∧ Spaces gap ∧
      text = '[' :: (separated parts ++ (gap ++ [']']))
  | .object members, text => ∃ parts gap, SpellsMembers members parts ∧ Spaces gap ∧
      text = '{' :: (separated parts ++ (gap ++ ['}']))

def SpellsItems : List Value → List (List Char) → Prop
  | [], parts => parts = []
  | value :: rest, parts => ∃ part others, Padded (Spells value) part ∧ SpellsItems rest others ∧
      parts = part :: others

def SpellsMembers : List (String × Value) → List (List Char) → Prop
  | [], parts => parts = []
  | (key, value) :: rest, parts => ∃ name part others, Padded (SpellsString key) name ∧
      Padded (Spells value) part ∧ SpellsMembers rest others ∧
      parts = (name ++ ':' :: part) :: others

end

def Denotes (text : String) (value : Value) : Prop := Padded (Spells value) text.toList

namespace Value

mutual

-- A number is not told by its text alone, which may go on after it.
def Plain : Value → Prop
  | .number _ => False
  | .array items => PlainItems items
  | .object members => PlainMembers members
  | _ => True

def PlainItems : List Value → Prop
  | [] => True
  | value :: rest => value.Plain ∧ PlainItems rest

def PlainMembers : List (String × Value) → Prop
  | [] => True
  | (_, value) :: rest => value.Plain ∧ PlainMembers rest

end

end Value

theorem padded_exact (kind : List Char → Prop) (text : List Char) (exact : kind text) :
    Padded kind text :=
  ⟨[], text, [], by decide, exact, by decide, by simp⟩

theorem spells_digit (digit : Nat) (small : digit < 16) : SpellsDigit digit (hexDigit digit) := by
  refine ⟨small, .inl ?_⟩
  rw [hexDigit, Nat.mod_eq_of_lt small]

theorem spells_escape (c : Char) : SpellsChar c (escape c) := by
  unfold escape
  split
  case h_8 _ unquoted unescaped _ _ _ _ _ =>
    split
    · rename_i control
      have first : hexDigit (c.toNat / 0x10) = hexDigit (c.toNat / 0x10 % 16) := by
        simp [hexDigit]
      have second : hexDigit c.toNat = hexDigit (c.toNat % 16) := by simp [hexDigit]
      have high : c.toNat / 0x1000 = 0 := by omega
      have next : c.toNat / 0x100 % 16 = 0 := by omega
      refine .unit c _ ⟨'0', '0', _, _, ?_, ?_, ?_, ?_, rfl⟩
      · rw [high]
        exact spells_digit 0 (by decide)
      · rw [next]
        exact spells_digit 0 (by decide)
      · rw [first]
        exact spells_digit _ (Nat.mod_lt _ (by decide))
      · rw [second]
        exact spells_digit _ (Nat.mod_lt _ (by decide))
    · rename_i printable
      exact .plain c unquoted unescaped printable
  all_goals exact .short _ _ (by decide)

theorem spells_escapes (content : List Char) : SpellsChars content (content.flatMap escape) := by
  induction content with
  | nil => rfl
  | cons c rest hypothesis => exact ⟨escape c, _, spells_escape c, hypothesis, rfl⟩

theorem spells_quote (content : String) : SpellsString content (quote content) :=
  ⟨_, spells_escapes content.toList, rfl⟩

mutual

theorem spells_write (value : Value) (plain : value.Plain) : Spells value value.write := by
  cases value with
  | null => rfl
  | bool truth => cases truth <;> rfl
  | number number => cases plain
  | string content => exact spells_quote content
  | array items =>
      exact ⟨_, [], spells_write_items items plain, by decide, by simp [Value.write]⟩
  | object members =>
      exact ⟨_, [], spells_write_members members plain, by decide, by simp [Value.write]⟩

theorem spells_write_items (items : List Value) (plain : Value.PlainItems items) :
    SpellsItems items (Value.writeItems items) := by
  cases items with
  | nil => rfl
  | cons value rest =>
      exact ⟨value.write, _, padded_exact _ _ (spells_write value plain.1),
        spells_write_items rest plain.2, rfl⟩

theorem spells_write_members (members : List (String × Value)) (plain : Value.PlainMembers members) :
    SpellsMembers members (Value.writeMembers members) := by
  cases members with
  | nil => rfl
  | cons entry rest =>
      exact ⟨quote entry.1, entry.2.write, _, padded_exact _ _ (spells_quote entry.1),
        padded_exact _ _ (spells_write entry.2 plain.1), spells_write_members rest plain.2, rfl⟩

end

theorem denotes_text (value : Value) (plain : value.Plain) : Denotes value.text value := by
  rw [Denotes, Value.text, String.toList_ofList]
  exact padded_exact _ _ (spells_write value plain)

end EditableProfile.Json
