import EditableProfile.Proofs.MarkupReading
import Mathlib.Data.List.Infix

set_option autoImplicit false

namespace EditableProfile.Markup

def occurrences (pattern text : List Char) : Nat := text.tails.countP pattern.isPrefixOf

theorem occurrences_cons (pattern rest : List Char) (c : Char) :
    occurrences pattern (c :: rest) =
      (if pattern.isPrefixOf (c :: rest) then 1 else 0) + occurrences pattern rest := by
  rw [occurrences, List.tails_cons, List.countP_cons, Nat.add_comm, occurrences]

theorem occurrences_other (name rest : List Char) (c : Char) (other : c ≠ '<') :
    occurrences ('<' :: name) (c :: rest) = occurrences ('<' :: name) rest := by
  have foreign : List.isPrefixOf ('<' :: name) (c :: rest) = false := by
    simp [List.isPrefixOf, Ne.symm other]
  rw [occurrences_cons, foreign]
  simp

theorem occurrences_clean (name clean rest : List Char) (absent : ∀ c ∈ clean, c ≠ '<') :
    occurrences ('<' :: name) (clean ++ rest) = occurrences ('<' :: name) rest := by
  induction clean with
  | nil => rfl
  | cons c others hypothesis =>
      obtain ⟨here, later⟩ := List.forall_mem_cons.mp absent
      rw [List.cons_append, occurrences_other name _ c here, hypothesis later]

theorem occurrences_tag (name clean rest : List Char) (absent : ∀ c ∈ clean, c ≠ '<') :
    occurrences ('<' :: name) ('<' :: (clean ++ rest)) =
      (if name.isPrefixOf (clean ++ rest) then 1 else 0) + occurrences ('<' :: name) rest := by
  rw [occurrences_cons, occurrences_clean name clean rest absent]
  simp [List.isPrefixOf]

-- Whether a name goes on is seen at the first character that it cannot have.
theorem name_prefix (name whole rest : List Char) (c : Char) (parts : name.all isNamePart)
    (ended : isNamePart c = false) :
    name.isPrefixOf (whole ++ c :: rest) = name.isPrefixOf whole := by
  induction name generalizing whole with
  | nil => simp [List.isPrefixOf]
  | cons first others hypothesis =>
      obtain ⟨part, parts⟩ := Bool.and_eq_true_iff.mp parts
      cases whole with
      | nil =>
          have different : first ≠ c := by
            rintro rfl
            rw [part] at ended
            cases ended
          simp [List.isPrefixOf, different]
      | cons d further => simp [List.isPrefixOf, hypothesis further parts]

theorem parts_of_name (name : List Char) (named : isName name) : name.all isNamePart := by
  cases name with
  | nil => rfl
  | cons first rest =>
      obtain ⟨letter, parts⟩ := Bool.and_eq_true_iff.mp named
      simpa [isNamePart, Char.isAlphanum, letter] using parts

theorem parts_clean (name : List Char) (parts : name.all isNamePart) : ∀ c ∈ name, c ≠ '<' := by
  rintro c listed rfl
  exact absurd (List.all_eq_true.mp parts _ listed) (by decide)

theorem values_clean (value : List Char) (plain : value.all isValuePart) :
    ∀ c ∈ value, c ≠ '<' := by
  rintro c listed rfl
  exact absurd (List.all_eq_true.mp plain _ listed) (by decide)

def Opening.remainder (opening : Opening) (void : Bool) : List Char :=
  (opening.attributes.flatMap fun pair => assignment pair.1 pair.2) ++
    if void then ['/', '>'] else ['>']

theorem remainder_begins (opening : Opening) (void : Bool) :
    ∃ c more, opening.remainder void = c :: more ∧ isNamePart c = false := by
  unfold Opening.remainder
  cases opening.attributes with
  | nil =>
      cases void with
      | false => exact ⟨'>', [], rfl, by decide⟩
      | true => exact ⟨'/', ['>'], rfl, by decide⟩
  | cons pair others => exact ⟨' ', _, rfl, by decide⟩

theorem remainder_clean (opening : Opening) (void : Bool) (proper : opening.Proper) :
    ∀ c ∈ opening.remainder void, c ≠ '<' := by
  refine List.forall_mem_append.mpr ⟨fun c listed => ?_, by cases void <;> simp⟩
  obtain ⟨pair, present, inside⟩ := List.mem_flatMap.mp listed
  obtain ⟨named, plain⟩ := proper.attributes pair present
  have key := parts_clean _ (parts_of_name _ named)
  have value := values_clean _ plain
  simp only [assignment, List.mem_cons, List.mem_append, List.not_mem_nil, or_false] at inside
  rcases inside with rfl | inside | rfl | rfl | inside | rfl
  · decide
  · exact key c inside
  · decide
  · decide
  · exact value c inside
  · decide

def Token.begins (name : List Char) : Token → Bool
  | .start opening _ => name.isPrefixOf opening.name.toList
  | _ => false

theorem occurrences_spelled (name rest : List Char) (token : Token) (named : isName name)
    (proper : token.Proper) :
    occurrences ('<' :: name) (token.spelled ++ rest) =
      (if token.begins name then 1 else 0) + occurrences ('<' :: name) rest := by
  have parts := parts_of_name name named
  cases token with
  | start opening void =>
      have whole : (Token.start opening void).spelled ++ rest =
          '<' :: ((opening.name.toList ++ opening.remainder void) ++ rest) := by
        simp [Token.spelled, Opening.spelled, Opening.remainder]
      have clean : ∀ c ∈ opening.name.toList ++ opening.remainder void, c ≠ '<' :=
        List.forall_mem_append.mpr
          ⟨parts_clean _ (parts_of_name _ proper.name), remainder_clean opening void proper⟩
      obtain ⟨c, more, begins, ended⟩ := remainder_begins opening void
      have same : name.isPrefixOf ((opening.name.toList ++ opening.remainder void) ++ rest) =
          name.isPrefixOf opening.name.toList := by
        rw [begins, List.append_assoc, List.cons_append]
        exact name_prefix name opening.name.toList (more ++ rest) c parts ended
      rw [whole, occurrences_tag name _ rest clean, same, Token.begins]
  | finish other =>
      have whole : (Token.finish other).spelled ++ rest =
          '<' :: (('/' :: (other.toList ++ ['>'])) ++ rest) := by
        simp [Token.spelled]
      have inner := parts_clean _ (parts_of_name _ proper)
      have clean : ∀ c ∈ '/' :: (other.toList ++ ['>']), c ≠ '<' := by
        refine List.forall_mem_cons.mpr ⟨by decide, List.forall_mem_append.mpr ⟨inner, ?_⟩⟩
        exact List.forall_mem_singleton.mpr (by decide)
      have foreign : name.isPrefixOf (('/' :: (other.toList ++ ['>'])) ++ rest) = false := by
        have slash := name_prefix name [] ((other.toList ++ ['>']) ++ rest) '/' parts (by decide)
        cases name with
        | nil => simp [isName] at named
        | cons first others => simpa [List.isPrefixOf] using slash
      rw [whole, occurrences_tag name _ rest clean, foreign]
      rfl
  | char c =>
      have other : c ≠ '<' := proper
      rw [Token.spelled, List.singleton_append, occurrences_other name rest c other]
      simp [Token.begins]

theorem occurrences_read (name : List Char) (text : String) (tokens : List Token)
    (named : isName name) (found : read text = some tokens) :
    occurrences ('<' :: name) text.toList = tokens.countP (Token.begins name) := by
  obtain ⟨proper, spelled⟩ := (read_iff text tokens).mp found
  rw [← spelled]
  clear found spelled
  induction tokens with
  | nil => simp [occurrences]
  | cons token rest hypothesis =>
      obtain ⟨here, later⟩ := List.forall_mem_cons.mp proper
      rw [spelling_cons, occurrences_spelled name _ token named here, hypothesis later,
        List.countP_cons, Nat.add_comm]

theorem escape_plain (c : Char) : (escape c).all isValuePart := by
  unfold escape
  split
  case h_6 quote _ _ angle _ => simpa [isValuePart] using And.intro quote angle
  all_goals decide

theorem escaped_plain (text : String) : (escaped text).all isValuePart := by
  rw [escaped, List.all_flatMap, List.all_eq_true]
  exact fun c _ => escape_plain c

def Tag.opening (tag : Tag) : Opening :=
  ⟨tag.name, tag.attributes.map fun pair => (pair.1, String.ofList (escaped pair.2))⟩

theorem opening_spelled (tag : Tag) : tag.opening.spelled = '<' :: tag.inner := by
  simp [Opening.spelled, Tag.opening, Tag.inner, attributeText, assignment, List.flatMap_map]

-- This asks for names only: a value may be any text.
def Tag.Proper (tag : Tag) : Prop :=
  isName tag.name.toList ∧ ∀ pair ∈ tag.attributes, isName pair.1.toList

theorem opening_proper (tag : Tag) (proper : tag.Proper) : tag.opening.Proper := by
  obtain ⟨named, attributes⟩ := proper
  refine ⟨named, fun pair listed => ?_⟩
  obtain ⟨source, present, rfl⟩ := List.mem_map.mp listed
  exact ⟨attributes source present, by simpa using escaped_plain source.2⟩

namespace Node

mutual

def tokens : Node → List Token
  | .text content => (escaped content).map Token.char
  | .void tag => [.start tag.opening true]
  | .element tag children =>
      .start tag.opening false :: (tokensAll children ++ [.finish tag.name])

def tokensAll : List Node → List Token
  | [] => []
  | node :: rest => node.tokens ++ tokensAll rest

end

mutual

def Proper : Node → Prop
  | .text _ => True
  | .void tag => tag.Proper
  | .element tag children => tag.Proper ∧ AllProper children

def AllProper : List Node → Prop
  | [] => True
  | node :: rest => node.Proper ∧ AllProper rest

end

theorem spelling_chars (text : List Char) : spelling (text.map Token.char) = text := by
  induction text with
  | nil => rfl
  | cons c rest hypothesis => rw [List.map_cons, spelling_cons, hypothesis]; rfl

mutual

theorem write_spelling (node : Node) : node.write = spelling node.tokens := by
  cases node with
  | text content => exact (spelling_chars (escaped content)).symm
  | void tag => simp [write, tokens, Token.spelled, opening_spelled]
  | element tag children =>
      simp [write, tokens, Token.spelled, opening_spelled, write_all_spelling children]

theorem write_all_spelling (nodes : List Node) : writeAll nodes = spelling (tokensAll nodes) := by
  cases nodes with
  | nil => rfl
  | cons node rest =>
      rw [writeAll, tokensAll, spelling_append, write_spelling node, write_all_spelling rest]

end

mutual

theorem tokens_proper (node : Node) (proper : node.Proper) :
    ∀ token ∈ node.tokens, token.Proper := by
  cases node with
  | text content =>
      intro token listed
      obtain ⟨c, present, rfl⟩ := List.mem_map.mp listed
      exact values_clean _ (escaped_plain content) c present
  | void tag => simpa [tokens, Token.Proper] using opening_proper tag proper
  | element tag children =>
      obtain ⟨named, inner⟩ := proper
      refine List.forall_mem_cons.mpr ⟨opening_proper tag named, ?_⟩
      refine List.forall_mem_append.mpr ⟨tokens_all_proper children inner, ?_⟩
      exact List.forall_mem_singleton.mpr named.1

theorem tokens_all_proper (nodes : List Node) (proper : AllProper nodes) :
    ∀ token ∈ tokensAll nodes, token.Proper := by
  cases nodes with
  | nil => exact nofun
  | cons node rest =>
      exact List.forall_mem_append.mpr
        ⟨tokens_proper node proper.1, tokens_all_proper rest proper.2⟩

end

theorem read_html (node : Node) (proper : node.Proper) : read node.html = some node.tokens := by
  refine (read_iff _ _).mpr ⟨tokens_proper node proper, ?_⟩
  rw [html, String.toList_ofList, write_spelling]

end Node

end EditableProfile.Markup
