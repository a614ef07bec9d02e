import EditableProfile.Card
import EditableProfile.Proofs.MarkupTokens

set_option autoImplicit false

namespace EditableProfile

namespace Markup

inductive Mark where
  | start (name : String) (attributes : List String) (void : Bool)
  | finish (name : String)
deriving DecidableEq, Repr

def Token.mark? : Token → Option Mark
  | .start opening void => some (.start opening.name (opening.attributes.map Prod.fst) void)
  | .finish name => some (.finish name)
  | .char _ => none

-- The attributes of a card that show what was typed.
def isShowing (tag name : String) : Bool :=
  tag == "img" && name == "src" || tag == "input" && name == "value"

def coverValues (tag : String) (attributes : List (String × String)) : List (String × String) :=
  attributes.map fun pair => if isShowing tag pair.1 then (pair.1, "") else pair

theorem cover_values_names (tag : String) (attributes : List (String × String)) :
    (coverValues tag attributes).map Prod.fst = attributes.map Prod.fst := by
  rw [coverValues, List.map_map]
  refine List.map_congr_left fun pair _ => ?_
  cases showing : isShowing tag pair.1 <;> simp [showing]

def Opening.cover (opening : Opening) : Opening :=
  { opening with attributes := coverValues opening.name opening.attributes }

def isSpan (name : String) : Bool := name == "span"

/-- The tokens without the text inside of spans and without the values that show what was typed. -/
def cover (depth : Nat) : List Token → List Token
  | [] => []
  | .char c :: rest => if depth = 0 then .char c :: cover depth rest else cover depth rest
  | .start opening void :: rest =>
      .start opening.cover void ::
        cover (if isSpan opening.name && !void then depth + 1 else depth) rest
  | .finish name :: rest => .finish name :: cover (if isSpan name then depth - 1 else depth) rest

theorem cover_char (depth : Nat) (c : Char) (rest : List Token) :
    cover depth (.char c :: rest) = (if depth = 0 then [.char c] else []) ++ cover depth rest := by
  by_cases outside : depth = 0 <;> simp [cover, outside]

theorem cover_chars (depth : Nat) (text : List Char) (rest : List Token) :
    cover depth (text.map Token.char ++ rest) =
      (if depth = 0 then text.map Token.char else []) ++ cover depth rest := by
  induction text with
  | nil => simp
  | cons c others hypothesis =>
      rw [List.map_cons, List.cons_append, cover_char, hypothesis]
      by_cases outside : depth = 0 <;> simp [outside]

theorem cover_marks (depth : Nat) (tokens : List Token) :
    (cover depth tokens).filterMap Token.mark? = tokens.filterMap Token.mark? := by
  induction tokens generalizing depth with
  | nil => rfl
  | cons token rest hypothesis =>
      cases token with
      | start opening void =>
          simp [cover, Opening.cover, cover_values_names, Token.mark?, hypothesis]
      | finish name => simp [cover, Token.mark?, hypothesis]
      | char c =>
          have unmarked : (Token.char c).mark? = none := rfl
          rw [cover_char, List.filterMap_append, hypothesis, List.filterMap_cons_none unmarked]
          by_cases outside : depth = 0 <;> simp [outside, unmarked]

theorem cover_begins (name : List Char) (depth : Nat) (tokens : List Token) :
    (cover depth tokens).countP (Token.begins name) = tokens.countP (Token.begins name) := by
  induction tokens generalizing depth with
  | nil => rfl
  | cons token rest hypothesis =>
      cases token with
      | start opening void =>
          simp [cover, Opening.cover, List.countP_cons, Token.begins, hypothesis]
      | finish name => simp [cover, Token.begins, hypothesis]
      | char c =>
          rw [cover_char, List.countP_append, hypothesis]
          by_cases outside : depth = 0 <;> simp [outside, Token.begins]

def Tag.cover (tag : Tag) : Tag :=
  { tag with attributes := coverValues tag.name tag.attributes }

theorem cover_opening (tag : Tag) : tag.cover.opening = tag.opening.cover := by
  simp only [Tag.cover, Tag.opening, Opening.cover, coverValues, List.map_map, Opening.mk.injEq,
    true_and]
  refine List.map_congr_left fun pair _ => ?_
  cases showing : isShowing tag.name pair.1 <;> simp [showing, escaped]

namespace Node

mutual

def covered (spanned : Bool) : Node → Node
  | .text content => .text (if spanned then "" else content)
  | .void tag => .void tag.cover
  | .element tag children => .element tag.cover (coveredAll (spanned || isSpan tag.name) children)

def coveredAll (spanned : Bool) : List Node → List Node
  | [] => []
  | node :: rest => node.covered spanned :: coveredAll spanned rest

end

mutual

theorem cover_tokens (node : Node) (depth : Nat) (rest : List Token) :
    cover depth (node.tokens ++ rest) =
      (node.covered (decide (0 < depth))).tokens ++ cover depth rest := by
  cases node with
  | text content =>
      rw [tokens, cover_chars]
      by_cases outside : depth = 0
      · simp [covered, tokens, outside]
      · simp [covered, tokens, outside, Nat.pos_of_ne_zero outside, escaped]
  | void tag => simp [tokens, cover, covered, cover_opening]
  | element tag children =>
      have inner := cover_tokens_all children
      have begun : tag.opening.name = tag.name := rfl
      have ended : tag.cover.name = tag.name := rfl
      by_cases span : isSpan tag.name <;>
        simp [tokens, cover, covered, cover_opening, inner, begun, ended, span]

theorem cover_tokens_all (nodes : List Node) (depth : Nat) (rest : List Token) :
    cover depth (tokensAll nodes ++ rest) =
      tokensAll (coveredAll (decide (0 < depth)) nodes) ++ cover depth rest := by
  cases nodes with
  | nil => rfl
  | cons node others =>
      rw [tokensAll, coveredAll, tokensAll, List.append_assoc, cover_tokens node,
        cover_tokens_all others, List.append_assoc]

end

theorem covered_alike (left right : Node) (alike : left.covered false = right.covered false) :
    cover 0 left.tokens = cover 0 right.tokens := by
  have mine := cover_tokens left 0 []
  have other := cover_tokens right 0 []
  rw [List.append_nil] at mine other
  rw [mine, other]
  exact congrArg (fun node : Node => node.tokens ++ cover 0 []) alike

end Node

end Markup

open Markup Markup.Node

theorem all_proper_map {α : Type} (node : α → Node) (each : ∀ item, (node item).Proper)
    (items : List α) : AllProper (items.map node) := by
  induction items with
  | nil => trivial
  | cons item rest hypothesis => exact ⟨each item, hypothesis⟩

theorem Control.node_proper (control : Control) : control.node.Proper := by
  simp [node, Proper, Tag.Proper, isName, isNamePart]

theorem Portrait.node_proper (portrait : Portrait) : portrait.node.Proper := by
  have input := all_proper_map Control.node Control.node_proper portrait.input.toList
  simp [node, Proper, AllProper, Tag.Proper, isName, isNamePart, input]

theorem Content.node_proper (content : Content) : content.node.Proper := by
  cases content with
  | text value => simp [node, Proper, AllProper, Tag.Proper, isName, isNamePart]
  | input control => exact control.node_proper

theorem Row.node_proper (row : Row) : row.node.Proper := by
  simp [node, Proper, AllProper, Tag.Proper, isName, isNamePart, row.content.node_proper]

theorem Button.node_proper (button : Button) : button.node.Proper := by
  simp [node, Proper, AllProper, Tag.Proper, isName, isNamePart]

theorem View.card_proper (view : View) : view.card.Proper := by
  have rows := all_proper_map Row.node Row.node_proper view.rows
  have buttons := all_proper_map Button.node Button.node_proper view.buttons
  simp [card, Proper, AllProper, Tag.Proper, isName, isNamePart, view.portrait.node_proper, rows,
    buttons]

namespace Editor

-- What is left of a card when it is covered can be computed: no text of the buffer is in it.
theorem card_covered (left right : Editor) (modes : left.mode = right.mode) :
    left.view.card.covered false = right.view.card.covered false := by
  obtain ⟨opened, buffer, mode⟩ := left
  obtain ⟨other, typed, same⟩ := right
  cases modes
  cases mode <;> rfl

theorem card_read (editor : Editor) :
    Markup.read editor.view.card.html = some editor.view.card.tokens :=
  read_html _ editor.view.card_proper

theorem card_cover (left right : Editor) (modes : left.mode = right.mode) :
    cover 0 left.view.card.tokens = cover 0 right.view.card.tokens :=
  covered_alike _ _ (card_covered left right modes)

theorem card_marks (left right : Editor) (modes : left.mode = right.mode) :
    left.view.card.tokens.filterMap Token.mark? =
      right.view.card.tokens.filterMap Token.mark? := by
  rw [← cover_marks 0, card_cover left right modes, cover_marks]

-- Tags are counted on the card of a record without any text.
theorem card_occurrences (editor : Editor) (name : String) (named : isName name.toList) :
    let blank : Editor := ⟨Record.empty, Record.empty, editor.mode⟩
    occurrences ('<' :: name.toList) editor.view.card.html.toList =
      blank.view.card.tokens.countP (Token.begins name.toList) := by
  intro blank
  rw [occurrences_read _ _ _ named (card_read editor), ← cover_begins _ 0,
    card_cover editor blank rfl, cover_begins]

theorem texts_shape_no_markup :
    (∀ editor : Editor,
      let blank : Editor := ⟨Record.empty, Record.empty, editor.mode⟩
      ∃ tokens others, Markup.read editor.view.card.html = some tokens ∧
        Markup.read blank.view.card.html = some others ∧
        tokens.filterMap Token.mark? = others.filterMap Token.mark?) ∧
    (∀ editor : Editor,
      let count := fun pattern : String =>
        occurrences pattern.toList editor.view.card.html.toList
      (count "<input", count "<button", count "<span") =
        match editor.mode with
        | .viewing => (0, 1, 2)
        | .editing => (3, 2, 0)) ∧
    (∀ left right : Editor, left.mode = right.mode →
      ∃ tokens others, Markup.read left.view.card.html = some tokens ∧
        Markup.read right.view.card.html = some others ∧
        spelling tokens = left.view.card.html.toList ∧
        spelling others = right.view.card.html.toList ∧
        cover 0 tokens = cover 0 others) := by
  refine ⟨?_, ?_, ?_⟩
  · intro editor blank
    exact ⟨_, _, card_read editor, card_read blank, card_marks editor blank rfl⟩
  · intro editor count
    have inputs : count "<input" = _ := card_occurrences editor "input" rfl
    have buttons : count "<button" = _ := card_occurrences editor "button" rfl
    have spans : count "<span" = _ := card_occurrences editor "span" rfl
    rw [inputs, buttons, spans]
    cases editor.mode <;> rfl
  · intro left right modes
    have mine := card_read left
    have theirs := card_read right
    exact ⟨_, _, mine, theirs, ((read_iff _ _).mp mine).2, ((read_iff _ _).mp theirs).2,
      card_cover left right modes⟩

-- Each text would end what it stands in if it were written as it is.
def breaking : Record := ⟨"</span><button>", "\"/><input ", "x\" onerror=\"y"⟩

theorem texts_shape_no_markup_breaking :
    let left : Editor := ⟨Sample.alice, breaking, .editing⟩
    let right := ((start Sample.alice).apply .beginEdit).1
    left.mode = right.mode ∧ left.view.card.tokens ≠ right.view.card.tokens ∧
      Markup.read left.view.card.html = some left.view.card.tokens ∧
      ∃ tokens others, Markup.read left.view.card.html = some tokens ∧
        Markup.read right.view.card.html = some others ∧
        spelling tokens = left.view.card.html.toList ∧
        spelling others = right.view.card.html.toList ∧
        cover 0 tokens = cover 0 others := by
  intro left right
  exact ⟨rfl, by decide +kernel, card_read left, texts_shape_no_markup.2.2 left right rfl⟩

end Editor

end EditableProfile
