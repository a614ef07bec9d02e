import EditableProfile.Json.Mismatch

/-!
Reading JSON text from left to right. A reader takes one thing off the front of a text and hands back
the rest, so that the first thing wrong on the way decides the fault.
-/

set_option autoImplicit false

namespace EditableProfile.Json

abbrev Reader (α : Type) := List Char → Except Fault (α × List Char)

def isSpace (c : Char) : Bool := c == ' ' || c == '\n' || c == '\r' || c == '\t'

def skipSpace (text : List Char) : List Char := text.dropWhile isSpace

def mark (c : Char) : Reader Unit := fun text =>
  match skipSpace text with
  | [] => .error .ended
  | head :: rest => if head = c then .ok ((), rest) else .error .malformed

def word : List Char → Reader Unit
  | [], text => .ok ((), text)
  | _ :: _, [] => .error .ended
  | letter :: letters, head :: rest =>
      if head = letter then word letters rest else .error .malformed

-- Entries up to the closing mark, a comma before each. A round takes at least the comma, so that a
-- count of the text's length is only used up where the text is.
def moreEntries {σ : Type} (close : Char) (entry : σ → Reader σ) : Nat → σ → Reader σ
  | 0, _, _ => .error .ended
  | count + 1, state, text =>
      match skipSpace text with
      | [] => .error .ended
      | c :: rest =>
          if c = close then .ok (state, rest)
          else if c = ',' then do
            let (state, rest) ← entry state rest
            moreEntries close entry count state rest
          else .error .malformed

def entries {σ : Type} (close : Char) (entry : σ → Reader σ) (state : σ) : Reader σ := fun text =>
  match skipSpace text with
  | [] => .error .ended
  | c :: rest =>
      if c = close then .ok (state, rest)
      else do
        let (state, rest) ← entry state (c :: rest)
        moreEntries close entry rest.length state rest

def whole {α : Type} (reader : Reader α) (text : String) : Except Fault α := do
  let (result, rest) ← reader text.toList
  if (skipSpace rest).isEmpty then return result else .error .malformed

theorem bind_ok {α β : Type} {first : Except Fault α} {next : α → Except Fault β} {result : β}
    (read : (first >>= next) = .ok result) : ∃ a, first = .ok a ∧ next a = .ok result := by
  cases first with
  | error fault => cases read
  | ok a => exact ⟨a, rfl, read⟩

theorem ok_rest {α : Type} {a b : α} {rest rest' : List Char}
    (same : (pure (a, rest) : Except Fault (α × List Char)) = .ok (b, rest')) : rest = rest' :=
  congrArg Prod.snd (Except.ok.inj same)

end EditableProfile.Json
