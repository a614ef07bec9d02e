import EditableProfile.Json.Reader

set_option autoImplicit false

namespace EditableProfile.Json

variable {α β : Type}

structure Consumes (reader : Reader α) (text : List Char) (made : α) : Prop where
  read : ∀ rest, reader (text ++ rest) = .ok (made, rest)
  cut : ∀ front back, text = front ++ back → back ≠ [] → reader front = .error .ended

theorem Consumes.nothing (reader : Reader α) (made : α)
    (read : ∀ rest, reader rest = .ok (made, rest)) : Consumes reader [] made := by
  refine ⟨read, ?_⟩
  intro front back split missing
  exact absurd (List.append_eq_nil_iff.mp split.symm).2 missing

-- A cut falls into the first text or into what follows it.
theorem Consumes.cut_either {first : Reader α} {next : α × List Char → Except Fault β}
    {text more : List Char} {made : α} (here : Consumes first text made)
    (later : ∀ front back, more = front ++ back → back ≠ [] → next (made, front) = .error .ended)
    (front back : List Char) (split : text ++ more = front ++ back) (missing : back ≠ []) :
    (first front >>= next) = .error .ended := by
  have behind : ∀ left, more = left ++ back → (first (text ++ left) >>= next) = .error .ended := by
    intro left rest
    simp only [here.read]
    exact later left back rest missing
  rcases List.append_eq_append_iff.mp split with ⟨left, rfl, rest⟩ | ⟨left, inside, rest⟩
  · exact behind left rest
  · cases left with
    | nil =>
        rw [List.append_nil] at inside
        have whole := behind [] rest.symm
        rwa [List.append_nil, inside] at whole
    | cons c left =>
        simp only [here.cut front (c :: left) inside (by simp)]
        rfl

theorem Consumes.bind {first : Reader α} {next : α × List Char → Except Fault (β × List Char)}
    {text more : List Char} {made : α} {result : β} (here : Consumes first text made)
    (later : Consumes (fun text => next (made, text)) more result) :
    Consumes (fun text => first text >>= next) (text ++ more) result := by
  refine ⟨fun rest => ?_, here.cut_either later.cut⟩
  simp only [List.append_assoc, here.read]
  exact later.read rest

theorem Consumes.finish {first : Reader α} {next : α × List Char → Except Fault (β × List Char)}
    {text : List Char} {made : α} {result : β} (here : Consumes first text made)
    (last : ∀ rest, next (made, rest) = .ok (result, rest)) :
    Consumes (fun text => first text >>= next) text result := by
  have consumes := here.bind (.nothing (fun text => next (made, text)) result last)
  rwa [List.append_nil] at consumes

theorem Consumes.behind {reader inner : Reader α} {c : Char} {text : List Char} {made : α}
    (none : reader [] = .error .ended) (opened : ∀ rest, reader (c :: rest) = inner rest)
    (inside : Consumes inner text made) : Consumes reader (c :: text) made := by
  constructor
  · intro rest
    rw [List.cons_append, opened]
    exact inside.read rest
  · intro front back split missing
    cases front with
    | nil => exact none
    | cons head front =>
        obtain ⟨rfl, rest⟩ := List.cons.inj split
        rw [opened]
        exact inside.cut front back rest missing

end EditableProfile.Json
