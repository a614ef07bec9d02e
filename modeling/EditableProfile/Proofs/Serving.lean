set_option autoImplicit false

namespace EditableProfile

variable {σ ι α : Type}

def serve (step : σ → ι → σ × α) (state : σ) : List ι → σ × List α
  | [] => (state, [])
  | input :: rest =>
      let first := step state input
      let later := serve step first.1 rest
      (later.1, first.2 :: later.2)

theorem serve_append (step : σ → ι → σ × α) (state : σ) (before after : List ι) :
    serve step state (before ++ after) =
      ((serve step (serve step state before).1 after).1,
        (serve step state before).2 ++ (serve step (serve step state before).1 after).2) := by
  induction before generalizing state with
  | nil => rfl
  | cons input rest hypothesis => simp [serve, hypothesis]

theorem serve_length (step : σ → ι → σ × α) (state : σ) (inputs : List ι) :
    (serve step state inputs).2.length = inputs.length := by
  induction inputs generalizing state with
  | nil => rfl
  | cons input rest hypothesis => simp [serve, hypothesis]

theorem serve_place (step : σ → ι → σ × α) (state : σ) (inputs : List ι) (place : Nat) (input : ι)
    (asked : inputs[place]? = some input) :
    (serve step state inputs).2[place]? =
        some (step (serve step state (inputs.take place)).1 input).2 ∧
      (serve step state (inputs.take (place + 1))).1 =
        (step (serve step state (inputs.take place)).1 input).1 := by
  induction inputs generalizing state place with
  | nil => simp at asked
  | cons first rest hypothesis =>
      cases place with
      | zero =>
          have same : first = input := by simpa using asked
          subst same
          exact ⟨rfl, rfl⟩
      | succ place => exact hypothesis (step state first).1 place asked

end EditableProfile
