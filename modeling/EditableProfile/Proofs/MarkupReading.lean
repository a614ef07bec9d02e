import EditableProfile.Markup

/-!
Markup as it is read. A reader goes over the characters of a text once and finds the tags, each with
the names and values of its attributes, and the characters between the tags. It accepts just the
texts that spell such tokens, so that a text has one reading at most.
-/

set_option autoImplicit false

namespace EditableProfile.Markup

structure Opening where
  name : String
  attributes : List (String × String)
deriving DecidableEq, Repr

def Opening.push (opening : Opening) (name value : String) : Opening :=
  { opening with attributes := opening.attributes ++ [(name, value)] }

inductive Token where
  | start (opening : Opening) (void : Bool)
  | finish (name : String)
  | char (c : Char)
deriving DecidableEq, Repr

def isNamePart (c : Char) : Bool := c.isAlphanum || c == '-'

def isName : List Char → Bool
  | [] => false
  | first :: rest => first.isAlpha && rest.all isNamePart

def isValuePart (c : Char) : Bool := c != '"' && c != '<'

inductive Role where
  | start
  | finish
  | key (opening : Opening)
deriving DecidableEq, Repr

inductive Place where
  | text
  | awaiting (role : Role)
  | naming (role : Role) (name : List Char)
  | inside (opening : Opening)
  | assigning (opening : Opening) (name : String)
  | quoting (opening : Opening) (name : String) (value : List Char)
  | ending (opening : Opening)
deriving DecidableEq, Repr

def expect (wanted c : Char) (tokens : List Token) (next : Place) : Option (List Token × Place) :=
  if c = wanted then some (tokens, next) else none

theorem expect_iff (wanted c : Char) (tokens found : List Token) (next last : Place) :
    expect wanted c tokens next = some (found, last) ↔
      c = wanted ∧ tokens = found ∧ next = last := by
  simp [expect]

theorem expect_wanted (c : Char) (tokens : List Token) (next : Place) :
    expect c c tokens next = some (tokens, next) := if_pos rfl

def Opening.step (opening : Opening) (c : Char) : Option (List Token × Place) :=
  if c = ' ' then some ([], .awaiting (.key opening))
  else if c = '/' then some ([], .ending opening)
  else expect '>' c [.start opening false] .text

def Role.step (role : Role) (name : String) (c : Char) : Option (List Token × Place) :=
  match role with
  | .start => Opening.step ⟨name, []⟩ c
  | .finish => expect '>' c [.finish name] .text
  | .key opening => expect '=' c [] (.assigning opening name)

-- Whatever a reader would have to guess at is refused.
def Place.step (place : Place) (c : Char) : Option (List Token × Place) :=
  match place with
  | .text => if c = '<' then some ([], .awaiting .start) else some ([.char c], .text)
  | .awaiting role =>
      if c.isAlpha then some ([], .naming role [c])
      else if c = '/' ∧ role = .start then some ([], .awaiting .finish)
      else none
  | .naming role name =>
      if isNamePart c then some ([], .naming role (name ++ [c]))
      else role.step (String.ofList name) c
  | .inside opening => opening.step c
  | .assigning opening name => expect '"' c [] (.quoting opening name [])
  | .quoting opening name value =>
      if c = '"' then some ([], .inside (opening.push name (String.ofList value)))
      else if c = '<' then none
      else some ([], .quoting opening name (value ++ [c]))
  | .ending opening => expect '>' c [.start opening true] .text

def Place.run (place : Place) : List Char → Option (List Token × Place)
  | [] => some ([], place)
  | c :: rest =>
      (place.step c).bind fun first =>
        (first.2.run rest).map fun later => (first.1 ++ later.1, later.2)

def read (text : String) : Option (List Token) :=
  match Place.text.run text.toList with
  | some (tokens, .text) => some tokens
  | _ => none

def assignment (name value : String) : List Char :=
  ' ' :: (name.toList ++ '=' :: '"' :: (value.toList ++ ['"']))

def Opening.spelled (opening : Opening) : List Char :=
  '<' :: (opening.name.toList ++ opening.attributes.flatMap fun pair => assignment pair.1 pair.2)

def Token.spelled : Token → List Char
  | .start opening void => opening.spelled ++ if void then ['/', '>'] else ['>']
  | .finish name => '<' :: '/' :: (name.toList ++ ['>'])
  | .char c => [c]

def spelling (tokens : List Token) : List Char := tokens.flatMap Token.spelled

@[simp] theorem spelling_nil : spelling [] = [] := rfl

@[simp] theorem spelling_cons (token : Token) (rest : List Token) :
    spelling (token :: rest) = token.spelled ++ spelling rest := rfl

@[simp] theorem spelling_append (front back : List Token) :
    spelling (front ++ back) = spelling front ++ spelling back := List.flatMap_append

theorem spelled_push (opening : Opening) (name value : String) :
    (opening.push name value).spelled = opening.spelled ++ assignment name value := by
  simp [Opening.push, Opening.spelled]

structure Opening.Proper (opening : Opening) : Prop where
  name : isName opening.name.toList
  attributes : ∀ pair ∈ opening.attributes, isName pair.1.toList ∧ pair.2.toList.all isValuePart

def Token.Proper : Token → Prop
  | .start opening _ => opening.Proper
  | .finish name => isName name.toList
  | .char c => c ≠ '<'

def Role.Proper : Role → Prop
  | .key opening => opening.Proper
  | _ => True

def Place.Proper : Place → Prop
  | .text => True
  | .awaiting role => role.Proper
  | .naming role name => role.Proper ∧ isName name
  | .inside opening => opening.Proper
  | .assigning opening name => opening.Proper ∧ isName name.toList
  | .quoting opening name value => opening.Proper ∧ isName name.toList ∧ value.all isValuePart
  | .ending opening => opening.Proper

theorem proper_push (opening : Opening) (name value : String) (proper : opening.Proper)
    (named : isName name.toList) (plain : value.toList.all isValuePart) :
    (opening.push name value).Proper := by
  refine ⟨proper.name, fun pair listed => ?_⟩
  rcases List.mem_append.mp listed with earlier | added
  · exact proper.attributes pair earlier
  · rw [List.mem_singleton.mp added]
    exact ⟨named, plain⟩

theorem name_extended (name : List Char) (c : Char) (named : isName name) (part : isNamePart c) :
    isName (name ++ [c]) := by
  cases name with
  | nil => simp [isName] at named
  | cons first rest => simp_all [isName]

def Role.pending : Role → List Char
  | .start => ['<']
  | .finish => ['<', '/']
  | .key opening => opening.spelled ++ [' ']

def Place.pending : Place → List Char
  | .text => []
  | .awaiting role => role.pending
  | .naming role name => role.pending ++ name
  | .inside opening => opening.spelled
  | .assigning opening name => opening.spelled ++ ' ' :: (name.toList ++ ['='])
  | .quoting opening name value => opening.spelled ++ ' ' :: (name.toList ++ '=' :: '"' :: value)
  | .ending opening => opening.spelled ++ ['/']

/-- What has been read from one place to another: proper tokens, which spell the text but for what
is still under way. -/
structure Accounts (place : Place) (text : List Char) (tokens : List Token) (last : Place) :
    Prop where
  proper : last.Proper
  found : ∀ token ∈ tokens, token.Proper
  kept : place.pending ++ text = spelling tokens ++ last.pending

theorem opening_step_accounts (opening : Opening) (c : Char) (tokens : List Token) (next : Place)
    (proper : opening.Proper) (stepped : opening.step c = some (tokens, next)) :
    Accounts (.inside opening) [c] tokens next := by
  unfold Opening.step at stepped
  split at stepped
  · cases stepped
    subst c
    exact ⟨proper, nofun, rfl⟩
  split at stepped
  · cases stepped
    subst c
    exact ⟨proper, nofun, rfl⟩
  · obtain ⟨rfl, rfl, rfl⟩ := (expect_iff _ _ _ _ _ _).mp stepped
    refine ⟨trivial, ?_, ?_⟩
    · simpa [Token.Proper] using proper
    · simp [Place.pending, Token.spelled]

theorem role_step_accounts (role : Role) (name : List Char) (c : Char) (tokens : List Token)
    (next : Place) (proper : role.Proper) (named : isName name)
    (stepped : role.step (String.ofList name) c = some (tokens, next)) :
    Accounts (.naming role name) [c] tokens next := by
  cases role with
  | start =>
      have complete : Opening.Proper ⟨String.ofList name, []⟩ := ⟨by simpa using named, nofun⟩
      have inside := opening_step_accounts _ c tokens next complete stepped
      refine ⟨inside.proper, inside.found, ?_⟩
      simpa [Place.pending, Role.pending, Opening.spelled] using inside.kept
  | finish =>
      obtain ⟨rfl, rfl, rfl⟩ := (expect_iff _ _ _ _ _ _).mp stepped
      refine ⟨trivial, ?_, ?_⟩
      · simpa [Token.Proper] using named
      · simp [Place.pending, Role.pending, Token.spelled]
  | key opening =>
      obtain ⟨rfl, rfl, rfl⟩ := (expect_iff _ _ _ _ _ _).mp stepped
      refine ⟨⟨proper, by simpa using named⟩, nofun, ?_⟩
      simp [Place.pending, Role.pending]

theorem step_accounts (place : Place) (c : Char) (tokens : List Token) (next : Place)
    (proper : place.Proper) (stepped : place.step c = some (tokens, next)) :
    Accounts place [c] tokens next := by
  cases place with
  | text =>
      simp only [Place.step] at stepped
      split at stepped
      · cases stepped
        subst c
        exact ⟨trivial, nofun, rfl⟩
      · rename_i plain
        cases stepped
        exact ⟨trivial, by simpa [Token.Proper] using plain, rfl⟩
  | awaiting role =>
      simp only [Place.step] at stepped
      split at stepped
      · rename_i letter
        cases stepped
        exact ⟨⟨proper, by simpa [isName] using letter⟩, nofun, rfl⟩
      split at stepped
      · rename_i closing
        cases stepped
        obtain ⟨rfl, rfl⟩ := closing
        exact ⟨trivial, nofun, rfl⟩
      · cases stepped
  | naming role name =>
      obtain ⟨proper, named⟩ := proper
      simp only [Place.step] at stepped
      split at stepped
      · rename_i part
        cases stepped
        exact ⟨⟨proper, name_extended name c named part⟩, nofun, by simp [Place.pending]⟩
      · exact role_step_accounts role name c tokens next proper named stepped
  | inside opening => exact opening_step_accounts opening c tokens next proper stepped
  | assigning opening name =>
      obtain ⟨rfl, rfl, rfl⟩ := (expect_iff _ _ _ _ _ _).mp stepped
      exact ⟨⟨proper.1, proper.2, rfl⟩, nofun, by simp [Place.pending]⟩
  | quoting opening name value =>
      obtain ⟨proper, named, plain⟩ := proper
      simp only [Place.step] at stepped
      split at stepped
      · cases stepped
        subst c
        refine ⟨proper_push opening name _ proper named (by simpa using plain), nofun, ?_⟩
        simp [Place.pending, spelled_push, assignment]
      split at stepped
      · cases stepped
      · rename_i quote angle
        cases stepped
        refine ⟨⟨proper, named, ?_⟩, nofun, by simp [Place.pending]⟩
        simp_all [isValuePart]
  | ending opening =>
      obtain ⟨rfl, rfl, rfl⟩ := (expect_iff _ _ _ _ _ _).mp stepped
      have complete : opening.Proper := proper
      refine ⟨trivial, ?_, ?_⟩
      · simpa [Token.Proper] using complete
      · simp [Place.pending, Token.spelled]

theorem run_accounts (place : Place) (text : List Char) (tokens : List Token) (last : Place)
    (proper : place.Proper) (read : place.run text = some (tokens, last)) :
    Accounts place text tokens last := by
  induction text generalizing place tokens with
  | nil =>
      cases read
      exact ⟨proper, nofun, by simp⟩
  | cons c rest hypothesis =>
      simp only [Place.run, Option.bind_eq_some_iff, Option.map_eq_some_iff, Prod.exists,
        Prod.mk.injEq] at read
      obtain ⟨first, next, stepped, later, final, followed, rfl, rfl⟩ := read
      have here := step_accounts place c first next proper stepped
      have there := hypothesis next later here.proper followed
      refine ⟨there.proper, ?_, ?_⟩
      · exact List.forall_mem_append.mpr ⟨here.found, there.found⟩
      · calc
          place.pending ++ c :: rest = (place.pending ++ [c]) ++ rest := by simp
          _ = spelling first ++ (next.pending ++ rest) := by rw [here.kept, List.append_assoc]
          _ = spelling (first ++ later) ++ final.pending := by
            rw [there.kept, spelling_append, List.append_assoc]

theorem run_append (place : Place) (front back : List Char) :
    place.run (front ++ back) = (place.run front).bind fun first =>
      (first.2.run back).map fun later => (first.1 ++ later.1, later.2) := by
  induction front generalizing place with
  | nil => simp [Place.run]
  | cons c rest hypothesis =>
      rw [List.cons_append, Place.run, Place.run]
      cases place.step c with
      | none => rfl
      | some first =>
          simp only [Option.bind_some, hypothesis]
          cases first.2.run rest with
          | none => rfl
          | some later =>
              simp only [Option.bind_some, Option.map_some, Option.map_map]
              congr 1
              funext final
              simp

theorem run_through (place middle : Place) (front back : List Char)
    (silent : place.run front = some ([], middle)) :
    place.run (front ++ back) = middle.run back := by
  simp [run_append, silent]

theorem run_joined (place middle last : Place) (front back : List Char) (first later : List Token)
    (here : place.run front = some (first, middle)) (there : middle.run back = some (later, last)) :
    place.run (front ++ back) = some (first ++ later, last) := by
  simp [run_append, here, there]

theorem run_name_rest (role : Role) (name rest : List Char) (parts : rest.all isNamePart) :
    (Place.naming role name).run rest = some ([], .naming role (name ++ rest)) := by
  induction rest generalizing name with
  | nil => simp [Place.run]
  | cons c rest hypothesis =>
      obtain ⟨part, parts⟩ := Bool.and_eq_true_iff.mp parts
      simp [Place.run, Place.step, part, hypothesis _ parts]

theorem run_name (role : Role) (name : List Char) (named : isName name) :
    (Place.awaiting role).run name = some ([], .naming role name) := by
  cases name with
  | nil => simp [isName] at named
  | cons first rest =>
      obtain ⟨letter, parts⟩ := Bool.and_eq_true_iff.mp named
      simp [Place.run, Place.step, letter, run_name_rest role [first] rest parts]

theorem run_value (opening : Opening) (name : String) (value rest : List Char)
    (plain : rest.all isValuePart) :
    (Place.quoting opening name value).run rest =
      some ([], .quoting opening name (value ++ rest)) := by
  induction rest generalizing value with
  | nil => simp [Place.run]
  | cons c rest hypothesis =>
      obtain ⟨part, parts⟩ := Bool.and_eq_true_iff.mp plain
      obtain ⟨quote, angle⟩ : c ≠ '"' ∧ c ≠ '<' := by simpa [isValuePart] using part
      simp [Place.run, Place.step, quote, angle, hypothesis _ parts]

theorem run_assignment (opening : Opening) (name value : String) (named : isName name.toList)
    (plain : value.toList.all isValuePart) :
    (Place.inside opening).run (assignment name value) =
      some ([], .inside (opening.push name value)) := by
  have key : (Place.inside opening).run (' ' :: name.toList) =
      some ([], .naming (.key opening) name.toList) := by
    simp [Place.run, Place.step, Opening.step, run_name _ _ named]
  have quoted := run_value opening name [] value.toList plain
  have valued : (Place.quoting opening name []).run (value.toList ++ ['"']) =
      some ([], .inside (opening.push name value)) := by
    rw [run_through _ _ _ _ quoted]
    simp [Place.run, Place.step]
  have assigned : (Place.naming (.key opening) name.toList).run
      ('=' :: '"' :: (value.toList ++ ['"'])) = some ([], .inside (opening.push name value)) := by
    have outside : isNamePart '=' = false := by decide
    simp [Place.run, Place.step, Role.step, expect_wanted, outside, valued]
  exact run_joined _ _ _ _ _ [] [] key assigned

theorem run_assignments (opening : Opening) (attributes : List (String × String))
    (proper : ∀ pair ∈ attributes, isName pair.1.toList ∧ pair.2.toList.all isValuePart) :
    (Place.inside opening).run (attributes.flatMap fun pair => assignment pair.1 pair.2) =
      some ([], .inside { opening with attributes := opening.attributes ++ attributes }) := by
  induction attributes generalizing opening with
  | nil => simp [Place.run]
  | cons pair rest hypothesis =>
      obtain ⟨⟨named, plain⟩, others⟩ := List.forall_mem_cons.mp proper
      have first := run_assignment opening pair.1 pair.2 named plain
      have later := hypothesis (opening.push pair.1 pair.2) others
      rw [List.flatMap_cons, run_through _ _ _ _ first, later]
      simp [Opening.push]

theorem run_name_ended (name rest : List Char) (c : Char) (ended : isNamePart c = false) :
    (Place.naming .start name).run (c :: rest) =
      (Place.inside ⟨String.ofList name, []⟩).run (c :: rest) := by
  simp [Place.run, Place.step, Role.step, ended]

theorem run_opening (opening : Opening) (rest : List Char) (c : Char) (proper : opening.Proper)
    (ended : isNamePart c = false) :
    Place.text.run (opening.spelled ++ c :: rest) = (Place.inside opening).run (c :: rest) := by
  have named : Place.text.run ('<' :: opening.name.toList) =
      some ([], .naming .start opening.name.toList) := by
    simp [Place.run, Place.step, run_name _ _ proper.name]
  have attributes := run_assignments ⟨opening.name, []⟩ opening.attributes proper.attributes
  have further : (Place.naming .start opening.name.toList).run
      ((opening.attributes.flatMap fun pair => assignment pair.1 pair.2) ++ c :: rest) =
      (Place.inside ⟨opening.name, []⟩).run
        ((opening.attributes.flatMap fun pair => assignment pair.1 pair.2) ++ c :: rest) := by
    -- The name ends at the space in front of the first attribute, or else at `c`.
    cases opening.attributes with
    | nil => simpa using run_name_ended opening.name.toList rest c ended
    | cons pair others =>
        have space := run_name_ended opening.name.toList
        simpa [assignment] using space _ ' ' (by decide)
  calc
    Place.text.run (opening.spelled ++ c :: rest) = _ := by
      rw [Opening.spelled, ← List.cons_append, List.append_assoc, run_through _ _ _ _ named]
    _ = _ := further
    _ = (Place.inside opening).run (c :: rest) := by
      rw [run_through _ _ _ _ attributes]
      rfl

theorem run_spelled (token : Token) (proper : token.Proper) :
    Place.text.run token.spelled = some ([token], .text) := by
  cases token with
  | start opening void =>
      cases void with
      | false =>
          rw [Token.spelled, if_neg (by decide), run_opening opening [] '>' proper (by decide)]
          rfl
      | true =>
          rw [Token.spelled, if_pos rfl, run_opening opening ['>'] '/' proper (by decide)]
          rfl
  | finish name =>
      have named : Place.text.run ('<' :: '/' :: name.toList) =
          some ([], .naming .finish name.toList) := by
        have slash : '/'.isAlpha = false := by decide
        simp [Place.run, Place.step, slash, run_name _ _ proper]
      have ended : (Place.naming .finish name.toList).run ['>'] = some ([.finish name], .text) := by
        have outside : isNamePart '>' = false := by decide
        simp [Place.run, Place.step, Role.step, expect_wanted, outside]
      exact run_joined _ _ _ _ _ [] _ named ended
  | char c =>
      have plain : c ≠ '<' := proper
      simp [Token.spelled, Place.run, Place.step, plain]

theorem run_spelling (tokens : List Token) (proper : ∀ token ∈ tokens, token.Proper) :
    Place.text.run (spelling tokens) = some (tokens, .text) := by
  induction tokens with
  | nil => rfl
  | cons token rest hypothesis =>
      obtain ⟨here, later⟩ := List.forall_mem_cons.mp proper
      exact run_joined _ _ _ _ _ [token] rest (run_spelled token here) (hypothesis later)

theorem read_iff (text : String) (tokens : List Token) :
    read text = some tokens ↔ (∀ token ∈ tokens, token.Proper) ∧ spelling tokens = text.toList := by
  constructor
  · intro found
    unfold read at found
    split at found
    · rename_i run
      cases found
      have accounts := run_accounts .text text.toList tokens .text trivial run
      exact ⟨accounts.found, by simpa [Place.pending] using accounts.kept.symm⟩
    · cases found
  · rintro ⟨proper, spelled⟩
    rw [read, ← spelled, run_spelling tokens proper]

example : read "<a href=\"x\">b</a><br/>" =
    some [.start ⟨"a", [("href", "x")]⟩ false, .char 'b', .finish "a", .start ⟨"br", []⟩ true] := by
  decide +kernel

end EditableProfile.Markup
