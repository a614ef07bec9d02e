import EditableProfile.Proofs.StringReading
import Mathlib.Data.List.Forall2

set_option autoImplicit false

namespace EditableProfile.Json

variable {σ μ : Type}

def Opens (close : Char) (part : List Char) : Prop :=
  ∃ head tail, part = head :: tail ∧ isSpace head = false ∧ head ≠ close

theorem separated_cons (part : List Char) (parts : List (List Char)) :
    separated (part :: parts) = part ++ parts.flatMap fun other => ',' :: other := by
  induction parts generalizing part with
  | nil => simp [separated]
  | cons next parts hypothesis =>
      rw [separated, hypothesis, List.flatMap_cons, List.cons_append]
      simp

theorem length_le_flat_map_comma (parts : List (List Char)) :
    parts.length ≤ (parts.flatMap fun part => ',' :: part).length := by
  induction parts with
  | nil => exact Nat.le_refl 0
  | cons part parts hypothesis =>
      simp only [List.flatMap_cons, List.length_append, List.length_cons]
      omega

theorem opens_quote (close : Char) (text : String) (rest : List Char) (different : close ≠ '"') :
    Opens close (quote text ++ rest) :=
  ⟨'"', _, rfl, rfl, Ne.symm different⟩

theorem skip_space_solid (c : Char) (rest : List Char) (solid : isSpace c = false) :
    skipSpace (c :: rest) = c :: rest := by
  simp [skipSpace, solid]

theorem mark_here (c : Char) (rest : List Char) (solid : isSpace c = false) :
    mark c (c :: rest) = .ok ((), rest) := by
  simp [mark, skip_space_solid c rest solid]

theorem mark_consumes (c : Char) (solid : isSpace c = false) : Consumes (mark c) [c] () :=
  .behind rfl (fun rest => mark_here c rest solid) (.nothing _ () fun _ => rfl)

theorem key_consumes (content : String) (quoted : List Char) (spelt : SpellsString content quoted) :
    Consumes key quoted content := by
  obtain ⟨body, chars, rfl⟩ := spelt
  exact (mark_consumes '"' rfl).bind (string_consumes content body chars)

theorem skip_spaces (gap text : List Char) (spaces : Spaces gap) :
    skipSpace (gap ++ text) = skipSpace text :=
  List.dropWhile_append_of_pos spaces

theorem skip_spaces_solid (gap : List Char) (c : Char) (rest : List Char) (spaces : Spaces gap)
    (solid : isSpace c = false) : skipSpace (gap ++ c :: rest) = c :: rest := by
  rw [skip_spaces gap _ spaces, skip_space_solid c rest solid]

theorem mark_spaces (c : Char) (gap rest : List Char) (spaces : Spaces gap)
    (solid : isSpace c = false) : mark c (gap ++ c :: rest) = .ok ((), rest) := by
  simp [mark, skip_spaces_solid gap c rest spaces solid]

inductive Follow (entry : σ → Reader σ) : σ → List (List Char) → σ → Prop where
  | nil (state : σ) : Follow entry state [] state
  | cons (state next final : σ) (part : List Char) (parts : List (List Char))
      (here : Consumes (entry state) part next) (later : Follow entry next parts final) :
      Follow entry state (part :: parts) final

theorem more_entries_read (close : Char) (entry : σ → Reader σ) (state final : σ)
    (parts : List (List Char)) (count : Nat) (rest : List Char) (solid : isSpace close = false)
    (distinct : close ≠ ',') (follow : Follow entry state parts final)
    (enough : parts.length < count) :
    moreEntries close entry count state
      ((parts.flatMap fun part => ',' :: part) ++ close :: rest) = .ok (final, rest) := by
  induction follow generalizing count with
  | nil state =>
      cases count with
      | zero => cases enough
      | succ count => simp [moreEntries, skip_space_solid close rest solid]
  | cons state next final part parts here later hypothesis =>
      cases count with
      | zero => cases enough
      | succ count =>
          have remaining := hypothesis count (Nat.lt_of_succ_lt_succ enough)
          rw [List.flatMap_cons, List.cons_append, List.cons_append, List.append_assoc, moreEntries,
            skip_space_solid ',' _ rfl]
          simp only [if_neg (Ne.symm distinct), if_true, here.read]
          exact remaining

-- A round too few is taken for the end of the text as well, so the count does not matter here.
theorem more_entries_cut (close : Char) (entry : σ → Reader σ) (state final : σ)
    (parts : List (List Char)) (count : Nat) (front back : List Char) (distinct : close ≠ ',')
    (follow : Follow entry state parts final)
    (split : (parts.flatMap fun part => ',' :: part) ++ [close] = front ++ back)
    (missing : back ≠ []) : moreEntries close entry count state front = .error .ended := by
  induction follow generalizing count front back with
  | nil state =>
      cases front with
      | nil => cases count <;> rfl
      | cons head front =>
          have none := (List.cons.inj split).2
          exact absurd (List.append_eq_nil_iff.mp none.symm).2 missing
  | cons state next final part parts here later hypothesis =>
      cases count with
      | zero => rfl
      | succ count =>
          cases front with
          | nil => rfl
          | cons head front =>
              rw [List.flatMap_cons, List.cons_append, List.cons_append, List.append_assoc] at split
              obtain ⟨rfl, rest⟩ := List.cons.inj split
              rw [moreEntries, skip_space_solid ',' _ rfl]
              simp only [if_neg (Ne.symm distinct), if_true]
              refine here.cut_either (fun front back split missing => ?_) front back rest missing
              exact hypothesis count front back split missing

theorem entries_consume (close : Char) (entry : σ → Reader σ) (state final : σ) (part : List Char)
    (parts : List (List Char)) (solid : isSpace close = false) (distinct : close ≠ ',')
    (opens : Opens close part) (follow : Follow entry state (part :: parts) final) :
    Consumes (entries close entry state) (separated (part :: parts) ++ [close]) final := by
  obtain ⟨head, tail, rfl, solidHead, different⟩ := opens
  cases follow with
  | cons _ next _ _ _ here later =>
      constructor
      · intro rest
        let behind := (parts.flatMap fun other => ',' :: other) ++ close :: rest
        have enough : parts.length < behind.length := by
          have bound := length_le_flat_map_comma parts
          simp only [behind, List.length_append, List.length_cons]
          omega
        have remaining := more_entries_read close entry next final parts behind.length rest solid
          distinct later enough
        have written : separated ((head :: tail) :: parts) ++ [close] ++ rest =
            head :: tail ++ behind := by
          simp [separated_cons, behind]
        rw [written, entries, List.cons_append, skip_space_solid head _ solidHead]
        simp only [if_neg different]
        rw [← List.cons_append, here.read]
        exact remaining
      · intro front back split missing
        rw [separated_cons, List.append_assoc] at split
        cases front with
        | nil => rfl
        | cons first front =>
            obtain ⟨rfl, _⟩ := List.cons.inj split
            rw [entries, skip_space_solid head _ solidHead]
            simp only [if_neg different]
            refine here.cut_either (fun front back split missing => ?_) _ back split missing
            exact more_entries_cut close entry next final parts _ front back distinct later split
              missing

-- How one entry is read, by what it means and wherever it stands.
structure Advances (close : Char) (entry : σ → Reader σ) (step : σ → μ → Except Fault σ)
    (meaning : μ) (core : List Char) : Prop where
  opens : Opens close core
  read : ∀ state lead rest, Spaces lead →
    entry state (lead ++ (core ++ rest)) = (step state meaning).map fun next => (next, rest)

theorem more_entries_spaces (close : Char) (entry : σ → Reader σ) (count : Nat) (state : σ)
    (gap text : List Char) (spaces : Spaces gap) :
    moreEntries close entry count state (gap ++ text) = moreEntries close entry count state text := by
  cases count with
  | zero => rfl
  | succ count => rw [moreEntries, moreEntries, skip_spaces gap text spaces]

theorem more_entries_end (close : Char) (entry : σ → Reader σ) (count : Nat) (state : σ)
    (gap rest : List Char) (spaces : Spaces gap) (solid : isSpace close = false) :
    moreEntries close entry (count + 1) state (gap ++ close :: rest) = .ok (state, rest) := by
  rw [moreEntries, skip_spaces_solid gap close rest spaces solid]
  exact if_pos rfl

theorem more_entries_advance (close : Char) (entry : σ → Reader σ) (step : σ → μ → Except Fault σ)
    (meanings : List μ) (parts : List (List Char)) (state : σ) (count : Nat) (text : List Char)
    (distinct : ',' ≠ close)
    (advances : List.Forall₂ (fun meaning => Padded (Advances close entry step meaning))
      meanings parts) :
    moreEntries close entry (count + parts.length) state
        ((parts.flatMap fun part => ',' :: part) ++ text) =
      meanings.foldlM step state >>= fun final => moreEntries close entry count final text := by
  induction advances generalizing state with
  | nil => rfl
  | @cons meaning part meanings parts here later hypothesis =>
      obtain ⟨before, core, after, spacesBefore, advance, spacesAfter, rfl⟩ := here
      have read := advance.read state before
        (after ++ ((parts.flatMap fun part => ',' :: part) ++ text)) spacesBefore
      rw [List.flatMap_cons, List.cons_append, List.cons_append, List.append_assoc,
        List.append_assoc, List.append_assoc, List.length_cons, ← Nat.add_assoc, moreEntries,
        skip_space_solid ',' _ rfl]
      simp only [if_neg distinct, if_true, read, List.foldlM_cons]
      cases step state meaning with
      | error fault => rfl
      | ok next =>
          exact (more_entries_spaces close entry _ next after _ spacesAfter).trans (hypothesis next)

-- Behind the first entry the loop still has a round for each character that is left.
theorem entries_advance (close : Char) (entry : σ → Reader σ) (step : σ → μ → Except Fault σ)
    (meanings : List μ) (part : List Char) (parts : List (List Char)) (state : σ)
    (text : List Char) (distinct : ',' ≠ close)
    (advances : List.Forall₂ (fun meaning => Padded (Advances close entry step meaning))
      meanings (part :: parts)) :
    ∃ count, text.length ≤ count ∧ entries close entry state (separated (part :: parts) ++ text) =
      meanings.foldlM step state >>= fun final => moreEntries close entry count final text := by
  cases advances with
  | @cons meaning _ meanings _ here later =>
      obtain ⟨before, core, after, spacesBefore, advance, spacesAfter, rfl⟩ := here
      obtain ⟨head, tail, rfl, solid, different⟩ := advance.opens
      let behind := after ++ ((parts.flatMap fun part => ',' :: part) ++ text)
      have bound := length_le_flat_map_comma parts
      have enough : text.length + parts.length ≤ behind.length := by
        simp only [behind, List.length_append]
        omega
      obtain ⟨spare, length⟩ := Nat.exists_eq_add_of_le enough
      refine ⟨text.length + spare, Nat.le_add_right _ _, ?_⟩
      have read := advance.read state [] behind (by decide)
      have loop := fun next => more_entries_advance close entry step meanings parts next
        (text.length + spare) text distinct later
      rw [List.nil_append, List.cons_append] at read
      rw [separated_cons, List.append_assoc, List.append_assoc, List.append_assoc, entries,
        List.cons_append, skip_spaces_solid before head _ spacesBefore solid, List.foldlM_cons]
      simp only [if_neg different]
      rw [read]
      cases step state meaning with
      | error fault => rfl
      | ok next =>
          change moreEntries close entry behind.length next behind = _
          rw [length, Nat.add_right_comm]
          exact (more_entries_spaces close entry _ next after _ spacesAfter).trans (loop next)

theorem more_entries_close (close : Char) (entry : σ → Reader σ) (step : σ → μ → Except Fault σ)
    (meanings : List μ) (parts : List (List Char)) (state : σ) (count : Nat) (gap rest : List Char)
    (solid : isSpace close = false) (distinct : ',' ≠ close) (spaces : Spaces gap)
    (enough : parts.length < count)
    (advances : List.Forall₂ (fun meaning => Padded (Advances close entry step meaning))
      meanings parts) :
    moreEntries close entry count state
        ((parts.flatMap fun part => ',' :: part) ++ (gap ++ close :: rest)) =
      (meanings.foldlM step state).map fun final => (final, rest) := by
  obtain ⟨spare, rfl⟩ := Nat.exists_eq_add_of_le enough
  have loop := more_entries_advance close entry step meanings parts state (spare + 1)
    (gap ++ close :: rest) distinct advances
  rw [Nat.add_comm (parts.length.succ) spare, Nat.add_succ, ← Nat.succ_add, loop]
  cases meanings.foldlM step state with
  | error fault => rfl
  | ok final => exact more_entries_end close entry spare final gap rest spaces solid

theorem entries_close (close : Char) (entry : σ → Reader σ) (step : σ → μ → Except Fault σ)
    (meanings : List μ) (parts : List (List Char)) (state : σ) (gap rest : List Char)
    (solid : isSpace close = false) (distinct : ',' ≠ close) (spaces : Spaces gap)
    (advances : List.Forall₂ (fun meaning => Padded (Advances close entry step meaning))
      meanings parts) :
    entries close entry state (separated parts ++ (gap ++ close :: rest)) =
      (meanings.foldlM step state).map fun final => (final, rest) := by
  cases parts with
  | nil =>
      cases advances
      rw [separated, List.nil_append, entries, skip_spaces_solid gap close rest spaces solid]
      exact if_pos rfl
  | cons part parts =>
      obtain ⟨count, enough, read⟩ := entries_advance close entry step meanings part parts state
        (gap ++ close :: rest) distinct advances
      rw [read]
      cases meanings.foldlM step state with
      | error fault => rfl
      | ok final =>
          cases count with
          | zero => simp at enough
          | succ count => exact more_entries_end close entry count final gap rest spaces solid

theorem entries_stuck (close : Char) (entry : σ → Reader σ) (step : σ → μ → Except Fault σ)
    (meanings : List μ) (part : List Char) (parts : List (List Char)) (state final : σ)
    (text : List Char) (fault : Fault) (distinct : ',' ≠ close)
    (advances : List.Forall₂ (fun meaning => Padded (Advances close entry step meaning))
      meanings (part :: parts))
    (reached : meanings.foldlM step state = .ok final) (stuck : entry final text = .error fault) :
    entries close entry state (separated (part :: parts) ++ ',' :: text) = .error fault := by
  obtain ⟨count, enough, read⟩ := entries_advance close entry step meanings part parts state
    (',' :: text) distinct advances
  rw [read, reached]
  cases count with
  | zero => cases enough
  | succ count =>
      change moreEntries close entry (count + 1) final (',' :: text) = _
      rw [moreEntries, skip_space_solid ',' _ rfl]
      simp only [if_neg distinct, if_true, stuck]
      rfl

structure Stepwise (gather : σ → List μ → Except Mismatch σ) : Prop where
  nil : ∀ state, gather state [] = .ok state
  cons : ∀ state one rest,
    gather state (one :: rest) = gather state [one] >>= fun next => gather next rest

def stepOf (gather : σ → List μ → Except Mismatch σ) (state : σ) (one : μ) : Except Fault σ :=
  (gather state [one]).mapError Fault.mismatch

theorem Stepwise.append {gather : σ → List μ → Except Mismatch σ} (stepwise : Stepwise gather)
    (state : σ) (first second : List μ) :
    gather state (first ++ second) = gather state first >>= fun next => gather next second := by
  induction first generalizing state with
  | nil =>
      rw [stepwise.nil]
      rfl
  | cons one rest hypothesis =>
      rw [List.cons_append, stepwise.cons, stepwise.cons state one rest]
      cases gather state [one] with
      | error cause => rfl
      | ok next => exact hypothesis next

theorem Stepwise.fold {gather : σ → List μ → Except Mismatch σ} (stepwise : Stepwise gather)
    (state : σ) (list : List μ) :
    (gather state list).mapError Fault.mismatch = list.foldlM (stepOf gather) state := by
  induction list generalizing state with
  | nil =>
      rw [stepwise.nil]
      rfl
  | cons one rest hypothesis =>
      rw [stepwise.cons, List.foldlM_cons, stepOf]
      cases gather state [one] with
      | error cause => rfl
      | ok next => exact hypothesis next

end EditableProfile.Json
