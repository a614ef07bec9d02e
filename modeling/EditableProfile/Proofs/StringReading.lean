import EditableProfile.Json.Characters
import EditableProfile.Proofs.Consuming
import EditableProfile.Proofs.JsonSpelling

set_option autoImplicit false

namespace EditableProfile.Json

theorem hex_value_spelt (digit : Nat) (c : Char) (spelt : SpellsDigit digit c) :
    hexValue? c = some digit := by
  have digits : ∀ m < 16, hexValue? (Nat.digitChar m) = some m ∧
      hexValue? (Nat.digitChar m).toUpper = some m := by decide
  obtain ⟨small, rfl | rfl⟩ := spelt
  · exact (digits digit small).1
  · exact (digits digit small).2

theorem code_unit_spelt (unit : Nat) (text rest : List Char) (spelt : SpellsUnit unit text) :
    codeUnit (text ++ rest) = .ok (unit, rest) := by
  obtain ⟨a, b, c, d, speltA, speltB, speltC, speltD, rfl⟩ := spelt
  have value : ((unit / 0x1000 * 16 + unit / 0x100 % 16) * 16 + unit / 0x10 % 16) * 16 + unit % 16 =
      unit := by omega
  simp only [List.cons_append, List.nil_append, codeUnit, hex_value_spelt _ _ speltA,
    hex_value_spelt _ _ speltB, hex_value_spelt _ _ speltC, hex_value_spelt _ _ speltD, value]

theorem byte_count_single (text : List Char) (single : ∀ c ∈ text, c.utf8Size = 1) :
    byteCount text = text.length := by
  induction text with
  | nil => rfl
  | cons c rest hypothesis =>
      obtain ⟨first, later⟩ := List.forall_mem_cons.mp single
      rw [byteCount, first, hypothesis later, List.length_cons, Nat.add_comm]

theorem code_unit_cut (text : List Char) (single : ∀ c ∈ text, c.utf8Size = 1)
    (short : text.length < 4) : codeUnit text = .error .ended := by
  have few : byteCount text < 4 := by rw [byte_count_single text single]; exact short
  unfold codeUnit
  split
  · simp only [List.length_cons] at short
    omega
  · exact if_pos few

theorem digit_single (digit : Nat) (c : Char) (spelt : SpellsDigit digit c) : c.utf8Size = 1 := by
  have digits : ∀ m < 16, (Nat.digitChar m).utf8Size = 1 ∧
      (Nat.digitChar m).toUpper.utf8Size = 1 := by decide
  obtain ⟨small, rfl | rfl⟩ := spelt
  · exact (digits digit small).1
  · exact (digits digit small).2

theorem code_unit_consumes (unit : Nat) (text : List Char) (spelt : SpellsUnit unit text) :
    Consumes codeUnit text unit := by
  refine ⟨fun rest => code_unit_spelt unit text rest spelt, ?_⟩
  intro front back split missing
  obtain ⟨a, b, c, d, speltA, speltB, speltC, speltD, rfl⟩ := spelt
  have single : ∀ e ∈ [a, b, c, d], e.utf8Size = 1 := by
    simp [digit_single _ _ speltA, digit_single _ _ speltB, digit_single _ _ speltC,
      digit_single _ _ speltD]
  have lengths := congrArg List.length split
  have left := List.length_pos_iff.mpr missing
  rw [List.length_append] at lengths
  refine code_unit_cut front (fun e present => ?_) ?_
  · exact single e (split ▸ List.mem_append_left back present)
  · change 4 = _ at lengths
    omega

theorem char_ranges (c : Char) : c.toNat < 0xd800 ∨ 0xdfff < c.toNat ∧ c.toNat < 0x110000 := c.valid

theorem code_point_consumes (c : Char) (text : List Char) (spelt : SpellsUnit c.toNat text) :
    Consumes codePoint text c := by
  have ranges := char_ranges c
  have low : isLowSurrogate c.toNat = false := by simp [isLowSurrogate]; omega
  have high : isHighSurrogate c.toNat = false := by simp [isHighSurrogate]; omega
  refine (code_unit_consumes c.toNat text spelt).finish fun rest => ?_
  simp [low, high, pure, Except.pure]

theorem low_surrogate_consumes (unit : Nat) (text : List Char) (spelt : SpellsUnit unit text)
    (low : isLowSurrogate unit = true) : Consumes lowSurrogate ('\\' :: 'u' :: text) unit := by
  refine .behind rfl (fun _ => rfl) (.behind rfl (fun _ => rfl) ?_)
  refine (code_unit_consumes unit text spelt).finish fun rest => ?_
  exact if_pos low

theorem surrogates_meant (c : Char) (high low : Nat) (beyond : 0x10000 ≤ c.toNat)
    (highEq : high = 0xd800 + (c.toNat - 0x10000) / 0x400)
    (lowEq : low = 0xdc00 + (c.toNat - 0x10000) % 0x400) :
    isLowSurrogate high = false ∧ isHighSurrogate high = true ∧ isLowSurrogate low = true ∧
      supplementary high low = c := by
  have ranges := char_ranges c
  have value : 0x10000 + (high - 0xd800) * 0x400 + (low - 0xdc00) = c.toNat := by omega
  refine ⟨?_, ?_, ?_, ?_⟩
  · simp [isLowSurrogate]
    omega
  · simp [isHighSurrogate]
    omega
  · simp [isLowSurrogate]
    omega
  · rw [supplementary, value, Char.ofNat_toNat]

theorem surrogates_consume (high low : Nat) (first second : List Char)
    (spelt : SpellsUnit high first) (speltLow : SpellsUnit low second)
    (notLow : isLowSurrogate high = false) (isHigh : isHighSurrogate high = true)
    (isLow : isLowSurrogate low = true) :
    Consumes codePoint (first ++ '\\' :: 'u' :: second) (supplementary high low) := by
  refine (code_unit_consumes high first spelt).bind ?_
  simp only [notLow, isHigh, if_true, Bool.false_eq_true, if_false]
  exact (low_surrogate_consumes low second speltLow isLow).finish fun _ => rfl

theorem escaped_passed_consumes (unit : Nat) (text : List Char) (spelt : SpellsUnit unit text) :
    Consumes (escaped false) ('u' :: text) (Char.ofNat unit) :=
  .behind rfl (fun _ => rfl) ((code_unit_consumes unit text spelt).finish fun _ => rfl)

theorem escaped_unit_consumes (strict : Bool) (c : Char) (text : List Char)
    (spelt : SpellsUnit c.toNat text) : Consumes (escaped strict) ('u' :: text) c := by
  cases strict with
  | true => exact .behind rfl (fun _ => rfl) (code_point_consumes c text spelt)
  | false =>
      have passed := escaped_passed_consumes c.toNat text spelt
      rwa [Char.ofNat_toNat] at passed

theorem escaped_short (strict : Bool) (letter c : Char) (rest : List Char)
    (known : (letter, c) ∈ shortEscapes) : escaped strict (letter :: rest) = .ok (c, rest) := by
  have letters : ∀ entry ∈ shortEscapes, entry.1 ≠ 'u' ∧ shortEscape? entry.1 = some entry.2 := by
    decide
  obtain ⟨other, short⟩ := letters _ known
  unfold escaped
  split
  · rename_i none
    cases none
  · rename_i same
    exact absurd (List.cons.inj same).1 other
  · rename_i same
    cases same
    rw [short]

theorem escaped_short_consumes (strict : Bool) (letter c : Char)
    (known : (letter, c) ∈ shortEscapes) : Consumes (escaped strict) [letter] c :=
  .behind rfl (fun rest => escaped_short strict letter c rest known)
    (.nothing (fun rest => .ok (c, rest)) c fun _ => rfl)

def ahead (seen : List Char) (read : List Char × List Char) : List Char × List Char :=
  (seen ++ read.1, read.2)

theorem characters_none (strict : Bool) : characters strict [] = .error .ended := by
  rw [characters]

theorem characters_plain (strict : Bool) (c : Char) (text : List Char) (unquoted : c ≠ '"')
    (unescaped : c ≠ '\\') (printable : ¬ c.toNat < 0x20) :
    characters strict (c :: text) = (characters strict text).map (ahead [c]) := by
  rw [characters]
  rw [if_neg unquoted, if_neg unescaped, if_neg printable]
  cases characters strict text <;> rfl

theorem characters_backslash (strict : Bool) (text : List Char) :
    characters strict ('\\' :: text) =
      escaped strict text >>= fun read => (characters strict read.2).map (ahead [read.1]) := by
  rw [characters, if_neg (by decide), if_pos rfl]
  split
  · rename_i fault told
    rw [told]
    rfl
  · rename_i c rest told
    rw [told]
    change _ = (characters strict rest).map (ahead [c])
    cases characters strict rest <;> rfl

theorem Consumes.ahead {reader : Reader (List Char)} {text content : List Char} (c : Char)
    (later : Consumes reader text content) :
    Consumes (fun text => (reader text).map (ahead [c])) text (c :: content) := by
  constructor
  · intro rest
    simp only [later.read rest]
    rfl
  · intro front back split missing
    simp only [later.cut front back split missing]
    rfl

theorem characters_consume_escape (strict : Bool) (c : Char) (here text content : List Char)
    (escape : Consumes (escaped strict) here c) (later : Consumes (characters strict) text content) :
    Consumes (characters strict) ('\\' :: (here ++ text)) (c :: content) :=
  .behind (characters_none strict) (characters_backslash strict) (escape.bind (later.ahead c))

theorem characters_pass_pair (high low : Nat) (first second text content : List Char)
    (spelt : SpellsUnit high first) (speltLow : SpellsUnit low second)
    (later : Consumes (characters false) text content) :
    Consumes (characters false) ('\\' :: 'u' :: (first ++ '\\' :: 'u' :: second) ++ text)
      ([Char.ofNat high, Char.ofNat low] ++ content) := by
  have behind := characters_consume_escape false _ _ text content
    (escaped_passed_consumes low second speltLow) later
  have consumes := characters_consume_escape false _ _ _ _
    (escaped_passed_consumes high first spelt) behind
  simpa only [List.cons_append, List.append_assoc, List.nil_append] using consumes

theorem characters_consume_char (strict : Bool) (c : Char) (here : List Char)
    (spelt : SpellsChar c here) : ∃ seen, (strict = true → seen = [c]) ∧
      ∀ text content, Consumes (characters strict) text content →
        Consumes (characters strict) (here ++ text) (seen ++ content) := by
  cases spelt with
  | plain c unquoted unescaped printable =>
      refine ⟨[c], fun _ => rfl, fun text content later => ?_⟩
      exact .behind (characters_none strict)
        (fun rest => characters_plain strict c rest unquoted unescaped printable) (later.ahead c)
  | short letter c known =>
      refine ⟨[c], fun _ => rfl, fun text content later => ?_⟩
      exact characters_consume_escape strict c [letter] text content
        (escaped_short_consumes strict letter c known) later
  | unit c digits spelt =>
      refine ⟨[c], fun _ => rfl, fun text content later => ?_⟩
      exact characters_consume_escape strict c ('u' :: digits) text content
        (escaped_unit_consumes strict c digits spelt) later
  | pair c high low beyond spelt speltLow =>
      obtain ⟨notLow, isHigh, isLow, same⟩ := surrogates_meant c _ _ beyond rfl rfl
      cases strict with
      | true =>
          have point := surrogates_consume _ _ high low spelt speltLow notLow isHigh isLow
          rw [same] at point
          have escape : Consumes (escaped true) ('u' :: (high ++ '\\' :: 'u' :: low)) c :=
            .behind rfl (fun _ => rfl) point
          exact ⟨[c], fun _ => rfl, fun text content later =>
            characters_consume_escape true c _ text content escape later⟩
      | false =>
          exact ⟨_, nofun, fun text content later =>
            characters_pass_pair _ _ high low text content spelt speltLow later⟩

theorem characters_consume (strict : Bool) (content text : List Char)
    (spelt : SpellsChars content text) : ∃ seen, (strict = true → seen = content) ∧
      Consumes (characters strict) (text ++ ['"']) seen := by
  induction content generalizing text with
  | nil =>
      rw [show text = [] from spelt]
      refine ⟨[], fun _ => rfl, .behind (characters_none strict) (fun rest => ?_)
        (.nothing (fun rest => .ok ([], rest)) [] fun _ => rfl)⟩
      rw [characters, if_pos rfl]
  | cons c content hypothesis =>
      obtain ⟨here, later, speltHere, speltLater, rfl⟩ := spelt
      obtain ⟨seen, whole, consumes⟩ := hypothesis later speltLater
      obtain ⟨first, one, step⟩ := characters_consume_char strict c here speltHere
      refine ⟨first ++ seen, fun counts => by rw [one counts, whole counts]; rfl, ?_⟩
      rw [List.append_assoc]
      exact step _ seen consumes

theorem string_consumes (content : String) (body : List Char)
    (spelt : SpellsChars content.toList body) : Consumes string (body ++ ['"']) content := by
  obtain ⟨seen, whole, consumes⟩ := characters_consume true content.toList body spelt
  rw [whole rfl] at consumes
  refine consumes.finish fun rest => ?_
  simp [pure, Except.pure]

theorem skip_string_consumes (content : String) (body : List Char)
    (spelt : SpellsChars content.toList body) : Consumes skipString (body ++ ['"']) () := by
  obtain ⟨seen, _, consumes⟩ := characters_consume false content.toList body spelt
  exact consumes.finish fun _ => rfl

theorem string_spelt (content : String) (body rest : List Char)
    (spelt : SpellsChars content.toList body) : string (body ++ '"' :: rest) = .ok (content, rest) := by
  have read := (string_consumes content body spelt).read rest
  rwa [List.append_assoc] at read

theorem skip_string_spelt (content : String) (body rest : List Char)
    (spelt : SpellsChars content.toList body) : skipString (body ++ '"' :: rest) = .ok ((), rest) := by
  have read := (skip_string_consumes content body spelt).read rest
  rwa [List.append_assoc] at read

end EditableProfile.Json
