import EditableProfile.Json.Reader

set_option autoImplicit false

namespace EditableProfile.Json

def hexValue? (c : Char) : Option Nat :=
  if '0' ≤ c ∧ c ≤ '9' then some (c.toNat - '0'.toNat)
  else if 'a' ≤ c ∧ c ≤ 'f' then some (c.toNat - 'a'.toNat + 10)
  else if 'A' ≤ c ∧ c ≤ 'F' then some (c.toNat - 'A'.toNat + 10)
  else none

def byteCount : List Char → Nat
  | [] => 0
  | c :: rest => c.utf8Size + byteCount rest

-- Four hexadecimal digits. A text is too short for them when it has fewer than four bytes left.
def codeUnit : Reader Nat
  | a :: b :: c :: d :: rest =>
      match hexValue? a, hexValue? b, hexValue? c, hexValue? d with
      | some a, some b, some c, some d => .ok (((a * 16 + b) * 16 + c) * 16 + d, rest)
      | _, _, _, _ => .error .malformed
  | short => if byteCount short < 4 then .error .ended else .error .malformed

def isHighSurrogate (unit : Nat) : Bool := 0xd800 ≤ unit && unit ≤ 0xdbff

def isLowSurrogate (unit : Nat) : Bool := 0xdc00 ≤ unit && unit ≤ 0xdfff

def lowSurrogate : Reader Nat
  | [] => .error .ended
  | ['\\'] => .error .ended
  | '\\' :: 'u' :: rest => do
      let (unit, rest) ← codeUnit rest
      if isLowSurrogate unit then return (unit, rest) else .error .malformed
  | _ => .error .malformed

def supplementary (high low : Nat) : Char :=
  Char.ofNat (0x10000 + (high - 0xd800) * 0x400 + (low - 0xdc00))

def codePoint : Reader Char := fun text => do
  let (unit, rest) ← codeUnit text
  if isLowSurrogate unit then .error .malformed
  else if isHighSurrogate unit then
    let (low, rest) ← lowSurrogate rest
    return (supplementary unit low, rest)
  else return (Char.ofNat unit, rest)

def shortEscape? : Char → Option Char
  | '"' => some '"'
  | '\\' => some '\\'
  | '/' => some '/'
  | 'b' => some '\x08'
  | 'f' => some '\x0c'
  | 'n' => some '\n'
  | 'r' => some '\r'
  | 't' => some '\t'
  | _ => none

def escaped (strict : Bool) : Reader Char
  | [] => .error .ended
  | 'u' :: rest =>
      if strict then codePoint rest
      else do
        let (unit, rest) ← codeUnit rest
        return (Char.ofNat unit, rest)
  | c :: rest =>
      match shortEscape? c with
      | some c => .ok (c, rest)
      | none => .error .malformed

theorem code_unit_shorter {text rest : List Char} {unit : Nat}
    (read : codeUnit text = .ok (unit, rest)) : rest.length < text.length := by
  unfold codeUnit at read
  split at read
  · split at read
    · rw [← ok_rest read]
      simp only [List.length_cons]
      omega
    · cases read
  · split at read <;> cases read

theorem low_surrogate_shorter {text rest : List Char} {unit : Nat}
    (read : lowSurrogate text = .ok (unit, rest)) : rest.length < text.length := by
  unfold lowSurrogate at read
  split at read
  · cases read
  · cases read
  · obtain ⟨step, first, read⟩ := bind_ok read
    have shorter := code_unit_shorter first
    dsimp only at read
    split at read
    · rw [← ok_rest read]
      simp only [List.length_cons]
      omega
    · cases read
  · cases read

theorem code_point_shorter {text rest : List Char} {c : Char}
    (read : codePoint text = .ok (c, rest)) : rest.length < text.length := by
  obtain ⟨step, first, read⟩ := bind_ok read
  have shorter := code_unit_shorter first
  dsimp only at read
  split at read
  · cases read
  · split at read
    · obtain ⟨second, next, read⟩ := bind_ok read
      have shorterStill := low_surrogate_shorter next
      rw [← ok_rest read]
      omega
    · rw [← ok_rest read]
      exact shorter

theorem escaped_shorter {strict : Bool} {text rest : List Char} {c : Char}
    (read : escaped strict text = .ok (c, rest)) : rest.length < text.length := by
  unfold escaped at read
  split at read
  · cases read
  · simp only [List.length_cons]
    split at read
    · have shorter := code_point_shorter read
      omega
    · obtain ⟨step, first, read⟩ := bind_ok read
      have shorter := code_unit_shorter first
      rw [← ok_rest read]
      omega
  · split at read
    · rw [← ok_rest read]
      simp
    · cases read

def characters (strict : Bool) : Reader (List Char)
  | [] => .error .ended
  | c :: rest =>
      if c = '"' then .ok ([], rest)
      else if c = '\\' then
        match _step : escaped strict rest with
        | .error fault => .error fault
        | .ok (c, rest) => do
            let (tail, rest) ← characters strict rest
            return (c :: tail, rest)
      else if c.toNat < 0x20 then .error .malformed
      else do
        let (tail, rest) ← characters strict rest
        return (c :: tail, rest)
termination_by text => text.length
decreasing_by
  · have shorter := escaped_shorter _step
    simp only [List.length_cons]
    omega
  · simp

def string : Reader String := fun text => do
  let (content, rest) ← characters true text
  return (String.ofList content, rest)

def skipString : Reader Unit := fun text => do
  let (_, rest) ← characters false text
  return ((), rest)

def key : Reader String := fun text => do
  let (_, rest) ← mark '"' text
  string rest

def skipKey : Reader Unit := fun text => do
  let (_, rest) ← mark '"' text
  skipString rest

end EditableProfile.Json
