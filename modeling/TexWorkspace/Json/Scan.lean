import TexWorkspace.Json.Fault

set_option autoImplicit false

/-!
The words of JSON text: blanks, literals, strings and numbers, read for their value or passed over.
Passing over is more lenient: it does not ask whether a number is in range or whether the halves of
an escaped character belong together.
-/

namespace TexWorkspace.Json

/-- The four characters that may stand between words. -/
def isBlank (c : Char) : Bool :=
  c = ' ' || c = '\n' || c = '\t' || c = '\r'

def skipBlanks (chars : List Char) : List Char :=
  chars.dropWhile isBlank

def literal : List Char → List Char → Except Fault (List Char)
  | [], chars => .ok chars
  | _ :: _, [] => .error .truncated
  | expected :: more, c :: chars =>
      if c = expected then literal more chars else .error .malformed

/-! ## Strings -/

def hexValue? (c : Char) : Option Nat :=
  if '0' ≤ c && c ≤ '9' then some (c.toNat - '0'.toNat)
  else if 'a' ≤ c && c ≤ 'f' then some (c.toNat - 'a'.toNat + 10)
  else if 'A' ≤ c && c ≤ 'F' then some (c.toNat - 'A'.toNat + 10)
  else none

def byteLength : List Char → Nat
  | [] => 0
  | c :: rest => c.utf8Size + byteLength rest

/-- Reads four digits in base sixteen. With fewer than four bytes left the text has ended. -/
def hexUnit : List Char → Except Fault (Nat × List Char)
  | a :: b :: c :: d :: rest =>
      match hexValue? a, hexValue? b, hexValue? c, hexValue? d with
      | some a, some b, some c, some d => .ok (((a * 16 + b) * 16 + c) * 16 + d, rest)
      | _, _, _, _ => .error .malformed
  | short => if byteLength short < 4 then .error .truncated else .error .malformed

/-- The character that a backslash and one more character stand for. -/
def simpleEscape? : Char → Option Char
  | '"' => some '"'
  | '\\' => some '\\'
  | '/' => some '/'
  | 'b' => some (Char.ofNat 8)
  | 'f' => some (Char.ofNat 12)
  | 'n' => some '\n'
  | 'r' => some '\r'
  | 't' => some '\t'
  | _ => none

def isHighUnit (unit : Nat) : Bool :=
  0xd800 ≤ unit && unit ≤ 0xdbff

def isLowUnit (unit : Nat) : Bool :=
  0xdc00 ≤ unit && unit ≤ 0xdfff

/-- Reads the second half of a pair and joins it with the first. -/
def lowUnit (high : Nat) : List Char → Except Fault (Char × List Char)
  | [] => .error .truncated
  | ['\\'] => .error .truncated
  | '\\' :: 'u' :: rest =>
      match hexUnit rest with
      | .error fault => .error fault
      | .ok (low, rest) =>
          if isLowUnit low then
            .ok (Char.ofNat (0x10000 + (high - 0xd800) * 0x400 + (low - 0xdc00)), rest)
          else .error .malformed
  | _ => .error .malformed

def escape : List Char → Except Fault (Char × List Char)
  | [] => .error .truncated
  | 'u' :: rest =>
      match hexUnit rest with
      | .error fault => .error fault
      | .ok (unit, rest) =>
          if isLowUnit unit then .error .malformed
          else if isHighUnit unit then lowUnit unit rest
          else .ok (Char.ofNat unit, rest)
  | c :: rest =>
      match simpleEscape? c with
      | some meant => .ok (meant, rest)
      | none => .error .malformed

def skipEscape : List Char → Except Fault (List Char)
  | [] => .error .truncated
  | 'u' :: rest => (hexUnit rest).map Prod.snd
  | c :: rest => if (simpleEscape? c).isSome then .ok rest else .error .malformed

theorem hexUnit_length {chars rest : List Char} {unit : Nat}
    (read : hexUnit chars = .ok (unit, rest)) : rest.length < chars.length := by
  unfold hexUnit at read
  split at read
  · split at read
    · simp only [Except.ok.injEq, Prod.mk.injEq] at read
      obtain ⟨-, rfl⟩ := read
      simp only [List.length_cons]
      omega
    · simp at read
  · split at read <;> simp at read

theorem lowUnit_length {high : Nat} {chars rest : List Char} {c : Char}
    (read : lowUnit high chars = .ok (c, rest)) : rest.length < chars.length := by
  unfold lowUnit at read
  split at read
  · simp at read
  · simp at read
  · split at read
    · simp at read
    · rename_i low afterUnit unit
      split at read
      · simp only [Except.ok.injEq, Prod.mk.injEq] at read
        obtain ⟨-, rfl⟩ := read
        have shorter := hexUnit_length unit
        simp only [List.length_cons]
        omega
      · simp at read
  · simp at read

theorem escape_length {chars rest : List Char} {c : Char}
    (read : escape chars = .ok (c, rest)) : rest.length < chars.length := by
  unfold escape at read
  split at read
  · simp at read
  · split at read
    · simp at read
    · rename_i unit afterUnit found
      have shorter := hexUnit_length found
      split at read
      · simp at read
      · split at read
        · have second := lowUnit_length read
          simp only [List.length_cons]
          omega
        · simp only [Except.ok.injEq, Prod.mk.injEq] at read
          obtain ⟨-, rfl⟩ := read
          simp only [List.length_cons]
          omega
  · split at read
    · simp only [Except.ok.injEq, Prod.mk.injEq] at read
      obtain ⟨-, rfl⟩ := read
      simp
    · simp at read

theorem skipEscape_length {chars rest : List Char} (read : skipEscape chars = .ok rest) :
    rest.length < chars.length := by
  unfold skipEscape at read
  split at read
  · simp at read
  · rename_i digits
    cases unit : hexUnit digits with
    | error fault => simp [unit, Except.map] at read
    | ok pair =>
        obtain ⟨value, after⟩ := pair
        simp only [unit, Except.map, Except.ok.injEq] at read
        subst read
        have shorter := hexUnit_length unit
        simp only [List.length_cons]
        omega
  · split at read
    · simp only [Except.ok.injEq] at read
      subst read
      simp
    · simp at read

def stringBody (chars : List Char) : Except Fault (List Char × List Char) :=
  match chars with
  | [] => .error .truncated
  | c :: rest =>
      if c = '"' then .ok ([], rest)
      else if c = '\\' then
        match _read : escape rest with
        | .error fault => .error fault
        | .ok (meant, after) => (stringBody after).map fun (body, left) => (meant :: body, left)
      else if c.toNat < 0x20 then .error .malformed
      else (stringBody rest).map fun (body, left) => (c :: body, left)
termination_by chars.length
decreasing_by
  · have shorter := escape_length _read
    simp only [List.length_cons]
    omega
  · simp

def skipString (chars : List Char) : Except Fault (List Char) :=
  match chars with
  | [] => .error .truncated
  | c :: rest =>
      if c = '"' then .ok rest
      else if c = '\\' then
        match _read : skipEscape rest with
        | .error fault => .error fault
        | .ok after => skipString after
      else if c.toNat < 0x20 then .error .malformed
      else skipString rest
termination_by chars.length
decreasing_by
  · have shorter := skipEscape_length _read
    simp only [List.length_cons]
    omega
  · simp

theorem skipString_length {chars rest : List Char} (read : skipString chars = .ok rest) :
    rest.length < chars.length := by
  fun_induction skipString chars with
  | case1 => simp at read
  | case2 =>
      simp only [Except.ok.injEq] at read
      subst read
      simp
  | case3 => simp at read
  | case4 _ after found _ ih =>
      have shorter := skipEscape_length found
      have later := ih read
      simp only [List.length_cons]
      omega
  | case5 => simp at read
  | case6 c rest notQuote notEscape visible ih =>
      have later := ih read
      simp only [List.length_cons]
      omega

/-! ## Numbers -/

/-- The largest whole number that is kept exactly. -/
def maxNatural : Nat := 0xffffffffffffffff

def maxExponent : Nat := 0x7fffffff

/-- Adds digits to a number while it stays within `bound`; the digits after that are given back. -/
def addDigits (bound value : Nat) : List Char → Nat × List Char
  | [] => (value, [])
  | c :: rest =>
      let more := value * 10 + (c.toNat - '0'.toNat)
      if more ≤ bound then addDigits bound more rest else (value, c :: rest)

/-- Divides a number by a power of ten beyond the range of the powers themselves. -/
def shrinkReal (x : Float) (exponent : Nat) : Float :=
  if x == 0.0 then x
  else if exponent ≤ 308 then x / Float.ofScientific 1 false exponent
  else shrinkReal (x / Float.ofScientific 1 false 308) (exponent - 308)
termination_by exponent
decreasing_by omega

/-- The real number `significand * 10 ^ exponent`, if it is in range. Each step is rounded. -/
def scaleReal? (significand : Nat) (exponent : Int) : Option Float :=
  let x := significand.toUInt64.toFloat
  if exponent < 0 then some (shrinkReal x (-exponent).toNat)
  else if exponent ≤ 308 then
    let scaled := x * Float.ofScientific 1 false exponent.toNat
    if scaled.isInf then none else some scaled
  else if x == 0.0 then some x
  else none

def signedReal (positive : Bool) (x : Float) : Number :=
  .real (if positive then x else -x)

def clampExponent (exponent : Int) : Int :=
  max (-(maxExponent + 1)) (min exponent maxExponent)

def dropSign (chars : List Char) : List Char :=
  if chars.head? = some '+' || chars.head? = some '-' then chars.tail else chars

def exponentPart (positive : Bool) (significand : Nat) (start : Int) (chars : List Char) :
    Except Fault (Number × List Char) :=
  let grows := chars.head? != some '-'
  let unsigned := dropSign chars
  match unsigned with
  | [] => .error .truncated
  | c :: _ =>
      if !c.isDigit then .error .malformed
      else
        let digits := unsigned.takeWhile Char.isDigit
        let rest := unsigned.dropWhile Char.isDigit
        match addDigits maxExponent 0 digits with
        | (exponent, []) =>
            let shifted := if grows then start + exponent else start - exponent
            match scaleReal? significand (clampExponent shifted) with
            | some x => .ok (signedReal positive x, rest)
            | none => .error .malformed
        | (_, _ :: _) =>
            if significand ≠ 0 && grows then .error .malformed
            else .ok (signedReal positive 0.0, rest)

def realEnd (positive : Bool) (significand : Nat) (exponent : Int) (chars : List Char) :
    Except Fault (Number × List Char) :=
  match chars with
  | 'e' :: rest => exponentPart positive significand exponent rest
  | 'E' :: rest => exponentPart positive significand exponent rest
  | rest =>
      match scaleReal? significand exponent with
      | some x => .ok (signedReal positive x, rest)
      | none => .error .malformed

def fractionPart (positive : Bool) (significand : Nat) (exponent : Int) (chars : List Char) :
    Except Fault (Number × List Char) :=
  let digits := chars.takeWhile Char.isDigit
  let rest := chars.dropWhile Char.isDigit
  if digits.isEmpty then .error (if rest.isEmpty then .truncated else .malformed)
  else
    let (extended, unused) := addDigits maxNatural significand digits
    realEnd positive extended (exponent - ((digits.length - unused.length : Nat) : Int)) rest

/-- A whole number with its sign. Minus zero, and what does not fit, is a real number. -/
def wholeNumber (positive : Bool) (value : Nat) : Number :=
  if positive then .natural value
  else if 0 < value && value ≤ 0x8000000000000000 then .negative value
  else .real (-value.toUInt64.toFloat)

def number (positive : Bool) (chars : List Char) : Except Fault (Number × List Char) :=
  let digits := chars.takeWhile Char.isDigit
  let rest := chars.dropWhile Char.isDigit
  match digits with
  | [] => .error (if chars.isEmpty then .truncated else .malformed)
  | first :: more =>
      if first = '0' && !more.isEmpty then .error .malformed
      else
        let (value, unused) := addDigits maxNatural 0 digits
        match rest with
        | '.' :: after => fractionPart positive value unused.length after
        | rest =>
            if unused.isEmpty && rest.head? ≠ some 'e' && rest.head? ≠ some 'E' then
              .ok (wholeNumber positive value, rest)
            else realEnd positive value unused.length rest

def skipExponent (chars : List Char) : Except Fault (List Char) :=
  if ((dropSign chars).head?.map Char.isDigit).getD false then
    .ok ((dropSign chars).dropWhile Char.isDigit)
  else .error .malformed

def skipRealEnd : List Char → Except Fault (List Char)
  | 'e' :: rest => skipExponent rest
  | 'E' :: rest => skipExponent rest
  | rest => .ok rest

def skipNumber (chars : List Char) : Except Fault (List Char) :=
  let digits := chars.takeWhile Char.isDigit
  let rest := chars.dropWhile Char.isDigit
  match digits with
  | [] => .error .malformed
  | first :: more =>
      if first = '0' && !more.isEmpty then .error .malformed
      else
        match rest with
        | '.' :: after =>
            if (after.head?.map Char.isDigit).getD false then
              skipRealEnd (after.dropWhile Char.isDigit)
            else .error .malformed
        | rest => skipRealEnd rest

theorem length_dropWhile_le (test : Char → Bool) (chars : List Char) :
    (chars.dropWhile test).length ≤ chars.length :=
  (List.dropWhile_sublist test).length_le

theorem skipExponent_length {chars rest : List Char} (read : skipExponent chars = .ok rest) :
    rest.length ≤ chars.length := by
  unfold skipExponent at read
  split at read
  · simp only [Except.ok.injEq] at read
    subst read
    refine Nat.le_trans (length_dropWhile_le _ _) ?_
    unfold dropSign
    split <;> simp
  · simp at read

theorem skipRealEnd_length {chars rest : List Char} (read : skipRealEnd chars = .ok rest) :
    rest.length ≤ chars.length := by
  unfold skipRealEnd at read
  split at read
  · exact Nat.le_succ_of_le (skipExponent_length read)
  · exact Nat.le_succ_of_le (skipExponent_length read)
  · simp only [Except.ok.injEq] at read
    exact Nat.le_of_eq (congrArg List.length read.symm)

theorem skipNumber_length {chars rest : List Char} (read : skipNumber chars = .ok rest) :
    rest.length ≤ chars.length := by
  have shorter := length_dropWhile_le Char.isDigit chars
  unfold skipNumber at read
  simp only at read
  split at read
  · simp at read
  · split at read
    · simp at read
    · split at read
      · rename_i after pointed
        split at read
        · have later := skipRealEnd_length read
          have digits := length_dropWhile_le Char.isDigit after
          rw [pointed] at shorter
          simp only [List.length_cons] at shorter
          omega
        · simp at read
      · exact Nat.le_trans (skipRealEnd_length read) shorter

end TexWorkspace.Json
