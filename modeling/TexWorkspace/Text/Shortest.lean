set_option autoImplicit false

/-!
Decimal text of binary floating point numbers: the fewest digits that read back as the same number,
and the layout in which they are written.
-/

namespace TexWorkspace.Text

structure Decimal where
  digits : Nat
  exponent : Int

structure Fraction where
  num : Nat
  den : Nat

namespace Fraction

def scaleTwo (fraction : Fraction) (exponent : Int) : Fraction :=
  ⟨fraction.num * Nat.pow 2 exponent.toNat, fraction.den * Nat.pow 2 (-exponent).toNat⟩

def shrinkTen (fraction : Fraction) (exponent : Int) : Fraction :=
  ⟨fraction.num * Nat.pow 10 (-exponent).toNat, fraction.den * Nat.pow 10 exponent.toNat⟩

def le (fraction : Fraction) (whole : Nat) : Bool :=
  fraction.num ≤ whole * fraction.den

def ge (fraction : Fraction) (whole : Nat) : Bool :=
  whole * fraction.den ≤ fraction.num

/-- How many digits stand before the point; below one, minus the zeros that follow it. -/
def magnitude (fraction : Fraction) : Int :=
  let whole := fraction.num / fraction.den
  if whole = 0 then
    let zeros := (List.range 400).find? fun n => fraction.den ≤ fraction.num * Nat.pow 10 (n + 1)
    Int.negOfNat (zeros.getD 0)
  else ((Nat.toDigits 10 whole).length : Int)

end Fraction

structure Neighbourhood where
  low : Fraction
  exact : Fraction
  high : Fraction
  closed : Bool

/-- How many fractions are told apart: they take 52 bits, below the eleven of the exponent. -/
def fractionSize : Nat := 0x10000000000000

def signBit : Nat := 0x8000000000000000

/-- The numbers that round to the positive number with the given 64 bits. The gap to the next lower
number is half as wide at a power of two, and the ends round to the even neighbour. -/
def Neighbourhood.ofBits (bits : Nat) : Neighbourhood :=
  let biased : Nat := bits / fractionSize % 0x800
  let fraction : Nat := bits % fractionSize
  let significand := if biased = 0 then fraction else fraction + fractionSize
  let exponent : Int := (if biased = 0 then 1 else (biased : Int)) - 1077
  let below := if fraction = 0 && 1 < biased then 1 else 2
  { low := (Fraction.mk (4 * significand - below) 1).scaleTwo exponent
    exact := (Fraction.mk (4 * significand) 1).scaleTwo exponent
    high := (Fraction.mk (4 * significand + 2) 1).scaleTwo exponent
    closed := significand % 2 = 0 }

namespace Neighbourhood

def contains (around : Neighbourhood) (exponent : Int) (whole : Nat) : Bool :=
  let low := around.low.shrinkTen exponent
  let high := around.high.shrinkTen exponent
  if around.closed then low.le whole && high.ge whole
  else low.le whole && high.ge whole && !low.ge whole && !high.le whole

/-- The whole number that is nearest to a fraction between `lower` and its successor; half way it is
the even one. -/
def nearest (fraction : Fraction) (lower : Nat) : Nat :=
  let above := 2 * (fraction.num - lower * fraction.den)
  if above < fraction.den || (above == fraction.den && lower % 2 == 0) then lower else lower + 1

def onGrid? (around : Neighbourhood) (exponent : Int) : Option Nat :=
  let exact := around.exact.shrinkTen exponent
  let lower := exact.num / exact.den
  match around.contains exponent lower, around.contains exponent (lower + 1) with
  | true, true => some (nearest exact lower)
  | true, false => some lower
  | false, true => some (lower + 1)
  | false, false => none

def shortest (around : Neighbourhood) : Decimal :=
  let magnitude := around.exact.magnitude
  let found := (List.range 17).findSome? fun (n : Nat) =>
    let exponent := magnitude - (n + 1)
    (around.onGrid? exponent).map fun whole => Decimal.mk whole exponent
  found.getD ⟨0, 0⟩

end Neighbourhood

/-- The decimal with as few digits as possible: final zeros move into the exponent. -/
def Decimal.trim (decimal : Decimal) : Decimal :=
  let digits := Nat.toDigits 10 decimal.digits
  let zeros := (digits.reverse.takeWhile (· = '0')).length
  if decimal.digits = 0 then ⟨0, 0⟩
  else ⟨decimal.digits / Nat.pow 10 zeros, decimal.exponent + zeros⟩

def signedExponent (exponent : Int) : String :=
  if exponent < 0 then toString exponent else "+" ++ toString exponent

/-- Positional notation for numbers with up to sixteen digits before the point and up to four zeros
after it, always with a point; beyond that, one digit before the point and an exponent. -/
def Decimal.format (decimal : Decimal) : String :=
  let digits := Nat.toDigits 10 decimal.digits
  let count : Int := digits.length
  let point := count + decimal.exponent
  if 0 ≤ decimal.exponent && point ≤ 16 then
    String.ofList (digits ++ List.replicate decimal.exponent.toNat '0' ++ ['.', '0'])
  else if 0 < point && point ≤ 16 then
    String.ofList (digits.take point.toNat ++ '.' :: digits.drop point.toNat)
  else if -5 < point && point ≤ 0 then
    String.ofList ('0' :: '.' :: List.replicate (-point).toNat '0' ++ digits)
  else
    let fraction := if digits.length ≤ 1 then [] else '.' :: digits.drop 1
    String.ofList (digits.take 1 ++ fraction) ++ "e" ++ signedExponent (point - 1)

def floatText (x : Float) : String :=
  let bits := x.toBits.toNat
  let sign := if signBit ≤ bits then "-" else ""
  let size := bits % signBit
  if size = 0 then sign ++ "0.0"
  else sign ++ (Neighbourhood.ofBits size).shortest.trim.format

end TexWorkspace.Text
