import ThreatMatrix.Text.Digit
import ThreatMatrix.Text.Lowercase

/-!
# Binary floating-point numbers

The 64-bit binary numbers as exact data: a sign, a significand and an exponent of two. A decimal
numeral denotes the nearest of them, and the one with the even significand where two are equally
near. No operation of a machine's floating-point unit is involved.
-/

namespace ThreatMatrix

/-- A 64-bit binary number. A finite one is the significand times two to the exponent, with the
significand below `2 ^ 53` and the exponent at least `-1074`; the significand is below `2 ^ 52` only
at the least exponent. -/
inductive Binary64 where
  | nan
  | infinity (negative : Bool)
  | finite (negative : Bool) (significand : Nat) (exponent : Int)
  deriving DecidableEq, Repr

namespace Binary64

/-- The number from which on significands are too large: two to the power of 53. -/
def precision : Nat := 0x20000000000000

/-- The least exponent of a finite number. -/
def leastExponent : Int := -1074

/-- The greatest exponent of a finite number. -/
def greatestExponent : Int := 971

/-- One of the two zeros. -/
def zero (negative : Bool) : Binary64 :=
  .finite negative 0 leastExponent

/-- Both zeros count as zero. -/
def isZero : Binary64 → Bool
  | .finite _ significand _ => significand == 0
  | _ => false

/-- The quotient rounded to the nearest whole number, a half to the even neighbour. -/
def roundQuotient (numerator denominator : Nat) : Nat :=
  let quotient := numerator / denominator
  let twice := 2 * (numerator % denominator)
  if twice > denominator ∨ (twice = denominator ∧ quotient % 2 = 1) then quotient + 1 else quotient

/-- A quotient in units of two to an exponent. -/
def inUnits (numerator denominator : Nat) (exponent : Int) : Nat × Nat :=
  (numerator * Nat.pow 2 (-exponent).toNat, denominator * Nat.pow 2 exponent.toNat)

/-- The number nearest to a positive quotient. -/
def nearest (negative : Bool) (numerator denominator : Nat) : Binary64 :=
  let low : Int := (numerator.log2 : Int) - denominator.log2 - 53
  let (n, d) := inUnits numerator denominator low
  let fitting := if n / d < precision then low else low + 1
  let exponent := max fitting leastExponent
  let (n, d) := inUnits numerator denominator exponent
  let rounded := roundQuotient n d
  let (significand, exponent) :=
    if rounded = precision then (precision / 2, exponent + 1) else (rounded, exponent)
  if exponent > greatestExponent then .infinity negative
  else .finite negative significand exponent

/-- The number nearest to `digits` times ten to the exponent. Quotients far outside the range of
finite numbers are settled by their size alone. -/
def ofDecimal (negative : Bool) (digits : Nat) (exponent : Int) : Binary64 :=
  let size : Int := (Nat.toDigits 10 digits).length + exponent
  if digits = 0 ∨ size < -330 then zero negative
  else if size > 330 then .infinity negative
  else nearest negative (digits * Nat.pow 10 exponent.toNat) (Nat.pow 10 (-exponent).toNat)

/-- A run of decimal digits with values in which a low line may stand between two digits. -/
def digitRun? (text : Text) : Option Text :=
  let parts := text.pieces '_'
  if parts.all fun part => !part.isEmpty && part.all CodePoint.hasValue then some parts.flatten
  else none

/-- A sign in front of a numeral, and what follows it. -/
def splitSign : Text → Bool × Text
  | [] => (false, [])
  | c :: rest =>
    if c = '-' then (true, rest) else if c = '+' then (false, rest) else (false, c :: rest)

/-- The exponent of a numeral: nothing, or the letter E and an integer. -/
def exponentPart? : Text → Option Int
  | [] => some 0
  | _ :: rest => do
    let (negative, digits) := splitSign rest
    let size ← (← digitRun? digits).number?
    return if negative then -(size : Int) else size

/-- The number that an unsigned decimal numeral denotes. -/
def numeral? (negative : Bool) (text : Text) : Option Binary64 := do
  let isMark (c : CodePoint) : Bool := c == 'e' || c == 'E'
  let exponent ← exponentPart? (text.dropWhile (!isMark ·))
  let (whole, fraction) := Text.partition '.' (text.takeWhile (!isMark ·))
  let wholeDigits ← if whole.isEmpty then some [] else digitRun? whole
  let fractionDigits ← if fraction.isEmpty then some [] else digitRun? fraction
  let digits ← Text.number? (wholeDigits ++ fractionDigits)
  return ofDecimal negative digits (exponent - fractionDigits.length)

/-- The number that a text denotes: a decimal numeral, an infinity or not-a-number, in any letter
case and with white space around it. -/
def ofText? (text : Text) : Option Binary64 :=
  let (negative, body) := splitSign text.strip
  let word := body.lower
  if word = ("nan" : Text) then some .nan
  else if word = ("inf" : Text) ∨ word = ("infinity" : Text) then some (.infinity negative)
  else numeral? negative body

end Binary64
end ThreatMatrix
