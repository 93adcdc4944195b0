import ThreatMatrix.Number.Binary64

/-!
# Shortest numerals

A finite number is written with the fewest decimal digits that read back as the same number, and
among those with the digits nearest to it; of two that are equally near, those end in an even digit.
The point stands among the digits for sizes from one
ten-thousandth up to ten to the sixteenth; other sizes carry an exponent.
-/

namespace ThreatMatrix.Binary64

/-- The number of digits before the point of a positive quotient; zero or less counts the zeros
behind the point. -/
def magnitude (numerator denominator : Nat) : Int :=
  if denominator ≤ numerator then (Nat.toDigits 10 (numerator / denominator)).length
  else
    let zeros := (List.range 400).find? fun k => denominator ≤ numerator * Nat.pow 10 (k + 1)
    Int.neg (zeros.getD 0)

/-- The digits of a decimal without the zeros at its end, at most as many as the fuel. -/
def dropZeros : Nat → Nat → Int → Nat × Int
  | 0, digits, exponent => (digits, exponent)
  | fuel + 1, digits, exponent =>
    if digits % 10 = 0 ∧ digits ≠ 0 then dropZeros fuel (digits / 10) (exponent + 1)
    else (digits, exponent)

/-- The digits and the exponent of ten of the shortest decimal for a positive finite number. -/
def shortest (significand : Nat) (exponent : Int) : Nat × Int :=
  let numerator := significand * Nat.pow 2 exponent.toNat
  let denominator := Nat.pow 2 (-exponent).toNat
  let point := magnitude numerator denominator
  let onGrid (count : Nat) : Option (Nat × Int) :=
    let unit := point - count
    let n := numerator * Nat.pow 10 (-unit).toNat
    let d := denominator * Nat.pow 10 unit.toNat
    let below := n / d
    let readsBack (digits : Nat) : Bool :=
      ofDecimal false digits unit == .finite false significand exponent
    let nearer := roundQuotient n d
    let ordered := if nearer = below then [below, below + 1] else [below + 1, below]
    (ordered.find? readsBack).map fun digits => (digits, unit)
  let found := (List.range 17).findSome? fun i => onGrid (i + 1)
  let (digits, unit) := found.getD (significand, exponent)
  dropZeros 20 digits unit

/-- The exponent behind the letter: a sign and at least two digits. -/
def exponentText (exponent : Int) : Text :=
  let digits := Text.decimal exponent.natAbs
  (if exponent < 0 then '-' else '+' : CodePoint) ::
    (if digits.length < 2 then ('0' : CodePoint) :: digits else digits)

/-- Digits with a point, or with a point and an exponent. -/
def arrange (digits : Text) (point : Int) : Text :=
  if -4 < point ∧ point ≤ 16 then
    if point ≤ 0 then "0." ++ List.replicate (-point).toNat ('0' : CodePoint) ++ digits
    else if digits.length ≤ point.toNat then
      digits ++ List.replicate (point.toNat - digits.length) ('0' : CodePoint) ++ ".0"
    else digits.take point.toNat ++ "." ++ digits.drop point.toNat
  else
    let fraction := digits.drop 1
    digits.take 1 ++ (if fraction.isEmpty then [] else ('.' : CodePoint) :: fraction) ++
      "e" ++ exponentText (point - 1)

/-- The shortest text that reads back as the number. -/
def text : Binary64 → Text
  | .nan => "nan"
  | .infinity negative => if negative then "-inf" else "inf"
  | .finite negative significand exponent =>
    let size : Text :=
      if significand = 0 then "0.0"
      else
        let (digits, unit) := shortest significand exponent
        let shown := Text.decimal digits
        arrange shown (shown.length + unit)
    if negative then ('-' : CodePoint) :: size else size

end ThreatMatrix.Binary64
