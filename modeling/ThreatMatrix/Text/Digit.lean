import ThreatMatrix.Text.Basic

/-!
# Decimal digits

Decimal digits of every script stand in runs of ten, from zero to nine. The tables hold the first
code point of each run. Numerals are read by an earlier edition of Unicode than texts are checked
by: the digits of the later runs are digits, but no numeral in them denotes a number.
-/

namespace ThreatMatrix

/-- The code point that stands for zero in each run of ten digits whose values are known. -/
def digitZeros : List Nat := [
  0x30, 0x660, 0x6F0, 0x7C0, 0x966, 0x9E6, 0xA66, 0xAE6, 0xB66, 0xBE6,
  0xC66, 0xCE6, 0xD66, 0xDE6, 0xE50, 0xED0, 0xF20, 0x1040, 0x1090, 0x17E0,
  0x1810, 0x1946, 0x19D0, 0x1A80, 0x1A90, 0x1B50, 0x1BB0, 0x1C40, 0x1C50, 0xA620,
  0xA8D0, 0xA900, 0xA9D0, 0xA9F0, 0xAA50, 0xABF0, 0xFF10, 0x104A0, 0x10D30, 0x11066,
  0x110F0, 0x11136, 0x111D0, 0x112F0, 0x11450, 0x114D0, 0x11650, 0x116C0, 0x11730, 0x118E0,
  0x11950, 0x11C50, 0x11D50, 0x11DA0, 0x16A60, 0x16AC0, 0x16B50, 0x1D7CE, 0x1D7D8, 0x1D7E2,
  0x1D7EC, 0x1D7F6, 0x1E140, 0x1E2F0, 0x1E950, 0x1FBF0]

/-- The code point that stands for zero in each run of ten digits whose values are not known. -/
def laterDigitZeros : List Nat := [
  0x10D40, 0x116D0, 0x116DA, 0x11BF0, 0x11F50, 0x16130, 0x16D70, 0x1CCF0, 0x1E4F0, 0x1E5F1]

namespace CodePoint

/-- The value of a decimal digit of any script; a digit of the later runs has none. -/
def digitValue? (c : CodePoint) : Option Nat :=
  (digitZeros.find? fun start => start ≤ c.val && c.val < start + 10).map (c.val - ·)

/-- A decimal digit whose value is known. -/
def hasValue (c : CodePoint) : Bool :=
  c.digitValue?.isSome

/-- A decimal digit of any script. -/
def isDigit (c : CodePoint) : Bool :=
  c.hasValue || laterDigitZeros.any fun start => start ≤ c.val && c.val < start + 10

/-- What has a value as a digit is a digit. -/
theorem isDigit_of_hasValue {c : CodePoint} (valued : c.hasValue = true) : c.isDigit = true := by
  rw [isDigit, valued, Bool.true_or]

/-- The digits are the code points in the runs of both tables. -/
theorem isDigit_iff {c : CodePoint} :
    c.isDigit = true ↔ ∃ start ∈ digitZeros ++ laterDigitZeros,
      start ≤ c.val ∧ c.val < start + 10 := by
  simp only [isDigit, hasValue, digitValue?, Option.isSome_map, List.find?_isSome, Bool.or_eq_true,
    List.any_eq_true, Bool.and_eq_true, decide_eq_true_eq, List.mem_append, or_and_right, exists_or]

/-- No run of digits meets a range of code points, both ends included. -/
def isFreeOfDigits (low high : Nat) : Bool :=
  (digitZeros ++ laterDigitZeros).all fun start => Nat.blt high start || Nat.blt (start + 9) low

/-- A range that no run of digits meets holds no digit. -/
theorem not_isDigit_of_range {low high : Nat} (free : isFreeOfDigits low high = true)
    {c : CodePoint} (digit : c.isDigit = true) : ¬(low ≤ c.val ∧ c.val ≤ high) := by
  obtain ⟨start, member, first, last⟩ := isDigit_iff.1 digit
  have apart := List.all_eq_true.1 free start member
  simp only [Bool.or_eq_true, Nat.blt_eq] at apart
  omega

/-- A code point outside the runs of digits is no digit. -/
theorem ne_of_isDigit {c mark : CodePoint} (digit : c.isDigit = true)
    (free : isFreeOfDigits mark.val mark.val = true) : c ≠ mark := by
  rintro rfl
  exact not_isDigit_of_range free digit ⟨Nat.le_refl _, Nat.le_refl _⟩

/-- Digits are no halves of pairs. -/
theorem isSurrogate_of_isDigit {c : CodePoint} (digit : c.isDigit = true) :
    c.isSurrogate = false := by
  have apart := @not_isDigit_of_range 0xD800 0xDFFF (by decide) c digit
  rw [isSurrogate_eq_false_iff]
  omega

end CodePoint

namespace Text

/-- The number that a run of decimal digits denotes; nothing for an empty text or a sign without a
value. -/
def number? : Text → Option Nat
  | [] => none
  | text => text.foldlM (fun value c => c.digitValue?.map (10 * value + ·)) 0

/-- The number that a text denotes, or the text itself where it denotes none. -/
def readNumber (text : Text) : Except Text Nat :=
  match number? text with
  | some n => .ok n
  | none => .error text

/-- The number that a text denotes, where an empty text stands for zero. -/
def readNumberOrZero (text : Text) : Except Text Nat :=
  if text = [] then .ok 0 else readNumber text

/-- Exactly so many decimal digits and nothing else. -/
def IsNumeral (count : Nat) (text : Text) : Prop :=
  text.length = count ∧ ∀ c ∈ text, c.isDigit = true

/-- What denotes a number is a text of digits with values, and no empty one. -/
theorem number?_isSome_iff {text : Text} :
    (number? text).isSome = true ↔ text ≠ [] ∧ ∀ c ∈ text, c.hasValue = true := by
  have fromHere : ∀ (digits : Text) (value : Nat),
      (digits.foldlM (fun (value : Nat) (c : CodePoint) => c.digitValue?.map (10 * value + ·))
        value).isSome = true ↔ ∀ c ∈ digits, c.hasValue = true := by
    intro digits
    induction digits with
    | nil => exact fun _ => ⟨fun _ _ member => absurd member List.not_mem_nil, fun _ => rfl⟩
    | cons c more inductionHypothesis =>
      intro value
      rw [List.foldlM_cons, List.forall_mem_cons, CodePoint.hasValue]
      cases c.digitValue? with
      | none => simp
      | some digit => simpa using inductionHypothesis (10 * value + digit)
  cases text with
  | nil => simp [number?]
  | cons c more =>
    rw [number?, fromHere (c :: more) 0]
    · exact (and_iff_right (List.cons_ne_nil c more)).symm
    · exact List.cons_ne_nil c more

/-- A text is read as the number that it denotes. -/
theorem readNumber_eq_ok_iff {text : Text} {n : Nat} :
    readNumber text = .ok n ↔ number? text = some n := by
  unfold readNumber
  split
  · next value isValue => rw [isValue, Except.ok.injEq, Option.some.injEq]
  · next nothing => simp [nothing]

end Text
end ThreatMatrix
