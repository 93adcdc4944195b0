import Mathlib.Data.Nat.Digits.Defs
import ThreatMatrix.Json.Reader
import ThreatMatrix.Proofs.Text.Numerals

/-!
# Integers read back

The numeral of an integer is read back as that integer, unless what follows would continue the
number: more digits, a point, or the letter of an exponent.
-/

namespace ThreatMatrix.Json

/-- A text that does not continue a number that stands in front of it. -/
def IsApart (rest : Text) : Prop :=
  ∀ c ∈ rest.head?, isNumeral c = false ∧ c ≠ '.' ∧ c ≠ 'e' ∧ c ≠ 'E'

/-- An integer with no more digits than an integer may have. -/
def IsShort (value : Int) : Prop :=
  (Text.decimal value.natAbs).length ≤ integerDigits

/-- Integers of 64 bits are short. -/
theorem isShort_of_64_bits {value : Int} (low : -(2 ^ 63) ≤ value) (high : value < 2 ^ 64) :
    IsShort value := by
  have small : value.natAbs < 10 ^ 20 := by omega
  rw [IsShort, Text.decimal, List.length_map]
  exact Nat.le_trans (Nat.toDigits_length 10 _ 20 (by decide) small) (by decide)

theorem isApart_nil : IsApart [] :=
  nofun

theorem isApart_cons {c : CodePoint} (noNumeral : isNumeral c = false)
    (noMark : c ≠ '.' ∧ c ≠ 'e' ∧ c ≠ 'E') (rest : Text) : IsApart (c :: rest) := by
  intro first isFirst
  cases isFirst
  exact ⟨noNumeral, noMark⟩

/-- White space does not continue a number. -/
theorem isApart_of_isSpace {c : CodePoint} (blank : isSpace c = true) (rest : Text) :
    IsApart (c :: rest) := by
  simp only [isSpace, Bool.or_eq_true, beq_iff_eq, or_assoc] at blank
  rcases blank with rfl | rfl | rfl | rfl
  · exact isApart_cons (by decide) (by decide) rest
  · exact isApart_cons (by decide) (by decide) rest
  · exact isApart_cons (by decide) (by decide) rest
  · exact isApart_cons (by decide) (by decide) rest

/-- Digits are no white space. -/
theorem isSpace_of_isNumeral {c : CodePoint} (numeral : isNumeral c = true) : isSpace c = false := by
  cases blank : isSpace c with
  | false => rfl
  | true =>
    have noNumeral := (isApart_of_isSpace blank [] c rfl).1
    rw [numeral] at noNumeral
    cases noNumeral

/-! ## Digits -/

section

variable {n : Nat} {c : CodePoint} {digits rest : Text}

/-- The digits of a decimal numeral are those that numbers are written with. -/
theorem isNumeral_of_mem_decimal (member : c ∈ Text.decimal n) : isNumeral c = true := by
  obtain ⟨digit, isDigit, rfl⟩ := List.mem_map.1 member
  have bounds := Nat.isDigit_of_mem_toDigits (by decide) (by decide) isDigit
  rw [Char.isDigit, Bool.and_eq_true, decide_eq_true_eq, decide_eq_true_eq] at bounds
  rw [isNumeral, Bool.and_eq_true, decide_eq_true_eq, decide_eq_true_eq]
  exact bounds

/-- A decimal numeral is the digit zero alone or begins with another digit. -/
theorem decimal_eq_cons (n : Nat) : ∃ first more, Text.decimal n = first :: more ∧
    (first = '0' → more = []) := by
  induction n using Nat.strongRecOn with
  | ind n inductionHypothesis =>
    rw [Text.decimal, Nat.toDigits_eq_if (by decide)]
    split
    · exact ⟨_, [], rfl, fun _ => rfl⟩
    · next notSmall =>
      obtain ⟨first, more, isFront, onlyZero⟩ :=
        inductionHypothesis (n / 10) (Nat.div_lt_self (by omega) (by decide))
      rw [Text.decimal] at isFront
      refine ⟨first, more ++ [CodePoint.ofChar (n % 10).digitChar], ?_, fun isZero => ?_⟩
      · rw [List.map_append, isFront, List.map_singleton, List.cons_append]
      · -- The number in front of the last digit is not zero, so it begins with another digit.
        have isRead := Text.number?_decimal (n / 10)
        rw [Text.decimal, isFront, isZero, onlyZero isZero] at isRead
        have isNothing : 0 = n / 10 := Option.some.inj isRead
        omega

/-- Digits are taken as far as they go. -/
theorem digits_append (numerals : ∀ c ∈ digits, isNumeral c = true) (apart : IsApart rest) :
    Json.digits (digits ++ rest) = (digits, rest) := by
  have noMore : rest.takeWhile isNumeral = [] ∧ rest.dropWhile isNumeral = rest := by
    cases rest with
    | nil => exact ⟨rfl, rfl⟩
    | cons c more =>
      have noNumeral := (apart c rfl).1
      exact ⟨List.takeWhile_cons_of_neg (by simp [noNumeral]),
        List.dropWhile_cons_of_neg (by simp [noNumeral])⟩
  rw [Json.digits, List.takeWhile_append_of_pos numerals, List.dropWhile_append_of_pos numerals,
    noMore.1, noMore.2, List.append_nil]

/-- The numeral of a number is the whole part of what is read. -/
theorem wholePart_decimal (n : Nat) (apart : IsApart rest) :
    wholePart (Text.decimal n ++ rest) = (Text.decimal n, rest) := by
  obtain ⟨first, more, isFront, onlyZero⟩ := decimal_eq_cons n
  have all : Json.digits (Text.decimal n ++ rest) = (Text.decimal n, rest) :=
    digits_append (fun _ => isNumeral_of_mem_decimal) apart
  rw [isFront, List.cons_append] at all ⊢
  rw [wholePart]
  split
  · next isZero => rw [onlyZero isZero, List.nil_append]
  · exact all

/-- Nothing that does not continue a number is taken for a fraction or an exponent. -/
theorem fractionPart_of_isApart (apart : IsApart rest) : fractionPart rest = ([], rest) := by
  cases rest with
  | nil => rfl
  | cons c more => exact if_neg fun both => (apart c rfl).2.1 both.1

theorem exponentPart_of_isApart (apart : IsApart rest) : exponentPart rest = (none, rest) := by
  cases rest with
  | nil => rfl
  | cons c more =>
    exact if_neg fun both => both.1.elim (apart c rfl).2.2.1 (apart c rfl).2.2.2

end

/-! ## Integers -/

section

variable {value : Int} {rest : Text}

/-- The numeral of an integer: the sign of a negative one, and the numeral of its size. -/
theorem integer_eq (value : Int) : Text.integer value =
    if value < 0 then ('-' : CodePoint) :: Text.decimal value.natAbs
    else Text.decimal value.natAbs := by
  cases value with
  | ofNat n => exact (if_neg (Int.not_lt.2 (Int.natCast_nonneg n))).symm
  | negSucc n => exact (if_pos (Int.negSucc_lt_zero n)).symm

theorem ne_of_isNumeral {c mark : CodePoint} (numeral : isNumeral c = true)
    (noNumeral : isNumeral mark = false) : c ≠ mark := by
  rintro rfl
  rw [numeral] at noNumeral
  cases noNumeral

/-- What an integer is written with begins with a digit, or with a minus sign and a digit. -/
theorem integer_eq_cons (value : Int) : ∃ first more, isNumeral first = true ∧
    (Text.integer value = first :: more ∨ Text.integer value = ('-' : CodePoint) :: first :: more) := by
  obtain ⟨first, more, isFront, -⟩ := decimal_eq_cons value.natAbs
  refine ⟨first, more, isNumeral_of_mem_decimal (isFront ▸ List.mem_cons_self), ?_⟩
  rw [integer_eq, ← isFront]
  split
  · exact .inr rfl
  · exact .inl rfl

/-- A short integer is read back from its numeral. -/
theorem number_integer (short : IsShort value) (apart : IsApart rest) :
    number (Text.integer value ++ rest) = .ok (.int value, rest) := by
  obtain ⟨first, more, isFront, -⟩ := decimal_eq_cons value.natAbs
  have numeral : isNumeral first = true :=
    isNumeral_of_mem_decimal (isFront ▸ List.mem_cons_self)
  have something : (Text.decimal value.natAbs).isEmpty = false := by rw [isFront, List.isEmpty_cons]
  have size : (if value < 0 then -(value.natAbs : Int) else value.natAbs) = value := by omega
  unfold number
  split
  next negative unsigned signed =>
  obtain ⟨rfl, rfl⟩ : negative = decide (value < 0) ∧
      unsigned = Text.decimal value.natAbs ++ rest := by
    rw [integer_eq] at signed
    by_cases isNegative : value < 0
    · rw [if_pos isNegative, List.cons_append] at signed
      cases (if_pos rfl).symm.trans signed
      exact ⟨(decide_eq_true isNegative).symm, rfl⟩
    · rw [if_neg isNegative, isFront, List.cons_append] at signed
      cases (if_neg (ne_of_isNumeral numeral (by decide))).symm.trans signed
      exact ⟨(decide_eq_false isNegative).symm, by rw [isFront, List.cons_append]⟩
  rw [wholePart_decimal _ apart]
  dsimp only
  rw [fractionPart_of_isApart apart]
  dsimp only
  rw [exponentPart_of_isApart apart]
  simp only [something, List.isEmpty_nil, Option.isNone_none, Bool.and_self, if_true,
    Bool.false_eq_true, if_false, if_neg (Nat.not_lt.2 short), Text.number?_decimal,
    Option.getD_some, decide_eq_true_eq, size]

/-- The words begin with two code points that are no digits. -/
theorem words_begin : ∀ word ∈ words, ∃ first second more, word.1 = first :: second :: more ∧
    isNumeral first = false ∧ isNumeral second = false := by
  simp only [words, List.forall_mem_cons]
  exact ⟨⟨_, _, _, rfl, by decide⟩, ⟨_, _, _, rfl, by decide⟩, ⟨_, _, _, rfl, by decide⟩,
    ⟨_, _, _, rfl, by decide⟩, ⟨_, _, _, rfl, by decide⟩, ⟨_, _, _, rfl, by decide⟩, nofun⟩

/-- No word is taken for an integer. -/
theorem scalar_integer (short : IsShort value) (apart : IsApart rest) :
    scalar (Text.integer value ++ rest) = .ok (.int value, rest) := by
  have noWord : words.find? (fun word => word.1.isPrefixOf (Text.integer value ++ rest)) = none := by
    refine List.find?_eq_none.2 fun word member isPrefix => ?_
    obtain ⟨a, b, others, isWord, noFirst, noSecond⟩ := words_begin word member
    obtain ⟨tail, split⟩ := List.isPrefixOf_iff_prefix.1 isPrefix
    obtain ⟨first, more, numeral, isText | isText⟩ := integer_eq_cons value
    · rw [isWord, isText] at split
      exact ne_of_isNumeral numeral noFirst (List.cons.inj split).1.symm
    · rw [isWord, isText] at split
      exact ne_of_isNumeral numeral noSecond (List.cons.inj (List.cons.inj split).2).1.symm
  rw [scalar, noWord]
  exact number_integer short apart

end

end ThreatMatrix.Json
