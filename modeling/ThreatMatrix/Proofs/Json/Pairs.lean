import ThreatMatrix.Json.Document
import ThreatMatrix.Json.Reader
import ThreatMatrix.Proofs.Text.Utf8

/-!
# Halves of pairs

A text may hold the two halves of a pair side by side instead of the code point that the pair stands
for. Written with escapes, such a parted pair and its code point look alike, so reading joins them.
A text without parted pairs stays as it is.
-/

namespace ThreatMatrix

namespace Text

/-- Whether a text begins with the second half of a pair. -/
def beginsLow (text : Text) : Bool :=
  text.head?.any Json.isLowHalf

/-- Whether no two halves of a pair stand side by side in a text. -/
def isJoined : Text → Bool
  | [] => true
  | c :: more => !(Json.isHighHalf c && beginsLow more) && isJoined more

/-- A code point in front of a text, joined with the half that the text begins with if it is the
other half of a pair. -/
def joinFront (c : CodePoint) : Text → Text
  | [] => [c]
  | next :: more =>
    if Json.isHighHalf c && Json.isLowHalf next then Json.joinHalves c next :: more
    else c :: next :: more

/-- The text with all pairs joined. -/
def joined (text : Text) : Text :=
  text.foldr joinFront []

end Text

namespace Json

variable {c high low : CodePoint} {text : Text}

/-- Halves are within their ranges. -/
theorem bounds_of_isHighHalf (isHigh : isHighHalf c = true) : 0xD800 ≤ c.val ∧ c.val ≤ 0xDBFF := by
  simpa [isHighHalf] using isHigh

theorem bounds_of_isLowHalf (isLow : isLowHalf c = true) : 0xDC00 ≤ c.val ∧ c.val ≤ 0xDFFF := by
  simpa [isLowHalf] using isLow

/-- A code point outside the range of first halves is none. -/
theorem isHighHalf_eq_false (outside : c.val < 0xD800 ∨ 0xDBFF < c.val) : isHighHalf c = false := by
  rw [isHighHalf, Bool.and_eq_false_iff, decide_eq_false_iff_not, decide_eq_false_iff_not]
  omega

/-- A code point outside the range of second halves is none. -/
theorem isLowHalf_eq_false (outside : c.val < 0xDC00 ∨ 0xDFFF < c.val) : isLowHalf c = false := by
  rw [isLowHalf, Bool.and_eq_false_iff, decide_eq_false_iff_not, decide_eq_false_iff_not]
  omega

/-- What is no half is neither a first nor a second one. -/
theorem isHalf_eq_false (single : c.isSurrogate = false) :
    isHighHalf c = false ∧ isLowHalf c = false := by
  have outside := CodePoint.isSurrogate_eq_false_iff.1 single
  exact ⟨isHighHalf_eq_false (by omega), isLowHalf_eq_false (by omega)⟩

/-- A first half is no second half. -/
theorem isLowHalf_of_isHighHalf (isHigh : isHighHalf c = true) : isLowHalf c = false :=
  isLowHalf_eq_false (.inl (by have bounds := bounds_of_isHighHalf isHigh; omega))

/-- The code point of a pair. -/
theorem val_joinHalves (isHigh : isHighHalf high = true) (isLow : isLowHalf low = true) :
    (joinHalves high low).val = 0x10000 + (high.val - 0xD800) * 0x400 + (low.val - 0xDC00) := by
  have highBounds := bounds_of_isHighHalf isHigh
  have lowBounds := bounds_of_isLowHalf isLow
  exact CodePoint.val_ofNat (by omega)

/-- The code point of a pair is no half. -/
theorem isHighHalf_joinHalves (isHigh : isHighHalf high = true) (isLow : isLowHalf low = true) :
    isHighHalf (joinHalves high low) = false :=
  isHighHalf_eq_false (.inr (by rw [val_joinHalves isHigh isLow]; omega))

end Json

namespace Text

variable {c : CodePoint} {text : Text}

/-- A text without first halves parts no pair. -/
theorem isJoined_of_no_high (noHigh : ∀ c ∈ text, Json.isHighHalf c = false) :
    text.isJoined = true := by
  induction text with
  | nil => rfl
  | cons c more inductionHypothesis =>
    rw [List.forall_mem_cons] at noHigh
    rw [isJoined, noHigh.1, Bool.false_and, Bool.not_false, Bool.true_and,
      inductionHypothesis noHigh.2]

/-- A text without halves parts no pair. -/
theorem isJoined_of_isWhole (whole : text.isWhole = true) : text.isJoined = true :=
  isJoined_of_no_high fun c member => (Json.isHalf_eq_false (isWhole_iff.1 whole c member)).1

end Text
end ThreatMatrix
