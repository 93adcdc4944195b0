import ThreatMatrix.Table.File
import ThreatMatrix.Proofs.Json.Pairs
import ThreatMatrix.Proofs.Json.Reading

/-!
# No parted pairs are read

A text without halves is read as a document in whose texts no two halves of a pair stand side by
side. Halves come from escapes only, and the reader joins an escape with the one before it.
-/

namespace ThreatMatrix

namespace Text

variable {c : CodePoint} {text before behind : Text}

/-- Texts without parted pairs part one together only where they meet. -/
theorem isJoined_append : isJoined (before ++ behind) =
    (isJoined before && isJoined behind &&
      !(before.getLast?.any Json.isHighHalf && beginsLow behind)) := by
  induction before with
  | nil => simp [isJoined]
  | cons c more inductionHypothesis =>
    have atFront : ∀ rest : Text,
        isJoined (c :: rest) = (!(Json.isHighHalf c && beginsLow rest) && isJoined rest) :=
      fun _ => rfl
    cases more with
    | nil =>
      rw [List.singleton_append, atFront, atFront, List.getLast?_singleton, Option.any_some]
      simp [isJoined, beginsLow, Bool.and_comm]
    | cons next others =>
      have sameStart : beginsLow (next :: others ++ behind) = beginsLow (next :: others) := rfl
      rw [List.cons_append, atFront, inductionHypothesis, sameStart, atFront,
        List.getLast?_cons_cons, Bool.and_assoc, Bool.and_assoc, Bool.and_assoc]

/-- One more code point behind a text parts no pair unless it is the second half behind a first. -/
theorem isJoined_reverse_cons {read : Text} : isJoined (c :: read).reverse =
    (isJoined read.reverse && !(read.head?.any Json.isHighHalf && Json.isLowHalf c)) := by
  rw [List.reverse_cons, isJoined_append, List.getLast?_reverse]
  simp [isJoined, beginsLow]

end Text

namespace Json

/-! ## Strings -/

/-- Nothing that was read so far parts a pair, and a first half is either waiting for its second or
has seen that none follows. -/
structure Partial.IsJoined (read : Partial) : Prop where
  joined : Text.isJoined read.finish.reverse = true
  waits : ∀ half ∈ read.half, isHighHalf half = true
  settled : read.half = none → read.done.head?.any isHighHalf = false

namespace Partial.IsJoined

variable {read : Partial} {c : CodePoint}

/-- A code point that completes no pair parts none. -/
theorem finish_cons (joined : read.IsJoined) (apart : read.half.isSome = true → isLowHalf c = false) :
    Text.isJoined (c :: read.finish).reverse = true := by
  rw [Text.isJoined_reverse_cons, joined.joined, Bool.true_and, Bool.not_eq_true',
    Bool.and_eq_false_iff]
  cases half : read.half with
  | none =>
    have isFinish : read.finish = read.done := by rw [Partial.finish, half]; rfl
    exact .inl (isFinish ▸ joined.settled half)
  | some high => exact .inr (apart (by rw [half]; rfl))

theorem push (joined : read.IsJoined) (noHigh : isHighHalf c = false)
    (apart : read.half.isSome = true → isLowHalf c = false) : (read.push c).IsJoined where
  joined := joined.finish_cons apart
  waits _ nothing := absurd nothing (Option.not_mem_none _)
  settled _ := noHigh

/-- An escape completes the pair that waits for it, or begins one, or stands alone. -/
theorem pushEscape (joined : read.IsJoined) (c : CodePoint) : (read.pushEscape c).IsJoined := by
  have start (apart : read.half.isSome = true → isLowHalf c = false) :
      (Partial.pushEscape.start read c).IsJoined := by
    unfold Partial.pushEscape.start
    split
    · next isHigh =>
      exact ⟨joined.finish_cons apart, fun half isHalf => Option.mem_some.1 isHalf ▸ isHigh, nofun⟩
    · next noHigh => exact joined.push (Bool.eq_false_iff.2 noHigh) apart
  unfold Partial.pushEscape
  split
  · next high half =>
    split
    · next isLow =>
      have isHigh := joined.waits high half
      have isFinish : read.finish = high :: read.done := by rw [Partial.finish, half]; rfl
      have before := joined.joined
      rw [isFinish, Text.isJoined_reverse_cons, Bool.and_eq_true] at before
      have noHigh := isHighHalf_joinHalves isHigh isLow
      have noLow : isLowHalf (joinHalves high c) = false :=
        isLowHalf_eq_false (.inr (by rw [val_joinHalves isHigh isLow]; omega))
      have joinedToo : Text.isJoined (joinHalves high c :: read.done).reverse = true := by
        rw [Text.isJoined_reverse_cons, before.1, noLow, Bool.and_false, Bool.not_false, Bool.true_and]
      refine ⟨joinedToo, fun _ nothing => absurd nothing (Option.not_mem_none _), fun _ => ?_⟩
      rw [List.head?_cons, Option.any_some, noHigh]
    · next noLow => exact start fun _ => Bool.eq_false_iff.2 noLow
  · next nothing => exact start fun isHalf => by simp [nothing] at isHalf

end Partial.IsJoined

/-- A document whose texts part no pair. The names of fields are left aside. -/
inductive IsJoined : Json → Prop where
  | null : IsJoined .null
  | bool (value : Bool) : IsJoined (.bool value)
  | int (value : Int) : IsJoined (.int value)
  | float (value : Binary64) : IsJoined (.float value)
  | text {value : Text} (joined : value.isJoined = true) : IsJoined (.text value)
  | array {items : List Json} (joined : ∀ item ∈ items, IsJoined item) : IsJoined (.array items)
  | object {fields : List (Text × Json)} (joined : ∀ field ∈ fields, IsJoined field.2) :
    IsJoined (.object fields)

/-- A field of a document that parts no pair parts none. -/
theorem IsJoined.field? {document item : Json} {name : Text} (joined : document.IsJoined)
    (found : document.field? name = some item) : item.IsJoined := by
  cases joined with
  | @object fields joined =>
    obtain ⟨before, behind, split, -⟩ := List.lookup_eq_some_iff.1 found
    have member : (name, item) ∈ fields.reverse := by rw [split]; simp
    exact joined _ (List.mem_reverse.1 member)
  | _ => cases found

end Json

end ThreatMatrix
