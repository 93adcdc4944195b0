import ThreatMatrix.Proofs.Text.Marks
import ThreatMatrix.Technique.Form

/-!
# Small forms of plain texts

The texts whose small form is plain: basic code points and digits of any script, and nothing else.
Of all letters beyond the basic ones only the Kelvin sign has a small form among these, which is k.
A small form with other code points, or of two, is never plain; neither is that of a capital sigma,
so it does not matter by which rule the sigma at the end of a word is told.
-/

namespace ThreatMatrix

namespace CodePoint

/-- A basic code point or a digit of any script. -/
def isPlain (c : CodePoint) : Bool :=
  c.val < 0x80 || c.isDigit

/-- The sign for degrees of Kelvin, which looks like a capital K. -/
def kelvin : CodePoint :=
  ofNat 0x212A

/-- The small form of a basic letter and of the Kelvin sign; every other code point as it is. -/
def fold (c : CodePoint) : CodePoint :=
  if c = kelvin then 'k' else c.lowerBasic

/-- A basic code point or a digit is plain. -/
theorem isPlain_iff {c : CodePoint} : c.isPlain = true ↔ c.val < 0x80 ∨ c.isDigit = true := by
  rw [isPlain, Bool.or_eq_true, decide_eq_true_eq]

/-- A range beyond the basic code points that no run of digits meets holds nothing plain. -/
theorem not_isPlain_of_range {low high : Nat} (beyond : 0x80 ≤ low)
    (free : isFreeOfDigits low high = true) {c : CodePoint} (plain : c.isPlain = true) :
    ¬(low ≤ c.val ∧ c.val ≤ high) := by
  rcases isPlain_iff.1 plain with basic | digit
  · omega
  · exact not_isDigit_of_range free digit

/-- The small forms of the table are not plain, except that of the Kelvin sign. -/
theorem caseRuns_beyond : ∀ run ∈ caseRuns,
    (run.first = 0x212A ∧ run.last = 0x212A ∧ run.small = 0x6B) ∨
      (0x80 ≤ run.small ∧ isFreeOfDigits run.small (run.small + (run.last - run.first)) = true) := by
  decide +kernel

theorem fold_of_ne {c : CodePoint} (other : c ≠ kelvin) : c.fold = c.lowerBasic :=
  if_neg other

/-- A code point beyond the basic ones is no basic letter. -/
theorem lowerBasic_of_beyond {c : CodePoint} (beyond : 0x80 ≤ c.val) : c.lowerBasic = c := by
  rw [lowerBasic, if_neg (by omega)]

/-- Only capitals have another basic letter for their small form. -/
theorem lowerBasic_of_not_letter {c : CodePoint}
    (noLetter : ¬(0x61 ≤ c.lowerBasic.val ∧ c.lowerBasic.val ≤ 0x7A)) : c.lowerBasic = c := by
  unfold lowerBasic at noLetter ⊢
  split at noLetter
  · rw [val_ofNat (by omega)] at noLetter
    omega
  · next noCapital => rw [if_neg noCapital]

/-- A plain small form is one code point. -/
theorem lower_eq_fold {c : CodePoint} (plain : ∀ d ∈ c.lower, d.isPlain = true) :
    c.lower = [c.fold] := by
  by_cases isKelvin : c = kelvin
  · rw [isKelvin]
    decide
  rw [fold_of_ne isKelvin]
  unfold lower at plain ⊢
  split at plain
  · next basic => rw [if_pos basic]
  · next beyond =>
    rw [if_neg beyond]
    split at plain
    · -- The second code point of a capital I with a dot is a mark above letters.
      exact absurd (plain (ofNat 0x307) (by simp)) (by decide)
    · next undotted =>
      rw [if_neg undotted]
      split at plain
      · next run found =>
        exfalso
        have covered := List.find?_some found
        simp only [CaseRun.covers, Bool.and_eq_true, decide_eq_true_eq] at covered
        rcases caseRuns_beyond run (List.mem_of_find?_eq_some found) with
          ⟨first, last, -⟩ | ⟨beyondBasic, free⟩
        · exact isKelvin (Fin.ext (by rw [kelvin, val_ofNat (by decide)]; omega))
        · have bounded := (small_of_mem_caseRuns run (List.mem_of_find?_eq_some found)).2
          refine not_isPlain_of_range beyondBasic free (plain _ (List.mem_singleton_self _)) ?_
          rw [val_ofNat (by omega)]
          omega
      · rw [lowerBasic_of_beyond (by omega)]

/-- A code point that is plain when folded has that for its small form. -/
theorem lower_of_isPlain_fold {c : CodePoint} (plain : c.fold.isPlain = true) :
    c.lower = [c.fold] := by
  by_cases isKelvin : c = kelvin
  · rw [isKelvin]
    decide
  rw [fold_of_ne isKelvin] at plain ⊢
  by_cases basic : c.val < 0x80
  · rw [lower, if_pos basic]
  · rw [lowerBasic_of_beyond (by omega)] at plain ⊢
    exact lower_of_isDigit ((isPlain_iff.1 plain).resolve_left basic)

end CodePoint

namespace Text

variable {text key : Text}

/-- A text has a plain small form exactly if it has that form when it is folded. -/
theorem lower_eq_iff_fold (plain : ∀ c ∈ key, c.isPlain = true) :
    text.lower = key ↔ text.map CodePoint.fold = key := by
  induction text generalizing key with
  | nil => rfl
  | cons c more inductionHypothesis =>
    have apart : lower (c :: more) = c.lower ++ lower more := List.flatMap_cons
    rw [apart, List.map_cons]
    constructor
    · rintro rfl
      have folded := CodePoint.lower_eq_fold fun d member => plain d (List.mem_append_left _ member)
      have rest := inductionHypothesis fun d member => plain d (List.mem_append_right _ member)
      rw [folded, rest.1 rfl]
      rfl
    · rintro rfl
      have rest := inductionHypothesis fun d member => plain d (List.mem_cons_of_mem _ member)
      rw [CodePoint.lower_of_isPlain_fold (plain _ List.mem_cons_self), rest.2 rfl]
      rfl

/-- Where no k is in question the Kelvin sign is not either. -/
theorem lower_eq_iff_lowerBasic (plain : ∀ c ∈ key, c.isPlain = true)
    (noK : ('k' : CodePoint) ∉ key) : text.lower = key ↔ text.map CodePoint.lowerBasic = key := by
  rw [lower_eq_iff_fold plain]
  have noKelvin : CodePoint.kelvin ∈ text →
      text.map CodePoint.fold ≠ key ∧ text.map CodePoint.lowerBasic ≠ key := by
    intro member
    constructor
    · rintro rfl
      exact noK (List.mem_map.2 ⟨CodePoint.kelvin, member, rfl⟩)
    · rintro rfl
      exact absurd (plain _ (List.mem_map.2 ⟨CodePoint.kelvin, member, rfl⟩)) (by decide)
  by_cases member : CodePoint.kelvin ∈ text
  · exact iff_of_false (noKelvin member).1 (noKelvin member).2
  · have same : text.map CodePoint.fold = text.map CodePoint.lowerBasic :=
      List.map_congr_left fun c isMember => CodePoint.fold_of_ne fun isKelvin =>
        member (isKelvin ▸ isMember)
    rw [same]

/-! ## The sigma at the end of a word -/

/-- The small form of a text, with another small sigma for a capital sigma wherever a rule says so.
The rule looks at what stands before the sigma, nearest first, and at what stands behind it. -/
def lowerFrom (isFinal : Text → Text → Bool) (before : Text) : Text → Text
  | [] => []
  | c :: behind =>
    (if c.val = 0x3A3 ∧ isFinal before behind then [CodePoint.ofNat 0x3C2] else c.lower) ++
      lowerFrom isFinal (c :: before) behind

/-- The small form of a text under a rule for the sigma at the end of a word. -/
def lowerBy (isFinal : Text → Text → Bool) (text : Text) : Text :=
  lowerFrom isFinal [] text

/-- The small form of a capital sigma is not plain. -/
theorem not_isPlain_of_sigma {c : CodePoint} (isSigma : c.val = 0x3A3) :
    ¬∀ d ∈ c.lower, d.isPlain = true := by
  have small : (CodePoint.ofNat 0x3A3).lower = [CodePoint.ofNat 0x3C3] := by decide +kernel
  obtain rfl : c = CodePoint.ofNat 0x3A3 := Fin.ext (by rw [CodePoint.val_ofNat (by decide), isSigma])
  intro plain
  rw [small] at plain
  exact absurd (plain _ List.mem_cons_self) (by decide)

/-- No rule for the sigma at the end of a word changes which texts have a plain small form. -/
theorem lowerBy_eq_iff (isFinal : Text → Text → Bool) (plain : ∀ c ∈ key, c.isPlain = true) :
    text.lowerBy isFinal = key ↔ text.lower = key := by
  have fromHere : ∀ behind before key : Text, (∀ c ∈ key, c.isPlain = true) →
      (lowerFrom isFinal before behind = key ↔ behind.lower = key) := by
    intro behind
    induction behind with
    | nil => exact fun _ _ _ => Iff.rfl
    | cons c more inductionHypothesis =>
      intro before key plain
      have apart : lower (c :: more) = c.lower ++ lower more := List.flatMap_cons
      rw [lowerFrom, apart]
      split
      · next isFinalSigma =>
        constructor
        · rintro rfl
          exact absurd (plain _ (List.mem_append_left _ List.mem_cons_self)) (by decide)
        · rintro rfl
          exact absurd (fun d member => plain d (List.mem_append_left _ member))
            (not_isPlain_of_sigma isFinalSigma.1)
      · constructor
        · rintro rfl
          have rest := inductionHypothesis (c :: before) _ fun d member =>
            plain d (List.mem_append_right _ member)
          rw [rest.1 rfl]
        · rintro rfl
          have rest := inductionHypothesis (c :: before) _ fun d member =>
            plain d (List.mem_append_right _ member)
          rw [rest.2 rfl]
  exact fromHere text [] key plain

end Text
end ThreatMatrix
