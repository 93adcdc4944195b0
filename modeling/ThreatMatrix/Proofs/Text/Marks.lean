import ThreatMatrix.Text.Lowercase

/-!
# Marks in texts

The basic code points below the small letters that are no capitals, such as the point and the low
line, take no part in letter case: a mark is its own small form and stands in no other. So marks are
counted and exchanged in a text and in its small form alike. A text in which one mark was exchanged
for another can be told where that other mark occurs only once.
-/

namespace ThreatMatrix

namespace CodePoint

/-- A basic code point below the small letters that is no capital. -/
def isMark (c : CodePoint) : Bool :=
  c.val < 0x41 || (0x5A < c.val && c.val < 0x61)

theorem isMark_iff {c : CodePoint} :
    c.isMark = true ↔ c.val < 0x41 ∨ 0x5A < c.val ∧ c.val < 0x61 := by
  simp [isMark]

/-- The small forms of the table are small letters, and all of them are code points. -/
theorem small_of_mem_caseRuns : ∀ run ∈ caseRuns,
    0x61 ≤ run.small ∧ run.small + (run.last - run.first) < 0x110000 := by
  decide +kernel

/-- A mark stands in no small form but its own. -/
theorem eq_of_mem_lower {c mark : CodePoint} (isMark : mark.isMark = true)
    (member : mark ∈ c.lower) : c = mark := by
  rw [isMark_iff] at isMark
  unfold lower at member
  split at member
  · rw [List.mem_singleton, lowerBasic] at member
    split at member
    · next capital =>
      have isSmall := congrArg Fin.val member
      rw [val_ofNat (by omega)] at isSmall
      omega
    · exact member.symm
  · split at member
    · simp only [List.mem_cons, List.not_mem_nil, or_false] at member
      rcases member with rfl | rfl
      · exact absurd isMark (by decide)
      · exact absurd isMark (by decide)
    · split at member
      · next run found =>
        obtain ⟨small, bounded⟩ := small_of_mem_caseRuns run (List.mem_of_find?_eq_some found)
        have covered := List.find?_some found
        simp only [CaseRun.covers, Bool.and_eq_true, decide_eq_true_eq] at covered
        have isSmall := congrArg Fin.val (List.mem_singleton.1 member)
        rw [val_ofNat (by omega)] at isSmall
        omega
      · exact (List.mem_singleton.1 member).symm

/-- A mark is its own small form. -/
theorem lower_of_isMark {mark : CodePoint} (isMark : mark.isMark = true) : mark.lower = [mark] := by
  rw [isMark_iff] at isMark
  rw [lower, if_pos (by omega), lowerBasic, if_neg (by omega)]

/-- A mark occurs in the small form of a code point as often as it is that code point. -/
theorem count_lower {mark : CodePoint} (isMark : mark.isMark = true) (c : CodePoint) :
    c.lower.count mark = [c].count mark := by
  by_cases same : c = mark
  · rw [same, lower_of_isMark isMark]
  · have absent : mark ∉ c.lower := fun member => same (eq_of_mem_lower isMark member)
    rw [List.count_eq_zero_of_not_mem absent, List.count_singleton, if_neg (by simpa using same)]

end CodePoint

namespace Text

variable {old new mark : CodePoint} {text before after : Text}

/-- A mark occurs in the small form of a text as often as in the text. -/
theorem count_lower (isMark : mark.isMark = true) (text : Text) :
    text.lower.count mark = text.count mark := by
  induction text with
  | nil => rfl
  | cons c more inductionHypothesis =>
    rw [lower, List.flatMap_cons, List.count_append, CodePoint.count_lower isMark]
    change _ + (lower more).count mark = _
    rw [inductionHypothesis, ← List.count_append, List.singleton_append]

/-- A mark occurs in the small form of a text if it occurs in the text. -/
theorem mem_lower (isMark : mark.isMark = true) : mark ∈ text.lower ↔ mark ∈ text := by
  rw [← List.count_pos_iff, count_lower isMark, List.count_pos_iff]

/-! ## Exchanging marks -/

/-- Nothing is exchanged in a text without the old mark. -/
theorem exchange_of_not_mem (absent : old ∉ text) : text.exchange old new = text := by
  refine (List.map_congr_left fun c member => ?_).trans (List.map_id text)
  have other : c ≠ old := fun same => absent (same ▸ member)
  exact if_neg other

/-- Exchanging a mark for another changes every text that holds it. -/
theorem exchange_ne (apart : new ≠ old) (present : old ∈ text) : text.exchange old new ≠ text := by
  intro same
  rw [← same, exchange, List.mem_map] at present
  obtain ⟨c, -, isOld⟩ := present
  split at isOld
  · exact apart isOld
  · next other => exact other isOld

/-- Where the old mark occurs the new one occurs afterwards. -/
theorem mem_exchange (present : old ∈ text) : new ∈ text.exchange old new :=
  List.mem_map.2 ⟨old, present, if_pos rfl⟩

theorem exchange_append : (before ++ after).exchange old new =
    before.exchange old new ++ after.exchange old new :=
  List.map_append

theorem exchange_cons (c : CodePoint) :
    exchange old new (c :: text) = (if c = old then new else c) :: exchange old new text :=
  rfl

/-- Marks are exchanged in the small form of a text as in the text. -/
theorem lower_exchange (oldMark : old.isMark = true) (newMark : new.isMark = true) (text : Text) :
    (text.exchange old new).lower = text.lower.exchange old new := by
  induction text with
  | nil => rfl
  | cons c more inductionHypothesis =>
    have apart : lower (c :: more) = c.lower ++ lower more := List.flatMap_cons
    have exchanged : CodePoint.lower (if c = old then new else c) = exchange old new c.lower := by
      by_cases same : c = old
      · rw [if_pos same, same, CodePoint.lower_of_isMark newMark, CodePoint.lower_of_isMark oldMark]
        simp [exchange]
      · have absent : old ∉ c.lower := fun member => same (CodePoint.eq_of_mem_lower oldMark member)
        rw [if_neg same, exchange_of_not_mem absent]
    rw [apart, exchange_append, ← inductionHypothesis, ← exchanged, exchange_cons]
    exact List.flatMap_cons

/-- A text in which a mark occurs once after others were exchanged for it had the old mark there, if
it had one at all. -/
theorem eq_of_exchange (present : old ∈ text) (beforeFree : new ∉ before) (afterFree : new ∉ after)
    (exchanged : text.exchange old new = before ++ new :: after) :
    text = before ++ old :: after := by
  obtain ⟨front, rest, rfl, isBefore, isRest⟩ := List.map_eq_append_iff.1 exchanged
  obtain ⟨c, back, rfl, isNew, isAfter⟩ := List.map_eq_cons_iff.1 isRest
  have frontFree : old ∉ front := fun member => beforeFree (isBefore ▸ mem_exchange member)
  have backFree : old ∉ back := fun member => afterFree (isAfter ▸ mem_exchange member)
  have isOld : c = old := by
    rcases List.mem_append.1 present with inFront | behind
    · exact absurd inFront frontFree
    · rcases List.mem_cons.1 behind with same | inBack
      · exact same.symm
      · exact absurd inBack backFree
  have sameFront : front = before := (exchange_of_not_mem frontFree).symm.trans isBefore
  have sameBack : back = after := (exchange_of_not_mem backFree).symm.trans isAfter
  rw [sameFront, sameBack, isOld]

end Text
end ThreatMatrix
