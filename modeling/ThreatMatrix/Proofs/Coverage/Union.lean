import Mathlib.Data.List.Basic
import Mathlib.Data.List.Induction
import ThreatMatrix.Coverage.Basic

/-!
# Ordered unions

Members without those that occurred before: each stands once, where it occurred first. It does not
matter how often repetitions are dropped, so that coverages may be merged in steps.
-/

namespace ThreatMatrix

section

variable {α : Type} [DecidableEq α]

/-- One more item comes last if it is new, and is dropped if it occurred before. -/
theorem eraseDups_concat (items : List α) (item : α) :
    (items ++ [item]).eraseDups =
      if item ∈ items then items.eraseDups else items.eraseDups ++ [item] := by
  rw [List.eraseDups_append]
  by_cases old : item ∈ items
  · simp [List.removeAll, old]
  · simp [List.removeAll, old, List.eraseDups_cons]

/-- Nothing occurs twice among first occurrences. -/
theorem nodup_eraseDups (items : List α) : items.eraseDups.Nodup := by
  induction items using List.reverseRecOn with
  | nil => simp
  | append_singleton items item inductionHypothesis =>
    rw [eraseDups_concat]
    split
    · exact inductionHypothesis
    · next fresh =>
      refine List.nodup_append.2 ⟨inductionHypothesis, by simp, ?_⟩
      intro old member new isNew same
      rw [List.mem_singleton.1 isNew] at same
      exact fresh (same ▸ List.mem_eraseDups.1 member)

/-- Items without repetitions stay as they are. -/
theorem eraseDups_of_nodup {items : List α} (distinct : items.Nodup) : items.eraseDups = items := by
  induction items using List.reverseRecOn with
  | nil => simp
  | append_singleton items item inductionHypothesis =>
    obtain ⟨earlier, -, apart⟩ := List.nodup_append.1 distinct
    have fresh : item ∉ items := fun old => apart item old item (List.mem_singleton_self item) rfl
    rw [eraseDups_concat, if_neg fresh, inductionHypothesis earlier]

/-- Only items without repetitions stay as they are. -/
theorem eraseDups_eq_self_iff {items : List α} : items.eraseDups = items ↔ items.Nodup :=
  ⟨fun same => same ▸ nodup_eraseDups items, eraseDups_of_nodup⟩

/-- Repetitions that are dropped from the parts are dropped from the whole in any case. -/
theorem eraseDups_append_eraseDups (left right : List α) :
    (left.eraseDups ++ right.eraseDups).eraseDups = (left ++ right).eraseDups := by
  -- From the end: whether an item is kept depends on what stands in front of it only.
  induction right using List.reverseRecOn with
  | nil => simpa using eraseDups_of_nodup (nodup_eraseDups left)
  | append_singleton right item inductionHypothesis =>
    rw [eraseDups_concat, ← List.append_assoc, eraseDups_concat]
    by_cases old : item ∈ right
    · rw [if_pos old, if_pos (List.mem_append_right left old), inductionHypothesis]
    · rw [if_neg old, ← List.append_assoc, eraseDups_concat, inductionHypothesis]
      simp only [List.mem_append, List.mem_eraseDups]

/-- Items that are left out leave the first occurrences of the others where they are. -/
theorem eraseDups_filter (keeps : α → Bool) (items : List α) :
    (items.filter keeps).eraseDups = items.eraseDups.filter keeps := by
  induction items using List.reverseRecOn with
  | nil => simp
  | append_singleton items item inductionHypothesis =>
    rw [List.filter_append, List.filter_singleton, eraseDups_concat]
    cases kept : keeps item with
    | false =>
      rw [cond_false, List.append_nil, inductionHypothesis]
      split
      · rfl
      · rw [List.filter_append, List.filter_singleton, kept, cond_false, List.append_nil]
    | true =>
      rw [cond_true, eraseDups_concat, inductionHypothesis]
      have listed : item ∈ items.filter keeps ↔ item ∈ items := by simp [kept]
      simp only [listed]
      split
      · rfl
      · rw [List.filter_append, List.filter_singleton, kept, cond_true]

end

namespace Coverage

/-- Merging what was put together puts all members together. -/
theorem merge_ofMembers (leftTactics rightTactics : List Tactic)
    (leftTechniques rightTechniques : List Technique) :
    (ofMembers leftTactics leftTechniques).merge (ofMembers rightTactics rightTechniques) =
      ofMembers (leftTactics ++ rightTactics) (leftTechniques ++ rightTechniques) := by
  simp only [merge, ofMembers, eraseDups_append_eraseDups]

end Coverage
end ThreatMatrix
