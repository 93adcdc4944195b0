import ThreatMatrix.Json.Strict
import ThreatMatrix.Proofs.Json.Written

/-!
# Strict documents read back

A plain document whose texts hold no halves is strict, so it is read back where only strict
documents are read. Both conditions of a strict document follow from its being plain, container by
container.
-/

namespace ThreatMatrix.Json

/-- Documents are paired together if each of them is. -/
theorem arePaired_eq_all (items : List Json) : arePaired items = items.all isPaired := by
  induction items with
  | nil => rfl
  | cons first more inductionHypothesis => rw [arePaired, inductionHypothesis, List.all_cons]

/-- Fields are paired together if the name and the value of each are. -/
theorem fieldsPaired_eq_all (fields : List (Text × Json)) :
    fieldsPaired fields = fields.all fun field => field.1.isWhole && isPaired field.2 := by
  induction fields with
  | nil => rfl
  | cons first more inductionHypothesis =>
    obtain ⟨name, value⟩ := first
    rw [fieldsPaired, inductionHypothesis, List.all_cons, Text.isWhole]

/-- Documents of at most a depth are nested to that depth at most together. -/
theorem itemsDepth_le {items : List Json} {bound : Nat}
    (within : ∀ item ∈ items, item.depth ≤ bound) : itemsDepth items ≤ bound := by
  induction items with
  | nil => exact Nat.zero_le bound
  | cons first more inductionHypothesis =>
    rw [itemsDepth, Nat.max_le]
    exact ⟨within first List.mem_cons_self,
      inductionHypothesis fun item member => within item (List.mem_cons_of_mem first member)⟩

/-- Fields with values of at most a depth are nested to that depth at most together. -/
theorem fieldsDepth_le {fields : List (Text × Json)} {bound : Nat}
    (within : ∀ field ∈ fields, field.2.depth ≤ bound) : fieldsDepth fields ≤ bound := by
  induction fields with
  | nil => exact Nat.zero_le bound
  | cons first more inductionHypothesis =>
    obtain ⟨name, value⟩ := first
    rw [fieldsDepth, Nat.max_le]
    exact ⟨within (name, value) List.mem_cons_self,
      inductionHypothesis fun field member => within field (List.mem_cons_of_mem _ member)⟩

/-- A plain document whose texts hold no halves names none. -/
theorem isPaired_of_isPlain {document : Json} {bound : Nat}
    (plain : IsPlain Text.isWhole bound document) : document.isPaired = true := by
  induction plain with
  | null _ => rfl
  | bool _ _ => rfl
  | int _ _ => rfl
  | text _ whole => exact whole
  | array _ inductionHypothesis =>
    rw [isPaired, arePaired_eq_all, List.all_eq_true]
    exact inductionHypothesis
  | object named _ inductionHypothesis =>
    rw [isPaired, fieldsPaired_eq_all, List.all_eq_true]
    intro field member
    rw [Bool.and_eq_true]
    exact ⟨named field member, inductionHypothesis field member⟩

/-- A plain document is nested no deeper than it says. -/
theorem depth_le_of_isPlain {admits : Text → Bool} {document : Json} {bound : Nat}
    (plain : IsPlain admits bound document) : document.depth ≤ bound := by
  induction plain with
  | null bound => exact Nat.zero_le bound
  | bool bound _ => exact Nat.zero_le bound
  | int bound _ => exact Nat.zero_le bound
  | text bound _ => exact Nat.zero_le bound
  | @array bound items _ inductionHypothesis =>
    cases items with
    | nil => exact Nat.zero_le _
    | cons first more => exact Nat.succ_le_succ (itemsDepth_le inductionHypothesis)
  | @object bound fields _ _ inductionHypothesis =>
    cases fields with
    | nil => exact Nat.zero_le _
    | cons first more => exact Nat.succ_le_succ (fieldsDepth_le inductionHypothesis)

/-- A plain document whose texts hold no halves is read back as a strict one. -/
theorem readStrict?_print {layout : Layout} (spaced : layout.IsSpaced) {document : Json}
    (plain : IsPlain Text.isWhole strictDepth document) :
    readStrict? (document.print layout) = some document := by
  have readable := plain.weaken (fun _ whole => isReadableText_of_isWhole layout.escaped whole)
    (Nat.le_succ strictDepth)
  have isRead := read_print spaced readable fun _ inNothing => absurd inNothing List.not_mem_nil
  rw [List.append_nil] at isRead
  have strict : (document.isPaired && document.depth ≤ strictDepth) = true := by
    simp [isPaired_of_isPlain plain, depth_le_of_isPlain plain]
  rw [readStrict?, isRead]
  exact if_pos strict

end ThreatMatrix.Json
