import ThreatMatrix.Proofs.Coverage.Union
import ThreatMatrix.Proofs.Coverage.Validation

/-!
# Merged coverages

Merging unites two coverages in order: first what the one covers, then what only the other covers,
each member once. An ordered union is described here without the operation that drops repetitions,
and there is one ordered union only of two lists, so the laws of merging need nothing else.
-/

namespace ThreatMatrix

section

variable {α : Type} [DecidableEq α] {list items left right union : List α}

/-- Items stand in the order in which they occur first in a list. -/
def AreInFirstOrder (list items : List α) : Prop :=
  items.Pairwise fun earlier later => list.idxOf earlier < list.idxOf later

/-- A list unites two lists in order. -/
structure IsOrderedUnion (left right union : List α) : Prop where
  /-- No item occurs twice. -/
  distinct : union.Nodup
  /-- The items are those of either list. -/
  members : ∀ item, item ∈ union ↔ item ∈ left ∨ item ∈ right
  /-- The items of the first list stand in front, in the order of that list, and those of the second
  list alone follow in the order of theirs. -/
  parts : ∃ own added, union = own ++ added ∧
    (∀ item ∈ own, item ∈ left) ∧ AreInFirstOrder left own ∧
    (∀ item ∈ added, item ∉ left) ∧ AreInFirstOrder right added

/-- What comes after a list does not change the order of its own items. -/
theorem AreInFirstOrder.append (ordered : AreInFirstOrder list items)
    (listed : ∀ item ∈ items, item ∈ list) (more : List α) :
    AreInFirstOrder (list ++ more) items := by
  refine ordered.imp_of_mem fun {earlier later} isEarlier isLater before => ?_
  rwa [List.idxOf_append, List.idxOf_append, if_pos (listed _ isEarlier), if_pos (listed _ isLater)]

/-- First occurrences stand in the order of first occurrence, also if some items are left out. -/
theorem areInFirstOrder_eraseDups_filter (keeps : α → Bool) (list : List α) :
    AreInFirstOrder list (list.filter keeps).eraseDups := by
  -- From the end: a new item comes after all that the list held before.
  induction list using List.reverseRecOn with
  | nil => simp [AreInFirstOrder]
  | append_singleton list item inductionHypothesis =>
    have listed : ∀ old ∈ (list.filter keeps).eraseDups, old ∈ list := fun old member =>
      List.mem_of_mem_filter (List.mem_eraseDups.1 member)
    have ordered := inductionHypothesis.append listed [item]
    rw [List.filter_append, List.filter_singleton]
    cases kept : keeps item with
    | false => simpa using ordered
    | true =>
      rw [cond_true, eraseDups_concat]
      split
      · exact ordered
      · next fresh =>
        have isNew : item ∉ list := fun old => fresh (List.mem_filter.2 ⟨old, kept⟩)
        refine List.pairwise_append.2 ⟨ordered, List.pairwise_singleton _ _, ?_⟩
        intro old isOld last isLast
        rw [List.mem_singleton.1 isLast, List.idxOf_append, List.idxOf_append,
          if_pos (listed old isOld), if_neg isNew]
        exact Nat.lt_add_left _ (List.idxOf_lt_length_iff.2 (listed old isOld))

/-- Items in the order of first occurrence are determined by which items they are. -/
theorem AreInFirstOrder.eq_of_mem_iff {others : List α} (ordered : AreInFirstOrder list items)
    (othersOrdered : AreInFirstOrder list others) (same : ∀ item, item ∈ items ↔ item ∈ others) :
    items = others := by
  have distinct : ∀ {chosen : List α}, AreInFirstOrder list chosen → chosen.Nodup := fun inOrder =>
    inOrder.imp fun before isSame => by simp [isSame] at before
  have permuted := (List.perm_ext_iff_of_nodup (distinct ordered) (distinct othersOrdered)).2 same
  exact permuted.eq_of_pairwise (fun _ _ _ _ before after => absurd before (Nat.lt_asymm after))
    ordered othersOrdered

/-- Two lists one after the other, without repetitions, are an ordered union. -/
theorem isOrderedUnion_eraseDups (left right : List α) :
    IsOrderedUnion left right (left ++ right).eraseDups where
  distinct := nodup_eraseDups _
  members item := by rw [List.mem_eraseDups, List.mem_append]
  parts := by
    refine ⟨left.eraseDups, (right.removeAll left).eraseDups, List.eraseDups_append,
      fun _ => List.mem_eraseDups.1, ?_, fun item member => ?_, ?_⟩
    · simpa using areInFirstOrder_eraseDups_filter (fun _ => true) left
    · simpa using (List.mem_filter.1 (List.mem_eraseDups.1 member)).2
    · exact areInFirstOrder_eraseDups_filter _ right

/-- The first part of an ordered union holds the items of the first list, and the second part those
of the second list alone. -/
theorem IsOrderedUnion.mem_parts (unites : IsOrderedUnion left right union) {own added : List α}
    (isUnion : union = own ++ added) (isOwn : ∀ item ∈ own, item ∈ left)
    (isAdded : ∀ item ∈ added, item ∉ left) (item : α) :
    (item ∈ own ↔ item ∈ left) ∧ (item ∈ added ↔ item ∈ right ∧ item ∉ left) := by
  have members := unites.members item
  rw [isUnion, List.mem_append] at members
  have own := isOwn item
  have added := isAdded item
  constructor
  · exact ⟨own, fun inLeft => (members.2 (.inl inLeft)).resolve_right fun other =>
      added other inLeft⟩
  · constructor
    · exact fun other => ⟨(members.1 (.inr other)).resolve_left (added other), added other⟩
    · rintro ⟨inRight, apart⟩
      exact (members.2 (.inr inRight)).resolve_left fun inOwn => apart (own inOwn)

/-- There is one ordered union of two lists, and dropping repetitions gives it. -/
theorem isOrderedUnion_iff :
    IsOrderedUnion left right union ↔ (left ++ right).eraseDups = union := by
  constructor
  · intro unites
    have dropped := isOrderedUnion_eraseDups left right
    obtain ⟨own, added, isUnion, isOwn, ownOrdered, isAdded, addedOrdered⟩ := unites.parts
    obtain ⟨own', added', isUnion', isOwn', ownOrdered', isAdded', addedOrdered'⟩ := dropped.parts
    have mem := unites.mem_parts isUnion isOwn isAdded
    have mem' := dropped.mem_parts isUnion' isOwn' isAdded'
    rw [isUnion, isUnion',
      ownOrdered'.eq_of_mem_iff ownOrdered fun item => (mem' item).1.trans (mem item).1.symm,
      addedOrdered'.eq_of_mem_iff addedOrdered fun item => (mem' item).2.trans (mem item).2.symm]
  · rintro rfl
    exact isOrderedUnion_eraseDups left right

end

namespace Coverage

/-- How coverages are merged, told for any three of them. -/
structure UnitesInOrder (first second third : Coverage) : Prop where
  /-- It does not matter how merged coverages are grouped. -/
  assoc : (first.merge second).merge third = first.merge (second.merge third)
  /-- The tactics of two coverages are united in order, and so are the techniques. -/
  union : ∀ merged : Coverage, first.merge second = merged ↔
    IsOrderedUnion first.tactics second.tactics merged.tactics ∧
      IsOrderedUnion first.techniques second.techniques merged.techniques
  /-- Merging a coverage with itself or with nothing drops its repetitions only. -/
  itself : first.merge first = first.merge empty ∧ first.merge empty = empty.merge first
  unchanged : first.merge first = first ↔ first.tactics.Nodup ∧ first.techniques.Nodup
  isEmpty : (first.merge second).isEmpty = true ↔ first.isEmpty = true ∧ second.isEmpty = true
  /-- Offered for validation, the united members are taken as they are in every session, and the
  session stays as it was. -/
  validated : ∀ session : Session, session.validateCoverage
      (fieldsOf
        ((first.tactics ++ second.tactics).eraseDups.map fun tactic => .member (.tactic tactic))
        ((first.techniques ++ second.techniques).eraseDups.map fun technique =>
          .member (.technique technique))) = (session, .ok (first.merge second))

variable {first second third : Coverage}

/-- Merging in steps drops the repetitions of all three coverages at once. -/
theorem merge_assoc : (first.merge second).merge third = first.merge (second.merge third) := by
  have drop : ∀ {α : Type} [DecidableEq α] (one two three : List α),
      ((one ++ two).eraseDups ++ three).eraseDups =
        (one ++ (two ++ three).eraseDups).eraseDups := by
    intro α _ one two three
    calc ((one ++ two).eraseDups ++ three).eraseDups
        = ((one ++ two) ++ three).eraseDups := by
          rw [← eraseDups_append_eraseDups, eraseDups_of_nodup (nodup_eraseDups _),
            eraseDups_append_eraseDups]
      _ = (one ++ (two ++ three)).eraseDups := by rw [List.append_assoc]
      _ = (one ++ (two ++ three).eraseDups).eraseDups := by
          rw [← eraseDups_append_eraseDups one, ← eraseDups_append_eraseDups one,
            eraseDups_of_nodup (nodup_eraseDups (two ++ three))]
  simp only [merge, ofMembers, drop]

/-- A coverage is the merged one exactly if its members are united in order. -/
theorem merge_eq_iff {merged : Coverage} : first.merge second = merged ↔
    IsOrderedUnion first.tactics second.tactics merged.tactics ∧
      IsOrderedUnion first.techniques second.techniques merged.techniques := by
  rw [isOrderedUnion_iff, isOrderedUnion_iff, merge, ofMembers]
  constructor
  · rintro rfl
    exact ⟨rfl, rfl⟩
  · rintro ⟨tactics, techniques⟩
    rw [tactics, techniques]

/-- Merging with nothing drops repetitions. -/
theorem merge_empty : first.merge empty = ofMembers first.tactics first.techniques := by
  simp [merge, empty]

/-- What is merged with itself gains nothing. -/
theorem merge_self : first.merge first = ofMembers first.tactics first.techniques := by
  have double : ∀ {α : Type} [DecidableEq α] (items : List α),
      (items ++ items).eraseDups = items.eraseDups := by
    intro α _ items
    have nothing : items.removeAll items = [] := by simp [List.removeAll]
    rw [List.eraseDups_append, nothing, List.eraseDups_nil, List.append_nil]
  simp only [merge, ofMembers, double]

/-- Nothing is left of a list without repetitions exactly if there was nothing. -/
theorem isEmpty_eraseDups {α : Type} [DecidableEq α] (items : List α) :
    items.eraseDups.isEmpty = items.isEmpty := by
  cases items with
  | nil => rfl
  | cons first more => simp [List.eraseDups_cons]

/-- Any three coverages are merged as ordered unions of their members. -/
theorem merge_unitesInOrder (first second third : Coverage) : UnitesInOrder first second third where
  assoc := merge_assoc
  union _ := merge_eq_iff
  itself := by
    refine ⟨merge_self.trans merge_empty.symm, ?_⟩
    rw [merge_empty, merge, empty, List.nil_append, List.nil_append]
  unchanged := by
    rw [merge_self, ← eraseDups_eq_self_iff, ← eraseDups_eq_self_iff]
    cases first
    simp only [ofMembers, mk.injEq]
  isEmpty := by
    simp only [merge, ofMembers, isEmpty, isEmpty_eraseDups, Bool.and_eq_true, List.isEmpty_iff,
      List.append_eq_nil_iff]
    exact and_and_and_comm
  validated session := validateCoverage_offeredMembers session (first.merge second)

end Coverage
end ThreatMatrix
