import ThreatMatrix.Proofs.Table.Order
import ThreatMatrix.Technique.Form

/-!
# What sorting leaves of the order of rows

Rows of different numbers stand in the order of their numbers, whatever their order was before, and
rows of the same numbers stay as they were. So the rows of each numbers, taken for themselves, are
all that sorting can show of an order. A sub-technique has the same numbers as its technique only if
its own number is zero.
-/

namespace ThreatMatrix

/-- The number of a technique stands before its sub-techniques, and its other number is zero. -/
theorem TechniqueId.key_of_parentText? {child parent : TechniqueId}
    (isParent : child.parentText? = some parent.text) : parent.key = (child.key.1, 0) := by
  rw [parentText?_eq_stem?] at isParent
  have noSub : parent.sub? = none := by rw [sub?, isSub_of_stem? isParent]; rfl
  rw [key_eq, key_eq, noSub, base_of_stem? isParent]
  rfl

/-- The other number of a sub-technique is its own. -/
theorem TechniqueId.snd_key_eq_zero_iff {id : TechniqueId} (isSub : id.isSub = true)
    (valued : id.HasValues) : id.key.2 = 0 ↔ id.sub? = some 0 := by
  obtain ⟨number, isNumber⟩ := sub?_of_isSub isSub valued
  rw [key_eq, isNumber, Option.getD_some, Option.some.injEq]

namespace Table

/-- The numbers of the rows, in order. -/
def numbers (table : Table) : List (Nat × Nat) :=
  table.techniques.map (·.id.key)

/-- The rows of given numbers, in order. -/
def numbered (table : Table) (key : Nat × Nat) : List Technique :=
  table.techniques.filter fun technique => technique.id.key = key

/-- One row stands before another. -/
def StandsBefore (table : Table) (left right : Technique) : Prop :=
  [left, right].Sublist table.techniques

section

variable {table other : Table} {left right : Technique}

/-- Two rows that may stand in either order have the same numbers. -/
theorem key_eq_of_precedes (forth : precedes left right = true)
    (back : precedes right left = true) : left.id.key = right.id.key := by
  rw [precedes_iff] at forth back
  exact Prod.ext (by omega) (by omega)

/-- Rows of the same numbers may stand in either order. -/
theorem precedes_of_key_eq (same : left.id.key = right.id.key) : precedes left right = true := by
  rw [precedes_iff, same]
  omega

theorem mem_numbered {key : Nat × Nat} :
    left ∈ table.numbered key ↔ left ∈ table.techniques ∧ left.id.key = key := by
  rw [numbered, List.mem_filter, decide_eq_true_eq]

/-! ## Rows of the same numbers -/

/-- Sorting keeps rows of the same numbers in their order. -/
theorem numbered_sorted (table : Table) (key : Nat × Nat) :
    table.sorted.numbered key = table.numbered key := by
  have ordered : (table.numbered key).Pairwise fun left right => precedes left right = true := by
    refine List.pairwise_of_forall_mem_list fun left inLeft right inRight => precedes_of_key_eq ?_
    rw [(mem_numbered.1 inLeft).2, (mem_numbered.1 inRight).2]
  have kept : (table.numbered key).Sublist table.sorted.techniques :=
    List.sublist_mergeSort precedes_trans precedes_total ordered List.filter_sublist
  -- They are among the sorted rows of these numbers, and there are as many of those.
  have filtered : (table.numbered key).Sublist (table.sorted.numbered key) := by
    have again := kept.filter fun technique => technique.id.key = key
    rwa [List.filter_eq_self.2 fun technique member => by simpa using (mem_numbered.1 member).2]
      at again
  refine (filtered.eq_of_length ?_).symm
  exact ((List.mergeSort_perm table.techniques precedes).filter _).length_eq.symm

/-- Rows that are the same for each numbers are the same altogether. -/
theorem mem_iff_of_filter_eq {rows others : List Technique}
    (alike : ∀ key : Nat × Nat, rows.filter (fun technique => technique.id.key = key) =
      others.filter fun technique => technique.id.key = key) (technique : Technique) :
    technique ∈ rows ↔ technique ∈ others := by
  have inBoth := congrArg (technique ∈ ·) (alike technique.id.key)
  simpa only [List.mem_filter, decide_true, and_true, eq_iff_iff] using inBoth

/-- The first of rows in order may stand before each of them. -/
theorem precedes_of_mem_cons {first : Technique} {more : List Technique}
    (inOrder : (first :: more).Pairwise fun left right => precedes left right = true)
    (member : right ∈ first :: more) : precedes first right = true := by
  rcases List.mem_cons.1 member with rfl | later
  · exact precedes_of_key_eq rfl
  · exact List.rel_of_pairwise_cons inOrder later

/-- Rows in order are determined by the rows of each numbers. The induction is on one of the two
lists: both begin with the least numbers, and with the first row of these. -/
theorem eq_of_filter_eq {rows others : List Technique}
    (inOrder : rows.Pairwise fun left right => precedes left right = true)
    (alsoInOrder : others.Pairwise fun left right => precedes left right = true)
    (alike : ∀ key : Nat × Nat, rows.filter (fun technique => technique.id.key = key) =
      others.filter fun technique => technique.id.key = key) :
    rows = others := by
  induction rows generalizing others with
  | nil =>
    refine (List.eq_nil_iff_forall_not_mem.2 fun technique member => ?_).symm
    exact List.not_mem_nil ((mem_iff_of_filter_eq alike technique).2 member)
  | cons first more inductionHypothesis =>
    cases others with
    | nil =>
      exact absurd ((mem_iff_of_filter_eq alike first).1 List.mem_cons_self) List.not_mem_nil
    | cons second rest =>
      -- Each head stands in the other list as well, so either head may stand before the other.
      have forth := precedes_of_mem_cons inOrder
        ((mem_iff_of_filter_eq alike second).2 List.mem_cons_self)
      have back := precedes_of_mem_cons alsoInOrder
        ((mem_iff_of_filter_eq alike first).1 List.mem_cons_self)
      have same := key_eq_of_precedes forth back
      have heads := alike first.id.key
      rw [List.filter_cons_of_pos (by simp), List.filter_cons_of_pos (by simp [same])] at heads
      obtain rfl := (List.cons.inj heads).1
      have tails : ∀ key : Nat × Nat, more.filter (fun technique => technique.id.key = key) =
          rest.filter fun technique => technique.id.key = key := by
        intro key
        have whole := alike key
        by_cases isKey : first.id.key = key
        · rw [List.filter_cons_of_pos (by simpa), List.filter_cons_of_pos (by simpa)] at whole
          exact (List.cons.inj whole).2
        · rwa [List.filter_cons_of_neg (by simpa), List.filter_cons_of_neg (by simpa)] at whole
      rw [inductionHypothesis inOrder.of_cons alsoInOrder.of_cons tails]

/-- Two tables have the same rows in order exactly if each has the rows of the same numbers in the
same order. -/
theorem sorted_techniques_eq_iff : table.sorted.techniques = other.sorted.techniques ↔
    ∀ key, table.numbered key = other.numbered key := by
  constructor
  · intro same key
    rw [← numbered_sorted table, ← numbered_sorted other, numbered, numbered, same]
  · intro alike
    refine eq_of_filter_eq table.pairwise_sorted other.pairwise_sorted fun key => ?_
    exact (table.numbered_sorted key).trans ((alike key).trans (other.numbered_sorted key).symm)

/-! ## Rows of different numbers -/

/-- Sorting the same rows gives the same sequence of numbers, in whatever order the rows were. -/
theorem numbers_sorted (permuted : table.techniques.Perm other.techniques) :
    table.sorted.numbers = other.sorted.numbers := by
  let atMost (left right : Nat × Nat) : Prop :=
    left.1 < right.1 ∨ left.1 = right.1 ∧ left.2 ≤ right.2
  have ordered : ∀ table : Table, table.sorted.numbers.Pairwise atMost := by
    intro table
    refine List.pairwise_map.2 (table.pairwise_sorted.imp fun inOrder => ?_)
    exact precedes_iff.1 inOrder
  have alike : table.sorted.techniques.Perm other.sorted.techniques :=
    (List.mergeSort_perm _ _).trans (permuted.trans (List.mergeSort_perm _ _).symm)
  refine List.Perm.eq_of_pairwise ?_ (ordered table) (ordered other) (alike.map _)
  intro left right _ _ forth back
  exact Prod.ext (by omega) (by omega)

/-- Of two rows of a table one stands before the other. -/
theorem standsBefore_or (inLeft : left ∈ table.techniques) (inRight : right ∈ table.techniques)
    (apart : left ≠ right) : table.StandsBefore left right ∨ table.StandsBefore right left := by
  obtain ⟨before, after, split⟩ := List.append_of_mem inLeft
  rw [split, List.mem_append, List.mem_cons] at inRight
  unfold StandsBefore
  rw [split]
  rcases inRight with earlier | rfl | later
  · refine .inr ?_
    exact (List.singleton_sublist.2 earlier).append (List.singleton_sublist.2 List.mem_cons_self)
  · exact absurd rfl apart
  · refine .inl (.trans ?_ (List.sublist_append_right _ _))
    exact (List.singleton_sublist.2 later).cons_cons left

/-- Rows of the same numbers stand in the order that the rows of these numbers have. -/
theorem standsBefore_iff_numbered (same : left.id.key = right.id.key) :
    table.StandsBefore left right ↔ [left, right].Sublist (table.numbered right.id.key) := by
  constructor
  · intro stands
    have filtered := stands.filter fun technique => technique.id.key = right.id.key
    rwa [List.filter_cons_of_pos (by simpa), List.filter_cons_of_pos (by simp),
      List.filter_nil] at filtered
  · exact fun stands => stands.trans List.filter_sublist

/-- In order, one of two rows stands before the other if it has lesser numbers, or the same numbers
and stood before the other already. -/
theorem standsBefore_sorted_iff (inLeft : left ∈ table.techniques)
    (inRight : right ∈ table.techniques) (apart : left ≠ right) :
    table.sorted.StandsBefore left right ↔
      precedes left right = true ∧
        (left.id.key = right.id.key → table.StandsBefore left right) := by
  have ordered : ∀ {first second}, table.sorted.StandsBefore first second →
      precedes first second = true :=
    List.pairwise_iff_forall_sublist.1 table.pairwise_sorted
  by_cases same : left.id.key = right.id.key
  · have either : table.sorted.StandsBefore left right ↔ table.StandsBefore left right := by
      rw [standsBefore_iff_numbered same, standsBefore_iff_numbered same, numbered_sorted]
    rw [either]
    exact ⟨fun stands => ⟨precedes_of_key_eq same, fun _ => stands⟩, fun stands => stands.2 same⟩
  · constructor
    · exact fun stands => ⟨ordered stands, fun isSame => absurd isSame same⟩
    · rintro ⟨forth, -⟩
      rcases standsBefore_or (mem_sorted.2 inLeft) (mem_sorted.2 inRight) apart with stands | stands
      · exact stands
      · exact absurd (key_eq_of_precedes forth (ordered stands)) same

/-- In order, every sub-technique stands behind its technique unless its number is zero; one of
number zero stands behind it exactly if it did so before. -/
theorem standsBefore_sorted_parent_iff {child parent : Technique}
    (isParent : child.id.parentText? = some parent.id.text) (isChild : child ∈ table.techniques)
    (inTable : parent ∈ table.techniques) (valued : child.id.HasValues) :
    table.sorted.StandsBefore parent child ↔
      child.id.sub? ≠ some 0 ∨ table.StandsBefore parent child := by
  have keys := TechniqueId.key_of_parentText? isParent
  rw [TechniqueId.parentText?_eq_stem?] at isParent
  have isSub := (TechniqueId.stem?_eq_some_iff.1 isParent).1
  have earlier : precedes parent child = true := by
    rw [precedes_iff, keys]
    omega
  have tied : parent.id.key = child.id.key ↔ child.id.sub? = some 0 := by
    rw [← TechniqueId.snd_key_eq_zero_iff isSub valued, keys]
    constructor
    · exact fun same => (congrArg Prod.snd same).symm
    · exact fun zero => Prod.ext rfl zero.symm
  -- The technique that something belongs to is no sub-technique itself.
  have apart : parent ≠ child := by
    rintro rfl
    rw [TechniqueId.isSub_of_stem? isParent] at isSub
    cases isSub
  rw [standsBefore_sorted_iff inTable isChild apart, tied, and_iff_right earlier]
  exact Decidable.imp_iff_not_or

end

end Table
end ThreatMatrix
