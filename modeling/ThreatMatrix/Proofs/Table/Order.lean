import ThreatMatrix.Table.Basic
import ThreatMatrix.Technique.Form

/-!
# The order of rows

The order by numbers is total and transitive, so `Table.sorted` puts every table in order and leaves
a table in order as it is. `Table.sort` comes to the same table exactly if the digits of all rows
have values.
-/

namespace ThreatMatrix.Table

/-- A row stands before another by its technique number, and then by its sub-technique number. -/
theorem precedes_iff {left right : Technique} :
    precedes left right = true ↔ left.id.key.1 < right.id.key.1 ∨
      left.id.key.1 = right.id.key.1 ∧ left.id.key.2 ≤ right.id.key.2 := by
  simp [precedes, TechniqueId.precedes]

theorem precedes_trans (first second third : Technique) (earlier : precedes first second = true)
    (later : precedes second third = true) : precedes first third = true := by
  rw [precedes_iff] at earlier later ⊢
  omega

theorem precedes_total (left right : Technique) :
    (precedes left right || precedes right left) = true := by
  rw [Bool.or_eq_true, precedes_iff, precedes_iff]
  omega

/-- Tables are equal if their labels and rows are. -/
theorem ext {left right : Table} (domain : left.domain = right.domain)
    (version : left.version = right.version) (techniques : left.techniques = right.techniques) :
    left = right := by
  cases left
  cases right
  cases domain
  cases version
  cases techniques
  rfl

/-- The rows of a sorted table stand in order. -/
theorem pairwise_sorted (table : Table) :
    table.sorted.techniques.Pairwise fun left right => precedes left right = true :=
  List.pairwise_mergeSort precedes_trans precedes_total table.techniques

/-- Sorting keeps a table whose rows stand in order. -/
theorem sorted_of_pairwise {table : Table}
    (ordered : table.techniques.Pairwise fun left right => precedes left right = true) :
    table.sorted = table :=
  ext rfl rfl (List.mergeSort_of_pairwise ordered)

/-- Sorting twice comes to sorting once. -/
@[simp] theorem sorted_sorted (table : Table) : table.sorted.sorted = table.sorted :=
  sorted_of_pairwise table.pairwise_sorted

/-- Sorting neither adds nor drops a row. -/
@[simp] theorem mem_sorted {table : Table} {technique : Technique} :
    technique ∈ table.sorted.techniques ↔ technique ∈ table.techniques :=
  List.mem_mergeSort

/-! ## Reading the numbers -/

/-- Sorting gives the rows in order exactly if the digits of all rows have values. -/
theorem sort_eq_ok_iff {table other : Table} :
    table.sort = .ok other ↔ table.HasValues ∧ other = table.sorted := by
  have isRead : (∃ keys, table.techniques.mapM (·.id.numbers) = .ok keys) ↔ table.HasValues := by
    rw [exists_mapM_eq_ok_iff]
    exact forall₂_congr fun _ _ => TechniqueId.exists_numbers_iff
  rw [sort, bind_eq_ok_iff, ← isRead]
  constructor
  · rintro ⟨keys, read, same⟩
    cases same
    exact ⟨⟨keys, read⟩, rfl⟩
  · rintro ⟨⟨keys, read⟩, rfl⟩
    exact ⟨keys, read, rfl⟩

/-- Sorting fails with the numeral of the first row whose numbers cannot be read. -/
theorem sort_eq_error_iff {table : Table} {numeral : Text} :
    table.sort = .error numeral ↔ ∃ before technique after,
      table.techniques = before ++ technique :: after ∧
        (∀ earlier ∈ before, earlier.id.HasValues) ∧ technique.id.numbers = .error numeral := by
  simp only [sort, bind_eq_error_iff, mapM_eq_error_iff, TechniqueId.exists_numbers_iff, pure_eq_ok,
    reduceCtorEq, and_false, exists_false, or_false]

/-- Sorting keeps the digits of all rows. -/
@[simp] theorem hasValues_sorted {table : Table} : table.sorted.HasValues ↔ table.HasValues :=
  forall_congr' fun _ => imp_congr_left mem_sorted

end ThreatMatrix.Table
