import ThreatMatrix.Identifier
import ThreatMatrix.Proofs.Table.Loading

/-!
# Ways to a technique

The catalog of a loaded table has one member for each row. Listing the catalog, its identifiers, its
symbols, reading an identifier as it is written and reading it in small letters all lead to the same
member, and so do the constants.
-/

namespace ThreatMatrix.Catalog

/-- A catalog is true to a table if its members are the rows of the table in their order, and every
way to a member leads there. -/
structure IsTrueTo (catalog : Catalog) (table : Table) : Prop where
  /-- The members carry the identifiers and the names of the rows. -/
  members : catalog.techniques = table.techniques
  /-- No two members are read alike. -/
  distinctKeys : (catalog.techniques.map (·.id.text.lower)).Nodup
  byId : ∀ technique ∈ catalog.techniques,
    catalog.ofIdValue (.text technique.id.text) = .ok technique
  bySymbol : ∀ technique ∈ catalog.techniques,
    catalog.ofSymbolValue (.text technique.id.symbol) = .ok technique
  byReading : ∀ technique ∈ catalog.techniques,
    catalog.ofValue (.text technique.id.text) = .ok technique
  byReadingSmall : ∀ technique ∈ catalog.techniques,
    catalog.ofValue (.text technique.id.text.lower) = .ok technique
  byConstant : ∀ entry ∈ Constants.techniques, ∃ technique ∈ catalog.techniques,
    technique.id = entry.2 ∧ Constants.find catalog entry.1 = .ok (.technique technique)

/-- A text is read as the member whose identifier it is in some letter case. -/
theorem ofValue_eq_ok_iff {catalog : Catalog} {technique : Technique} {text : Text} :
    catalog.ofValue (.text text) = .ok technique ↔
      technique ∈ catalog.techniques ∧ technique.id.text.lower = text.lower := by
  have isText : (Value.text text).asText?.bind catalog.parse? = catalog.parse? text := rfl
  rw [← parse?_eq_some_iff, ofValue, isText]
  cases catalog.parse? text with
  | none => simp
  | some found => simp

/-- Every name of a technique is the name of no tactic and stands for one identifier. -/
theorem names_of_techniques : ∀ entry ∈ Constants.techniques,
    Constants.tactics.lookup entry.1 = none ∧
      Constants.techniques.lookup entry.1 = some entry.2 := by
  decide +kernel

/-- A constant finds the member of its identifier. -/
theorem find_constant {catalog : Catalog} {entry : Text × TechniqueId} {technique : Technique}
    (named : entry ∈ Constants.techniques) (member : technique ∈ catalog.techniques)
    (same : technique.id = entry.2) :
    Constants.find catalog entry.1 = .ok (.technique technique) := by
  obtain ⟨noTactic, isNamed⟩ := names_of_techniques entry named
  have found := ofSymbol?_eq_some_iff.2 ⟨member, congrArg TechniqueId.symbol same⟩
  simp [Constants.find, Constants.meaning?, noTactic, isNamed, found, orProblem]

/-- Every table that is loaded with the required identifiers has a catalog, and the catalog is true
to the rows that were offered, put in the order of their numbers. -/
theorem isTrueTo_loaded {room : Nat} {files : Tree} {path : Option Path} {table : Table}
    (loaded : (Table.load? room files path Session.requiredIds).result = .ok table) :
    ∃ catalog, build table = .ok catalog ∧ catalog.IsTrueTo table ∧
      ∃ rows, Table.offered room files path = .ok rows ∧
        table.techniques = rows.techniques.mergeSort Table.precedes := by
  obtain ⟨catalog, built⟩ := exists_build table
  obtain ⟨rows, isOffered, -, -, isSorted⟩ := Table.load?_eq_ok_iff.1 loaded
  have members : catalog.techniques = table.techniques := by
    rw [techniques_eq, table_of_build built]
  refine ⟨catalog, built, ?_, rows, isOffered, by rw [← isSorted]; rfl⟩
  exact {
    members
    distinctKeys := nodup_of_ids catalog.distinct (·.text.lower) TechniqueId.lower_injective
    byId := fun technique member => by
      have found := ofId?_eq_some_iff.2 ⟨member, rfl⟩
      simp [ofIdValue, Value.asText?, found, orProblem]
    bySymbol := fun technique member => by
      have found := ofSymbol?_eq_some_iff.2 ⟨member, rfl⟩
      have lookable : (Value.text technique.id.symbol).lookable = .ok () := rfl
      simp [ofSymbolValue, Value.asText?, found, lookable, orProblem]
    byReading := fun technique member => ofValue_eq_ok_iff.2 ⟨member, rfl⟩
    byReadingSmall := fun technique member =>
      ofValue_eq_ok_iff.2 ⟨member, technique.id.lower_lower_text.symm⟩
    byConstant := fun entry named => by
      have present := Table.required_of_load? loaded entry.2.text
        (List.mem_map.2 ⟨entry, named, rfl⟩)
      obtain ⟨technique, isRow, isText⟩ := List.mem_map.1 present
      have member : technique ∈ catalog.techniques := members ▸ isRow
      have same := TechniqueId.eq_of_text isText
      exact ⟨technique, member, same, find_constant named member same⟩ }

/-- The packaged table is loaded and has a catalog that is true to it. -/
theorem isTrueTo_packaged :
    (Table.load? 0 .empty none Session.requiredIds).result = .ok Table.packaged.sorted ∧
      ∃ catalog, build Table.packaged.sorted = .ok catalog ∧
        catalog.IsTrueTo Table.packaged.sorted := by
  have loaded := Table.load?_packaged 0 .empty
  obtain ⟨catalog, built, isTrue, -⟩ := isTrueTo_loaded loaded
  exact ⟨loaded, catalog, built, isTrue⟩

end ThreatMatrix.Catalog
