import ThreatMatrix.Catalog.Index

/-!
# Catalogs

A catalog is the closed set of techniques of a table, in the order of the table. It reads
identifiers in any letter case and knows which techniques belong together. Everything is found
through the index that was built when the catalog was made; the lemmas at the end say what that
amounts to.
-/

namespace ThreatMatrix

/-- The techniques that identifiers are resolved to. -/
structure Catalog where
  table : Table
  index : Index
  /-- The index is that of the rows of the table. -/
  built : Index.build table.techniques = .ok index

namespace Catalog

/-- The catalog of a table, or the problem that its rows met. -/
def build (table : Table) : Except Problem Catalog :=
  match built : Index.build table.techniques with
  | .ok index => .ok { table, index, built }
  | .error problem => .error problem

/-- A catalog is built from every table. -/
theorem exists_build (table : Table) : ∃ catalog, build table = .ok catalog := by
  obtain ⟨index, isIndex, -⟩ := Index.build_ofTable table
  refine ⟨⟨table, index, isIndex⟩, ?_⟩
  unfold build
  split
  · next other isOther =>
    cases isIndex.symm.trans isOther
    rfl
  · next isProblem =>
    rw [isIndex] at isProblem
    cases isProblem

/-- The catalog of a table, which meets no problem. -/
def ofTable (table : Table) : Catalog :=
  match built : build table with
  | .ok catalog => catalog
  | .error _ => False.elim (by
      obtain ⟨catalog, isCatalog⟩ := exists_build table
      rw [built] at isCatalog
      cases isCatalog)

/-- The techniques of a catalog, in order. -/
def techniques (catalog : Catalog) : List Technique :=
  catalog.index.roster.members

/-- The published version of the techniques. -/
def version (catalog : Catalog) : Option Text :=
  catalog.table.version

/-- The technique with exactly this identifier. -/
def ofId? (catalog : Catalog) (text : Text) : Option Technique :=
  catalog.index.roster.ids.lookup text

/-- The technique with exactly this symbol. -/
def ofSymbol? (catalog : Catalog) (text : Text) : Option Technique :=
  catalog.index.roster.symbols.lookup text

/-- The technique that an identifier names in any letter case. -/
def parse? (catalog : Catalog) (text : Text) : Option Technique :=
  catalog.index.keys.lookup text.lower

/-- The techniques of a catalog, or only those that are, or are not, sub-techniques. -/
def select (catalog : Catalog) (sub : Option Bool) : List Technique :=
  match sub with
  | none => catalog.techniques
  | some wanted => catalog.techniques.filter (·.id.isSub = wanted)

/-- The technique that a sub-technique belongs to; one that is not in the catalog is a problem. -/
def parent (catalog : Catalog) (technique : Technique) : Except Problem (Option Technique) :=
  catalog.index.roster.parent technique

/-- The technique that a sub-technique of the catalog belongs to. -/
def parent? (catalog : Catalog) (technique : Technique) : Option Technique :=
  match catalog.parent technique with
  | .ok found => found
  | .error _ => none

/-- The sub-techniques that belong to a technique, in order. -/
def children (catalog : Catalog) (technique : Technique) : List Technique :=
  (catalog.index.families.lookup technique.id.text).getD []

/-- The name of a technique, behind the name of the technique it belongs to. -/
def fullName (catalog : Catalog) (technique : Technique) : Text :=
  match catalog.parent? technique with
  | some parent => parent.name ++ ": " ++ technique.name
  | none => technique.name

/-! ## What is found -/

/-- A catalog keeps the table that it is built from. -/
theorem table_of_build {table : Table} {catalog : Catalog} (built : build table = .ok catalog) :
    catalog.table = table := by
  unfold build at built
  split at built
  · cases built
    rfl
  · cases built

/-- The catalog of a table is the one that is built from it. -/
theorem build_eq_ofTable (table : Table) : build table = .ok (ofTable table) := by
  obtain ⟨catalog, built⟩ := exists_build table
  unfold ofTable
  split
  · next other isOther => exact isOther
  · next isProblem =>
    rw [built] at isProblem
    cases isProblem

/-- The index of a catalog lists the rows of its table. -/
theorem index_lists (catalog : Catalog) : catalog.index.Lists catalog.table.techniques := by
  obtain ⟨index, built, lists⟩ := Index.build_ofTable catalog.table
  rw [catalog.built] at built
  cases built
  exact lists

/-- The techniques of a catalog are the rows of its table. -/
theorem techniques_eq (catalog : Catalog) : catalog.techniques = catalog.table.techniques := by
  rw [techniques, catalog.index_lists.roster, Roster.ofRows]

/-- The techniques of the catalog of a table are the rows of that table. -/
theorem techniques_ofTable (table : Table) : (ofTable table).techniques = table.techniques := by
  rw [techniques_eq, table_of_build (build_eq_ofTable table)]

/-- The techniques of a catalog have distinct identifiers. -/
theorem distinct (catalog : Catalog) : (catalog.techniques.map (·.id)).Nodup := by
  rw [techniques_eq]
  exact catalog.table.distinct

/-- A technique is found under its identifier only. -/
theorem ofId?_eq_some_iff {catalog : Catalog} {text : Text} {technique : Technique} :
    catalog.ofId? text = some technique ↔
      technique ∈ catalog.techniques ∧ technique.id.text = text := by
  have spelled := nodup_of_ids catalog.distinct (·.text) TechniqueId.eq_of_text
  rw [techniques_eq] at spelled ⊢
  rw [ofId?, catalog.index_lists.roster, Roster.ofRows]
  exact Keyed.lookup_map_eq_some_iff spelled

/-- A technique is found under its symbol only. -/
theorem ofSymbol?_eq_some_iff {catalog : Catalog} {text : Text} {technique : Technique} :
    catalog.ofSymbol? text = some technique ↔
      technique ∈ catalog.techniques ∧ technique.id.symbol = text := by
  have spelled := nodup_of_ids catalog.distinct (·.symbol) TechniqueId.symbol_injective
  rw [techniques_eq] at spelled ⊢
  rw [ofSymbol?, catalog.index_lists.roster, Roster.ofRows]
  exact Keyed.lookup_map_eq_some_iff spelled

/-- A technique is read from its identifier in any letter case and from nothing else. -/
theorem parse?_eq_some_iff {catalog : Catalog} {text : Text} {technique : Technique} :
    catalog.parse? text = some technique ↔
      technique ∈ catalog.techniques ∧ technique.id.text.lower = text.lower := by
  have spelled := nodup_of_ids catalog.distinct (·.text.lower) TechniqueId.lower_injective
  rw [techniques_eq] at spelled ⊢
  rw [parse?, catalog.index_lists.keys]
  exact Keyed.lookup_map_eq_some_iff spelled

/-- A technique belongs to the one that has its first five columns for an identifier. -/
theorem parent_eq_some_iff {catalog : Catalog} {technique found : Technique} :
    catalog.parent technique = .ok (some found) ↔
      found ∈ catalog.techniques ∧ technique.id.stem? = some found.id.text := by
  have distinct := catalog.distinct
  rw [techniques_eq] at distinct ⊢
  rw [parent, catalog.index_lists.roster]
  exact Roster.parent_ofRows distinct

/-- The children of a technique are those that have its identifier for their first five columns. -/
theorem children_eq_filter (catalog : Catalog) (technique : Technique) :
    catalog.children technique =
      catalog.techniques.filter fun child => child.id.stem? = some technique.id.text := by
  rw [techniques_eq]
  exact catalog.index_lists.families technique.id.text

end Catalog
end ThreatMatrix
