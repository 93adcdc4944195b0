import ThreatMatrix.Report

/-!
# Technique tables

A table lists techniques under distinct identifiers, and every sub-technique stands beside its
technique. Rows that break a rule make up no table; the first rule that is broken is blamed. The
order of the rows is free, and `Table.sorted` is the order by number. `Table.sort` comes to that
order where all numbers can be read, and fails where one cannot.
-/

namespace ThreatMatrix

/-- The techniques of a domain. -/
structure Table where
  domain : Text
  version : Option Text
  techniques : List Technique
  /-- No identifier occurs twice. -/
  distinct : (techniques.map (·.id)).Nodup
  /-- The technique of every sub-technique has a row. -/
  parented : ∀ technique ∈ techniques, ∀ parent, technique.id.parentText? = some parent →
    parent ∈ techniques.map (·.id.text)

namespace Table

/-- The first identifier that stands among earlier ones. -/
def firstRepeated? (earlier : List TechniqueId) : List TechniqueId → Option TechniqueId
  | [] => none
  | id :: more => if id ∈ earlier then some id else firstRepeated? (id :: earlier) more

/-- Whether a row's technique is missing from a list of identifiers. -/
def isOrphan (present : List Text) (id : TechniqueId) : Bool :=
  match id.parentText? with
  | none => false
  | some parent => !present.contains parent

/-- The identifiers of sub-techniques whose technique is missing, in order. -/
def orphans (ids : List TechniqueId) : List TechniqueId :=
  ids.filter (isOrphan (ids.map (·.text)))

theorem nodup_of_firstRepeated?_eq_none {earlier ids : List TechniqueId}
    (unrepeated : firstRepeated? earlier ids = none) :
    ids.Nodup ∧ ∀ id ∈ ids, id ∉ earlier := by
  induction ids generalizing earlier with
  | nil => simp
  | cons id more inductionHypothesis =>
    rw [firstRepeated?] at unrepeated
    split at unrepeated
    · contradiction
    · next fresh =>
      obtain ⟨nodup, apart⟩ := inductionHypothesis unrepeated
      refine ⟨List.nodup_cons.2 ⟨fun member => ?_, nodup⟩, ?_⟩
      · exact apart id member List.mem_cons_self
      · intro other member
        rcases List.mem_cons.1 member with rfl | later
        · exact fresh
        · exact fun old => apart other later (List.mem_cons_of_mem id old)

theorem parent_mem_of_orphans_eq_nil {ids : List TechniqueId} (complete : orphans ids = [])
    {id : TechniqueId} (member : id ∈ ids) {parent : Text}
    (isParent : id.parentText? = some parent) :
    parent ∈ ids.map (·.text) := by
  have kept := (List.filter_eq_nil_iff.1 complete) id member
  simpa [isOrphan, isParent] using kept

/-- The table of some rows, or the rule that they break. -/
def ofRows (domain : Text) (version : Option Text) (techniques : List Technique) :
    Except Inconsistency Table :=
  let ids := techniques.map (·.id)
  match unrepeated : firstRepeated? [] ids with
  | some id => .error (.repeated id)
  | none =>
    match complete : orphans ids with
    | first :: more => .error (.orphans (first :: more))
    | [] => .ok
      { domain, version, techniques
        distinct := (nodup_of_firstRepeated?_eq_none unrepeated).1
        parented := fun technique member parent isParent => by
          have found := parent_mem_of_orphans_eq_nil complete
            (List.mem_map_of_mem member) isParent
          simpa [ids] using found }

/-- The order of rows by the numbers of their identifiers. -/
def precedes (left right : Technique) : Bool :=
  left.id.precedes right.id

/-- The same table with its rows in the order of their numbers; rows with the same numbers stay in
their order. -/
def sorted (table : Table) : Table :=
  { table with
    techniques := table.techniques.mergeSort precedes
    distinct := ((List.mergeSort_perm table.techniques precedes).map (·.id)).nodup_iff.2
      table.distinct
    parented := fun technique member parent isParent =>
      ((List.mergeSort_perm table.techniques precedes).map (·.id.text)).mem_iff.2
        (table.parented technique (List.mem_mergeSort.1 member) parent isParent) }

/-- The digits of all identifiers of the table have values. -/
def HasValues (table : Table) : Prop :=
  ∀ technique ∈ table.techniques, technique.id.HasValues

instance (table : Table) : Decidable table.HasValues :=
  inferInstanceAs (Decidable (∀ technique ∈ table.techniques, technique.id.HasValues))

/-- The table in the order of its numbers, or the first numeral in it that denotes no number. The
numbers of all rows are read before a row is moved. -/
def sort (table : Table) : Except Text Table := do
  let _ ← table.techniques.mapM (·.id.numbers)
  return table.sorted

/-- The identifiers of a table, in order. -/
def ids (table : Table) : List Text :=
  table.techniques.map (·.id.text)

/-- The number of rows of sub-techniques. -/
def subCount (table : Table) : Nat :=
  table.techniques.countP (·.id.isSub)

end Table
end ThreatMatrix
