import ThreatMatrix.Problem
import ThreatMatrix.Steps
import ThreatMatrix.Table.Basic
import ThreatMatrix.Technique.Form

/-!
# Indices

Where the techniques of a catalog are found is settled once, row by row: under which symbol and
identifier a technique stands, which small spelling is read as it, and which sub-techniques belong
to it. A row may claim a symbol that is taken, and a sub-technique may belong to nothing that was
entered; both would leave no index. `Index.build_ofTable` says that neither happens to the rows of a
table, and what their index holds.
-/

namespace ThreatMatrix

/-- The members of a closed set in the order in which they were entered, under their symbols and
under their identifiers. -/
structure Roster where
  members : List Technique
  symbols : List (Text × Technique)
  ids : List (Text × Technique)

namespace Roster

/-- Nothing was entered. -/
def empty : Roster := ⟨[], [], []⟩

/-- The roster with one more row. A symbol is given away once. A row whose identifier was entered
before makes no member, and its symbol stands for the earlier one. -/
def enter (roster : Roster) (row : Technique) : Except Problem Roster :=
  match roster.symbols.lookup row.id.symbol with
  | some earlier => .error (.symbolTaken row.id.symbol earlier)
  | none =>
    match roster.ids.lookup row.id.text with
    | some earlier => .ok { roster with symbols := roster.symbols ++ [(row.id.symbol, earlier)] }
    | none => .ok
      { members := roster.members ++ [row]
        symbols := roster.symbols ++ [(row.id.symbol, row)]
        ids := roster.ids ++ [(row.id.text, row)] }

/-- The members under their small spellings; a later member displaces an earlier one. -/
def keys (roster : Roster) : List (Text × Technique) :=
  roster.members.foldl (fun entries member =>
    Keyed.put Prod.fst entries (member.id.text.lower, member)) []

/-- The member that a sub-technique belongs to, found under its first five columns. A technique that
is no sub-technique belongs to none. -/
def parent (roster : Roster) (technique : Technique) : Except Problem (Option Technique) :=
  match technique.id.stem? with
  | none => .ok none
  | some stem =>
    match roster.ids.lookup stem with
    | some found => .ok (some found)
    | none => .error (.notMember .technique (.text stem))

/-- The families of sub-techniques, each under the identifier of the technique it belongs to, with
one more technique looked at: a sub-technique comes last in its family. -/
def place (roster : Roster) (families : List (Text × List Technique)) (technique : Technique) :
    Except Problem (List (Text × List Technique)) := do
  match ← roster.parent technique with
  | none => return families
  | some found =>
    let family := (families.lookup found.id.text).getD []
    return Keyed.put Prod.fst families (found.id.text, family ++ [technique])

/-- The roster of rows that stand under symbols and identifiers of their own. -/
def ofRows (rows : List Technique) : Roster where
  members := rows
  symbols := rows.map fun row => (row.id.symbol, row)
  ids := rows.map fun row => (row.id.text, row)

end Roster

/-- Everything that techniques are found by. -/
structure Index where
  roster : Roster
  keys : List (Text × Technique)
  families : List (Text × List Technique)

namespace Index

/-- The index of rows. -/
def build (rows : List Technique) : Except Problem Index := do
  let roster ← rows.foldlM Roster.enter .empty
  let families ← roster.members.foldlM roster.place []
  return { roster, keys := roster.keys, families }

end Index

/-! ## Rows of distinct identifiers -/

section

variable {rows : List Technique}

/-- What tells identifiers apart tells the rows of distinct identifiers apart. -/
theorem nodup_of_ids (distinct : (rows.map (·.id)).Nodup) (spelling : TechniqueId → Text)
    (injective : ∀ {left right}, spelling left = spelling right → left = right) :
    (rows.map fun row => spelling row.id).Nodup := by
  have spelled : ((rows.map (·.id)).map spelling).Nodup :=
    List.Pairwise.map spelling (fun left right apart same => apart (injective same)) distinct
  rwa [List.map_map] at spelled

namespace Roster

/-- Rows of distinct identifiers are entered one and all. -/
theorem foldlM_enter (distinct : (rows.map (·.id)).Nodup) :
    rows.foldlM enter empty = .ok (ofRows rows) := by
  have runs : ∃ final, rows.foldlM enter empty = .ok final ∧ final = ofRows rows := by
    refine exists_run enter (fun taken roster => roster = ofRows taken) rfl ?_
    rintro taken row later - split rfl
    have apart : ∀ other ∈ taken, row.id ≠ other.id := by
      rw [split, List.map_append, List.map_cons] at distinct
      intro other member same
      exact (List.nodup_append.1 distinct).2.2 other.id (List.mem_map_of_mem member) row.id
        List.mem_cons_self same.symm
    have noSymbol : (ofRows taken).symbols.lookup row.id.symbol = none := by
      simp only [ofRows, List.lookup_eq_none_iff, List.mem_map]
      rintro entry ⟨other, member, rfl⟩
      simpa using fun same => apart other member (TechniqueId.symbol_injective same)
    have noId : (ofRows taken).ids.lookup row.id.text = none := by
      simp only [ofRows, List.lookup_eq_none_iff, List.mem_map]
      rintro entry ⟨other, member, rfl⟩
      simpa using fun same => apart other member (TechniqueId.eq_of_text same)
    refine ⟨ofRows (taken ++ [row]), ?_, rfl⟩
    rw [enter, noSymbol, noId]
    simp [ofRows]
  obtain ⟨final, ran, isFinal⟩ := runs
  rw [ran, isFinal]

/-- Rows of distinct identifiers are read under distinct small spellings. -/
theorem keys_ofRows (distinct : (rows.map (·.id)).Nodup) :
    (ofRows rows).keys = rows.map fun row => (row.id.text.lower, row) := by
  have entries : ((rows.map fun row => (row.id.text.lower, row)).map Prod.fst).Nodup := by
    rw [List.map_map]
    exact nodup_of_ids distinct (·.text.lower) TechniqueId.lower_injective
  have listed := Keyed.foldl_put_of_nodup entries
  rw [List.foldl_map] at listed
  exact listed

/-- A row belongs to the row of its first five columns. -/
theorem parent_ofRows (distinct : (rows.map (·.id)).Nodup) {technique found : Technique} :
    (ofRows rows).parent technique = .ok (some found) ↔
      found ∈ rows ∧ technique.id.stem? = some found.id.text := by
  have texts := nodup_of_ids distinct (·.text) TechniqueId.eq_of_text
  cases stem : technique.id.stem? with
  | none => simp [parent, stem]
  | some text =>
    cases present : (ofRows rows).ids.lookup text with
    | none =>
      simp only [parent, stem, present, reduceCtorEq, Option.some.injEq, false_iff, not_and]
      rintro member rfl
      rw [ofRows, (Keyed.lookup_map_eq_some_iff texts).2 ⟨member, rfl⟩] at present
      cases present
    | some other =>
      simp only [parent, stem, present, Except.ok.injEq, Option.some.injEq]
      obtain ⟨member, isText⟩ := (Keyed.lookup_map_eq_some_iff texts).1 present
      constructor
      · rintro rfl
        exact ⟨member, isText.symm⟩
      · rintro ⟨foundMember, foundText⟩
        have again := (Keyed.lookup_map_eq_some_iff texts).2 ⟨foundMember, foundText.symm⟩
        exact Option.some.inj (present.symm.trans again)

/-- Where every sub-technique belongs to a row, the families are formed, and each holds the
sub-techniques of its row in the order of the rows. -/
theorem foldlM_place (distinct : (rows.map (·.id)).Nodup)
    (parented : ∀ row ∈ rows, ∀ parent, row.id.parentText? = some parent →
      parent ∈ rows.map (·.id.text)) :
    ∃ families, rows.foldlM (ofRows rows).place [] = .ok families ∧
      ∀ text, (families.lookup text).getD [] =
        rows.filter fun row => row.id.stem? = some text := by
  refine exists_run (ofRows rows).place (fun taken families => ∀ text, (families.lookup text).getD [] =
    taken.filter fun row => row.id.stem? = some text) (by simp) ?_
  intro taken row later families split holds
  cases stem : row.id.stem? with
  | none =>
    have alone : (ofRows rows).parent row = .ok none := by simp [parent, stem]
    refine ⟨families, by rw [place, alone]; rfl, fun text => ?_⟩
    simp [holds, List.filter_append, stem]
  | some stemText =>
    have member : row ∈ rows := by simp [split]
    have present := parented row member stemText (by rw [TechniqueId.parentText?_eq_stem?, stem])
    obtain ⟨found, foundMember, isStem⟩ := List.mem_map.1 present
    subst isStem
    have belongs := (parent_ofRows distinct).2 ⟨foundMember, stem⟩
    refine ⟨_, by rw [place, belongs]; rfl, fun text => ?_⟩
    rw [Keyed.lookup_put, List.filter_append]
    by_cases same : text = found.id.text
    · simp [same, holds, stem]
    · have apart : found.id.text ≠ text := Ne.symm same
      simp [same, apart, holds, stem]

end Roster

namespace Index

/-- The index finds exactly some rows: each under its own spellings, and each family under the
identifier of its technique. -/
structure Lists (index : Index) (rows : List Technique) : Prop where
  roster : index.roster = .ofRows rows
  keys : index.keys = rows.map fun row => (row.id.text.lower, row)
  families : ∀ text, (index.families.lookup text).getD [] =
    rows.filter fun row => row.id.stem? = some text

/-- The rows of a table have an index, which lists them. -/
theorem build_ofTable (table : Table) :
    ∃ index, build table.techniques = .ok index ∧ index.Lists table.techniques := by
  obtain ⟨families, placed, holds⟩ := Roster.foldlM_place table.distinct table.parented
  refine ⟨⟨.ofRows table.techniques, _, families⟩, ?_, rfl,
    Roster.keys_ofRows table.distinct, holds⟩
  have entered := Roster.foldlM_enter table.distinct
  have members : (Roster.ofRows table.techniques).members = table.techniques := rfl
  rw [build, entered]
  simp only [Except.bind, bind, members, placed]
  rfl

end Index
end
end ThreatMatrix
