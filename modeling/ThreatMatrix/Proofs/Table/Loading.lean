import Mathlib.Data.List.Forall2
import ThreatMatrix.Proofs.Table.Order
import ThreatMatrix.Session

/-!
# Loading tables

What loading a table comes to: the rows that are offered, nothing that is required missing, and the
rows put in order, which takes digits that have values.
-/

namespace ThreatMatrix.Table

/-- The required identifiers that a table has no row for, in the order in which they are required.
-/
def missing (table : Table) (ids : List Text) : List Text :=
  ids.filter fun id => !table.ids.contains id

/-- Nothing is missing if every required identifier has a row. -/
theorem missing_eq_nil_iff {table : Table} {ids : List Text} :
    table.missing ids = [] ↔ ∀ id ∈ ids, id ∈ table.ids := by
  rw [missing, List.filter_eq_nil_iff]
  simp

/-- Sorting does not change what is missing. -/
theorem missing_sorted (table : Table) (ids : List Text) :
    table.sorted.missing ids = table.missing ids := by
  refine List.filter_congr fun id _ => ?_
  have same : id ∈ table.sorted.ids ↔ id ∈ table.ids := by simp [Table.ids]
  simp [same]

/-! ## What is required -/

/-- Items that count as texts, one by one. -/
def CountAs (items : List Value) (texts : List Text) : Prop :=
  List.Forall₂ (fun item text => item.asText? = some text) items texts

theorem countAs_texts (texts : List Text) : CountAs (texts.map .text) texts :=
  List.forall₂_map_left_iff.2 (List.forall₂_same.2 fun _ _ => rfl)

section

variable {table : Table} {items : List Value} {ids : List Text} {required : Value} {source : Text}

/-- What a table lacks of items that count as texts counts as the texts that are missing. -/
theorem exists_lacking (texts : CountAs items ids) (table : Table) :
    ∃ rest, table.lacking items = .ok rest ∧ CountAs rest (table.missing ids) := by
  induction texts with
  | nil => exact ⟨[], rfl, .nil⟩
  | @cons item id more others isText _ inductionHypothesis =>
    obtain ⟨rest, lacks, restTexts⟩ := inductionHypothesis
    rw [lacking, Value.lookable_of_asText? isText, ok_bind, lacks, ok_bind, isText]
    by_cases present : id ∈ table.ids
    · refine ⟨rest, by simp [present], ?_⟩
      rwa [missing, List.filter_cons_of_neg (by simpa using present)]
    · refine ⟨item :: rest, by simp [present], ?_⟩
      rw [missing, List.filter_cons_of_pos (by simpa using present)]
      exact .cons isText restTexts

theorem itemTexts_of_countAs (texts : CountAs items ids) (index : Nat) :
    itemTexts index items = .ok ids := by
  induction texts generalizing index with
  | nil => rfl
  | cons isText _ inductionHypothesis =>
    rw [itemTexts, isText]
    simp [inductionHypothesis]

/-- A table is refused exactly if it lacks a required identifier, and the refusal names what it
lacks, in the order in which it is required. -/
theorem checkRequired_of_countAs (iterates : required.iterate = .ok items)
    (texts : CountAs items ids) :
    checkRequired source table required =
      if table.missing ids = [] then .ok ()
      else .error (.tableIncomplete source (table.missing ids)) := by
  obtain ⟨rest, isRest, restTexts⟩ := exists_lacking texts table
  have named := itemTexts_of_countAs restTexts 0
  rw [checkRequired, iterates, ok_bind, isRest, mapError_ok, ok_bind, named, mapError_ok, ok_bind]
  generalize table.missing ids = absent at restTexts
  cases restTexts with
  | nil => rfl
  | cons _ _ => rfl

theorem checkRequired_texts (source : Text) (table : Table) (ids : List Text) :
    checkRequired source table (.tuple (ids.map .text)) =
      if table.missing ids = [] then .ok ()
      else .error (.tableIncomplete source (table.missing ids)) :=
  checkRequired_of_countAs rfl (countAs_texts ids)

end

/-! ## Loading -/

/-- The rows that loading starts from: those in a file, or the packaged ones. -/
def offered (room : Nat) (tree : Tree) : Option Path → Except Problem Table
  | none => .ok packaged
  | some path => readFile room tree path

/-- The name under which messages speak of the rows. -/
def offeredName : Option Path → Text
  | none => packagedName
  | some path => path.text

/-- A file whose rows can be read is noted once and put in order, or refused for what is missing and
without a note. -/
theorem load_eq_of_readFile {room : Nat} {tree : Tree} {path : Path} {rows : Table}
    (isRead : readFile room tree path = .ok rows) (required : Value) :
    load room tree path required =
      match checkRequired path.text rows required with
      | .ok _ => ⟨[.loaded path.text rows.domain rows.version rows.techniques.length],
        rows.sort.mapError .notNumeral⟩
      | .error problem => .fail problem := by
  rw [load, isRead, mapError_ok, Outcome.ofExcept_ok_bind]
  cases checkRequired path.text rows required with
  | ok _ => rfl
  | error problem => rfl

/-- Rows that can be read are put in order if nothing required is missing, and else refused. -/
theorem load_of_readFile {room : Nat} {tree : Tree} {path : Path} {rows : Table}
    (isRead : readFile room tree path = .ok rows) (required : Value) :
    (load room tree path required).result =
      checkRequired path.text rows required >>= fun _ => rows.sort.mapError .notNumeral := by
  rw [load_eq_of_readFile isRead]
  cases checkRequired path.text rows required with
  | error problem => rfl
  | ok _ => rfl

/-- Loading reads the rows, looks for what is missing and puts the rows in order. -/
theorem result_load? (room : Nat) (tree : Tree) (path : Option Path) (required : Value) :
    (load? room tree path required).result = (do
      let rows ← (offered room tree path).mapError fun problem =>
        if problem.isLoadFailure then .tableUnreadable (offeredName path) problem else problem
      checkRequired (offeredName path) rows required
      rows.sort.mapError .notNumeral) := by
  cases path with
  | none => rfl
  | some path => simp [load?, load, offered, offeredName]

/-- A table is loaded exactly if its rows can be read, nothing required is missing and the digits of
the rows have values; it is then the rows in order. -/
theorem load?_eq_ok_iff {room : Nat} {tree : Tree} {path : Option Path} {required : Value}
    {table : Table} : (load? room tree path required).result = .ok table ↔
      ∃ rows, offered room tree path = .ok rows ∧
        checkRequired (offeredName path) rows required = .ok () ∧ rows.HasValues ∧
        rows.sorted = table := by
  rw [result_load?, bind_eq_ok_iff]
  refine exists_congr fun rows => and_congr mapError_eq_ok_iff ?_
  rw [bind_eq_ok_iff, mapError_eq_ok_iff, sort_eq_ok_iff, eq_comm (a := table)]
  exact ⟨fun ⟨(), rest⟩ => rest, fun rest => ⟨(), rest⟩⟩

/-- A table that is loaded with the identifiers that every catalog must hold has a row for each. -/
theorem required_of_load? {room : Nat} {tree : Tree} {path : Option Path} {table : Table}
    (loaded : (load? room tree path Session.requiredIds).result = .ok table) :
    ∀ id ∈ Constants.required, id ∈ table.ids := by
  obtain ⟨rows, -, checked, -, rfl⟩ := load?_eq_ok_iff.1 loaded
  rw [Session.requiredIds, checkRequired_texts] at checked
  by_cases complete : rows.missing Constants.required = []
  · rw [← missing_sorted] at complete
    exact missing_eq_nil_iff.1 complete
  · rw [if_neg complete] at checked
    cases checked

/-- The packaged table has a row for every required identifier. -/
theorem missing_packaged : packaged.missing Constants.required = [] := by decide +kernel

/-- The packaged table is loaded wherever no file is named. -/
theorem load?_packaged (room : Nat) (tree : Tree) :
    (load? room tree none Session.requiredIds).result = .ok packaged.sorted := by
  refine load?_eq_ok_iff.2 ⟨packaged, rfl, ?_, hasValues_packaged, rfl⟩
  rw [Session.requiredIds, checkRequired_texts, if_pos missing_packaged]

end ThreatMatrix.Table
