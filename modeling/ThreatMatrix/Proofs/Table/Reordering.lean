import Mathlib.Data.List.Induction
import Mathlib.Data.List.Perm.Basic
import ThreatMatrix.Proofs.Table.Arrangement
import ThreatMatrix.Proofs.Table.Writing

/-!
# Files with their rows in another order

A document is compared with one whose rows were reordered. Validation takes the items of a list one
by one, so both describe tables of the same rows, and nothing else that loading looks at depends on
the order of rows. What the order of a file can still change is the order of rows of the same
numbers, and the place of a sub-technique whose number is zero.
-/

namespace ThreatMatrix

/-- Arrays of the same items, in any order. -/
inductive Json.ArePermuted : Json → Json → Prop where
  | array {left right : List Json} (items : left.Perm right) :
      ArePermuted (.array left) (.array right)

/-- Objects that differ in the order of the items of one field at most. -/
inductive Json.AreReordered (name : Text) : Json → Json → Prop where
  | object {left right : List (Text × Json)}
      (others : ∀ other, other ≠ name → (object left).field? other = (object right).field? other)
      (items : Option.Rel ArePermuted ((object left).field? name) ((object right).field? name)) :
      AreReordered name (.object left) (.object right)

/-! ## Validation of reordered items -/

/-- Of the fields of one name the last is kept. -/
theorem Value.lookup_mergeFields {α : Type} (fields : List (Text × α)) (name : Text) :
    (mergeFields fields).lookup name = fields.reverse.lookup name := by
  induction fields using List.reverseRecOn with
  | nil => rfl
  | append_singleton fields field inductionHypothesis =>
    obtain ⟨last, value⟩ := field
    have merged : mergeFields (fields ++ [(last, value)]) =
        Keyed.put Prod.fst (mergeFields fields) (last, value) := by
      rw [mergeFields, List.foldl_append]
      rfl
    rw [merged, Keyed.lookup_put, inductionHypothesis, List.reverse_append, List.reverse_singleton,
      List.singleton_append, List.lookup_cons]
    by_cases isLast : name = last
    · simp [isLast]
    · have other : (name == last) = false := by simpa using isLast
      rw [if_neg isLast, other]

/-- A field of the record of an object has the value that stands for the object's field. -/
theorem Value.lookup_ofFields (fields : List (Text × Json)) (name : Text) :
    (mergeFields (ofFields fields)).lookup name =
      ((Json.object fields).field? name).map ofJson := by
  have mapped : ofFields fields = fields.map fun field => (field.1, ofJson field.2) := by
    induction fields with
    | nil => rfl
    | cons field more inductionHypothesis =>
      rw [List.map_cons, ← inductionHypothesis]
      rfl
  rw [lookup_mergeFields, mapped, ← List.map_reverse, Json.field?]
  induction fields.reverse with
  | nil => rfl
  | cons field more inductionHypothesis =>
    rw [List.map_cons, List.lookup_cons, List.lookup_cons, inductionHypothesis]
    cases name == field.1 with
    | true => rfl
    | false => rfl

/-- Items pass together exactly if they pass one by one. -/
theorem checkItems_eq_ok_iff {α β : Type} {check : α → Except (List Issue) β} {index : Nat}
    {items : List α} {results : List β} : checkItems check index items = .ok results ↔
      List.Forall₂ (fun item result => check item = .ok result) items results := by
  induction items generalizing index results with
  | nil => simp [checkItems, eq_comm]
  | cons item more inductionHypothesis =>
    cases results with
    | nil =>
      rw [checkItems]
      split <;> simp
    | cons first rest =>
      rw [List.forall₂_cons, ← @inductionHypothesis (index + 1), checkItems]
      split
      · next checked others => simp [checked, others]
      · next others => simp [others]
      · next checked _ => simp [checked]
      · next checked _ => simp [checked]

/-- Reordered items pass together if the items do, with their results reordered. -/
theorem checkItems_of_perm {α β : Type} {check : α → Except (List Issue) β} {index : Nat}
    {left right : List α} {results : List β} (permuted : right.Perm left)
    (passes : checkItems check index left = .ok results) :
    ∃ others, checkItems check index right = .ok others ∧ others.Perm results := by
  obtain ⟨others, pass, same⟩ :=
    List.perm_comp_forall₂ permuted (checkItems_eq_ok_iff.1 passes)
  exact ⟨others, checkItems_eq_ok_iff.2 pass, same⟩

/-- The check of a field looks at nothing but that field. -/
theorem checkField_congr {α : Type} {left right : List (Text × Value)} {name : Text}
    (same : left.lookup name = right.lookup name) (default : Option α)
    (check : Value → Except (List Issue) α) :
    checkField left name default check = checkField right name default check := by
  unfold checkField
  rw [same]

namespace Table

section

variable {table : Table}

/-- The table with its rows in another order. -/
def reordered (table : Table) {rows : List Technique} (permuted : rows.Perm table.techniques) :
    Table where
  domain := table.domain
  version := table.version
  techniques := rows
  distinct := (permuted.map _).nodup_iff.2 table.distinct
  parented := fun technique member parent isParent =>
    (permuted.map _).mem_iff.2
      (table.parented technique (permuted.mem_iff.1 member) parent isParent)

/-- The document of a table with its rows in another order is reordered. -/
theorem areReordered_toJson (table : Table) {rows : List Technique}
    (permuted : rows.Perm table.techniques) :
    (table.reordered permuted).toJson.AreReordered "techniques" table.toJson := by
  refine .object (fun other apart => ?_) (.some (.array (permuted.map _)))
  have apart : (other == ("techniques" : Text)) = false := by simpa using apart
  simp only [Json.field?, List.reverse_cons, List.reverse_nil, List.nil_append, List.cons_append,
    List.lookup_cons, apart]
  rfl

/-- What passes as rows of a document passes in every order. -/
theorem checkTechniques_of_arePermuted {left right : Json} (permuted : left.ArePermuted right)
    {rows : List Technique} (pass : checkTechniques (.ofJson left) = .ok rows) :
    ∃ others, checkTechniques (.ofJson right) = .ok others ∧ others.Perm rows := by
  cases permuted with
  | @array left right items =>
    rw [Value.ofJson, checkTechniques, Value.ofItems_eq_map] at pass ⊢
    exact checkItems_of_perm (items.map _).symm pass

/-- A document with its rows in another order describes a table of the same rows. -/
theorem check_of_areReordered {left right : Json} (reordered : left.AreReordered "techniques" right)
    (isTable : check (.ofJson left) = .ok table) : ∃ other, check (.ofJson right) = .ok other ∧
      other.domain = table.domain ∧ other.version = table.version ∧
        other.techniques.Perm table.techniques := by
  cases reordered with
  | @object left right others items =>
    have kept : ∀ name : Text, name ≠ "techniques" →
        (Value.mergeFields (Value.ofFields left)).lookup name =
          (Value.mergeFields (Value.ofFields right)).lookup name := by
      intro name apart
      rw [Value.lookup_ofFields, Value.lookup_ofFields, others name apart]
    rw [Value.ofJson, check_record_eq_ok_iff] at isTable
    obtain ⟨domain, version, rows⟩ := isTable
    rw [checkField_congr (kept "domain" (by decide))] at domain
    rw [checkField_congr (kept "attack_version" (by decide))] at version
    obtain ⟨permuted, pass, isPermuted⟩ : ∃ permuted, checkField
        (Value.mergeFields (Value.ofFields right)) "techniques" (some []) checkTechniques =
          .ok permuted ∧ permuted.Perm table.techniques := by
      unfold checkField at rows ⊢
      rw [Value.lookup_ofFields] at rows ⊢
      generalize (Json.object left).field? "techniques" = listed at rows items
      generalize (Json.object right).field? "techniques" = relisted at items
      cases items with
      | none => exact ⟨table.techniques, rows, .refl _⟩
      | some arePermuted =>
        obtain ⟨permuted, pass, isPermuted⟩ :=
          checkTechniques_of_arePermuted arePermuted (mapError_eq_ok_iff.1 rows)
        exact ⟨permuted, mapError_eq_ok_iff.2 pass, isPermuted⟩
    refine ⟨table.reordered isPermuted, ?_, rfl, rfl, isPermuted⟩
    rw [Value.ofJson, check_record_eq_ok_iff]
    exact ⟨domain, version, pass⟩

/-! ## Loading -/

/-- What is missing from a table depends on its identifiers only, not on their order. -/
theorem checkRequired_congr {left right : Table} (alike : ∀ id, id ∈ left.ids ↔ id ∈ right.ids)
    (source : Text) (required : Value) :
    checkRequired source left required = checkRequired source right required := by
  have lacks : left.lacking = right.lacking := by
    funext items
    induction items with
    | nil => rfl
    | cons item more inductionHypothesis =>
      have found : ∀ id, left.ids.contains id = right.ids.contains id := fun id => by
        rw [Bool.eq_iff_iff, List.contains_iff_mem, List.contains_iff_mem, alike]
      simp only [lacking, inductionHypothesis, found]
  rw [checkRequired, checkRequired, lacks]

/-- A file with its rows in another order is loaded wherever the file is, as the same rows under the
same sequence of numbers. The rows are in the same order exactly if the files list the rows of the
same numbers in the same order. Every sub-technique stands behind its technique, except that one
whose number is zero stands as in the file. -/
theorem load_reordered {room : Nat} {before after : Tree} {path : Path} {left right : Json}
    {required : Value} (isLeft : before.readDocument room path = .ok left)
    (isRight : after.readDocument room path = .ok right)
    (reordered : left.AreReordered "techniques" right)
    (loaded : (load room before path required).result = .ok table) :
    ∃ rows moved other, readFile room before path = .ok rows ∧
      readFile room after path = .ok moved ∧ (load room after path required).result = .ok other ∧
      other.domain = table.domain ∧ other.version = table.version ∧
      other.techniques.Perm table.techniques ∧ other.numbers = table.numbers ∧
      (other.techniques = table.techniques ↔ ∀ key, moved.numbered key = rows.numbered key) ∧
      ∀ child ∈ table.techniques, child.id.isSub = true → ∃ parent ∈ table.techniques,
        child.id.parentText? = some parent.id.text ∧ (table.StandsBefore parent child ↔
          child.id.sub? ≠ some 0 ∨ rows.StandsBefore parent child) := by
  obtain ⟨rows, isRead, complete, valued, rfl⟩ :=
    (@load?_eq_ok_iff room before (some path) _ _).1 loaded
  have isTable : check (.ofJson left) = .ok rows := by
    rw [offered, readFile, isLeft, ok_bind] at isRead
    exact mapError_eq_ok_iff.1 (mapError_eq_ok_iff.1 isRead)
  obtain ⟨moved, isMoved, domain, version, permuted⟩ := check_of_areReordered reordered isTable
  have isReadToo : readFile room after path = .ok moved := by
    rw [readFile, isRight, ok_bind, ofValue, isMoved, mapError_ok, mapError_ok]
  have alike : ∀ id, id ∈ moved.ids ↔ id ∈ rows.ids := fun id => (permuted.map _).mem_iff
  have movedValued : moved.HasValues := fun row member => valued row (permuted.mem_iff.1 member)
  rw [← checkRequired_congr alike] at complete
  refine ⟨rows, moved, moved.sorted, isRead, isReadToo,
    (@load?_eq_ok_iff room after (some path) _ _).2 ⟨moved, isReadToo, complete, movedValued, rfl⟩,
    domain, version, ?_, numbers_sorted permuted, sorted_techniques_eq_iff, ?_⟩
  · exact (List.mergeSort_perm _ _).trans (permuted.trans (List.mergeSort_perm _ _).symm)
  · intro child member isSub
    have isParent : child.id.parentText? = some (Text.partition '.' child.id.text).1 := if_pos isSub
    obtain ⟨parent, inTable, isText⟩ :=
      List.mem_map.1 (rows.sorted.parented child member _ isParent)
    rw [← isText] at isParent
    have inRows := mem_sorted.1 member
    exact ⟨parent, inTable, isParent, standsBefore_sorted_parent_iff isParent inRows
      (mem_sorted.1 inTable) (valued child inRows)⟩

/-- A table can be loaded from a file that holds its document. -/
theorem exists_load (whole : table.isWhole = true) (valued : table.HasValues) : ∃ tree : Tree,
    tree.readDocument nesting (.ofText "t.json") = .ok table.toJson ∧
      (load nesting tree (.ofText "t.json") (.tuple [])).result = .ok table.sorted := by
  have fits := Nat.le_refl nesting
  obtain ⟨written, -, wrote, -, -⟩ := exists_write whole isWritable_empty
  refine ⟨written, readDocument_of_write wrote rfl fits, ?_⟩
  rw [load_of_readFile (readFile_of_write wrote rfl fits), sort_eq_ok_iff.2 ⟨valued, rfl⟩]
  rfl

end

/-- A technique. -/
def dumping : Technique :=
  ⟨.ofNumbers 1003 0, "OS Credential Dumping"⟩

/-- Its sub-technique of number zero. -/
def dumpingZero : Technique :=
  ⟨⟨"T1003.000", by decide⟩, "Zero"⟩

/-- A table in which a sub-technique of number zero stands behind its technique. -/
def zeroLast : Table where
  domain := defaultDomain
  version := none
  techniques := [dumping, dumpingZero]
  distinct := by decide
  parented := fun technique member parent isParent =>
    have complete : orphans [dumping.id, dumpingZero.id] = [] := by decide
    parent_mem_of_orphans_eq_nil complete (List.mem_map_of_mem member) isParent

/-- The table in which it stands before its technique. -/
def zeroFirst : Table :=
  zeroLast.reordered (.swap dumping dumpingZero [])

/-- From the files of both a table is loaded, and the same numbers stand in the same order in both. -/
theorem load_reordered_zeroFirst : ∃ (before after : Tree) (other : Table),
    before.readDocument nesting (.ofText "t.json") = .ok zeroFirst.toJson ∧
      after.readDocument nesting (.ofText "t.json") = .ok zeroLast.toJson ∧
      zeroFirst.toJson.AreReordered "techniques" zeroLast.toJson ∧
      (load nesting before (.ofText "t.json") (.tuple [])).result = .ok zeroFirst.sorted ∧
      (load nesting after (.ofText "t.json") (.tuple [])).result = .ok other ∧
      other.numbers = zeroFirst.sorted.numbers := by
  obtain ⟨before, isLeft, loaded⟩ := @exists_load zeroFirst (by decide) (by decide)
  obtain ⟨after, isRight, -⟩ := @exists_load zeroLast (by decide) (by decide)
  have reordered := zeroLast.areReordered_toJson (.swap dumping dumpingZero [])
  obtain ⟨_, _, other, -, -, loadedToo, -, -, -, numbers, -⟩ :=
    load_reordered isLeft isRight reordered loaded
  exact ⟨before, after, other, isLeft, isRight, reordered, loaded, loadedToo, numbers⟩

/-- The order of a file can show: a sub-technique of number zero stands before its technique if it
did so in the file. -/
theorem exists_load_reordered_ne : ∃ before after : Tree,
    before.readDocument nesting (.ofText "t.json") = .ok zeroFirst.toJson ∧
      after.readDocument nesting (.ofText "t.json") = .ok zeroLast.toJson ∧
      zeroFirst.toJson.AreReordered "techniques" zeroLast.toJson ∧
      ∃ table other, (load nesting before (.ofText "t.json") (.tuple [])).result = .ok table ∧
        (load nesting after (.ofText "t.json") (.tuple [])).result = .ok other ∧
        other.techniques ≠ table.techniques ∧
        dumpingZero.id.parentText? = some dumping.id.text ∧
        table.StandsBefore dumpingZero dumping ∧ ¬table.StandsBefore dumping dumpingZero := by
  obtain ⟨before, isLeft, loaded⟩ := @exists_load zeroFirst (by decide) (by decide)
  obtain ⟨after, isRight, loadedToo⟩ := @exists_load zeroLast (by decide) (by decide)
  have asInFile : zeroFirst.sorted = zeroFirst := sorted_of_pairwise (by decide)
  have asInOther : zeroLast.sorted = zeroLast := sorted_of_pairwise (by decide)
  rw [asInFile] at loaded
  rw [asInOther] at loadedToo
  refine ⟨before, after, isLeft, isRight, zeroLast.areReordered_toJson _, zeroFirst, zeroLast,
    loaded, loadedToo, by decide, by decide, .refl _, ?_⟩
  unfold StandsBefore
  decide

end Table
end ThreatMatrix
