import Mathlib.Order.Fin.Basic
import ThreatMatrix.Proofs.Table.Description

/-!
# What loading accepts and what it keeps

A file that holds a document is loaded exactly if the document describes consistent rows from which
nothing required is missing, in digits that have values. The rows are those of the file, in the
order of their numbers, and one note is made. What is refused leaves no note. Rows in other digits
are noted and then not put in order.
-/

namespace ThreatMatrix

namespace Json

/-- An object describes one technique at most. -/
theorem describesTechnique_unique : Relator.RightUnique DescribesTechnique := by
  rintro document ⟨⟨text, form⟩, name⟩ ⟨⟨otherText, otherForm⟩, otherName⟩ left right
  have sameId := left.id.symm.trans right.id
  have sameName := left.name.symm.trans right.name
  cases sameId
  cases sameName
  rfl

/-- A document describes the rows of one table at most. -/
theorem DescribesTable.rows_unique {document : Json} {domain otherDomain : Text}
    {version otherVersion : Option Text} {rows otherRows : List Technique}
    (left : document.DescribesTable domain version rows)
    (right : document.DescribesTable otherDomain otherVersion otherRows) : rows = otherRows := by
  cases left.techniques with
  | present found isMeant =>
    cases right.techniques with
    | present foundToo isMeantToo =>
      rw [found] at foundToo
      cases foundToo
      cases isMeant with
      | array describe =>
        cases isMeantToo with
        | array describeToo =>
          exact List.right_unique_forall₂' describesTechnique_unique describe describeToo
    | absent missing _ =>
      rw [found] at missing
      cases missing
  | absent missing isDefault =>
    cases right.techniques with
    | present found _ =>
      rw [missing] at found
      cases found
    | absent _ isDefaultToo => rw [isDefault, isDefaultToo]

/-- The digits of all identifiers that a document describes have values. -/
def HasValues (document : Json) : Prop :=
  ∀ domain version rows, document.DescribesTable domain version rows →
    ∀ row ∈ rows, row.id.HasValues

/-- What a document describes are the only identifiers to look at. -/
theorem DescribesTable.hasValues_iff {document : Json} {domain : Text} {version : Option Text}
    {rows : List Technique} (describes : document.DescribesTable domain version rows) :
    document.HasValues ↔ ∀ row ∈ rows, row.id.HasValues := by
  constructor
  · exact fun valued => valued domain version rows describes
  · intro valued _ _ otherRows describesToo
    rwa [← describes.rows_unique describesToo]

end Json

namespace Table

/-! ## Required identifiers -/

section

variable {table : Table} {items : List Value} {ids : List Text} {required : Value} {source : Text}

/-- A table lacks none of some items exactly if each counts as one of its identifiers. -/
theorem lacking_eq_nil_iff : table.lacking items = .ok [] ↔
    ∀ item ∈ items, ∃ id ∈ table.ids, item.asText? = some id := by
  induction items with
  | nil => simp [lacking]
  | cons item more inductionHypothesis =>
    rw [List.forall_mem_cons, ← inductionHypothesis]
    constructor
    · intro lacksNone
      obtain ⟨_, -, lacksNone⟩ := bind_eq_ok_iff.1 lacksNone
      obtain ⟨rest, isRest, made⟩ := bind_eq_ok_iff.1 lacksNone
      cases isText : item.asText? with
      | none =>
        rw [isText] at made
        cases made
      | some id =>
        rw [isText] at made
        by_cases present : id ∈ table.ids
        · rw [if_pos (List.contains_iff_mem.2 present), pure_eq_ok] at made
          cases made
          exact ⟨⟨id, present, rfl⟩, isRest⟩
        · rw [if_neg (by simpa using present)] at made
          cases made
    · rintro ⟨⟨id, present, isText⟩, lacksNone⟩
      rw [lacking, Value.lookable_of_asText? isText, ok_bind, lacksNone, ok_bind, isText]
      exact congrArg Except.ok (if_pos (List.contains_iff_mem.2 present))

/-- Nothing required is missing exactly if every item counts as an identifier of the table. -/
theorem checkRequired_eq_ok_iff (iterates : required.iterate = .ok items) :
    checkRequired source table required = .ok () ↔
      ∀ item ∈ items, ∃ id ∈ table.ids, item.asText? = some id := by
  rw [← lacking_eq_nil_iff, checkRequired, iterates, ok_bind]
  cases table.lacking items with
  | error misuse => simp
  | ok rest =>
    cases rest with
    | nil => simp
    | cons item more =>
      rw [mapError_ok, ok_bind, if_neg (by simp)]
      cases itemTexts 0 (item :: more) with
      | error misuse => simp
      | ok texts => simp

/-! ## Loading -/

/-- What loading a file that holds a document comes to, with items that are required. -/
structure LoadsExactly (document : Json) (source : Text) (items : List Value)
    (outcome : Outcome Table) : Prop where
  /-- In digits with values loading succeeds for consistent rows among which everything required
  stands. -/
  succeeds : document.HasValues → ((∃ table, outcome.result = .ok table) ↔
    ∃ domain version rows, document.DescribesTable domain version rows ∧ AreConsistent rows ∧
      ∀ item ∈ items, ∃ row ∈ rows, item.asText? = some row.id.text)
  /-- The rows are those of the document, and rows of the same numbers stay in their order. The one
  note says how many there are. -/
  keeps : ∀ table, outcome.result = .ok table → ∃ rows,
    document.DescribesTable table.domain table.version rows ∧ table.techniques.Perm rows ∧
      (∀ key, table.numbered key = rows.filter fun row => row.id.key = key) ∧
      outcome.notes = [.loaded source table.domain table.version rows.length]
  /-- The rows stand in the order of their numbers, and sorting them again changes nothing. -/
  ordered : ∀ table, outcome.result = .ok table → table.sorted = table ∧
    table.techniques.Pairwise fun left right => left.id.key.1 < right.id.key.1 ∨
      left.id.key.1 = right.id.key.1 ∧ left.id.key.2 ≤ right.id.key.2
  /-- Where only required identifiers are missing, the refusal names them in the order in which they
  are required. -/
  names : ∀ domain version rows ids, document.DescribesTable domain version rows →
    AreConsistent rows → CountAs items ids → (∃ id ∈ ids, id ∉ rows.map (·.id.text)) →
      outcome.result =
        .error (.tableIncomplete source (ids.filter fun id => id ∉ rows.map (·.id.text)))
  /-- In digits with values a refusal leaves no note. -/
  silent : document.HasValues → ∀ problem, outcome.result = .error problem → outcome.notes = []

section

variable {room : Nat} {tree : Tree} {path : Path} {document : Json} {rows : Table}

/-- A file whose rows cannot be read is refused without a note. -/
theorem notes_load_of_error {problem : Problem}
    (isRefused : readFile room tree path = .error problem) (required : Value) :
    (load room tree path required).notes = [] := by
  rw [load, isRefused, mapError_error]
  rfl

/-- The rows in a file are those that its document describes. -/
theorem readFile_eq_ok_iff (isDocument : tree.readDocument room path = .ok document) :
    readFile room tree path = .ok rows ↔
      document.DescribesTable rows.domain rows.version rows.techniques := by
  rw [readFile, isDocument, ok_bind, mapError_eq_ok_iff, ofValue, mapError_eq_ok_iff, check_ofJson]

/-- A file that holds a document is loaded as the rows that the document describes, in order, if
nothing required is missing from them and their digits have values. -/
theorem load_eq_ok_iff (isDocument : tree.readDocument room path = .ok document)
    (iterates : required.iterate = .ok items) :
    (load room tree path required).result = .ok table ↔ ∃ rows : Table,
      document.DescribesTable rows.domain rows.version rows.techniques ∧
        (∀ item ∈ items, ∃ id ∈ rows.ids, item.asText? = some id) ∧ rows.HasValues ∧
        rows.sorted = table := by
  refine (@load?_eq_ok_iff room tree (some path) required table).trans
    (exists_congr fun rows => ?_)
  rw [← readFile_eq_ok_iff isDocument, ← @checkRequired_eq_ok_iff rows items required path.text
    iterates]
  exact Iff.rfl

/-- A required identifier that no row has is missing from the table of the rows. -/
theorem missing_eq_filter (table : Table) (ids : List Text) :
    table.missing ids = ids.filter fun id => id ∉ table.techniques.map (·.id.text) := by
  apply List.filter_congr
  intro id _
  have absent : decide (id ∉ table.ids) = !table.ids.contains id := by simp
  exact absent.symm

/-- Rows from which nothing is missing are noted and then not put in order if a numeral of theirs
denotes no number; the first such numeral is blamed. -/
theorem load_of_numbers_eq_error {before after : List Technique} {technique : Technique}
    {numeral : Text} (isRead : readFile room tree path = .ok rows)
    (complete : checkRequired path.text rows required = .ok ())
    (isRow : rows.techniques = before ++ technique :: after)
    (earlier : ∀ row ∈ before, row.id.HasValues)
    (isNumeral : technique.id.numbers = .error numeral) :
    load room tree path required =
      ⟨[.loaded path.text rows.domain rows.version rows.techniques.length],
        .error (.notNumeral numeral)⟩ := by
  have unsorted : rows.sort = .error numeral :=
    sort_eq_error_iff.2 ⟨before, technique, after, isRow, earlier, isNumeral⟩
  rw [load_eq_of_readFile isRead, complete, unsorted]
  rfl

/-- Loading is exact: a file that holds a document is loaded exactly if the document describes
consistent rows among which everything required stands, in digits with values; nothing is lost or
added, and a refusal names what is missing. -/
theorem loadsExactly (isDocument : tree.readDocument room path = .ok document)
    (iterates : required.iterate = .ok items) :
    LoadsExactly document path.text items (load room tree path required) where
  succeeds := by
    intro valued
    constructor
    · rintro ⟨table, loaded⟩
      obtain ⟨rows, describes, present, -⟩ := (load_eq_ok_iff isDocument iterates).1 loaded
      refine ⟨_, _, rows.techniques, describes, rows.areConsistent, fun item member => ?_⟩
      obtain ⟨id, isId, isText⟩ := present item member
      obtain ⟨row, inRows, rfl⟩ := List.mem_map.1 isId
      exact ⟨row, inRows, isText⟩
    · rintro ⟨domain, version, rows, describes, consistent, present⟩
      refine ⟨_, (load_eq_ok_iff isDocument iterates).2
        ⟨ofConsistent domain version consistent, describes, fun item member => ?_,
          valued domain version rows describes, rfl⟩⟩
      obtain ⟨row, inRows, isText⟩ := present item member
      exact ⟨row.id.text, List.mem_map_of_mem inRows, isText⟩
  keeps := by
    intro table loaded
    obtain ⟨rows, describes, present, -, rfl⟩ := (load_eq_ok_iff isDocument iterates).1 loaded
    refine ⟨rows.techniques, describes, List.mergeSort_perm _ _, numbered_sorted rows, ?_⟩
    rw [load_eq_of_readFile ((readFile_eq_ok_iff isDocument).2 describes),
      (checkRequired_eq_ok_iff iterates).2 present]
    rfl
  ordered := by
    intro table loaded
    obtain ⟨rows, -, -, -, rfl⟩ := (load_eq_ok_iff isDocument iterates).1 loaded
    refine ⟨rows.sorted_sorted, rows.pairwise_sorted.imp ?_⟩
    intro left right precedes
    exact precedes_iff.1 precedes
  names := by
    intro domain version rows ids describes consistent texts lacks
    have isRead : readFile room tree path = .ok (ofConsistent domain version consistent) :=
      (readFile_eq_ok_iff isDocument).2 describes
    have isMissing := missing_eq_filter (ofConsistent domain version consistent) ids
    have someMissing : (ofConsistent domain version consistent).missing ids ≠ [] := by
      obtain ⟨id, inIds, absent⟩ := lacks
      rw [isMissing]
      exact List.ne_nil_of_mem (List.mem_filter.2 ⟨inIds, by simpa [ofConsistent] using absent⟩)
    rw [load_eq_of_readFile isRead, checkRequired_of_countAs iterates texts, if_neg someMissing,
      isMissing]
    rfl
  silent := by
    intro valued problem failed
    cases isRead : readFile room tree path with
    | error refused => exact notes_load_of_error isRead required
    | ok rows =>
      rw [load_eq_of_readFile isRead] at failed ⊢
      cases checked : checkRequired path.text rows required with
      | ok _ =>
        have describes := (readFile_eq_ok_iff isDocument).1 isRead
        rw [checked, sort_eq_ok_iff.2 ⟨valued _ _ _ describes, rfl⟩] at failed
        cases failed
      | error _ => rfl

end

end

/-- A table in which a sub-technique stands before its technique. -/
def childFirst : Table where
  domain := defaultDomain
  version := some "16.1"
  techniques := [⟨.ofNumbers 1003 6, "DCSync"⟩, ⟨.ofNumbers 1003 0, "OS Credential Dumping"⟩]
  distinct := by decide
  parented := fun technique member parent isParent =>
    have complete : orphans [.ofNumbers 1003 6, .ofNumbers 1003 0] = [] := by decide
    parent_mem_of_orphans_eq_nil complete (List.mem_map_of_mem member) isParent

theorem hasValues_childFirst : childFirst.toJson.HasValues :=
  (check_ofJson.1 childFirst.check_toJson).hasValues_iff.2 (by decide)

/-- Its file is refused where an identifier is required that it lacks, which the refusal names, and
without a note. -/
theorem loadsExactly_childFirst : ∃ tree : Tree,
    tree.readDocument nesting (.ofText "t.json") = .ok childFirst.toJson ∧
      childFirst.toJson.HasValues ∧
      (Value.list [.text "T1003", .text "T1110"]).iterate = .ok [.text "T1003", .text "T1110"] ∧
      LoadsExactly childFirst.toJson (Path.ofText "t.json").text [.text "T1003", .text "T1110"]
        (load nesting tree (.ofText "t.json") (.list [.text "T1003", .text "T1110"])) ∧
      load nesting tree (.ofText "t.json") (.list [.text "T1003", .text "T1110"]) =
        ⟨[], .error (.tableIncomplete (Path.ofText "t.json").text ["T1110"])⟩ := by
  obtain ⟨tree, isDocument, -⟩ := @exists_load childFirst (by decide) (by decide)
  have iterates : (Value.list [.text "T1003", .text "T1110"]).iterate =
      .ok [.text "T1003", .text "T1110"] := rfl
  have exactly := loadsExactly isDocument iterates
  have texts : CountAs [.text "T1003", .text "T1110"] ["T1003", "T1110"] :=
    .cons rfl (.cons rfl .nil)
  have refused := exactly.names _ _ _ _ (check_ofJson.1 childFirst.check_toJson)
    childFirst.areConsistent texts ⟨"T1110", by decide, by decide⟩
  exact ⟨tree, isDocument, hasValues_childFirst, iterates, exactly,
    congrArg₂ Outcome.mk (exactly.silent hasValues_childFirst _ refused) refused⟩

/-- Texts of a table of which none holds a half of a pair that stands alone. -/
structure AreWhole (domain : Text) (version : Option Text) (rows : List Technique) : Prop where
  domain : domain.isWhole = true
  version : ∀ text ∈ version, text.isWhole = true
  names : ∀ row ∈ rows, row.name.isWhole = true

/-- A file whose domain is a half of a pair. -/
def halfFile : Tree :=
  (Tree.empty.writeText (.ofText "t.json") "\x7b\"domain\": \"\\ud800\"\x7d").1

/-- The document in the file. -/
def halfDocument : Json :=
  .object [("domain", .text [CodePoint.ofNat 0xD800])]

/-- Whether what was read is that document. -/
def isHalfDocument : Except Problem Json → Bool
  | .ok (.object [(name, .text value)]) =>
    decide (name = "domain") && decide (value = [CodePoint.ofNat 0xD800])
  | _ => false

theorem readDocument_halfFile :
    halfFile.readDocument nesting (.ofText "t.json") = .ok halfDocument := by
  have checked : isHalfDocument (halfFile.readDocument nesting (.ofText "t.json")) = true := by
    decide +kernel
  unfold isHalfDocument at checked
  split at checked
  · next name value isRead =>
    rw [Bool.and_eq_true, decide_eq_true_eq, decide_eq_true_eq] at checked
    rw [isRead, checked.1, checked.2, halfDocument]
  · cases checked

/-- Loading does not ask for whole texts: a file is loaded whose domain is a half that stands alone.
It does ask for digits with values: a file whose rows are consistent is noted, and then it is not
loaded. -/
theorem not_loads_iff_areWhole_laterDigits :
    halfFile.readDocument nesting (.ofText "t.json") = .ok halfDocument ∧
      ¬((∃ table, (load nesting halfFile (.ofText "t.json") (.list [])).result = .ok table) ↔
        ∃ domain version rows, halfDocument.DescribesTable domain version rows ∧
          AreWhole domain version rows ∧ AreConsistent rows ∧
          ∀ item ∈ ([] : List Value), ∃ row ∈ rows, item.asText? = some row.id.text) ∧
      ∃ tree : Tree, tree.readDocument nesting (.ofText "t.json") = .ok laterDigits.toJson ∧
        laterDigits.toJson.DescribesTable laterDigits.domain laterDigits.version
          laterDigits.techniques ∧ AreConsistent laterDigits.techniques ∧
        load nesting tree (.ofText "t.json") (.list []) =
          ⟨[.loaded "t.json" laterDigits.domain laterDigits.version 1],
            .error (.notNumeral (TechniqueId.later.text.drop 1))⟩ := by
  have found : halfDocument.field? "domain" = some (.text [CodePoint.ofNat 0xD800]) := rfl
  have describes : halfDocument.DescribesTable [CodePoint.ofNat 0xD800] none [] :=
    ⟨⟨_, rfl⟩, .present found rfl, .absent rfl rfl, .absent rfl rfl⟩
  have consistent : AreConsistent [] :=
    ⟨List.nodup_nil, fun _ member => absurd member List.not_mem_nil⟩
  have iterates : (Value.list []).iterate = .ok [] := rfl
  have loaded := (load_eq_ok_iff readDocument_halfFile iterates).2
    ⟨ofConsistent _ _ consistent, describes, fun _ member => absurd member List.not_mem_nil,
      fun _ member => absurd member List.not_mem_nil, rfl⟩
  obtain ⟨tree, -, wrote, -, -⟩ :=
    exists_write (by decide : laterDigits.isWhole = true) isWritable_empty
  have isDocument := readDocument_of_write wrote rfl (Nat.le_refl nesting)
  have isRead := readFile_of_write wrote rfl (Nat.le_refl nesting)
  have complete : checkRequired (Path.ofText "t.json").text laterDigits (.list []) = .ok () :=
    (checkRequired_eq_ok_iff iterates).2 (List.forall_mem_nil _)
  refine ⟨readDocument_halfFile, fun only => ?_, tree, isDocument,
    check_ofJson.1 laterDigits.check_toJson, laterDigits.areConsistent,
    load_of_numbers_eq_error isRead complete (List.nil_append _).symm (List.forall_mem_nil _)
      TechniqueId.numbers_later⟩
  obtain ⟨domain, version, rows, isDescribed, whole, -⟩ := only.1 ⟨_, loaded⟩
  cases isDescribed.domain with
  | present present isDomain =>
    rw [found] at present
    cases present
    cases isDomain
    exact absurd whole.domain (by decide)
  | absent missing _ =>
    rw [found] at missing
    cases missing

end Table
end ThreatMatrix
