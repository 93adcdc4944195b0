import ThreatMatrix.Proofs.Files.Writing
import ThreatMatrix.Proofs.Json.Written
import ThreatMatrix.Proofs.Table.Loading
import ThreatMatrix.Proofs.Table.Validation

/-!
# Tables written and loaded

A table that was written is read back as it was, and loading puts its rows in order. Writing fails
for want of a place, or because a text of the table holds a half of a pair that stands alone: such a
text has no octets.
-/

namespace ThreatMatrix

/-- A place where a file can be made, together with the directories above it. -/
def Tree.IsWritable (tree : Tree) (path : Path) : Prop :=
  ∃ made emptied, tree.ensureDirectory path.parent = (made, .ok ()) ∧
    made.write path [] = .ok emptied

namespace Table

/-- A table without halves of pairs. Identifiers never hold any. -/
def isWhole (table : Table) : Bool :=
  table.domain.isWhole && table.version.all Text.isWhole &&
    table.techniques.all fun technique => technique.name.isWhole

/-- The document of a table is plain if its texts pass a test. -/
theorem isPlain_toJson {admits : Text → Bool} {table : Table}
    (names : [("domain" : Text), "attack_version", "techniques", "id", "name"].all admits = true)
    (domain : admits table.domain = true) (version : table.version.all admits = true)
    (rows : ∀ technique ∈ table.techniques,
      admits technique.id.text = true ∧ admits technique.name = true) :
    table.toJson.IsPlain admits 3 := by
  simp only [List.all_cons, List.all_nil, Bool.and_true, Bool.and_eq_true] at names
  obtain ⟨isDomain, isVersion, isTechniques, isId, isName⟩ := names
  refine .object ?_ ?_
  · simp [isDomain, isVersion, isTechniques]
  · intro field member
    simp only [List.mem_cons, List.not_mem_nil, or_false] at member
    rcases member with rfl | rfl | rfl
    · exact .text 2 domain
    · cases isGiven : table.version with
      | none => exact .null 2
      | some given =>
        rw [isGiven] at version
        exact .text 2 version
    · refine .array fun item member => ?_
      obtain ⟨technique, inTable, rfl⟩ := List.mem_map.1 member
      obtain ⟨id, name⟩ := rows technique inTable
      refine .object (by simp [isId, isName]) fun field member => ?_
      simp only [List.mem_cons, List.not_mem_nil, or_false] at member
      rcases member with rfl | rfl
      · exact .text 0 id
      · exact .text 0 name

/-- How deep the containers of a table's document are nested. -/
def nesting : Nat := 3

/-- The text of a table is the text of its document, wherever there is room for it. -/
theorem read_fileText (table : Table) {room : Nat} (fits : nesting ≤ room) :
    Json.read room table.fileText = .ok table.toJson := by
  have plain : table.toJson.IsPlain (Json.isReadableText Json.Layout.lines.escaped) 3 :=
    isPlain_toJson rfl rfl (by cases table.version <;> rfl) fun _ _ => ⟨rfl, rfl⟩
  refine Json.read_print Json.Layout.isSpaced_lines
    (plain.weaken (fun _ admitted => admitted) fits) ?_
  exact List.all_eq_true.1 (by decide : (("\n" : String) : Text).all Json.isSpace = true)

/-- No text of a table holds a carriage return. -/
theorem not_mem_fileText (table : Table) : ('\r' : CodePoint) ∉ table.fileText := by
  have plain : table.toJson.IsPlain (fun _ => true) 3 :=
    isPlain_toJson rfl rfl (by cases table.version <;> rfl) fun _ _ => ⟨rfl, rfl⟩
  rw [fileText, List.mem_append, not_or]
  exact ⟨Json.not_mem_print (by decide) plain, by decide⟩

/-- The text of a table without halves has none either. -/
theorem isWhole_fileText {table : Table} (whole : table.isWhole = true) :
    table.fileText.isWhole = true := by
  simp only [isWhole, Bool.and_eq_true, List.all_eq_true] at whole
  obtain ⟨⟨domain, version⟩, names⟩ := whole
  have plain : table.toJson.IsPlain Text.isWhole 3 :=
    isPlain_toJson (by decide) domain version fun technique inTable =>
      ⟨technique.id.isWhole_text, names technique inTable⟩
  have written := @Json.isWhole_print .lines (by decide) table.toJson 3 plain
  rw [Text.isWhole_iff] at written ⊢
  intro c member
  rcases List.mem_append.1 member with inDocument | inEnd
  · exact written c inDocument
  · exact Text.isWhole_iff.1 (by decide : (("\n" : String) : Text).isWhole = true) c inEnd

/-- Where a table was written there is its document. -/
theorem readDocument_of_write {table : Table} {tree written : Tree} {path : Path}
    {outcome : Outcome Unit} (wrote : table.write tree path = (written, outcome))
    (succeeded : outcome.result = .ok ()) {room : Nat} (fits : nesting ≤ room) :
    written.readDocument room path = .ok table.toJson := by
  unfold write at wrote
  split at wrote
  · cases wrote
    cases succeeded
  split at wrote
  · cases wrote
    cases succeeded
  · next writes =>
    cases wrote
    rw [Tree.readDocument, Tree.readText_writeText table.not_mem_fileText writes, ok_bind,
      read_fileText table fits, mapError_ok]

/-- A table that was written is read back as it was. -/
theorem readFile_of_write {table : Table} {tree written : Tree} {path : Path}
    {outcome : Outcome Unit} (wrote : table.write tree path = (written, outcome))
    (succeeded : outcome.result = .ok ()) {room : Nat} (fits : nesting ≤ room) :
    readFile room written path = .ok table := by
  rw [readFile, readDocument_of_write wrote succeeded fits, ok_bind, ofValue_toJson, mapError_ok]

/-- A table without halves is written wherever a file can be made. -/
theorem exists_write {table : Table} (whole : table.isWhole = true) {tree : Tree} {path : Path}
    (writable : tree.IsWritable path) : ∃ written octets,
      table.write tree path = (written, .note (.wrote path.text)) ∧
        Utf8.encode table.fileText = .ok octets ∧ written.read path = .ok octets := by
  obtain ⟨made, emptied, ensures, empties⟩ := writable
  obtain ⟨written, writes⟩ := Tree.exists_writeText (isWhole_fileText whole) empties
  obtain ⟨octets, encoded, isWritten⟩ := Tree.writeText_eq_ok_iff.1 writes
  refine ⟨written, octets, ?_, encoded, Tree.read_write isWritten⟩
  rw [write, ensures]
  dsimp only
  rw [writes]

/-- Wherever a file can be made, a table is written as some octets, and loading them where there is
room for the document of a table gives another table. -/
def IsStored (table : Table) (octets : List Byte) (loaded : Table) : Prop :=
  ∀ (tree : Tree) (path : Path), tree.IsWritable path → ∃ written,
    table.write tree path = (written, .note (.wrote path.text)) ∧
      written.read path = .ok octets ∧
      ∀ room ≥ nesting, (load room written path (.tuple [])).result = .ok loaded

/-- A table without halves is stored as the octets of its text, and loading puts it in order if its
digits have values. -/
theorem isStored_sorted {table : Table} (whole : table.isWhole = true) (valued : table.HasValues) :
    ∃ octets, Utf8.encode table.fileText = .ok octets ∧ table.IsStored octets table.sorted := by
  obtain ⟨octets, encoded⟩ := Utf8.encode_eq_ok_iff.2 (isWhole_fileText whole)
  refine ⟨octets, encoded, fun tree path writable => ?_⟩
  obtain ⟨written, same, wrote, sameEncoded, isRead⟩ := exists_write whole writable
  rw [encoded] at sameEncoded
  cases sameEncoded
  refine ⟨written, wrote, isRead, fun room fits => ?_⟩
  rw [load_of_readFile (readFile_of_write wrote rfl fits), sort_eq_ok_iff.2 ⟨valued, rfl⟩]
  rfl

/-- Sorting leaves a table without halves. -/
theorem isWhole_sorted (table : Table) : table.sorted.isWhole = table.isWhole := by
  have rows : (table.sorted.techniques.all fun technique => technique.name.isWhole) =
      table.techniques.all fun technique => technique.name.isWhole :=
    (List.mergeSort_perm table.techniques precedes).all_eq
  rw [isWhole, isWhole, rows]
  rfl

/-- Writing and loading are inverse up to the order of the rows: a table without halves, in digits
with values, that is written wherever a file can be made is loaded in order, and what was loaded is
from then on written and loaded as it is. A table in order is written as the same octets again. -/
theorem isStored_of_isWhole (table : Table) (whole : table.isWhole = true)
    (valued : table.HasValues) :
    ∃ octets again, table.IsStored octets table.sorted ∧
      table.sorted.IsStored again table.sorted ∧ (table.sorted = table → again = octets) := by
  obtain ⟨octets, encoded, stored⟩ := isStored_sorted whole valued
  obtain ⟨again, encodedAgain, storedAgain⟩ :=
    isStored_sorted (table.isWhole_sorted.trans whole) (hasValues_sorted.2 valued)
  rw [sorted_sorted] at storedAgain
  refine ⟨octets, again, stored, storedAgain, fun inOrder => ?_⟩
  rw [inOrder, encoded] at encodedAgain
  cases encodedAgain
  rfl

/-- A file can be made in a directory that holds none. -/
theorem isWritable_empty : Tree.empty.IsWritable (.ofText "t.json") :=
  ⟨_, _, rfl, rfl⟩

/-- A table of one row, with code points that documents or line ends treat in ways of their own. -/
def quoted : Table where
  domain := "\"attack\" \\ \r\n\u2028" ++ [CodePoint.ofNat 0x1F600]
  version := none
  techniques := [⟨.ofNumbers 1003 0, "OS\r Credential\u0085 Dumping"⟩]
  distinct := List.pairwise_singleton _ _
  parented := fun technique member parent isParent =>
    have complete : orphans [.ofNumbers 1003 0] = [] := by decide
    parent_mem_of_orphans_eq_nil complete (List.mem_map_of_mem member) isParent

/-- It is stored, and stored again, as it is. -/
theorem isStored_quoted : quoted.isWhole = true ∧ quoted.HasValues ∧
    ∃ octets again, quoted.IsStored octets quoted.sorted ∧
      quoted.sorted.IsStored again quoted.sorted ∧ (quoted.sorted = quoted → again = octets) :=
  have whole : quoted.isWhole = true := by decide
  have valued : quoted.HasValues :=
    List.forall_mem_singleton.2 (TechniqueId.hasValues_ofNumbers 1003 0)
  ⟨whole, valued, isStored_of_isWhole quoted whole valued⟩

/-- A table whose domain is a half of a pair. -/
def halfDomain : Table where
  domain := [CodePoint.ofNat 0xD800]
  version := none
  techniques := []
  distinct := List.nodup_nil
  parented := nofun

/-- A table whose one identifier is in digits without values. -/
def laterDigits : Table where
  domain := defaultDomain
  version := none
  techniques := [⟨.later, "x"⟩]
  distinct := List.pairwise_singleton _ _
  parented := fun technique member parent isParent =>
    have complete : orphans [.later] = [] := by decide
    parent_mem_of_orphans_eq_nil complete (List.mem_map_of_mem member) isParent

/-- A half that stands alone keeps a table from being written, and digits without values keep a
table that was written from being loaded. -/
theorem not_isStored_halfDomain_laterDigits :
    Tree.empty.IsWritable (.ofText "t.json") ∧
      (halfDomain.write .empty (.ofText "t.json")).2.result =
        .error (.notWritable ⟨15, 15, CodePoint.ofNat 0xD800⟩) ∧
      (¬∃ octets, halfDomain.IsStored octets halfDomain.sorted) ∧
      (∃ written, laterDigits.write .empty (.ofText "t.json") = (written, .note (.wrote "t.json")) ∧
        (load nesting written (.ofText "t.json") (.tuple [])).result =
          .error (.notNumeral (TechniqueId.later.text.drop 1))) ∧
      ¬∃ octets, laterDigits.IsStored octets laterDigits.sorted := by
  have run : Utf8.unpaired? halfDomain.fileText = some ⟨15, 15, CodePoint.ofNat 0xD800⟩ := by
    decide +kernel
  have ensures : Tree.empty.ensureDirectory (Path.ofText "t.json").parent = (Tree.empty, .ok ()) :=
    rfl
  obtain ⟨emptied, empties⟩ : ∃ emptied, Tree.empty.write (.ofText "t.json") [] = .ok emptied :=
    ⟨_, rfl⟩
  have refused : (halfDomain.write .empty (.ofText "t.json")).2.result =
      .error (.notWritable ⟨15, 15, CodePoint.ofNat 0xD800⟩) := by
    rw [write, ensures]
    dsimp only
    rw [Tree.writeText, empties, Utf8.encode, run]
    rfl
  obtain ⟨written, -, wrote, -, -⟩ :=
    exists_write (by decide : laterDigits.isWhole = true) isWritable_empty
  have unsorted : laterDigits.sort = .error (TechniqueId.later.text.drop 1) :=
    sort_eq_error_iff.2 ⟨[], _, [], rfl, List.forall_mem_nil _, TechniqueId.numbers_later⟩
  have stuck : (load nesting written (.ofText "t.json") (.tuple [])).result =
      .error (.notNumeral (TechniqueId.later.text.drop 1)) := by
    rw [load_of_readFile (readFile_of_write wrote rfl (Nat.le_refl nesting)), unsorted]
    rfl
  refine ⟨isWritable_empty, refused, ?_, ⟨written, wrote, stuck⟩, ?_⟩
  · rintro ⟨octets, stored⟩
    obtain ⟨written, wrote, -⟩ := stored _ _ isWritable_empty
    rw [wrote] at refused
    cases refused
  · rintro ⟨octets, stored⟩
    obtain ⟨other, alsoWrote, -, loaded⟩ := stored _ _ isWritable_empty
    cases wrote.symm.trans alsoWrote
    rw [loaded nesting (Nat.le_refl nesting)] at stuck
    cases stuck

end Table
end ThreatMatrix
