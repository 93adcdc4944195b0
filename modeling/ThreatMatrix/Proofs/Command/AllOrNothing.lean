import ThreatMatrix.Proofs.Command.Generation
import ThreatMatrix.Proofs.Files.Keeping

/-!
# Generating all or nothing

A generation that finds no table leaves every file and directory as it was. One that ends well has
written the table of the bundle as it was before, also where the output is the bundle's own file
under whatever spelling, and has kept whatever stands elsewhere.
-/

namespace ThreatMatrix

namespace Table

/-- The number of rows of techniques themselves. -/
def plainCount (table : Table) : Nat :=
  table.ids.countP fun id => !id.contains ('.' : CodePoint)

/-- The rows of sub-techniques are those with a point. -/
theorem subCount_eq (table : Table) :
    table.subCount = table.ids.countP fun id => id.contains ('.' : CodePoint) := by
  rw [subCount, ids, List.countP_map]
  rfl

/-- A row has a point or none. -/
theorem length_techniques (table : Table) :
    table.techniques.length = table.plainCount + table.subCount := by
  have parted := List.length_eq_countP_add_countP
    (l := table.ids) (fun id => id.contains ('.' : CodePoint))
  rw [← subCount_eq, Nat.add_comm] at parted
  rw [plainCount, ← List.length_map (fun technique : Technique => technique.id.text)]
  simpa [ids] using parted

/-- A table that was written stands at one place, and what stands elsewhere is kept. -/
theorem isKeptBut_of_write {table : Table} {tree written : Tree} {path : Path}
    {outcome : Outcome Unit} (wrote : table.write tree path = (written, outcome))
    (succeeded : outcome.result = .ok ()) :
    ∃ place, written.walk path = .ok place ∧ tree.IsKeptBut written place := by
  unfold write at wrote
  split at wrote
  · cases wrote
    cases succeeded
  · next made ensures =>
    split at wrote
    · cases wrote
      cases succeeded
    · next writes =>
      cases wrote
      have kept := tree.isKept_ensureDirectory path.parent
      rw [ensures] at kept
      exact Tree.isKeptBut_of_writeText kept writes

end Table

namespace Command

/-- The line that tells how many techniques and sub-techniques were written. -/
def countsLine (techniques subs : Nat) (output : Path) : Display :=
  .line ("[green]Wrote[/green] " ++ Text.decimal (techniques + subs) ++ " entries (" ++
    Text.decimal techniques ++ " techniques, " ++ Text.decimal subs ++ " sub-techniques) to " ++
    output.text)

/-- A generation changes nothing or does all that it is for, where there is room for so many
containers within each other. -/
structure IsAllOrNothing (room : Nat) (files : Tree) (bundle output domain : Text) (after : Tree)
    (result : Except Problem Ending) : Prop where
  /-- Without a table every file and directory is as it was. -/
  nothing : (∀ rows, (buildFrom room files (.ofText bundle) domain).result ≠ .ok rows) →
    after = files
  /-- A generation that ends well has written the table of the bundle as it was before. The output
  leads to one place, and what stood elsewhere is there as it was. The rows without and with a point
  are counted. -/
  all : ∀ ending, result = .ok ending → ending.code = 0 → ∃ value rows place,
    Bundle.read room files (.ofText bundle) = .ok value ∧
    (Bundle.build value (.text domain)).result = .ok rows ∧
    (∀ later ≥ Table.nesting,
      (Table.load later after (.ofText output) (.tuple [])).result = .ok rows) ∧
    after.walk (.ofText output) = .ok place ∧ files.IsKeptBut after place ∧
    (∀ path octets, files.walk path ≠ .ok place → files.read path = .ok octets →
      after.read path = .ok octets) ∧
    rows.techniques.length = rows.plainCount + rows.ids.countP (·.contains ('.' : CodePoint)) ∧
    ending.displays = [countsLine rows.plainCount (rows.ids.countP (·.contains ('.' : CodePoint)))
      (.ofText output)]
  /-- Where a table without halves is built and a file can be made, the generation ends well. -/
  ends : ∀ rows, checkPath bundle = .ok () → checkPath output = .ok () →
    (buildFrom room files (.ofText bundle) domain).result = .ok rows → rows.isWhole = true →
    files.IsWritable (.ofText output) → ∃ ending, result = .ok ending ∧ ending.code = 0

variable {room : Nat} {session : Session} {bundle output domain : Text} {after : Tree}
  {outcome : Outcome Ending} {ending : Ending}

/-- The line that tells what was written gives the numbers of rows without and with a point. -/
theorem writtenLine_eq (rows : Table) (output : Path) :
    writtenLine rows output = countsLine rows.plainCount rows.subCount output := by
  simp only [writtenLine, countsLine, rows.length_techniques, Nat.add_sub_cancel]

/-- Without a table a generation leaves the files as they are. -/
theorem files_of_unbuilt
    (ran : run room session (.generate bundle output domain) = (after, outcome))
    (unbuilt : ∀ rows, (buildFrom room session.files (.ofText bundle) domain).result ≠ .ok rows) :
    after = session.files := by
  unfold run at ran
  dsimp only at ran
  split at ran
  · cases ran
    rfl
  · cases ran
    rfl
  unfold runGenerate at ran
  dsimp only at ran
  split at ran
  · split at ran
    · cases ran
      rfl
    · cases ran
      rfl
  · next rows built => exact absurd built (unbuilt rows)

/-- Every generation, whatever files there are and whatever it is given, changes nothing or does all
that it is for. -/
theorem generate_isAllOrNothing
    (ran : run room session (.generate bundle output domain) = (after, outcome)) :
    IsAllOrNothing room session.files bundle output domain after outcome.result where
  nothing := files_of_unbuilt ran
  all := by
    intro ending ended succeeded
    obtain ⟨rows, writing, built, wrote, isWritten, rfl⟩ := written_of_success ran ended succeeded
    obtain ⟨value, isRead, isBuilt⟩ := buildFrom_eq_ok_iff.1 built
    obtain ⟨place, walked, kept⟩ := Table.isKeptBut_of_write wrote isWritten
    refine ⟨value, rows, place, isRead, isBuilt, ?_, walked, kept,
      fun path octets elsewhere isFile => kept.read_eq elsewhere isFile, ?_, ?_⟩
    · intro later fits
      have inOrder := (Bundle.build_eq_ok isBuilt).1
      have sorts := Table.sort_eq_ok_iff.2 ⟨Bundle.hasValues_of_build isBuilt, rfl⟩
      rw [Table.load_of_readFile (Table.readFile_of_write wrote isWritten fits), sorts, inOrder]
      rfl
    · rw [← Table.subCount_eq, Table.length_techniques]
    · rw [← Table.subCount_eq, ← writtenLine_eq]
      rfl
  ends := by
    intro rows bundleNamed outputNamed built whole writable
    obtain ⟨value, isRead, isBuilt⟩ := buildFrom_eq_ok_iff.1 built
    obtain ⟨_, _, again, ended⟩ :=
      exists_generate bundleNamed outputNamed isRead isBuilt whole writable
    rw [ran] at again
    cases again
    exact ⟨_, ended, rfl⟩

/-- A tree with one file that no generation is about, in a working directory below the root. -/
def notedTree : Tree :=
  ({ Tree.empty with home := ⟨["work"]⟩ }).put ⟨["notes", "work"]⟩ (.file [0x61])

/-- A bundle beside another file, whose table is written in its own place: the output is the
absolute spelling of the bundle's path. -/
theorem generate_isAllOrNothing_inPlace : ∃ files after outcome ending rows,
    run 5 (.packaged files []) (.generate "bundle.json" "/work/bundle.json" "enterprise-attack") =
      (after, outcome) ∧ outcome.result = .ok ending ∧ ending.code = 0 ∧
      IsAllOrNothing 5 files "bundle.json" "/work/bundle.json" "enterprise-attack" after
        outcome.result ∧
      after.walk (.ofText "bundle.json") = after.walk (.ofText "/work/bundle.json") ∧
      (Table.load 3 after (.ofText "/work/bundle.json") (.tuple [])).result = .ok rows ∧
      (∀ id ∈ Constants.required, id ∈ rows.ids) ∧
      files.read (.ofText "notes") = .ok [0x61] ∧ after.read (.ofText "notes") = .ok [0x61] := by
  obtain ⟨emptied, empties⟩ : ∃ emptied, notedTree.write (.ofText "bundle.json") [] = .ok emptied :=
    ⟨_, rfl⟩
  obtain ⟨files, wrote, isDocument⟩ := Tree.exists_writeDocument Json.Layout.isSpaced_lines
    (by decide) isPlain_requiredBundle empties
  obtain ⟨rows, isBuilt, whole, complete⟩ := exists_build_requiredBundle
  have isRead : Bundle.read 5 files (.ofText "bundle.json") = .ok (.ofJson requiredBundle) := by
    rw [Bundle.read, isDocument]
    rfl
  obtain ⟨octets, -, writes⟩ := Tree.writeText_eq_ok_iff.1 wrote
  have put : notedTree.write (.ofText "bundle.json") octets =
    .ok (notedTree.put ⟨["bundle.json", "work"]⟩ (.file octets)) := rfl
  cases put.symm.trans writes
  obtain ⟨after, outcome, ran, ended⟩ := @exists_generate 5 (.packaged _ []) "bundle.json"
    "/work/bundle.json" "enterprise-attack" _ rows rfl rfl isRead isBuilt whole ⟨_, _, rfl, rfl⟩
  have isAll := generate_isAllOrNothing ran
  obtain ⟨value, same, place, isValue, isSame, loaded, walked, kept, keeps, -⟩ :=
    isAll.all _ ended rfl
  cases isRead.symm.trans isValue
  cases isBuilt.symm.trans isSame
  -- Both spellings lead to one place, before the generation and after it.
  have isPlace : after.walk (.ofText "/work/bundle.json") = .ok ⟨["bundle.json", "work"]⟩ :=
    kept.walk_eq rfl
  have alsoPlace : after.walk (.ofText "bundle.json") = .ok ⟨["bundle.json", "work"]⟩ :=
    kept.walk_eq rfl
  cases isPlace.symm.trans walked
  refine ⟨_, after, outcome, _, rows, ran, ended, rfl, isAll, alsoPlace.trans isPlace.symm,
    loaded 3 (Nat.le_refl Table.nesting), complete, rfl, ?_⟩
  refine keeps (.ofText "notes") [0x61] (fun isSame => ?_) rfl
  cases isSame

end Command
end ThreatMatrix
