import Mathlib.Order.Fin.Basic
import ThreatMatrix.Command.Run
import ThreatMatrix.Proofs.Bundle.Building
import ThreatMatrix.Proofs.Catalog.Access
import ThreatMatrix.Proofs.Table.Writing

/-!
# From a bundle to its catalog

What a session reads that begins with a generated table. The file holds the rows that were built,
loading asks them for the required identifiers, and the catalog of the loaded table reads the
identifiers that the bundle publishes.
-/

namespace ThreatMatrix

/-- The table that settings name is the one that the variable names. -/
theorem Settings.techniquesFile_of_read {environment : Environment} {settings : Settings}
    (readable : read environment = .ok settings) :
    settings.techniquesFile = (environment.find? fileVariable).map Path.ofText := by
  unfold read at readable
  dsimp only at readable
  split at readable
  · cases readable
    rfl
  split at readable
  · cases readable
    rfl
  · cases readable

namespace Session

variable {room : Nat} {files : Tree} {environment : Environment} {settings : Settings} {path : Path}
  {rows : Table}

/-- A session begins with rows that can be read, in digits with values, if nothing required is
missing, and its catalog is that of the rows in order. -/
theorem start_of_complete (readable : Settings.read environment = .ok settings)
    (named : settings.techniquesFile = some path)
    (isRead : Table.readFile room files path = .ok rows)
    (complete : rows.missing Constants.required = []) (valued : rows.HasValues) :
    ∃ started, (start room files environment).result = .ok started ∧
      started.catalog.table = rows.sorted := by
  obtain ⟨catalog, built⟩ := Catalog.exists_build rows.sorted
  refine ⟨{ files, environment, kept := some settings, catalog }, ?_, Catalog.table_of_build built⟩
  simp only [start, Outcome.result_bind, Outcome.result_ofExcept, readable, mapError_ok, ok_bind,
    named, Table.load?, Table.load_of_readFile isRead, requiredIds, Table.checkRequired_texts,
    complete, if_true, Table.sort_eq_ok_iff.2 ⟨valued, rfl⟩, built, Outcome.result_pure]

/-- A session does not begin with rows that lack something required, and all that they lack is
named. -/
theorem start_of_incomplete (readable : Settings.read environment = .ok settings)
    (named : settings.techniquesFile = some path)
    (isRead : Table.readFile room files path = .ok rows)
    (incomplete : rows.missing Constants.required ≠ []) :
    (start room files environment).result =
      .error (.tableIncomplete path.text (rows.missing Constants.required)) := by
  simp only [start, Outcome.result_bind, Outcome.result_ofExcept, readable, mapError_ok, ok_bind,
    named, Table.load?, Table.load_of_readFile isRead, requiredIds, Table.checkRequired_texts,
    if_neg incomplete, error_bind]

/-- A session begins with rows that can be read, in digits with values, exactly if nothing required
is missing. -/
theorem exists_start_iff (readable : Settings.read environment = .ok settings)
    (named : settings.techniquesFile = some path)
    (isRead : Table.readFile room files path = .ok rows) (valued : rows.HasValues) :
    (∃ started, (start room files environment).result = .ok started) ↔
      rows.missing Constants.required = [] := by
  constructor
  · rintro ⟨started, isStarted⟩
    by_cases complete : rows.missing Constants.required = []
    · exact complete
    · rw [start_of_incomplete readable named isRead complete] at isStarted
      cases isStarted
  · intro complete
    obtain ⟨started, isStarted, -⟩ := start_of_complete readable named isRead complete valued
    exact ⟨started, isStarted⟩

end Session

namespace Command

variable {room : Nat} {session : Session} {bundle output domain : Text} {after : Tree}
  {outcome : Outcome Ending} {ending : Ending}

/-- A table is built from a file if the bundle in it can be read and built. -/
theorem buildFrom_eq_ok_iff {files : Tree} {path : Path} {rows : Table} :
    (buildFrom room files path domain).result = .ok rows ↔
      ∃ value, Bundle.read room files path = .ok value ∧
        (Bundle.build value (.text domain)).result = .ok rows := by
  simp only [buildFrom, Outcome.result_bind, Outcome.result_ofExcept]
  exact bind_eq_ok_iff

/-- A generation that ends well has built a table, written it and told so. -/
theorem written_of_success
    (ran : run room session (.generate bundle output domain) = (after, outcome))
    (ended : outcome.result = .ok ending) (succeeded : ending.code = 0) :
    ∃ rows writing, (buildFrom room session.files (.ofText bundle) domain).result = .ok rows ∧
      rows.write session.files (.ofText output) = (after, writing) ∧ writing.result = .ok () ∧
      ending = .success [writtenLine rows (.ofText output)] := by
  unfold run at ran
  dsimp only at ran
  split at ran
  · cases ran
    cases ended
  · cases ran
    cases ended
  unfold runGenerate at ran
  dsimp only at ran
  split at ran
  · split at ran
    · cases ran
      cases ended
      cases succeeded
    · cases ran
      cases ended
  · next rows built =>
    cases ran
    refine ⟨rows, (rows.write session.files (.ofText output)).2, built, rfl, ?_⟩
    cases wrote : (rows.write session.files (.ofText output)).2.result with
    | error problem =>
      rw [wrote] at ended
      cases ended
    | ok _ =>
      rw [wrote] at ended
      cases ended
      exact ⟨rfl, rfl⟩

/-- A generation that ends well has read a bundle and built its table, and the rows of the table can
be read from the file that was written, wherever there is room for the document of a table. -/
theorem generate_eq_success
    (generated : run room session (.generate bundle output domain) = (after, outcome))
    (ended : outcome.result = .ok ending) (succeeded : ending.code = 0) :
    ∃ value rows, Bundle.read room session.files (.ofText bundle) = .ok value ∧
      (Bundle.build value (.text domain)).result = .ok rows ∧
        ∀ later ≥ Table.nesting, Table.readFile later after (.ofText output) = .ok rows := by
  obtain ⟨rows, writing, built, wrote, isWritten, -⟩ := written_of_success generated ended succeeded
  obtain ⟨value, isRead, isBuilt⟩ := buildFrom_eq_ok_iff.1 built
  exact ⟨value, rows, isRead, isBuilt, fun _ fits => Table.readFile_of_write wrote isWritten fits⟩

/-- A generation ends well where a bundle can be read and makes up a table without halves, and where
a file can be made. -/
theorem exists_generate {value : Value} {rows : Table} (bundleNamed : checkPath bundle = .ok ())
    (outputNamed : checkPath output = .ok ())
    (isRead : Bundle.read room session.files (.ofText bundle) = .ok value)
    (isBuilt : (Bundle.build value (.text domain)).result = .ok rows) (whole : rows.isWhole = true)
    (writable : session.files.IsWritable (.ofText output)) :
    ∃ after outcome, run room session (.generate bundle output domain) = (after, outcome) ∧
      outcome.result = .ok (.success [writtenLine rows (.ofText output)]) := by
  obtain ⟨written, octets, wrote, -, -⟩ := Table.exists_write whole writable
  have built : (buildFrom room session.files (.ofText bundle) domain).result = .ok rows :=
    buildFrom_eq_ok_iff.2 ⟨value, isRead, isBuilt⟩
  have ran : run room session (.generate bundle output domain) =
      (written, ⟨(buildFrom room session.files (.ofText bundle) domain).notes ++
        [.wrote (Path.ofText output).text], .ok (.success [writtenLine rows (.ofText output)])⟩) := by
    unfold run
    dsimp only
    rw [bundleNamed, outputNamed]
    dsimp only
    unfold runGenerate
    dsimp only
    rw [built]
    dsimp only
    rw [wrote]
    rfl
  exact ⟨_, _, ran, rfl⟩

/-- A session that begins with the output of a generation that ended well, in an environment whose
settings can be read and with room for the document of a table, begins exactly if the generated rows
hold every required identifier, and else names those that they lack. Its catalog reads a text as a
technique exactly if the text spells, in any letter case, an identifier that a current attack
pattern of the bundle publishes, and the technique has the name of the last such object. -/
theorem start_generated
    (generated : run room session (.generate bundle output domain) = (after, outcome))
    (ended : outcome.result = .ok ending) (succeeded : ending.code = 0) {environment : Environment}
    (named : environment.find? Settings.fileVariable = some output) {settings : Settings}
    (readable : Settings.read environment = .ok settings) {later : Nat}
    (fits : Table.nesting ≤ later) :
    ∃ value rows, Bundle.read room session.files (.ofText bundle) = .ok value ∧
      (Bundle.build value (.text domain)).result = .ok rows ∧
      ((∃ started, (Session.start later after environment).result = .ok started) ↔
        ∀ id ∈ Constants.required, id ∈ rows.ids) ∧
      (¬(∀ id ∈ Constants.required, id ∈ rows.ids) →
        (Session.start later after environment).result = .error (.tableIncomplete
          (Path.ofText output).text (Constants.required.filter fun id => id ∉ rows.ids))) ∧
      ∀ started, (Session.start later after environment).result = .ok started → ∀ text technique,
        started.catalog.ofValue (.text text) = .ok technique ↔
          text.lower = technique.id.text.lower ∧ ∃ object,
            Bundle.latest? (Bundle.entries value "objects") technique.id.text = some object ∧
              Bundle.publishedName object = technique.name := by
  obtain ⟨value, rows, isRead, isBuilt, written⟩ := generate_eq_success generated ended succeeded
  obtain ⟨inOrder, published⟩ := Bundle.build_eq_ok isBuilt
  have isFile : settings.techniquesFile = some (.ofText output) := by
    rw [Settings.techniquesFile_of_read readable, named, Option.map_some]
  have lacks : rows.missing Constants.required =
      Constants.required.filter fun id => id ∉ rows.ids := by
    refine List.filter_congr fun id _ => ?_
    simp
  have complete : rows.missing Constants.required = [] ↔
      ∀ id ∈ Constants.required, id ∈ rows.ids := Table.missing_eq_nil_iff
  have isWritten := written later fits
  have valued := Bundle.hasValues_of_build isBuilt
  have begins := (Session.exists_start_iff readable isFile isWritten valued).trans complete
  refine ⟨value, rows, isRead, isBuilt, begins, fun incomplete => ?_, ?_⟩
  · rw [← lacks]
    exact Session.start_of_incomplete readable isFile isWritten (mt complete.1 incomplete)
  · intro started isStarted text technique
    obtain ⟨same, isSame, isTable⟩ := Session.start_of_complete readable isFile isWritten
      (complete.2 (begins.1 ⟨started, isStarted⟩)) valued
    rw [isStarted] at isSame
    cases isSame
    rw [Catalog.ofValue_eq_ok_iff, Catalog.techniques_eq, isTable, inOrder, published]
    constructor
    · rintro ⟨isPublished, spelled⟩
      exact ⟨spelled.symm, isPublished⟩
    · rintro ⟨spelled, isPublished⟩
      exact ⟨isPublished, spelled.symm⟩

/-- An object that describes a technique under an identifier and a name. -/
def describe (id : TechniqueId) (name : Text) : Json :=
  .object [("type", .text Bundle.patternType), ("name", .text name),
    ("external_references", .array [.object [("source_name", .text Bundle.publisher),
      ("external_id", .text id.text)]])]

/-- The identifiers of the required techniques, and of those that they belong to. -/
def describedIds : List TechniqueId :=
  Constants.techniques.map (·.2) ++ [.ofNumbers 1053 0, .ofNumbers 1547 0, .ofNumbers 1566 0]

/-- A bundle that describes every required technique, and one of them twice. -/
def requiredBundle : Json :=
  .object [("type", .text "bundle"), ("objects", .array
    (describe (.ofNumbers 1003 6) "Old" :: describedIds.map fun id => describe id " New "))]

/-- The variables that name the output of a generation. -/
def outputEnvironment : Environment :=
  [("ATTACK_TAXONOMY_TECHNIQUES_FILE", "table.json")]

/-- What is written for a technique's object is plain. -/
theorem isPlain_describe (id : TechniqueId) {name : Text} (whole : name.isWhole = true) :
    (describe id name).IsPlain Text.isWhole 3 := by
  have names : [("type" : Text), "name", "external_references", "source_name",
      "external_id"].all Text.isWhole = true := by decide
  simp only [List.all_cons, List.all_nil, Bool.and_true, Bool.and_eq_true] at names
  obtain ⟨isType, isName, isReferences, isSource, isExternal⟩ := names
  refine .object (by simp [isType, isName, isReferences]) fun field member => ?_
  simp only [List.mem_cons, List.not_mem_nil, or_false] at member
  rcases member with rfl | rfl | rfl
  · exact .text 2 (by decide)
  · exact .text 2 whole
  · refine .array fun item member => ?_
    rw [List.mem_singleton] at member
    subst member
    refine .object (by simp [isSource, isExternal]) fun field member => ?_
    simp only [List.mem_cons, List.not_mem_nil, or_false] at member
    rcases member with rfl | rfl
    · exact .text 0 (by decide)
    · exact .text 0 id.isWhole_text

/-- What is written for the bundle is plain. -/
theorem isPlain_requiredBundle : requiredBundle.IsPlain Text.isWhole 5 := by
  have names : [("type" : Text), "objects"].all Text.isWhole = true := by decide
  simp only [List.all_cons, List.all_nil, Bool.and_true, Bool.and_eq_true] at names
  refine .object (by simp [names]) fun field member => ?_
  simp only [List.mem_cons, List.not_mem_nil, or_false] at member
  rcases member with rfl | rfl
  · exact .text 4 (by decide)
  · refine .array fun item member => ?_
    rcases List.mem_cons.1 member with rfl | member
    · exact isPlain_describe _ (by decide)
    · obtain ⟨id, -, rfl⟩ := List.mem_map.1 member
      exact isPlain_describe id (by decide)

/-- What the bundle of required techniques is built into. -/
theorem exists_build_requiredBundle : ∃ rows,
    (Bundle.build (.ofJson requiredBundle) (.text "enterprise-attack")).result = .ok rows ∧
      rows.isWhole = true ∧ ∀ id ∈ Constants.required, id ∈ rows.ids := by
  let objects := Bundle.entries (.ofJson requiredBundle) "objects"
  have checked : (match objects.foldlM Bundle.gather ⟨[], 0⟩ with
      | .ok harvest =>
        match Bundle.tableOf (.text "enterprise-attack") .null harvest.techniques with
        | .ok table =>
          table.isWhole && (table.missing Constants.required).isEmpty && decide table.HasValues
        | .error _ => false
      | .error _ => false) = true := by
    decide +kernel
  have listed : Bundle.fieldItems (.ofJson requiredBundle) "objects" = .ok objects := rfl
  have noVersion : Bundle.collectionVersion objects = .ok .null := rfl
  split at checked
  · next harvest ran =>
    split at checked
    · next table isTable =>
      simp only [Bool.and_eq_true, decide_eq_true_eq] at checked
      obtain ⟨⟨whole, complete⟩, valued⟩ := checked
      have nothing := List.isEmpty_iff.1 complete
      refine ⟨table.sorted, ?_, table.isWhole_sorted.trans whole, fun id required => ?_⟩
      · simp only [Bundle.build, Outcome.result_bind, Outcome.result_ofExcept, Outcome.result_note,
          Outcome.result_pure, listed, ran, noVersion, isTable, mapError_ok, ok_bind,
          Table.sort_eq_ok_iff.2 ⟨valued, rfl⟩]
      · rw [← Table.missing_sorted] at nothing
        exact Table.missing_eq_nil_iff.1 nothing id required
    · cases checked
  · cases checked

/-- A session that begins with what was generated from the bundle reads the name that was published
last. -/
theorem start_generated_requiredBundle : ∃ files after outcome ending started,
    run 5 (.packaged files []) (.generate "bundle.json" "table.json" "enterprise-attack") =
      (after, outcome) ∧ outcome.result = .ok ending ∧ ending.code = 0 ∧
      outputEnvironment.find? Settings.fileVariable = some "table.json" ∧
      Settings.read outputEnvironment = .ok ⟨some (.ofText "table.json"), true⟩ ∧
      Table.nesting ≤ 3 ∧
      (Session.start 3 after outputEnvironment).result = .ok started ∧
      started.catalog.ofValue (.text "t1003.006") = .ok ⟨.ofNumbers 1003 6, "New"⟩ := by
  obtain ⟨emptied, empties⟩ : ∃ emptied, Tree.empty.write (.ofText "bundle.json") [] = .ok emptied :=
    ⟨_, rfl⟩
  obtain ⟨files, wrote, isDocument⟩ := Tree.exists_writeDocument Json.Layout.isSpaced_lines
    (by decide) isPlain_requiredBundle empties
  obtain ⟨rows, isBuilt, whole, complete⟩ := exists_build_requiredBundle
  have isRead : Bundle.read 5 files (.ofText "bundle.json") = .ok (.ofJson requiredBundle) := by
    rw [Bundle.read, isDocument]
    rfl
  have writable : files.IsWritable (.ofText "table.json") := by
    obtain ⟨octets, -, writes⟩ := Tree.writeText_eq_ok_iff.1 wrote
    have put : Tree.empty.write (.ofText "bundle.json") octets =
      .ok (Tree.empty.put ⟨["bundle.json"]⟩ (.file octets)) := rfl
    cases put.symm.trans writes
    exact ⟨_, _, rfl, rfl⟩
  have named : outputEnvironment.find? Settings.fileVariable = some "table.json" := by
    decide +kernel
  have readable : Settings.read outputEnvironment = .ok ⟨some (.ofText "table.json"), true⟩ := by
    have unset : outputEnvironment.find? Settings.legacyVariable = none := by decide +kernel
    rw [Settings.read, unset, named]
    rfl
  obtain ⟨after, outcome, ran, ended⟩ := @exists_generate 5 (.packaged files []) "bundle.json"
    "table.json" "enterprise-attack" _ rows rfl rfl isRead isBuilt whole writable
  obtain ⟨value, again, isValue, isAgain, begins, -, reads⟩ :=
    start_generated ran ended rfl named readable (Nat.le_refl Table.nesting)
  cases isRead.symm.trans isValue
  cases isBuilt.symm.trans isAgain
  obtain ⟨started, isStarted⟩ := begins.2 complete
  refine ⟨files, after, outcome, _, started, ran, ended, rfl, named, readable,
    Nat.le_refl Table.nesting, isStarted, ?_⟩
  refine (reads started isStarted _ _).2 ⟨by decide, _, rfl, ?_⟩
  decide

end Command
end ThreatMatrix
