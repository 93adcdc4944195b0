import ThreatMatrix.Command.Run
import ThreatMatrix.Proofs.Files.Legible
import ThreatMatrix.Proofs.Table.Loading

/-!
# How loading fails

The loader of bundles tells a problem as its own exactly where the file is legible, and the command
that builds a table shows such a problem and ends with a failure. Where a file is not legible the
problem passes through the loader and ends the program. The loader of tables tells the same
problems, and one more passes through it: a numeral that denotes no number, in rows that are a table
otherwise.
-/

namespace ThreatMatrix

/-- A result, or a problem that is told as one of loading. -/
inductive IsTold {α : Type} : Except Problem α → Prop where
  | result (value : α) : IsTold (.ok value)
  | problem {problem : Problem} (told : Command.isToldAsError problem = true) :
      IsTold (.error problem)

/-- Values that are texts or count as texts. -/
def AreTexts (items : List Value) : Prop :=
  ∀ item ∈ items, ∃ text, item.asText? = some text

section

variable {α β : Type} {tree : Tree} {room : Nat} {path : Path} {problem : Problem}

theorem isTold_error_iff : IsTold (.error problem : Except Problem α) ↔
    Command.isToldAsError problem = true := by
  constructor
  · intro isTold
    cases isTold with
    | problem told => exact told
  · exact .problem

/-- A step whose own problems are never told, some of them renamed to ones that are: everything is
told exactly if every problem is among those and what follows on a result is told. -/
theorem isTold_renamed_iff {step : Except Problem α} {next : α → Except Problem β}
    {rename : Problem → Problem}
    (renamed : ∀ problem, Command.isToldAsError (rename problem) = true)
    (plain : ∀ problem, step = .error problem → Command.isToldAsError problem = false) :
    IsTold (step.mapError (fun problem =>
        if problem.isLoadFailure then rename problem else problem) >>= next) ↔
      (∀ problem, step = .error problem → problem.isLoadFailure = true) ∧
        ∀ value, step = .ok value → IsTold (next value) := by
  cases step with
  | ok value => simp
  | error problem =>
    rw [mapError_error, error_bind, isTold_error_iff]
    cases failure : problem.isLoadFailure with
    | true =>
      rw [if_pos rfl]
      refine iff_of_true (renamed problem) ⟨fun other same => ?_, nofun⟩
      cases same
      exact failure
    | false =>
      rw [if_neg Bool.false_ne_true, plain problem rfl]
      refine iff_of_false Bool.false_ne_true fun every => ?_
      rw [every.1 problem rfl] at failure
      cases failure

/-- The problems of reading a document are never told as they are. -/
theorem isToldAsError_of_readDocument (failed : tree.readDocument room path = .error problem) :
    Command.isToldAsError problem = false := by
  rcases Tree.readDocument_eq_error_iff.1 failed with noText | ⟨text, -, refusal, -, rfl⟩
  · rcases Tree.readText_eq_error_iff.1 noText with ⟨fault, -, rfl⟩ | ⟨octets, -, fault, -, rfl⟩
    · rfl
    · rfl
  · rfl

end

namespace Table

variable {tree : Tree} {room : Nat} {path : Path} {required : Value} {items : List Value}

/-- Rows are not read because their document is not, or because it describes none. -/
theorem readFile_eq_error_iff {problem : Problem} : readFile room tree path = .error problem ↔
    tree.readDocument room path = .error problem ∨
      ∃ document, tree.readDocument room path = .ok document ∧ ∃ report,
        ofValue (.ofJson document) = .error report ∧ .invalid report = problem := by
  rw [readFile, bind_eq_error_iff]
  exact or_congr_right (exists_congr fun document => and_congr_right fun _ => mapError_eq_error_iff)

/-- The problems of reading rows are never told as they are. -/
theorem isToldAsError_of_readFile {problem : Problem}
    (failed : readFile room tree path = .error problem) :
    Command.isToldAsError problem = false := by
  rcases readFile_eq_error_iff.1 failed with noDocument | ⟨document, -, report, -, rfl⟩
  · exact isToldAsError_of_readDocument noDocument
  · rfl

/-- Where a file is legible every problem of its rows is told by the loader, and only there. -/
theorem isLegible_iff_readFile : tree.IsLegible room path ↔
    ∀ problem, readFile room tree path = .error problem → problem.isLoadFailure = true := by
  rw [Tree.isLegible_iff]
  constructor
  · intro told problem failed
    rcases readFile_eq_error_iff.1 failed with noDocument | ⟨document, -, report, -, rfl⟩
    · exact told problem noDocument
    · rfl
  · exact fun told problem failed => told problem (readFile_eq_error_iff.2 (.inl failed))

/-- Values that count as texts count as some texts. -/
theorem exists_countAs (texts : AreTexts items) : ∃ ids, CountAs items ids := by
  induction items with
  | nil => exact ⟨[], .nil⟩
  | cons item more inductionHypothesis =>
    obtain ⟨id, isText⟩ := texts item List.mem_cons_self
    obtain ⟨ids, others⟩ := inductionHypothesis fun other member =>
      texts other (List.mem_cons_of_mem item member)
    exact ⟨id :: ids, .cons isText others⟩

/-- Rows that are read and lack nothing that is required can be put in order. -/
def CanBeOrdered (room : Nat) (tree : Tree) (path : Path) (required : Value) : Prop :=
  ∀ rows, readFile room tree path = .ok rows → checkRequired path.text rows required = .ok () →
    rows.HasValues

/-- What is missing of texts is told, and where nothing is missing everything is told exactly if the
digits of the rows have values. -/
theorem isTold_of_checkRequired_iff {source : Text} {table : Table}
    (iterates : required.iterate = .ok items) (texts : AreTexts items) :
    IsTold (checkRequired source table required >>= fun _ => table.sort.mapError .notNumeral) ↔
      (checkRequired source table required = .ok () → table.HasValues) := by
  obtain ⟨ids, counted⟩ := exists_countAs texts
  rw [checkRequired_of_countAs iterates counted]
  split
  · rw [ok_bind, forall_prop_of_true rfl]
    cases sorted : table.sort with
    | ok other => exact iff_of_true (.result other) (sort_eq_ok_iff.1 sorted).1
    | error numeral =>
      rw [mapError_error, isTold_error_iff]
      refine iff_of_false Bool.false_ne_true fun valued => ?_
      rw [sort_eq_ok_iff.2 ⟨valued, rfl⟩] at sorted
      cases sorted
  · exact iff_of_true (.problem rfl) nofun

/-- The loader tells every problem of a file exactly if the file is legible and its rows can be put
in order. -/
theorem isTold_load_iff (iterates : required.iterate = .ok items) (texts : AreTexts items) :
    IsTold (load room tree path required).result ↔
      tree.IsLegible room path ∧ CanBeOrdered room tree path required := by
  rw [isLegible_iff_readFile]
  simp only [load, Outcome.result_bind, Outcome.result_ofExcept, Outcome.result_note, ok_bind]
  rw [isTold_renamed_iff (fun _ => rfl) (fun _ => isToldAsError_of_readFile)]
  exact and_congr_right fun _ => forall₂_congr fun _ _ => isTold_of_checkRequired_iff iterates texts

/-- The loader tells every problem of the packaged table. -/
theorem isTold_load?_none (iterates : required.iterate = .ok items) (texts : AreTexts items)
    (room : Nat) (tree : Tree) : IsTold (load? room tree none required).result :=
  (isTold_of_checkRequired_iff iterates texts).2 fun _ => hasValues_packaged

end Table

namespace Bundle

/-- The loader of bundles tells every problem of a file exactly if the file is legible. -/
theorem isTold_read_iff {room : Nat} {tree : Tree} {path : Path} :
    IsTold (read room tree path) ↔ tree.IsLegible room path := by
  rw [Tree.isLegible_iff]
  refine (isTold_renamed_iff (fun _ => rfl) (fun _ => isToldAsError_of_readDocument)).trans
    (and_iff_left fun document _ => ?_)
  dsimp only
  split
  · split
    · exact .result _
    · exact .problem rfl
  · exact .problem rfl

end Bundle

namespace Command

variable {room : Nat} {session : Session} {bundle output : Text} {problem : Problem}

/-- A bundle that cannot be read changes no file: its problem is shown if it is told, and else it
ends the program. -/
theorem run_generate_of_unread (bundleNamed : checkPath bundle = .ok ())
    (outputNamed : checkPath output = .ok ())
    (failed : Bundle.read room session.files (.ofText bundle) = .error problem) (domain : Text) :
    run room session (.generate bundle output domain) = (session.files, ⟨[],
      if isToldAsError problem then .ok (.failure [errorLine problem.message])
      else .error problem⟩) := by
  have built : buildFrom room session.files (.ofText bundle) domain = .fail problem := by
    rw [buildFrom, failed]
    rfl
  unfold run
  dsimp only
  rw [bundleNamed, outputNamed]
  dsimp only
  rw [runGenerate, built]
  dsimp only [Outcome.fail]
  split
  · rfl
  · rfl

/-- Where a file is legible, and only there, the loader of bundles gives a result or tells a problem
of loading. The loader of tables does so where besides the rows can be put in order, provided that
what is required are texts; rows that cannot be put in order are noted as loaded, and then the
numeral that denotes no number passes through. The command that builds a table ends with a failure
and shows the problem of a bundle that is not read but legible; the problem of one that is not
legible ends the program. No file is changed. All of this holds for any depth to which documents may
nest. -/
theorem isTold_iff_isLegible (room : Nat) (tree : Tree) (path : Path) {required : Value}
    {items : List Value} (iterates : required.iterate = .ok items) (texts : AreTexts items) :
    IsTold (Table.load? room tree none required).result ∧
    (IsTold (Table.load? room tree (some path) required).result ↔
      tree.IsLegible room path ∧ Table.CanBeOrdered room tree path required) ∧
    (∀ rows numeral, Table.readFile room tree path = .ok rows →
      Table.checkRequired path.text rows required = .ok () → rows.sort = .error numeral →
      Table.load? room tree (some path) required =
        ⟨[.loaded path.text rows.domain rows.version rows.techniques.length],
          .error (.notNumeral numeral)⟩) ∧
    (IsTold (Bundle.read room tree path) ↔ tree.IsLegible room path) ∧
    ∀ session bundle output domain problem, session.files = tree → .ofText bundle = path →
      checkPath bundle = .ok () → checkPath output = .ok () →
      Bundle.read room tree path = .error problem →
      (tree.IsLegible room path → run room session (.generate bundle output domain) =
        (tree, ⟨[], .ok (.failure [errorLine problem.message])⟩)) ∧
      (¬tree.IsLegible room path → run room session (.generate bundle output domain) =
        (tree, ⟨[], .error problem⟩)) := by
  refine ⟨Table.isTold_load?_none iterates texts room tree, Table.isTold_load_iff iterates texts,
    fun rows numeral isRead complete unordered => ?_, Bundle.isTold_read_iff, ?_⟩
  · rw [Table.load?, Table.load_eq_of_readFile isRead, complete, unordered]
    rfl
  rintro session bundle output domain problem rfl rfl bundleNamed outputNamed failed
  have isLegible := @Bundle.isTold_read_iff room session.files (.ofText bundle)
  rw [failed, isTold_error_iff] at isLegible
  rw [run_generate_of_unread bundleNamed outputNamed failed, ← isLegible]
  constructor
  · exact fun told => by rw [if_pos told]
  · exact fun untold => by rw [if_neg untold]

/-- A file of one octet, under the name of a bundle. -/
def fileOf (octet : Byte) : Tree :=
  Tree.empty.put ⟨["b.json"]⟩ (.file [octet])

/-- A brace alone is no document, but legible. -/
theorem isLegible_brace : (fileOf 0x7B).IsLegible 1 (.ofText "b.json") := by
  have isFile : (fileOf 0x7B).read (.ofText "b.json") = .ok [0x7B] := rfl
  have isText : (fileOf 0x7B).readText (.ofText "b.json") = .ok ("\x7b" : Text) := rfl
  refine Tree.isLegible_of_modest ⟨rfl, rfl⟩ (fun octets found => ?_) fun text found => ?_
  · rw [isFile] at found
    cases found
    exact ⟨("\x7b" : Text), rfl⟩
  · rw [isText] at found
    cases found
    exact ⟨fun run within _ => Nat.le_trans within.length_le (by decide), by decide⟩

/-- A brace alone is told by both loaders and shown by the command. -/
theorem isTold_iff_isLegible_brace :
    (Value.tuple [.text "T1003"]).iterate = .ok [.text "T1003"] ∧ AreTexts [.text "T1003"] ∧
      IsTold
        (Table.load? 1 (fileOf 0x7B) (some (.ofText "b.json")) (.tuple [.text "T1003"])).result ∧
      IsTold (Bundle.read 1 (fileOf 0x7B) (.ofText "b.json")) ∧
      run 1 (.packaged (fileOf 0x7B) []) (.generate "b.json" "t.json" "enterprise-attack") =
        (fileOf 0x7B, ⟨[], .ok (.failure [errorLine (Problem.bundleUnreadable "b.json"
          (.notDocument (.malformed .nameExpected ⟨1, 2, 1⟩))).message])⟩) := by
  have texts : AreTexts [.text "T1003"] := fun item member =>
    ⟨"T1003", by rw [List.mem_singleton.1 member]; rfl⟩
  have noRows : ∀ rows, Table.readFile 1 (fileOf 0x7B) (.ofText "b.json") ≠ .ok rows := nofun
  obtain ⟨-, load, -, read, generate⟩ :=
    @isTold_iff_isLegible 1 (fileOf 0x7B) (.ofText "b.json") (.tuple [.text "T1003"]) _ rfl texts
  exact ⟨rfl, texts, load.2 ⟨isLegible_brace, fun rows isRead => absurd isRead (noRows rows)⟩,
    read.2 isLegible_brace, (generate (.packaged (fileOf 0x7B) []) "b.json" "t.json"
      "enterprise-attack" _ rfl rfl rfl rfl rfl).1 isLegible_brace⟩

/-- An octet that begins no code point is not told as a problem of loading, and it ends the program.
-/
theorem not_isTold_octet :
    ¬IsTold (Table.load? 1 (fileOf 0xFF) (some (.ofText "b.json")) (.tuple [])).result ∧
      ¬IsTold (Bundle.read 1 (fileOf 0xFF) (.ofText "b.json")) ∧
      run 1 (.packaged (fileOf 0xFF) []) (.generate "b.json" "t.json" "enterprise-attack") =
        (fileOf 0xFF, ⟨[], .error (.notText ⟨.badStart, 0, 0, 0xFF⟩)⟩) := by
  have loaded : (Table.load? 1 (fileOf 0xFF) (some (.ofText "b.json")) (.tuple [])).result =
      .error (.notText ⟨.badStart, 0, 0, 0xFF⟩) := rfl
  have isRead : Bundle.read 1 (fileOf 0xFF) (.ofText "b.json") =
      .error (.notText ⟨.badStart, 0, 0, 0xFF⟩) := rfl
  rw [loaded, isRead, isTold_error_iff, isTold_error_iff]
  exact ⟨Bool.false_ne_true, Bool.false_ne_true,
    @run_generate_of_unread 1 (.packaged (fileOf 0xFF) []) "b.json" "t.json" _ rfl rfl isRead _⟩

end Command
end ThreatMatrix
