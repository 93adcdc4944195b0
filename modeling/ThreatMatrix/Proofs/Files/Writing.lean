import ThreatMatrix.Table.File
import ThreatMatrix.Proofs.Json.Written

/-!
# Files read back

A file that was written is read back as it was written. A walk passes through directories only, so
that what is put where no directory stands changes no walk. The absolute path of a relative one
leads to the same place.
-/

namespace ThreatMatrix.Tree

variable {tree : Tree} {path : Path} {location : Location} {node : Node}

/-- What is put in place of no directory is there afterwards, and nothing else has changed. -/
theorem node?_put (apart : tree.node? location ≠ some .directory) (sought : Location) :
    (tree.put location node).node? sought =
      if sought = location then some node else tree.node? sought := by
  have aside : ¬location.names <:+ tree.home.names := fun onTheWay => apart (if_pos onTheWay)
  unfold node?
  by_cases same : sought = location
  · rw [same, put, if_neg aside, Keyed.lookup_put, if_pos rfl, if_pos rfl]
  · rw [put, Keyed.lookup_put, if_neg same, if_neg same]

@[simp] theorem home_put (tree : Tree) (location : Location) (node : Node) :
    (tree.put location node).home = tree.home :=
  rfl

/-- A step begins in a directory. -/
theorem directory_of_step {place next : Location} {name : Text}
    (stepped : tree.step place name = .ok next) : tree.node? place = some .directory := by
  unfold step nodeAt at stepped
  cases stands : tree.node? place with
  | none =>
    rw [stands] at stepped
    cases stepped
  | some node =>
    cases node with
    | directory => rfl
    | file content =>
      rw [stands] at stepped
      cases stepped

/-- A step is the same in a tree in which all directories stand as well. -/
theorem step_of_directories {other : Tree}
    (stand : ∀ location, tree.node? location = some .directory →
      other.node? location = some .directory)
    {place next : Location} {name : Text} (stepped : tree.step place name = .ok next) :
    other.step place name = .ok next := by
  have directory := directory_of_step stepped
  have sameNode : other.nodeAt place = tree.nodeAt place := by
    rw [nodeAt, nodeAt, directory, stand place directory]
  rw [step, sameNode]
  exact stepped

/-- A walk is the same in a tree with the same working directory in which all directories stand as
well. -/
theorem walk_of_directories {other : Tree} (sameHome : other.home = tree.home)
    (stand : ∀ location, tree.node? location = some .directory →
      other.node? location = some .directory)
    {place : Location} (walked : tree.walk path = .ok place) : other.walk path = .ok place := by
  unfold walk at walked ⊢
  split at walked
  · cases walked
  · next short =>
    rw [if_neg short]
    have sameOrigin : other.origin path = tree.origin path := by rw [origin, origin, sameHome]
    rw [sameOrigin]
    generalize tree.origin path = start at walked ⊢
    generalize path.parts = names at walked ⊢
    induction names generalizing start with
    | nil => exact walked
    | cons name more inductionHypothesis =>
      obtain ⟨next, stepped, rest⟩ := bind_eq_ok_iff.1 walked
      rw [List.foldlM_cons, step_of_directories stand stepped]
      exact inductionHypothesis next rest

/-- A walk is the same after something was put in place of no directory. -/
theorem walk_put (apart : tree.node? location ≠ some .directory) {place : Location}
    (walked : tree.walk path = .ok place) : (tree.put location node).walk path = .ok place := by
  refine walk_of_directories (home_put tree location node) (fun elsewhere directory => ?_) walked
  have elsewhere : elsewhere ≠ location := by
    rintro rfl
    exact apart directory
  rw [node?_put apart, if_neg elsewhere, directory]

/-- The names of the working directory lead down to it, and those of a directory on the way to that
one. -/
theorem foldlM_step_of_suffix {names : List Text} (onTheWay : names <:+ tree.home.names)
    (real : ∀ name ∈ names, name ≠ Path.above ∧ Utf8.width name ≤ longestName) :
    names.reverse.foldlM tree.step .root = .ok ⟨names⟩ := by
  induction names with
  | nil => rfl
  | cons name upper inductionHypothesis =>
    have upperOnTheWay := (List.suffix_cons name upper).trans onTheWay
    obtain ⟨⟨down, short⟩, others⟩ := List.forall_mem_cons.1 real
    have directory : tree.nodeAt ⟨upper⟩ = .ok .directory := by
      rw [nodeAt, node?, if_pos upperOnTheWay]
    rw [List.reverse_cons, List.foldlM_append, inductionHypothesis upperOnTheWay others, ok_bind,
      List.foldlM_cons, step, directory, ok_bind]
    dsimp only
    rw [if_neg down, if_neg (Nat.not_lt.2 short)]
    rfl

/-- A relative path and its absolute spelling lead to the same place, or to the same fault. -/
theorem walk_absolute {parts : List Text}
    (real : ∀ name ∈ tree.home.names, name ≠ Path.above ∧ Utf8.width name ≤ longestName)
    (short : Utf8.width (Path.text ⟨0, parts⟩) < pathLimit)
    (alsoShort : Utf8.width (Path.text ⟨1, tree.home.names.reverse ++ parts⟩) < pathLimit) :
    tree.walk ⟨1, tree.home.names.reverse ++ parts⟩ = tree.walk ⟨0, parts⟩ := by
  unfold walk
  rw [if_neg (Nat.not_le.2 short), if_neg (Nat.not_le.2 alsoShort), List.foldlM_append]
  dsimp only [origin]
  rw [if_neg Nat.one_ne_zero, if_pos rfl, foldlM_step_of_suffix (List.suffix_refl _) real]
  rfl

/-- An operation on a path succeeds exactly if the path can be given to a file system and the
operation itself succeeds. -/
theorem report_eq_ok_iff {α : Type} {result : Except FileReason α} {value : α} :
    report path result = .ok value ↔
      unpairedInPath? path.text = none ∧ path.text.contains '\x00' = false ∧
        result = .ok value := by
  unfold report
  cases unpaired : unpairedInPath? path.text with
  | some run => simp
  | none =>
    cases zero : path.text.contains '\x00' with
    | true => simp
    | false => simp [mapError_eq_ok_iff]

/-- A file is written exactly where a walk leads to no directory. -/
theorem write_eq_ok_iff {content : List Byte} {written : Tree} :
    tree.write path content = .ok written ↔
      unpairedInPath? path.text = none ∧ path.text.contains '\x00' = false ∧
        ∃ location, tree.walk path = .ok location ∧ tree.node? location ≠ some .directory ∧
          tree.put location (.file content) = written := by
  rw [write, report_eq_ok_iff, bind_eq_ok_iff]
  refine and_congr_right fun _ => and_congr_right fun _ => exists_congr fun location =>
    and_congr_right fun _ => ?_
  by_cases directory : tree.node? location = some .directory
  · simp [directory]
  · simp [directory]

/-- A file that was written holds what was written. -/
theorem read_write {content : List Byte} {written : Tree}
    (wrote : tree.write path content = .ok written) : written.read path = .ok content := by
  obtain ⟨paired, noZero, location, walked, apart, rfl⟩ := write_eq_ok_iff.1 wrote
  have found := @node?_put tree location (.file content) apart location
  rw [if_pos rfl] at found
  rw [read, report_eq_ok_iff]
  refine ⟨paired, noZero, ?_⟩
  rw [walk_put apart walked, ok_bind, nodeAt, found]
  rfl

/-- A text is written exactly if it has octets and they can be written. -/
theorem writeText_eq_ok_iff {text : Text} {written : Tree} :
    tree.writeText path text = (written, .ok ()) ↔
      ∃ octets, Utf8.encode text = .ok octets ∧ tree.write path octets = .ok written := by
  constructor
  · intro wrote
    unfold writeText at wrote
    split at wrote
    · cases wrote
    split at wrote
    · cases wrote
    split at wrote
    · cases wrote
    · next octets encoded _ _ writes =>
      cases wrote
      exact ⟨octets, encoded, writes⟩
  · rintro ⟨octets, encoded, writes⟩
    obtain ⟨paired, noZero, location, walked, apart, -⟩ := write_eq_ok_iff.1 writes
    have empties := write_eq_ok_iff.2
      ⟨paired, noZero, location, walked, apart, @rfl _ (tree.put location (.file []))⟩
    rw [writeText, empties]
    dsimp only
    rw [encoded]
    dsimp only
    rw [writes]

/-- A text that was written without carriage returns is read back as it was. -/
theorem readText_writeText {text : Text} {written : Tree} (single : ('\r' : CodePoint) ∉ text)
    (wrote : tree.writeText path text = (written, .ok ())) :
    written.readText path = .ok text := by
  obtain ⟨octets, encoded, writes⟩ := writeText_eq_ok_iff.1 wrote
  rw [readText, read_write writes, mapError_ok, ok_bind, Utf8.decode_encode encoded,
    mapError_ok, ok_bind, Utf8.unifyLines_of_not_mem single]
  rfl

/-- A text without halves is written wherever a file can be emptied. -/
theorem exists_writeText {text : Text} {emptied : Tree} (whole : text.isWhole = true)
    (empties : tree.write path [] = .ok emptied) :
    ∃ written, tree.writeText path text = (written, .ok ()) := by
  obtain ⟨octets, encoded⟩ := Utf8.encode_eq_ok_iff.2 whole
  obtain ⟨paired, noZero, location, walked, apart, -⟩ := write_eq_ok_iff.1 empties
  exact ⟨_, writeText_eq_ok_iff.2 ⟨octets, encoded, write_eq_ok_iff.2
    ⟨paired, noZero, location, walked, apart, rfl⟩⟩⟩

/-- A plain document without halves is written wherever a file can be emptied, and read back. -/
theorem exists_writeDocument {layout : Json.Layout} (spaced : layout.IsSpaced)
    (marked : layout.isMarked = true) {document : Json}
    {room : Nat} (plain : document.IsPlain Text.isWhole room) {emptied : Tree}
    (empties : tree.write path [] = .ok emptied) :
    ∃ written, tree.writeText path (document.print layout) = (written, .ok ()) ∧
      written.readDocument room path = .ok document := by
  obtain ⟨written, wrote⟩ := exists_writeText (Json.isWhole_print marked plain) empties
  refine ⟨written, wrote, ?_⟩
  have readable := plain.weaken (fun _ whole => Json.isReadableText_of_isWhole layout.escaped whole)
    (Nat.le_refl _)
  have isRead := Json.read_print spaced readable
    (fun _ inNothing => absurd inNothing List.not_mem_nil)
  rw [List.append_nil] at isRead
  rw [readDocument, readText_writeText (Json.not_mem_print marked plain) wrote, ok_bind, isRead,
    mapError_ok]

end ThreatMatrix.Tree
