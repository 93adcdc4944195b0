import ThreatMatrix.Proofs.Files.Writing
import ThreatMatrix.Proofs.Json.Limits

/-!
# Files that can be judged

A document that is asked for is there, or there is a problem. The loaders tell most problems as
their own, but not those of paths that no file system takes, of files that are no UTF-8, and of
documents beyond the limits of the reader. Where none of these three can occur the file is legible.
-/

namespace ThreatMatrix

/-- A path that can be given to a file system. -/
def Path.IsNameable (path : Path) : Prop :=
  unpairedInPath? path.text = none ∧ path.text.contains '\x00' = false

namespace Tree

/-- A path under which there is no file, or one that can be judged to be a document or none where
there is room for so many containers within each other. -/
structure IsLegible (tree : Tree) (room : Nat) (path : Path) : Prop where
  nameable : path.IsNameable
  encoded : ∀ octets, tree.read path = .ok octets → ∃ text, Utf8.decode octets = .ok text
  limited : ∀ text, tree.readText path = .ok text → Json.IsWithinLimits room text

variable {tree : Tree} {room : Nat} {path : Path} {problem : Problem}

/-- A file system reports what it finds, and nothing about paths that it does not take. -/
theorem isLoadFailure_of_report {α : Type} {result : Except FileReason α} {fault : FileFault}
    (failed : report path result = .error fault) :
    (Problem.file fault).isLoadFailure = true ↔ path.IsNameable := by
  unfold report at failed
  unfold Path.IsNameable
  cases unpaired : unpairedInPath? path.text with
  | some run =>
    rw [unpaired] at failed
    cases failed
    exact iff_of_false Bool.false_ne_true nofun
  | none =>
    rw [unpaired] at failed
    dsimp only at failed
    cases zero : path.text.contains '\x00' with
    | true =>
      rw [if_pos zero] at failed
      cases failed
      exact iff_of_false Bool.false_ne_true nofun
    | false =>
      rw [zero, if_neg Bool.false_ne_true] at failed
      obtain ⟨reason, -, rfl⟩ := mapError_eq_error_iff.1 failed
      exact iff_of_true rfl ⟨rfl, rfl⟩

/-- The text of a file is not read because the file is not, or because it holds no text. -/
theorem readText_eq_error_iff : tree.readText path = .error problem ↔
    (∃ fault, tree.read path = .error fault ∧ .file fault = problem) ∨
      ∃ octets, tree.read path = .ok octets ∧
        ∃ fault, Utf8.decode octets = .error fault ∧ .notText fault = problem := by
  rw [readText, bind_eq_error_iff, mapError_eq_error_iff]
  refine or_congr_right (exists_congr fun octets => ?_)
  rw [mapError_eq_ok_iff, bind_eq_error_iff, mapError_eq_error_iff]
  refine and_congr_right fun _ => or_iff_left ?_
  rintro ⟨text, -, unified⟩
  cases unified

/-- A document is not read because its text is not, or because the text is refused. -/
theorem readDocument_eq_error_iff : tree.readDocument room path = .error problem ↔
    tree.readText path = .error problem ∨ ∃ text, tree.readText path = .ok text ∧
      ∃ refusal, Json.read room text = .error refusal ∧ .notDocument refusal = problem := by
  rw [readDocument, bind_eq_error_iff]
  exact or_congr_right (exists_congr fun text => and_congr_right fun _ => mapError_eq_error_iff)

/-- Where a file is legible the loaders tell every problem as their own, and only there. -/
theorem isLegible_iff : tree.IsLegible room path ↔
    ∀ problem, tree.readDocument room path = .error problem → problem.isLoadFailure = true := by
  constructor
  · intro legible problem failed
    rcases readDocument_eq_error_iff.1 failed with noText | ⟨text, isText, refusal, refused, rfl⟩
    · rcases readText_eq_error_iff.1 noText with
        ⟨fault, noFile, rfl⟩ | ⟨octets, isFile, fault, no, rfl⟩
      · exact (isLoadFailure_of_report noFile).2 legible.nameable
      · obtain ⟨text, isText⟩ := legible.encoded octets isFile
        rw [isText] at no
        cases no
    · obtain ⟨defect, place, rfl⟩ := legible.limited text isText refusal refused
      rfl
  · intro told
    refine ⟨?_, fun octets isFile => ?_, fun text isText refusal refused => ?_⟩
    · cases found : tree.read path with
      | ok octets =>
        obtain ⟨paired, noZero, -⟩ := report_eq_ok_iff.1 found
        exact ⟨paired, noZero⟩
      | error fault =>
        have noText := readText_eq_error_iff.2 (.inl ⟨fault, found, rfl⟩)
        exact (isLoadFailure_of_report found).1 (told _ (readDocument_eq_error_iff.2 (.inl noText)))
    · cases decoded : Utf8.decode octets with
      | ok text => exact ⟨text, rfl⟩
      | error fault =>
        have noText := readText_eq_error_iff.2 (.inr ⟨octets, isFile, fault, decoded, rfl⟩)
        cases told _ (readDocument_eq_error_iff.2 (.inl noText))
    · have noDocument := readDocument_eq_error_iff.2 (.inr ⟨text, isText, refusal, refused, rfl⟩)
      cases refusal with
      | malformed defect place => exact ⟨defect, place, rfl⟩
      | integerTooLong digits => cases told _ noDocument
      | tooDeep => cases told _ noDocument

/-- A file of UTF-8 without long numbers is legible where there is room for all its openings. -/
theorem isLegible_of_modest (nameable : path.IsNameable)
    (encoded : ∀ octets, tree.read path = .ok octets → ∃ text, Utf8.decode octets = .ok text)
    (modest : ∀ text, tree.readText path = .ok text →
      Json.HasShortNumbers text ∧ Json.openings text ≤ room) : tree.IsLegible room path :=
  ⟨nameable, encoded, fun text isText =>
    Json.isWithinLimits (modest text isText).1 (modest text isText).2⟩

end Tree
end ThreatMatrix
