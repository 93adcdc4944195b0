import ThreatMatrix.Json.Document
import ThreatMatrix.Problem
import ThreatMatrix.Steps

/-!
# The log

Operations note what they did and what they left out. The notes of an operation are part of its
outcome, also where it has no result.
-/

namespace ThreatMatrix

/-- A note in the log. -/
inductive Note where
  | loaded (source domain : Text) (version : Option Text) (techniques : Nat)
  | built (domain : Text) (version : Option Text) (techniques skipped : Nat)
  | wrote (path : Text)
  | skippedTag (tag : Text)
  deriving DecidableEq

namespace Note

/-- The importance of a note. -/
def level : Note → Text
  | loaded .. => "info"
  | built .. => "info"
  | wrote .. => "debug"
  | skippedTag .. => "debug"

/-- What a note says. -/
def headline : Note → Text
  | loaded .. => "Loaded technique table override"
  | built .. => "Built technique table"
  | wrote .. => "Wrote technique table"
  | skippedTag .. => "Skipping unrecognized ATT&CK tag"

/-- The details of a note. -/
def details : Note → List (Text × Json)
  | loaded source domain version techniques =>
    [("source", .text source), ("domain", .text domain), ("version", .ofText? version),
      ("techniques", .int techniques)]
  | built domain version techniques skipped =>
    [("domain", .text domain), ("version", .ofText? version), ("techniques", .int techniques),
      ("skipped", .int skipped)]
  | wrote path => [("path", .text path)]
  | skippedTag tag => [("tag", .text tag)]

end Note

/-- The notes of an operation, and its result or the problem that it met. -/
structure Outcome (α : Type) where
  notes : List Note
  result : Except Problem α

namespace Outcome

/-- A problem met before anything was noted. -/
def fail {α : Type} (problem : Problem) : Outcome α :=
  ⟨[], .error problem⟩

/-- A result or a problem, and no notes. -/
def ofExcept {α : Type} (result : Except Problem α) : Outcome α :=
  ⟨[], result⟩

/-- One note and no result to speak of. -/
def note (note : Note) : Outcome Unit :=
  ⟨[note], .ok ()⟩

/-- An operation and what follows on its result. -/
def andThen {α β : Type} (first : Outcome α) (next : α → Outcome β) : Outcome β :=
  match first.result with
  | .error problem => ⟨first.notes, .error problem⟩
  | .ok value =>
    let second := next value
    ⟨first.notes ++ second.notes, second.result⟩

instance : Monad Outcome where
  pure value := ⟨[], .ok value⟩
  bind := andThen

@[simp] theorem result_pure {α : Type} (value : α) : (pure value : Outcome α).result = .ok value :=
  rfl

@[simp] theorem result_ofExcept {α : Type} (result : Except Problem α) :
    (ofExcept result).result = result :=
  rfl

@[simp] theorem result_note (note : Note) : (Outcome.note note).result = .ok () :=
  rfl

/-- The result of two operations in a row is that of their results in a row. -/
@[simp] theorem result_bind {α β : Type} (first : Outcome α) (next : α → Outcome β) :
    (first >>= next).result = first.result >>= fun value => (next value).result := by
  show (andThen first next).result = _
  unfold andThen
  cases first.result with
  | error problem => rfl
  | ok value => rfl

/-- What follows on a result adds its notes to those that were made already. -/
theorem bind_of_ok {α β : Type} (notes : List Note) (value : α) (next : α → Outcome β) :
    (⟨notes, .ok value⟩ : Outcome α) >>= next =
      ⟨notes ++ (next value).notes, (next value).result⟩ :=
  rfl

/-- What is only computed from a result adds no notes. -/
theorem bind_pure_of_ok {α β : Type} (notes : List Note) (value : α) (compute : α → β) :
    (⟨notes, .ok value⟩ : Outcome α) >>= (fun result => pure (compute result)) =
      ⟨notes, .ok (compute value)⟩ :=
  congrArg (Outcome.mk · _) (List.append_nil notes)

/-- A result that notes nothing is handed on as it is. -/
theorem ofExcept_ok_bind {α β : Type} (value : α) (next : α → Outcome β) :
    ofExcept (.ok value) >>= next = next value :=
  rfl

/-- It does not matter how operations in a row are grouped. -/
theorem bind_assoc {α β γ : Type} (first : Outcome α) (second : α → Outcome β)
    (third : β → Outcome γ) :
    first >>= second >>= third = first >>= fun value => second value >>= third := by
  obtain ⟨notes, result⟩ := first
  cases result with
  | error problem => rfl
  | ok value =>
    rw [bind_of_ok, bind_of_ok]
    cases later : second value with
    | mk laterNotes laterResult =>
      cases laterResult with
      | error problem => rfl
      | ok other => simp only [bind_of_ok, List.append_assoc]

/-- Outcomes are operations in a row: a result alone notes nothing. -/
instance : LawfulMonad Outcome := LawfulMonad.mk' Outcome
  (by
    intro α outcome
    obtain ⟨notes, result⟩ := outcome
    cases result with
    | error problem => rfl
    | ok value => exact bind_pure_of_ok notes value id)
  (fun _ _ => rfl)
  bind_assoc

end Outcome
end ThreatMatrix
