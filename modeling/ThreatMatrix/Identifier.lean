import ThreatMatrix.Catalog.Constants
import ThreatMatrix.Problem

/-!
# Identifiers

Resolves offered values to tactics and techniques. Reading an identifier is lenient about letter
case, and a value that it does not recognize is part of the fault. Looking a member up is exact, and
a value that could change is refused where it serves as a key.
-/

namespace ThreatMatrix

/-- What was found, or else a problem. -/
def orProblem {α : Type} (found : Option α) (problem : Problem) : Except Problem α :=
  match found with
  | some value => .ok value
  | none => .error problem

namespace Tactic

/-- The tactic that a value is or names. -/
def ofValue (value : Value) : Except Unrecognized Tactic :=
  match value.asText?.bind parse? with
  | some tactic => .ok tactic
  | none => .error ⟨.tactic, value⟩

/-- The tactic of a matrix that a value names by its shortname. The name must be a text before the
matrix is looked at; a value that is no matrix has no tactics. -/
def ofShortnameValue (matrix name : Value) : Except Problem Tactic :=
  let unrecognized : Problem := .unrecognized ⟨.tactic, name⟩
  match name.asText? with
  | none => .error unrecognized
  | some text => do
    matrix.lookable.mapError .misuse
    orProblem (matrix.asMatrix?.bind (ofShortname? · text)) unrecognized

/-- The tactics of the matrix that a value is or names. -/
def ofMatrixValue (value : Value) : List Tactic :=
  match value.asMatrix? with
  | some matrix => ofMatrix matrix
  | none => []

/-- The tactic that a value is the name in a tag of. -/
def ofTagValue? (value : Value) : Option Tactic :=
  value.asText?.bind ofTagName?

/-- The tactic whose identifier is exactly this value. -/
def ofIdValue (value : Value) : Except Problem Tactic :=
  orProblem (value.asText?.bind ofId?) (.notMember .tactic value)

end Tactic

namespace Catalog

/-- The technique that a value names. -/
def ofValue (catalog : Catalog) (value : Value) : Except Unrecognized Technique :=
  match value.asText?.bind catalog.parse? with
  | some technique => .ok technique
  | none => .error ⟨.technique, value⟩

/-- The technique whose identifier is exactly this value. -/
def ofIdValue (catalog : Catalog) (value : Value) : Except Problem Technique :=
  orProblem (value.asText?.bind catalog.ofId?) (.notMember .technique value)

/-- The technique whose symbol is exactly this value. -/
def ofSymbolValue (catalog : Catalog) (value : Value) : Except Problem Technique := do
  value.lookable.mapError .misuse
  orProblem (value.asText?.bind catalog.ofSymbol?) (.unknownKey value)

end Catalog

/-- What a constant stands for. -/
def Constants.find (catalog : Catalog) (name : Text) : Except Problem Meaning :=
  orProblem (meaning? catalog name) (.unknownConstant name)

end ThreatMatrix
