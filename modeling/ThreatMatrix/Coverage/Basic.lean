import ThreatMatrix.Catalog.Basic
import ThreatMatrix.Json.Document
import ThreatMatrix.Tactic

/-!
# Coverage

The tactics and techniques that a rule covers, in order. Coverages are merged as ordered unions, and
they are written as documents that hold canonical identifiers only.
-/

namespace ThreatMatrix

/-- What a rule covers. -/
structure Coverage where
  tactics : List Tactic
  techniques : List Technique
  deriving DecidableEq

namespace Coverage

/-- Nothing is covered. -/
def empty : Coverage := ⟨[], []⟩

/-- Whether nothing is covered. -/
def isEmpty (coverage : Coverage) : Bool :=
  coverage.tactics.isEmpty && coverage.techniques.isEmpty

/-- Members without those that occurred before, in the order of their first occurrence. -/
def ofMembers (tactics : List Tactic) (techniques : List Technique) : Coverage :=
  ⟨tactics.eraseDups, techniques.eraseDups⟩

/-- What either of two rules covers, in the order of first occurrence. -/
def merge (left right : Coverage) : Coverage :=
  ofMembers (left.tactics ++ right.tactics) (left.techniques ++ right.techniques)

/-- The document that a coverage is written as. -/
def toJson (coverage : Coverage) : Json :=
  .object [
    ("tactics", .array (coverage.tactics.map fun tactic => .text tactic.id)),
    ("techniques", .array (coverage.techniques.map fun technique => .text technique.id.text))]

/-- The text that a coverage is written as. -/
def jsonText (coverage : Coverage) : Text :=
  coverage.toJson.print .compact

end Coverage
end ThreatMatrix
