import ThreatMatrix.Catalog.Basic
import ThreatMatrix.Command.Display
import ThreatMatrix.Json.Document
import ThreatMatrix.Tactic

/-!
# Looking identifiers up

Every argument is resolved as a tactic or else as a technique. The resolved ones are shown as a
table and the others as lines, or both as one document.
-/

namespace ThreatMatrix

/-- What is shown of a resolved identifier. -/
structure Entry where
  input : Text
  id : Text
  kind : Text
  name : Text
  /-- The matrix of a tactic, or the technique of a sub-technique. -/
  context : Text
  deriving DecidableEq

namespace Entry

/-- The entry of a tactic. -/
def ofTactic (input : Text) (tactic : Tactic) : Entry :=
  ⟨input, tactic.id, "tactic", tactic.label, tactic.matrix.name⟩

/-- The entry of a technique. -/
def ofTechnique (catalog : Catalog) (input : Text) (technique : Technique) : Entry :=
  { input
    id := technique.id.text
    kind := if technique.id.isSub then "sub-technique" else "technique"
    name := technique.name
    context := match catalog.parent? technique with
      | some parent => parent.id.text
      | none => [] }

/-- The entry of an identifier, read as a tactic or else as a technique. -/
def ofText? (catalog : Catalog) (input : Text) : Option Entry :=
  match Tactic.parse? input with
  | some tactic => some (ofTactic input tactic)
  | none => (catalog.parse? input).map (ofTechnique catalog input)

/-- The cells of an entry. -/
def cells (entry : Entry) : List Text :=
  [entry.input, entry.id, entry.kind, entry.name, entry.context]

/-- The document of an entry. -/
def toJson (entry : Entry) : Json :=
  .object [("input", .text entry.input), ("id", .text entry.id), ("kind", .text entry.kind),
    ("name", .text entry.name), ("context", .text entry.context)]

end Entry

namespace Command

/-- The entries of the identifiers that are resolved, in order. -/
def resolved (catalog : Catalog) (identifiers : List Text) : List Entry :=
  identifiers.filterMap (Entry.ofText? catalog)

/-- The identifiers that are not resolved, in order. -/
def unresolved (catalog : Catalog) (identifiers : List Text) : List Text :=
  identifiers.filter fun identifier => (Entry.ofText? catalog identifier).isNone

/-- The document of a lookup. -/
def lookupJson (entries : List Entry) (invalid : List Text) : Json :=
  .object [("results", .array (entries.map Entry.toJson)), ("invalid", .array (invalid.map .text))]

/-- The columns of a lookup. -/
def lookupColumns : List Text :=
  ["Input", "ID", "Kind", "Name", "Domain / Parent"]

/-- What is shown of a lookup, as a document or as a table and lines. -/
def lookupDisplays (asJson : Bool) (entries : List Entry) (invalid : List Text) : List Display :=
  if asJson then [.document ((lookupJson entries invalid).print .spaced)]
  else
    (if entries.isEmpty then [] else [.table none lookupColumns (entries.map Entry.cells)]) ++
      invalid.map fun identifier => .line ("[red]Invalid identifier:[/red] " ++ identifier)

/-- Resolves identifiers; one that is not resolved makes it a failure. -/
def runLookup (catalog : Catalog) (identifiers : List Text) (asJson : Bool) : Ending :=
  let invalid := unresolved catalog identifiers
  let displays := lookupDisplays asJson (resolved catalog identifiers) invalid
  if invalid.isEmpty then .success displays else .failure displays

end Command
end ThreatMatrix
