import ThreatMatrix.Command.Display
import ThreatMatrix.Coverage.Validation

/-!
# Listing the catalog

Tactics are listed by matrix. Techniques are listed without their sub-techniques, with them, or as
the sub-techniques of one technique.
-/

namespace ThreatMatrix.Command

/-- The line that tells of a problem. -/
def errorLine (message : Text) : Display :=
  .line ("[red]Error:[/red] " ++ message)

/-- The columns of a list of tactics. -/
def tacticColumns : List Text :=
  ["ID", "Name", "Shortname", "Domain"]

/-- The row of a tactic. -/
def tacticRow (tactic : Tactic) : List Text :=
  [tactic.id, tactic.label, tactic.shortname, tactic.matrix.name]

/-- Lists the tactics of one matrix or of both. -/
def runListTactics (matrix : Option Matrix) : Ending :=
  let matrices := match matrix with
    | some one => [one]
    | none => Matrix.all
  .success [.table (some "ATT&CK Tactics") tacticColumns
    ((matrices.flatMap Tactic.ofMatrix).map tacticRow)]

/-- The columns of a list of techniques. -/
def techniqueColumns : List Text :=
  ["ID", "Name", "Sub-techniques"]

/-- The row of a technique; the number of its sub-techniques is left out where there are none. -/
def techniqueRow (catalog : Catalog) (technique : Technique) : List Text :=
  let count := (catalog.children technique).length
  [technique.id.text, catalog.fullName technique, if count = 0 then [] else Text.decimal count]

/-- A number behind a title. -/
def countedTitle (title : Text) (count : Nat) : Text :=
  title ++ " (" ++ Text.decimal count ++ ")"

/-- Lists techniques under a title. -/
def listed (catalog : Catalog) (title : Text) (techniques : List Technique) : Ending :=
  if techniques.isEmpty then .success [.line "[yellow]No sub-techniques found[/yellow]"]
  else .success [.table (some (countedTitle title techniques.length)) techniqueColumns
    (techniques.map (techniqueRow catalog))]

/-- Lists the sub-techniques of the technique that an identifier names. -/
def listChildren (catalog : Catalog) (identifier : Text) : Ending :=
  match catalog.ofValue (.text identifier) with
  | .error fault => .failure [errorLine fault.message]
  | .ok technique =>
    if technique.id.isSub then
      .failure [errorLine (technique.id.text ++ " is already a sub-technique")]
    else
      listed catalog ("Sub-techniques of " ++ technique.id.text ++ " " ++ technique.name)
        (catalog.children technique)

/-- Lists techniques. An empty identifier counts as none. -/
def runListTechniques (catalog : Catalog) (parent : Option Text) (withSubs : Bool) : Ending :=
  match parent with
  | some (c :: more) => listChildren catalog (c :: more)
  | _ => listed catalog "ATT&CK Techniques"
    (catalog.techniques.filter fun technique => withSubs || !technique.id.isSub)

end ThreatMatrix.Command
