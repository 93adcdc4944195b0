import ThreatMatrix.Bundle
import ThreatMatrix.Command.Invocation
import ThreatMatrix.Command.Listing
import ThreatMatrix.Command.Lookup
import ThreatMatrix.Coverage.Tags
import ThreatMatrix.Session

/-!
# Running commands

Carries out what a command line asks for. Only the command that builds a table changes files, and it
does so only after the table was built.
-/

namespace ThreatMatrix
namespace Command

/-- Shows what tags cover. -/
def runTags (catalog : Catalog) (tags : List Text) : Outcome Ending := do
  let coverage ← Coverage.ofTags catalog tags
  if coverage.isEmpty then
    return .success [.line "[yellow]No ATT&CK tactics or techniques found in tags[/yellow]"]
  else return .success [.document coverage.jsonText]

/-- The table of the bundle in a file. -/
def buildFrom (room : Nat) (files : Tree) (bundle : Path) (domain : Text) : Outcome Table := do
  let read ← .ofExcept (Bundle.read room files bundle)
  Bundle.build read (.text domain)

/-- The line that tells what was written. -/
def writtenLine (table : Table) (output : Path) : Display :=
  let total := table.techniques.length
  .line ("[green]Wrote[/green] " ++ Text.decimal total ++ " entries (" ++
    Text.decimal (total - table.subCount) ++ " techniques, " ++ Text.decimal table.subCount ++
    " sub-techniques) to " ++ output.text)

/-- Whether a problem is told as a failure of the command. Other problems end the program. -/
def isToldAsError : Problem → Bool
  | .tableUnreadable _ _ => true
  | .tableIncomplete _ _ => true
  | .bundleUnreadable _ _ => true
  | .notBundle _ => true
  | .bundleInconsistent _ => true
  | _ => false

/-- Builds a table from a bundle and writes it. -/
def runGenerate (room : Nat) (files : Tree) (bundle output : Path) (domain : Text) :
    Tree × Outcome Ending :=
  let built := buildFrom room files bundle domain
  match built.result with
  | .error problem =>
    if isToldAsError problem then
      (files, ⟨built.notes, .ok (.failure [errorLine problem.message])⟩)
    else (files, ⟨built.notes, .error problem⟩)
  | .ok table =>
    let (written, writing) := table.write files output
    (written, ⟨built.notes ++ writing.notes,
      writing.result.map fun _ => .success [writtenLine table output]⟩)

/-- The faults of texts that are no paths at all. -/
def checkPath (text : Text) : Except Problem Unit :=
  match unpairedInPath? text with
  | some run => .error (.file (.unpairedInPath run))
  | none => if text.contains '\x00' then .error (.file .zeroInPath) else .ok ()

/-- Carries out a command. A document that it reads has room for so many containers within each
other. -/
def run (room : Nat) (session : Session) : Command → Tree × Outcome Ending
  | .lookup identifiers asJson =>
    (session.files, pure (runLookup session.catalog identifiers asJson))
  | .tags given => (session.files, runTags session.catalog given)
  | .generate bundle output domain =>
    match checkPath output, checkPath bundle with
    | .error problem, _ => (session.files, .fail problem)
    | .ok (), .error problem => (session.files, .fail problem)
    | .ok (), .ok () =>
      runGenerate room session.files (.ofText bundle) (.ofText output) domain
  | .listTactics matrix => (session.files, pure (runListTactics matrix))
  | .listTechniques parent withSubs =>
    (session.files, pure (runListTechniques session.catalog parent withSubs))

end Command

namespace About

/-- The name of the program. -/
def program : Text := "attack-taxonomy"

/-- The version of the program. -/
def version : Text := "0.1.0"

end About

namespace Invocation

/-- What is shown when the version is asked for. -/
def versionDisplay (catalog : Catalog) : Display :=
  let published : Text := match catalog.version with
    | none => "unknown"
    | some [] => "unknown"
    | some number => number
  .framed (About.program ++ " v" ++ About.version ++ "\nATT&CK technique table v" ++ published)
    "Version"

/-- Carries out what a command line asks for, and gives the files as they are then. -/
def carryOut (room : Nat) (session : Session) : Invocation → Tree × Outcome Ending
  | .version => (session.files, pure (.success [versionDisplay session.catalog]))
  | .help => (session.files, pure (.success []))
  | .run command => command.run room session

end Invocation
end ThreatMatrix
