import ThreatMatrix.Json.Document
import ThreatMatrix.Log
import ThreatMatrix.Table.Packaged
import ThreatMatrix.Table.Validation

/-!
# Tables in files

A file is read as UTF-8 text and as a JSON document. Line ends of all kinds count as line feeds,
also where a place in the document is reported. How deep a document may nest depends on the room
that is left where it is read.

Loading gives a table in the order of its numbers. Faults of the file system, of the document and of
the table are told as faults of loading; faults of the text and limits of the reader pass through as
they are. So does a numeral that denotes no number: it is met when the rows are put in order, after
the table was noted as loaded.
-/

namespace ThreatMatrix

namespace Tree

/-- The text of a file. -/
def readText (tree : Tree) (path : Path) : Except Problem Text := do
  let octets ← (tree.read path).mapError .file
  let text ← (Utf8.decode octets).mapError .notText
  return Utf8.unifyLines text

/-- The document in a file, where there is room for so many containers within each other. -/
def readDocument (tree : Tree) (room : Nat) (path : Path) : Except Problem Json := do
  let text ← tree.readText path
  (Json.read room text).mapError .notDocument

/-- The tree after a text was written to a file. A text that has no octets leaves the file empty. -/
def writeText (tree : Tree) (path : Path) (text : Text) : Tree × Except Problem Unit :=
  match tree.write path [] with
  | .error fault => (tree, .error (.file fault))
  | .ok emptied =>
    match Utf8.encode text with
    | .error run => (emptied, .error (.notWritable run))
    | .ok octets =>
      match tree.write path octets with
      | .error fault => (emptied, .error (.file fault))
      | .ok written => (written, .ok ())

end Tree

/-- The document that a technique is written as. -/
def Technique.toJson (technique : Technique) : Json :=
  .object [("id", .text technique.id.text), ("name", .text technique.name)]

namespace Table

/-- The name under which messages speak of the packaged table. -/
def packagedName : Text := "data/enterprise-attack.json"

/-- The table in a file, in the order of the file. -/
def readFile (room : Nat) (tree : Tree) (path : Path) : Except Problem Table := do
  let document ← tree.readDocument room path
  (ofValue (.ofJson document)).mapError .invalid

/-- The required items that are not among the identifiers of a table. -/
def lacking (table : Table) : List Value → Except Misuse (List Value)
  | [] => .ok []
  | item :: more => do
    item.lookable
    let isPresent := match item.asText? with
      | some id => table.ids.contains id
      | none => false
    let rest ← lacking table more
    return if isPresent then rest else item :: rest

/-- The texts of items, counted from an index on. -/
def itemTexts (index : Nat) : List Value → Except Misuse (List Text)
  | [] => .ok []
  | item :: more =>
    match item.asText? with
    | none => .error (.itemNotText index item.kind)
    | some text => return text :: (← itemTexts (index + 1) more)

/-- Refuses a table that lacks a required identifier and names all that it lacks, in the order in
which they are required. -/
def checkRequired (source : Text) (table : Table) (required : Value) : Except Problem Unit := do
  let missing ← (required.iterate >>= table.lacking).mapError .misuse
  if missing.isEmpty then return ()
  else .error (.tableIncomplete source (← (itemTexts 0 missing).mapError .misuse))

/-- The packaged table. -/
def loadPackaged (required : Value) : Outcome Table :=
  .ofExcept do
    checkRequired packagedName packaged required
    packaged.sort.mapError .notNumeral

/-- The table in a file, in the order of its numbers. -/
def load (room : Nat) (tree : Tree) (path : Path) (required : Value) : Outcome Table := do
  let table ← .ofExcept ((readFile room tree path).mapError fun problem =>
    if problem.isLoadFailure then .tableUnreadable path.text problem else problem)
  .ofExcept (checkRequired path.text table required)
  .note (.loaded path.text table.domain table.version table.techniques.length)
  .ofExcept (table.sort.mapError .notNumeral)

/-- The table in a file, or the packaged table where no file is named. -/
def load? (room : Nat) (tree : Tree) (path : Option Path) (required : Value) : Outcome Table :=
  match path with
  | none => loadPackaged required
  | some path => load room tree path required

/-- The document that a table is written as. -/
def toJson (table : Table) : Json :=
  .object [("domain", .text table.domain), ("attack_version", .ofText? table.version),
    ("techniques", .array (table.techniques.map Technique.toJson))]

/-- The text that a table is written as. -/
def fileText (table : Table) : Text :=
  table.toJson.print .lines ++ "\n"

/-- Writes a table to a file and makes the directories above it. -/
def write (tree : Tree) (path : Path) (table : Table) : Tree × Outcome Unit :=
  match tree.ensureDirectory path.parent with
  | (made, .error fault) => (made, .fail (.file fault))
  | (made, .ok ()) =>
    match made.writeText path table.fileText with
    | (written, .error problem) => (written, .fail problem)
    | (written, .ok ()) => (written, .note (.wrote path.text))

end Table
end ThreatMatrix
