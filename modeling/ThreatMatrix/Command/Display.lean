import ThreatMatrix.Json.Document

/-!
# Displays

What a command hands to the console: lines of text, documents, tables and framed texts. Marks in
brackets inside a line name its style and are part of the line. What a user gave is handed over
inside the marks as it is, without a change to brackets of its own, and the console is taken to
accept it. What it makes of the marks is not part of a display.
-/

namespace ThreatMatrix

/-- One thing to be shown. -/
inductive Display where
  | line (text : Text)
  | document (text : Text)
  | table (title : Option Text) (columns : List Text) (rows : List (List Text))
  | framed (text title : Text)
  deriving DecidableEq

/-- How a command ends: its exit code and what it has shown. -/
structure Ending where
  code : Nat
  displays : List Display
  deriving DecidableEq

namespace Display

/-- The marks that name styles. -/
def styleMarks : List Text :=
  ["[red]", "[/red]", "[yellow]", "[/yellow]", "[green]", "[/green]"]

/-- A line without its style marks, where every mark takes the place of text behind it. -/
def unstyled : Nat → Text → Text
  | _, [] => []
  | skip + 1, _ :: rest => unstyled skip rest
  | 0, c :: rest =>
    match styleMarks.find? (·.isPrefixOf (c :: rest)) with
    | some mark => unstyled (mark.length - 1) rest
    | none => c :: unstyled 0 rest

/-- The lines of a display on a console that knows neither styles nor frames. -/
def plainLines : Display → List Text
  | line content => [unstyled 0 content]
  | document content => [content]
  | table title columns rows =>
    title.toList ++ (columns :: rows).map fun cells => Text.join "\t" cells
  | framed content title => title :: content.pieces '\n'

end Display

namespace Ending

/-- The command did what it was asked to do. -/
def success (displays : List Display) : Ending := ⟨0, displays⟩

/-- The command could not do all that it was asked to do. -/
def failure (displays : List Display) : Ending := ⟨1, displays⟩

end Ending
end ThreatMatrix
