import ThreatMatrix.Text.Basic

/-!
# Paths

A path is a sequence of names, relative to the working directory or to the root. Empty names and
single points say nothing and are dropped; the name `..` is kept, because what it leads to depends
on the files.
-/

namespace ThreatMatrix

/-- A path. The number of slashes in front is zero for a relative path, one for an absolute path,
and two where exactly two slashes were given. -/
structure Path where
  slashes : Nat
  parts : List Text
  deriving DecidableEq

namespace Path

/-- The name that leads to the directory above. -/
def above : Text := ".."

/-- The path that a text names. -/
def ofText (text : Text) : Path :=
  let slashes := (text.takeWhile (· == ('/' : CodePoint))).length
  { slashes := if slashes ≤ 2 then slashes else 1
    parts := (text.pieces '/').filter fun part => part ≠ [] ∧ part ≠ ("." : Text) }

/-- The text of a path; the working directory is a point. -/
def text (path : Path) : Text :=
  if path.slashes = 0 ∧ path.parts = [] then "."
  else List.replicate path.slashes ('/' : CodePoint) ++ Text.join "/" path.parts

/-- The path without its last name. -/
def parent (path : Path) : Path :=
  { path with parts := path.parts.dropLast }

end Path
end ThreatMatrix
