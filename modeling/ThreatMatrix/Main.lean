import ThreatMatrix.Command.Run

/-!
# The program

Takes what a command line refers to out of the file system and the environment, carries the command
out on values, and puts back what has changed.
-/

namespace ThreatMatrix

/-- The path of a place as the operating system knows it. -/
def Location.onDisk (location : Location) : String :=
  location.path.text.toTerminal

/-- Adds what some names below a place lead to to a tree. The walk ends at the first name that is no
directory. -/
def Tree.takeNames (tree : Tree) (location : Location) : List Text → IO Tree
  | [] => return tree
  | name :: more => do
    if name = Path.above then tree.takeNames location.above more
    else
      let here := location.child name
      try
        let content ← IO.FS.readBinFile here.onDisk
        return tree.put here (.file content.toList)
      catch
        | .noFileOrDirectory .. => return tree
        | _ => (tree.put here .directory).takeNames here more

/-- Adds what a path leads to to a tree. -/
def Tree.takePath (tree : Tree) (path : Path) : IO Tree :=
  tree.takeNames (tree.origin path) path.parts

/-- The paths that a command reads or writes. -/
def pathsOf : Invocation → List Path
  | .run (.generate bundle output _) => [.ofText bundle, .ofText output]
  | _ => []

/-- The variables that some octets list, each behind the zero that ends the one before. Those that
are no UTF-8 are passed over. -/
def Environment.ofOctets (octets : List Byte) : Environment :=
  (octets.splitOn 0).filterMap fun entry =>
    match Utf8.decode entry with
    | .ok text => if text.contains '=' then some (Text.partition '=' text) else none
    | .error _ => none

/-- All variables that the program was started with; settings know theirs in any letter case. -/
def takeEnvironment : IO Environment := do
  return .ofOctets (← IO.FS.readBinFile "/proc/self/environ").toList

/-- A tree without files around the working directory. -/
def takeHome : IO Tree := do
  let home := Path.ofText (.ofString (← IO.currentDir).toString)
  return { Tree.empty with home := ⟨home.parts.reverse⟩ }

/-- The room for containers within each other that the program gives the reader of documents. -/
def nestingRoom : Nat := 990

/-- Makes the directories and writes the files that a tree has and another had not. -/
def putBack (before after : Tree) : IO Unit :=
  for (location, node) in after.nodes do
    if before.node? location ≠ some node then
      match node with
      | .directory => IO.FS.createDirAll location.onDisk
      | .file content => IO.FS.writeBinFile location.onDisk content.toByteArray

/-- Shows a line on the error console. -/
def complain (line : Text) : IO Unit := do
  (← IO.getStderr).putStrLn line.toTerminal

/-- Carries out an invocation in a session. -/
def carryOut (session : Session) (invocation : Invocation) : IO UInt32 := do
  let (files, outcome) := invocation.carryOut nestingRoom session
  putBack session.files files
  match outcome.result with
  | .error problem =>
    complain problem.message
    return 1
  | .ok ending =>
    for display in ending.displays do
      for line in display.plainLines do
        IO.println line.toTerminal
    return ending.code.toUInt32

end ThreatMatrix

open ThreatMatrix

/-- Runs the program on its arguments. -/
def main (arguments : List String) : IO UInt32 := do
  let environment ← takeEnvironment
  match Invocation.ofArguments (arguments.map Text.ofString) with
  | .error fault =>
    complain fault.message
    return 2
  | .ok invocation =>
    let named := match Settings.read environment with
      | .ok settings => settings.techniquesFile.toList
      | .error _ => []
    let files ← (named ++ pathsOf invocation).foldlM Tree.takePath (← takeHome)
    match (Session.start nestingRoom files environment).result with
    | .error problem =>
      complain problem.message
      return 1
    | .ok session => carryOut session invocation
