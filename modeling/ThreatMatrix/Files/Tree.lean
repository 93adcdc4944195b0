import ThreatMatrix.Files.Path
import ThreatMatrix.Keyed
import ThreatMatrix.Text.Quoted
import ThreatMatrix.Text.Utf8

/-!
# File trees

The files and directories that the library may read and write, as a value. Every operation either
succeeds or says which fault a file system reports in its place; the order in which faults are
noticed is part of that. A tree knows the names that lead from the root to its working directory, so
that a relative and an absolute spelling of one file lead to one place.

Links and permissions are no part of a tree: every place has one way down from the root, every file
may be read and written, and a name may be added to every directory.
-/

namespace ThreatMatrix

/-- What a name stands for in a directory. -/
inductive Node where
  | directory
  | file (content : List Byte)
  deriving DecidableEq

/-- A place in a tree: the names on the way down from the root, last first. -/
structure Location where
  names : List Text
  deriving DecidableEq

namespace Location

/-- The place at which all ways begin. -/
def root : Location := ⟨[]⟩

/-- The place of a name in a directory. -/
def child (directory : Location) (name : Text) : Location :=
  ⟨name :: directory.names⟩

/-- The directory above; the root lies in itself. -/
def above (location : Location) : Location :=
  ⟨location.names.tail⟩

/-- The absolute path that leads to a place. -/
def path (location : Location) : Path :=
  ⟨1, location.names.reverse⟩

end Location

/-- Files and directories by their places, and the place of the working directory. It and the places
on the way to it are always directories. There are no links, so that no two places are one file, and
no permissions. -/
structure Tree where
  home : Location
  nodes : List (Location × Node)
  deriving DecidableEq

/-- A fault that a file system reports. -/
inductive FileReason where
  | absent
  | existing
  | notDirectory
  | isDirectory
  | nameTooLong
  deriving DecidableEq, Repr

/-- The number of a fault. -/
def FileReason.number : FileReason → Nat
  | .absent => 2
  | .existing => 17
  | .notDirectory => 20
  | .isDirectory => 21
  | .nameTooLong => 36

/-- The description of a fault. -/
def FileReason.message : FileReason → Text
  | .absent => "No such file or directory"
  | .existing => "File exists"
  | .notDirectory => "Not a directory"
  | .isDirectory => "Is a directory"
  | .nameTooLong => "File name too long"

/-- Why a file operation fails: the file system reports a fault for a path, or the text of a path is
none that can be given to a file system. -/
inductive FileFault where
  | reported (reason : FileReason) (path : Text)
  | zeroInPath
  | unpairedInPath (run : Utf8.Unpaired)
  deriving DecidableEq

/-- The text of a fault of a file operation. -/
def FileFault.message : FileFault → Text
  | .reported reason path =>
    "[Errno " ++ Text.decimal reason.number ++ "] " ++ reason.message ++ ": " ++ path.quoted
  | .zeroInPath => "embedded null byte"
  | .unpairedInPath run => run.message

/-- The first run of halves in a path that stand for no octet of a name. -/
def unpairedInPath? (text : Text) : Option Utf8.Unpaired :=
  let before := text.takeWhile fun c => !c.isSurrogate || (0xDC80 ≤ c.val && c.val ≤ 0xDCFF)
  let run := (text.drop before.length).takeWhile (·.isSurrogate)
  run.head?.map fun half => ⟨before.length, before.length + run.length - 1, half⟩

namespace Tree

/-- A tree without files, whose working directory is the root. -/
def empty : Tree := ⟨.root, []⟩

/-- Where a path begins: at the working directory, or at the root. -/
def origin (tree : Tree) (path : Path) : Location :=
  if path.slashes = 0 then tree.home else .root

/-- What stands at a place. -/
def node? (tree : Tree) (location : Location) : Option Node :=
  if location.names <:+ tree.home.names then some .directory else tree.nodes.lookup location

/-- The tree with something else at one place. -/
def put (tree : Tree) (location : Location) (node : Node) : Tree :=
  { tree with nodes := Keyed.put Prod.fst tree.nodes (location, node) }

/-- The greatest number of octets of a name. -/
def longestName : Nat := 255

/-- The number of octets from which on a path is too long. -/
def pathLimit : Nat := 4096

/-- What stands at a place; a place without a file or directory is a fault. -/
def nodeAt (tree : Tree) (location : Location) : Except FileReason Node :=
  match tree.node? location with
  | some node => .ok node
  | none => .error .absent

/-- One step of a walk along a name. -/
def step (tree : Tree) (location : Location) (name : Text) : Except FileReason Location := do
  match ← tree.nodeAt location with
  | .file _ => .error .notDirectory
  | .directory =>
    if name = Path.above then .ok location.above
    else if longestName < Utf8.width name then .error .nameTooLong
    else .ok (location.child name)

/-- The place that a path leads to. Every name but the last must exist. -/
def walk (tree : Tree) (path : Path) : Except FileReason Location :=
  if pathLimit ≤ Utf8.width path.text then .error .nameTooLong
  else path.parts.foldlM tree.step (tree.origin path)

/-- A fault reported for a path, where there is one; paths that cannot be named come first. -/
def report {α : Type} (path : Path) (result : Except FileReason α) : Except FileFault α :=
  match unpairedInPath? path.text with
  | some run => .error (.unpairedInPath run)
  | none =>
    if path.text.contains '\x00' then .error .zeroInPath
    else result.mapError fun reason => .reported reason path.text

/-- Whether a path leads to a directory. -/
def isDirectory (tree : Tree) (path : Path) : Bool :=
  match (do tree.nodeAt (← tree.walk path)) with
  | .ok .directory => true
  | _ => false

/-- The content of a file. -/
def read (tree : Tree) (path : Path) : Except FileFault (List Byte) :=
  report path do
    match ← tree.nodeAt (← tree.walk path) with
    | .file content => .ok content
    | .directory => .error .isDirectory

/-- The tree after a file was written; its directory must exist. -/
def write (tree : Tree) (path : Path) (content : List Byte) : Except FileFault Tree :=
  report path do
    let location ← tree.walk path
    if tree.node? location = some .directory then .error .isDirectory
    else .ok (tree.put location (.file content))

/-- The tree after one directory was made in a directory that exists. -/
def makeDirectory (tree : Tree) (path : Path) : Except FileFault Tree :=
  report path do
    let location ← tree.walk path
    match tree.node? location with
    | some _ => .error .existing
    | none => .ok (tree.put location .directory)

/-- What becomes of a failure to make a directory: none if the directory is there. -/
def settle (tree : Tree) (path : Path) (fault : FileFault) : Tree × Except FileFault Unit :=
  match fault with
  | .reported _ _ => (tree, if tree.isDirectory path then .ok () else .error fault)
  | _ => (tree, .error fault)

/-- Makes a directory where there is none, together with those above it. The names of the path are
given last first. Directories that were made before a fault stay. -/
def ensureNames (slashes : Nat) (tree : Tree) : List Text → Tree × Except FileFault Unit
  | [] =>
    let path : Path := ⟨slashes, []⟩
    match tree.makeDirectory path with
    | .ok made => (made, .ok ())
    | .error fault => tree.settle path fault
  | name :: names =>
    let path : Path := ⟨slashes, (name :: names).reverse⟩
    match tree.makeDirectory path with
    | .ok made => (made, .ok ())
    | .error fault =>
      if fault = .reported .absent path.text then
        match ensureNames slashes tree names with
        | (made, .error above) => (made, .error above)
        | (made, .ok ()) =>
          match made.makeDirectory path with
          | .ok finished => (finished, .ok ())
          | .error again =>
            if again = .reported .absent path.text then (made, .error again)
            else made.settle path again
      else tree.settle path fault

/-- Makes a directory where there is none, together with those above it. -/
def ensureDirectory (tree : Tree) (path : Path) : Tree × Except FileFault Unit :=
  ensureNames path.slashes tree path.parts.reverse

end Tree
end ThreatMatrix
