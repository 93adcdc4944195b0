import ThreatMatrix.Json.Document
import ThreatMatrix.Keyed
import ThreatMatrix.Tactic
import ThreatMatrix.Technique.Id

/-!
# Offered values

Identifiers, tables and bundles are offered from outside, as data of any kind. A value is whatever
may be offered where the library expects something particular: the data of a document, and beyond
it octets, fixed sequences, members of the library's own vocabularies, and objects that the library
knows nothing of. A member counts as the text of its identifier. An object of another kind is known
by its kind and by the text that shows it: it has neither items nor fields, it counts as present,
and it may be looked up.
-/

namespace ThreatMatrix

/-- A member of one of the vocabularies. -/
inductive Member where
  | tactic (tactic : Tactic)
  | technique (technique : Technique)
  | matrix (matrix : Matrix)
  deriving DecidableEq

/-- The identifier that a member counts as. -/
def Member.text : Member → Text
  | .tactic named => named.id
  | .technique named => named.id.text
  | .matrix named => named.name

/-- An offered value. The names of a record are distinct. -/
inductive Value where
  | null
  | bool (value : Bool)
  | int (value : Int)
  | float (value : Binary64)
  | text (value : Text)
  | bytes (value : List Byte)
  | list (items : List Value)
  | tuple (items : List Value)
  | record (fields : List (Text × Value))
  | member (member : Member)
  | foreign (kind shown : Text)
  deriving Inhabited

namespace Value

/-- Fields with one more: a name that is there already keeps its place and takes the new value. -/
def putField {α : Type} (fields : List (Text × α)) (name : Text) (value : α) : List (Text × α) :=
  Keyed.put Prod.fst fields (name, value)

/-- Fields in the order of their first occurrence, each with its last value. -/
def mergeFields {α : Type} (fields : List (Text × α)) : List (Text × α) :=
  fields.foldl (fun merged field => putField merged field.1 field.2) []

mutual

/-- The value that a document stands for. -/
def ofJson : Json → Value
  | .null => .null
  | .bool value => .bool value
  | .int value => .int value
  | .float value => .float value
  | .text value => .text value
  | .array items => .list (ofItems items)
  | .object fields => .record (mergeFields (ofFields fields))

/-- The values of the items of an array. -/
def ofItems : List Json → List Value
  | [] => []
  | item :: more => ofJson item :: ofItems more

/-- The values of the fields of an object. -/
def ofFields : List (Text × Json) → List (Text × Value)
  | [] => []
  | (name, item) :: more => (name, ofJson item) :: ofFields more

end

/-- The text that a value is or counts as. -/
def asText? : Value → Option Text
  | text value => some value
  | member value => some value.text
  | _ => none

/-- The matrix that a value names. -/
def asMatrix? (value : Value) : Option Matrix :=
  value.asText?.bind Matrix.ofName?

end Value
end ThreatMatrix
