import ThreatMatrix.Text.Utf8
import ThreatMatrix.Value.Basic

/-!
# Access to values

Taking an offered value apart as if it had the expected kind. Where it has another kind the access
is a misuse, which says what was expected of the value and of which kind it is.
-/

namespace ThreatMatrix

/-- Why a value cannot be used as it was. -/
inductive Misuse where
  /-- Items were asked of a value without items. -/
  | notIterable (kind : Text)
  /-- An operation was asked of a value that lacks it. -/
  | lacking (kind operation : Text)
  /-- A changeable value was to be looked up. -/
  | unhashable (kind : Text)
  /-- An identifier was expected, and the value is neither text nor octets. -/
  | unmatchable (kind : Text)
  /-- An identifier was expected, and the value is octets. -/
  | octetsForText
  /-- Octets were to be parted at a text. -/
  | textForOctets
  /-- A text was expected among the items of a list. -/
  | itemNotText (index : Nat) (kind : Text)
  deriving DecidableEq

/-- The text of a misuse. -/
def Misuse.message : Misuse → Text
  | .notIterable kind => "'" ++ kind ++ "' object is not iterable"
  | .lacking kind operation => "'" ++ kind ++ "' object has no attribute '" ++ operation ++ "'"
  | .unhashable kind => "unhashable type: '" ++ kind ++ "'"
  | .unmatchable kind => "expected string or bytes-like object, got '" ++ kind ++ "'"
  | .octetsForText => "cannot use a string pattern on a bytes-like object"
  | .textForOctets => "a bytes-like object is required, not 'str'"
  | .itemNotText index kind =>
    "sequence item " ++ Text.decimal index ++ ": expected str instance, " ++ kind ++ " found"

namespace Value

/-- The name of the kind of a value. -/
def kind : Value → Text
  | .null => "NoneType"
  | .bool _ => "bool"
  | .int _ => "int"
  | .float _ => "float"
  | .text _ => "str"
  | .bytes _ => "bytes"
  | .list _ => "list"
  | .tuple _ => "tuple"
  | .record _ => "dict"
  | .member (.tactic _) => "Tactic"
  | .member (.technique _) => "Technique"
  | .member (.matrix _) => "Domain"
  | .foreign name _ => name

/-- Empty values, zeros, false and null count as absent. -/
def isPresent : Value → Bool
  | .null => false
  | .bool value => value
  | .int value => value != 0
  | .float value => !value.isZero
  | .text value => !value.isEmpty
  | .bytes value => !value.isEmpty
  | .list items => !items.isEmpty
  | .tuple items => !items.isEmpty
  | .record fields => !fields.isEmpty
  | .member _ => true
  | .foreign _ _ => true

/-- The value of a field of a record, if the record has the field. -/
def field? (value : Value) (name : Text) : Except Misuse (Option Value) :=
  match value with
  | .record fields => .ok (fields.lookup name)
  | other => .error (.lacking other.kind "get")

/-- The value of a field of a record; an absent field is null. -/
def field (value : Value) (name : Text) : Except Misuse Value := do
  return (← value.field? name).getD .null

/-- The items of a value: those of a sequence, the names of a record, the code points of a text, the
octets as numbers. -/
def iterate : Value → Except Misuse (List Value)
  | .list items => .ok items
  | .tuple items => .ok items
  | .record fields => .ok (fields.map fun field => .text field.1)
  | .text value => .ok (value.map fun c => .text [c])
  | .member value => .ok (value.text.map fun c => .text [c])
  | .bytes value => .ok (value.map fun b => .int b.toNat)
  | other => .error (.notIterable other.kind)

/-- A text or octets without white space at either end. -/
def strip : Value → Except Misuse Value
  | .bytes value => .ok (.bytes (trimBoth isBlankByte value))
  | value =>
    match value.asText? with
    | some content => .ok (.text content.strip)
    | none => .error (.lacking value.kind "strip")

mutual

/-- The kind of the first changeable value on the way into a value that is to be looked up. -/
def changeable? : Value → Option Text
  | .list _ => some "list"
  | .record _ => some "dict"
  | .tuple items => changeableItem? items
  | _ => none

/-- The kind of the first changeable item. -/
def changeableItem? : List Value → Option Text
  | [] => none
  | item :: more => changeable? item <|> changeableItem? more

end

/-- A value may be looked up if nothing in it can change. -/
def lookable (value : Value) : Except Misuse Unit :=
  match value.changeable? with
  | some kind => .error (.unhashable kind)
  | none => .ok ()

/-- A value that counts as a text may be looked up. -/
theorem lookable_of_asText? {value : Value} {text : Text} (isText : value.asText? = some text) :
    value.lookable = .ok () := by
  cases value with
  | text _ => rfl
  | member _ => rfl
  | _ => cases isText

end Value
end ThreatMatrix
