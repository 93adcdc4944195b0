import ThreatMatrix.Number.Shortest
import ThreatMatrix.Text.Quoted
import ThreatMatrix.Value.Basic

/-!
# Display of values

How a value is shown inside a message: unambiguous, on one line. Members show their symbol and
their identifier.
-/

namespace ThreatMatrix

/-- A member inside a message. -/
def Member.display (shown : Member) : Text :=
  let symbol : Text := match shown with
    | .tactic named => "Tactic." ++ named.id
    | .technique named => "Technique." ++ named.id.symbol
    | .matrix named => "Domain." ++ named.symbol
  "<" ++ symbol ++ ": " ++ shown.text.quoted ++ ">"

namespace Value

mutual

/-- A value inside a message. -/
def display : Value → Text
  | .null => "None"
  | .bool true => "True"
  | .bool false => "False"
  | .int value => Text.integer value
  | .float value => value.text
  | .text value => value.quoted
  | .bytes value => quotedBytes value
  | .list items => "[" ++ Text.join ", " (displayItems items) ++ "]"
  | .tuple [item] => "(" ++ display item ++ ",)"
  | .tuple items => "(" ++ Text.join ", " (displayItems items) ++ ")"
  | .record fields => "\x7b" ++ Text.join ", " (displayFields fields) ++ "\x7d"
  | .member value => value.display
  | .foreign _ shown => shown

/-- The items of a sequence, each inside a message. -/
def displayItems : List Value → List Text
  | [] => []
  | item :: more => display item :: displayItems more

/-- The fields of a record, each inside a message. -/
def displayFields : List (Text × Value) → List Text
  | [] => []
  | (name, item) :: more => (name.quoted ++ ": " ++ display item) :: displayFields more

end

/-- A value as plain text: texts stand for themselves, tactics and techniques for their
identifiers. -/
def plain : Value → Text
  | .text value => value
  | .member (.tactic named) => named.id
  | .member (.technique named) => named.id.text
  | .member (.matrix named) => "Domain." ++ named.symbol
  | other => other.display

end Value
end ThreatMatrix
