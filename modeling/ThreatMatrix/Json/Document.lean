import ThreatMatrix.Number.Shortest

/-!
# JSON documents

A document as it was written: an object keeps its fields in order and keeps a name that occurs
twice. What a repeated name means is settled by those who use the document.

Three layouts are in use for writing. They differ in the text between items, in whether code points
beyond `~` are escaped, and in whether every item has a line of its own.
-/

namespace ThreatMatrix

/-- A JSON document. -/
inductive Json where
  | null
  | bool (value : Bool)
  | int (value : Int)
  | float (value : Binary64)
  | text (value : Text)
  | array (items : List Json)
  | object (fields : List (Text × Json))
  deriving Inhabited

namespace Json

/-- A text or null. -/
def ofText? : Option Text → Json
  | none => .null
  | some value => .text value

/-- The value of the last field of a name. -/
def field? (name : Text) : Json → Option Json
  | .object fields => fields.reverse.lookup name
  | _ => none

/-! ## Writing -/

/-- How a document is laid out. -/
structure Layout where
  /-- Write every code point outside the printable ones below 127 as an escape. -/
  escaped : Bool
  comma : Text
  colon : Text
  /-- The spaces per level of nesting, if every item has a line of its own. -/
  indent : Option Nat

namespace Layout

/-- One line with a space behind every comma and colon, in ASCII only. -/
def spaced : Layout := ⟨true, ", ", ": ", none⟩

/-- One line without spaces. -/
def compact : Layout := ⟨false, ",", ":", none⟩

/-- A line for every item, two spaces deeper per level. -/
def lines : Layout := ⟨false, ",", ": ", some 2⟩

/-- What stands in front of an item at a depth: a line break and its indentation, or nothing. -/
def lineBreak (layout : Layout) (depth : Nat) : Text :=
  match layout.indent with
  | none => []
  | some width => ('\n' : CodePoint) :: List.replicate (width * depth) ' '

end Layout

/-- A hexadecimal escape of four digits. -/
def hexEscape (n : Nat) : Text :=
  "\\u" ++ Text.hex 4 n

/-- A code point outside ASCII as one escape, or as two for a surrogate pair. -/
def wideEscape (c : CodePoint) : Text :=
  if c.val < 0x10000 then hexEscape c.val
  else
    let offset := c.val - 0x10000
    hexEscape (0xD800 + offset / 0x400) ++ hexEscape (0xDC00 + offset % 0x400)

/-- A code point inside a string. -/
def quotePoint (escaped : Bool) (c : CodePoint) : Text :=
  if c = '"' then "\\\""
  else if c = '\\' then "\\\\"
  else if c = '\n' then "\\n"
  else if c = '\r' then "\\r"
  else if c = '\t' then "\\t"
  else if c = '\x08' then "\\b"
  else if c = '\x0C' then "\\f"
  else if c.val < 0x20 then hexEscape c.val
  else if escaped && 0x7F ≤ c.val then wideEscape c
  else [c]

/-- A text as a JSON string. -/
def quote (escaped : Bool) (text : Text) : Text :=
  ('"' : CodePoint) :: text.flatMap (quotePoint escaped) ++ "\""

/-- A number that is not whole. -/
def floatText : Binary64 → Text
  | .nan => "NaN"
  | .infinity negative => if negative then "-Infinity" else "Infinity"
  | number => number.text

mutual

/-- A document at a depth. -/
def printAt (layout : Layout) (depth : Nat) : Json → Text
  | .null => "null"
  | .bool true => "true"
  | .bool false => "false"
  | .int value => Text.integer value
  | .float value => floatText value
  | .text value => quote layout.escaped value
  | .array [] => "[]"
  | .array (first :: more) =>
    ('[' : CodePoint) :: layout.lineBreak (depth + 1) ++ printAt layout (depth + 1) first ++
      printItems layout (depth + 1) more ++ layout.lineBreak depth ++ "]"
  | .object [] => "\x7b\x7d"
  | .object ((name, first) :: more) =>
    ('{' : CodePoint) :: layout.lineBreak (depth + 1) ++ quote layout.escaped name ++
      layout.colon ++ printAt layout (depth + 1) first ++ printFields layout (depth + 1) more ++
      layout.lineBreak depth ++ "\x7d"

/-- The items behind the first one, each with the comma in front of it. -/
def printItems (layout : Layout) (depth : Nat) : List Json → Text
  | [] => []
  | item :: more =>
    layout.comma ++ layout.lineBreak depth ++ printAt layout depth item ++
      printItems layout depth more

/-- The fields behind the first one, each with the comma in front of it. -/
def printFields (layout : Layout) (depth : Nat) : List (Text × Json) → Text
  | [] => []
  | (name, item) :: more =>
    layout.comma ++ layout.lineBreak depth ++ quote layout.escaped name ++ layout.colon ++
      printAt layout depth item ++ printFields layout depth more

end

/-- The text of a document. -/
def print (layout : Layout) (document : Json) : Text :=
  printAt layout 0 document

end Json
end ThreatMatrix
