import ThreatMatrix.Json.Document

/-!
# Reading JSON

Reading takes a text from left to right and stops at the first fault, which names the place where
it was seen. Beyond the standard grammar the numbers `NaN`, `Infinity` and `-Infinity` are read, and
an escape may name one half of a surrogate pair. Integers have a greatest length. Containers nest as
far as there is room left where the reader is called from. Beyond either limit lies a fault of its
own, because such a document is well formed.
-/

namespace ThreatMatrix.Json

/-- What is wrong with a text that is no JSON document. -/
inductive Defect where
  | valueExpected
  | nameExpected
  | colonExpected
  | commaExpected
  | trailingText
  | openString
  | controlCharacter
  | badEscape
  | badUnicodeEscape
  | byteOrderMark
  deriving DecidableEq, Repr

/-- The description of a defect. -/
def Defect.message : Defect → Text
  | valueExpected => "Expecting value"
  | nameExpected => "Expecting property name enclosed in double quotes"
  | colonExpected => "Expecting ':' delimiter"
  | commaExpected => "Expecting ',' delimiter"
  | trailingText => "Extra data"
  | openString => "Unterminated string starting at"
  | controlCharacter => "Invalid control character at"
  | badEscape => "Invalid \\escape"
  | badUnicodeEscape => "Invalid \\uXXXX escape"
  | byteOrderMark => "Unexpected UTF-8 BOM (decode using utf-8-sig)"

/-- A place in a text: lines and columns count from one, code points from zero. -/
structure Position where
  line : Nat
  column : Nat
  offset : Nat
  deriving DecidableEq, Repr

/-- The place at which a rest of a text begins. -/
def Position.ofRest (text rest : Text) : Position :=
  let offset := text.length - rest.length
  let before := text.take offset
  { line := before.count ('\n' : CodePoint) + 1
    column := (before.reverse.takeWhile (· != ('\n' : CodePoint))).length + 1
    offset }

/-- Why a text is not read. -/
inductive Refusal where
  | malformed (defect : Defect) (place : Position)
  | integerTooLong (digits : Nat)
  | tooDeep
  deriving DecidableEq, Repr

/-- A refusal whose place is still given as the rest of the text. -/
inductive Stop where
  | malformed (defect : Defect) (rest : Text)
  | integerTooLong (digits : Nat)
  | tooDeep

/-- The greatest number of digits of an integer. -/
def integerDigits : Nat := 4300

/-- White space between the parts of a document. -/
def isSpace (c : CodePoint) : Bool :=
  c == ' ' || c == '\n' || c == '\r' || c == '\t'

/-- A text without the white space in front. -/
def skipSpace (text : Text) : Text :=
  text.dropWhile isSpace

/-- The code point that a one-letter escape stands for. -/
def shortEscape? (mark : CodePoint) : Option CodePoint :=
  if mark = '"' ∨ mark = '\\' ∨ mark = '/' then some mark
  else if mark = 'b' then some '\x08'
  else if mark = 'f' then some '\x0C'
  else if mark = 'n' then some '\n'
  else if mark = 'r' then some '\r'
  else if mark = 't' then some '\t'
  else none

/-- The code point that four hexadecimal digits name. -/
def hexPoint? (a b c d : CodePoint) : Option CodePoint := do
  return CodePoint.ofNat
    (((← a.hexValue?) * 16 + (← b.hexValue?)) * 256 + ((← c.hexValue?) * 16 + (← d.hexValue?)))

/-- The first half of a surrogate pair. -/
def isHighHalf (c : CodePoint) : Bool :=
  0xD800 ≤ c.val && c.val ≤ 0xDBFF

/-- The second half of a surrogate pair. -/
def isLowHalf (c : CodePoint) : Bool :=
  0xDC00 ≤ c.val && c.val ≤ 0xDFFF

/-- The code point that two halves stand for. -/
def joinHalves (high low : CodePoint) : CodePoint :=
  CodePoint.ofNat (0x10000 + (high.val - 0xD800) * 0x400 + (low.val - 0xDC00))

/-- The code points read so far, last first, where a first half waits for its second. -/
structure Partial where
  done : Text
  half : Option CodePoint

namespace Partial

/-- Nothing was read yet. -/
def empty : Partial := ⟨[], none⟩

/-- The code points read, with a half that stayed alone. -/
def finish (read : Partial) : Text :=
  read.half.toList ++ read.done

/-- One more code point, not written as a hexadecimal escape. -/
def push (read : Partial) (c : CodePoint) : Partial :=
  ⟨c :: read.finish, none⟩

/-- One more code point from a hexadecimal escape, which may complete a pair or begin one. -/
def pushEscape (read : Partial) (c : CodePoint) : Partial :=
  match read.half with
  | some high => if isLowHalf c then ⟨joinHalves high c :: read.done, none⟩ else start c
  | none => start c
where
  /-- The escape does not complete a pair. -/
  start (c : CodePoint) : Partial :=
    if isHighHalf c then ⟨read.finish, some c⟩ else read.push c

end Partial

/-- Reads a string behind its opening quote. A string without an end is reported where it opened. -/
def stringBody (opening : Text) (read : Partial) : Text → Except Stop (Text × Text)
  | [] => .error (.malformed .openString opening)
  | c :: rest =>
    if c = '"' then .ok (read.finish.reverse, rest)
    else if c = '\\' then
      match rest with
      | [] => .error (.malformed .openString opening)
      | mark :: more =>
        if mark = 'u' then
          match more with
          | h₁ :: h₂ :: h₃ :: h₄ :: next :: after =>
            match hexPoint? h₁ h₂ h₃ h₄ with
            | some named => stringBody opening (read.pushEscape named) (next :: after)
            | none => .error (.malformed .badUnicodeEscape (mark :: more))
          | _ => .error (.malformed .badUnicodeEscape (mark :: more))
        else
          match shortEscape? mark with
          | some meant => stringBody opening (read.push meant) more
          | none => .error (.malformed .badEscape (c :: mark :: more))
    else if c.val < 0x20 then .error (.malformed .controlCharacter (c :: rest))
    else stringBody opening (read.push c) rest

/-- One of the ten digits that numbers are written with. -/
def isNumeral (c : CodePoint) : Bool :=
  0x30 ≤ c.val && c.val ≤ 0x39

/-- The digits in front of a text, and what follows them. -/
def digits (text : Text) : Text × Text :=
  (text.takeWhile isNumeral, text.dropWhile isNumeral)

/-- The whole part of a number: a zero, or digits that begin with another digit. -/
def wholePart : Text → Text × Text
  | [] => ([], [])
  | c :: rest => if c = '0' then ([c], rest) else digits (c :: rest)

/-- The digits behind a point; a point without a digit is no part of the number. -/
def fractionPart : Text → Text × Text
  | [] => ([], [])
  | c :: rest =>
    let (fraction, after) := digits rest
    if c = '.' ∧ !fraction.isEmpty then (fraction, after) else ([], c :: rest)

/-- The exponent behind the letter E; a letter without a digit is no part of the number. -/
def exponentPart : Text → Option Int × Text
  | [] => (none, [])
  | c :: rest =>
    let (negative, signless) := Binary64.splitSign rest
    let (exponent, after) := digits signless
    if (c = 'e' ∨ c = 'E') ∧ !exponent.isEmpty then
      let size : Int := (Text.number? exponent).getD 0
      (some (if negative then -size else size), after)
    else (none, c :: rest)

/-- Reads a number. -/
def number (text : Text) : Except Stop (Json × Text) :=
  let (negative, unsigned) := match text with
    | [] => (false, [])
    | c :: rest => if c = '-' then (true, rest) else (false, c :: rest)
  let (whole, afterWhole) := wholePart unsigned
  let (fraction, afterFraction) := fractionPart afterWhole
  let (exponent, rest) := exponentPart afterFraction
  if whole.isEmpty then .error (.malformed .valueExpected text)
  else if fraction.isEmpty && exponent.isNone then
    if whole.length > integerDigits then .error (.integerTooLong whole.length)
    else
      let size : Int := (Text.number? whole).getD 0
      .ok (.int (if negative then -size else size), rest)
  else
    let size := (Text.number? (whole ++ fraction)).getD 0
    .ok (.float (Binary64.ofDecimal negative size (exponent.getD 0 - fraction.length)), rest)

/-- The words that stand for values. -/
def words : List (Text × Json) := [
  ("null", .null), ("true", .bool true), ("false", .bool false), ("NaN", .float .nan),
  ("Infinity", .float (.infinity false)), ("-Infinity", .float (.infinity true))]

/-- Reads a word or a number. -/
def scalar (text : Text) : Except Stop (Json × Text) :=
  match words.find? fun word => word.1.isPrefixOf text with
  | some (word, value) => .ok (value, text.drop word.length)
  | none => number text

/-- Reads the items of an array from the first item on. The fuel bounds their number. -/
def items (item : Text → Except Stop (Json × Text)) :
    Nat → List Json → Text → Except Stop (List Json × Text)
  | 0, _, input => .error (.malformed .valueExpected input)
  | fuel + 1, read, input => do
    let (value, after) ← item input
    let next := skipSpace after
    match next with
    | [] => .error (.malformed .commaExpected next)
    | c :: rest =>
      if c = ']' then .ok ((value :: read).reverse, rest)
      else if c = ',' then items item fuel (value :: read) (skipSpace rest)
      else .error (.malformed .commaExpected next)

/-- Reads a name and the colon behind it. -/
def fieldName (text : Text) : Except Stop (Text × Text) :=
  match text with
  | [] => .error (.malformed .nameExpected text)
  | quote :: body =>
    if quote = '"' then do
      let (name, after) ← stringBody text .empty body
      let next := skipSpace after
      match next with
      | [] => .error (.malformed .colonExpected next)
      | c :: rest =>
        if c = ':' then .ok (name, skipSpace rest) else .error (.malformed .colonExpected next)
    else .error (.malformed .nameExpected text)

/-- Reads the fields of an object from the first name on. The fuel bounds their number. -/
def members (item : Text → Except Stop (Json × Text)) :
    Nat → List (Text × Json) → Text → Except Stop (List (Text × Json) × Text)
  | 0, _, input => .error (.malformed .nameExpected input)
  | fuel + 1, read, input => do
    let (name, start) ← fieldName input
    let (value, after) ← item start
    let next := skipSpace after
    match next with
    | [] => .error (.malformed .commaExpected next)
    | c :: rest =>
      if c = '}' then .ok (((name, value) :: read).reverse, rest)
      else if c = ',' then members item fuel ((name, value) :: read) (skipSpace rest)
      else .error (.malformed .commaExpected next)

/-- Reads the inside of an array behind its bracket. -/
def arrayBody (item : Text → Except Stop (Json × Text)) (fuel : Nat) (text : Text) :
    Except Stop (Json × Text) :=
  match skipSpace text with
  | [] => .error (.malformed .valueExpected [])
  | c :: rest =>
    if c = ']' then .ok (.array [], rest)
    else do
      let (read, after) ← items item fuel [] (c :: rest)
      return (.array read, after)

/-- Reads the inside of an object behind its brace. -/
def objectBody (item : Text → Except Stop (Json × Text)) (fuel : Nat) (text : Text) :
    Except Stop (Json × Text) :=
  match skipSpace text with
  | [] => .error (.malformed .nameExpected [])
  | c :: rest =>
    if c = '}' then .ok (.object [], rest)
    else do
      let (read, after) ← members item fuel [] (c :: rest)
      return (.object read, after)

/-- Reads a value inside which containers may nest to a depth. -/
def value (fuel : Nat) : Nat → Text → Except Stop (Json × Text)
  | _, [] => .error (.malformed .valueExpected [])
  | 0, c :: rest =>
    if c = '"' then do
      let (read, after) ← stringBody (c :: rest) .empty rest
      return (.text read, after)
    else if c = '[' ∨ c = '{' then .error .tooDeep
    else scalar (c :: rest)
  | depth + 1, c :: rest =>
    if c = '"' then do
      let (read, after) ← stringBody (c :: rest) .empty rest
      return (.text read, after)
    else if c = '[' then arrayBody (value fuel depth) fuel rest
    else if c = '{' then objectBody (value fuel depth) fuel rest
    else scalar (c :: rest)

/-- Reads a text that holds one value and white space around it, where there is room for so many
containers within each other. -/
def document (room : Nat) (text : Text) : Except Stop Json := do
  if text.head? = some ('\uFEFF' : CodePoint) then .error (.malformed .byteOrderMark text)
  else
    let (read, after) ← value text.length room (skipSpace text)
    match skipSpace after with
    | [] => .ok read
    | rest => .error (.malformed .trailingText rest)

/-- The document that a text holds, where there is room for so many containers within each other. -/
def read (room : Nat) (text : Text) : Except Refusal Json :=
  match document room text with
  | .ok found => .ok found
  | .error (.malformed defect rest) => .error (.malformed defect (.ofRest text rest))
  | .error (.integerTooLong count) => .error (.integerTooLong count)
  | .error .tooDeep => .error .tooDeep

/-- The text of a refusal; nesting that is too deep has none. -/
def Refusal.message : Refusal → Text
  | .malformed defect place =>
    defect.message ++ ": line " ++ Text.decimal place.line ++ " column " ++
      Text.decimal place.column ++ " (char " ++ Text.decimal place.offset ++ ")"
  | .integerTooLong digits =>
    "Exceeds the limit (" ++ Text.decimal integerDigits ++
      " digits) for integer string conversion: value has " ++ Text.decimal digits ++
      " digits; use sys.set_int_max_str_digits() to increase the limit"
  | .tooDeep => []

end ThreatMatrix.Json
