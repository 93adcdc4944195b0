import ThreatMatrix.Text.Digit

/-!
# Technique identifiers

An identifier is the letter T and four decimal digits; the identifier of a sub-technique goes on
with a point and three more. The digits may be of any script. An identifier can be taken apart at
its point or at fixed columns. Tables use the point and catalogs use the columns.
A technique or sub-technique is an identifier with a published name.
-/

namespace ThreatMatrix

/-- The form of a technique identifier, with a test for its digits. -/
def hasIdForm (isDigit : CodePoint → Bool) : Text → Bool
  | [letter, a, b, c, d] => letter == 'T' && [a, b, c, d].all isDigit
  | [letter, a, b, c, d, point, e, f, g] =>
    letter == 'T' && [a, b, c, d].all isDigit && point == '.' && [e, f, g].all isDigit
  | _ => false

/-- The form of a technique identifier. -/
def isTechniqueId (text : Text) : Bool :=
  hasIdForm CodePoint.isDigit text

/-- The form of a line that holds a technique identifier in digits whose values are known: its line
end may be part of it. -/
def isTechniqueIdLine (text : Text) : Bool :=
  hasIdForm CodePoint.hasValue text ||
    (text.getLast? == some ('\n' : CodePoint) && hasIdForm CodePoint.hasValue text.dropLast)

/-- A well-formed technique identifier. -/
structure TechniqueId where
  text : Text
  wellFormed : isTechniqueId text = true
  deriving DecidableEq

namespace TechniqueId

/-- All digits of the identifier have values. -/
def HasValues (id : TechniqueId) : Prop :=
  ∀ c ∈ id.text, c.isDigit = true → c.hasValue = true

instance (id : TechniqueId) : Decidable id.HasValues :=
  -- A search through the text: code points are finitely many, but too many to look at each.
  List.decidableBAll (fun c : CodePoint => c.isDigit = true → c.hasValue = true) id.text

/-- The identifier that a text is. -/
def ofText? (text : Text) : Option TechniqueId :=
  if h : isTechniqueId text = true then some ⟨text, h⟩ else none

/-- The identifier of a sub-technique holds a point. -/
def isSub (id : TechniqueId) : Bool :=
  id.text.contains '.'

/-! ## At the point -/

/-- The identifier above a sub-technique: what stands before the point. -/
def parentText? (id : TechniqueId) : Option Text :=
  if id.isSub then some (Text.partition '.' id.text).1 else none

/-- The technique number and the sub-technique number, which is zero without a point; or the numeral
that denotes no number. -/
def numbers (id : TechniqueId) : Except Text (Nat × Nat) := do
  let (base, sub) := Text.partition '.' (id.text.drop 1)
  let first ← Text.readNumber base
  let second ← Text.readNumberOrZero sub
  return (first, second)

/-- The numbers by which identifiers are ordered: a numeral that denotes no number counts as zero.
Nothing is put in order before the numbers were read. -/
def key (id : TechniqueId) : Nat × Nat :=
  let (base, sub) := Text.partition '.' (id.text.drop 1)
  ((Text.number? base).getD 0, (Text.number? sub).getD 0)

/-- The order of identifiers by their numbers. -/
def precedes (left right : TechniqueId) : Bool :=
  left.key.1 < right.key.1 || (left.key.1 == right.key.1 && left.key.2 ≤ right.key.2)

/-- The spelling with a low line instead of the point. -/
def symbol (id : TechniqueId) : Text :=
  id.text.exchange '.' '_'

/-! ## At fixed columns -/

/-- The technique number, or the numeral that denotes none. -/
def readBase (id : TechniqueId) : Except Text Nat :=
  Text.readNumber ((id.text.drop 1).take 4)

/-- The sub-technique number, if the identifier is one of a sub-technique, or the numeral that
denotes none. -/
def readSub (id : TechniqueId) : Except Text (Option Nat) :=
  if id.isSub then (Text.readNumber (id.text.drop 6)).map some else .ok none

/-- The technique number; a numeral that denotes none counts as zero. -/
def base (id : TechniqueId) : Nat :=
  (Text.number? ((id.text.drop 1).take 4)).getD 0

/-- The sub-technique number, if there is one. -/
def sub? (id : TechniqueId) : Option Nat :=
  if id.isSub then Text.number? (id.text.drop 6) else none

/-- The first five columns of the identifier of a sub-technique. -/
def stem? (id : TechniqueId) : Option Text :=
  if id.isSub then some (id.text.take 5) else none

end TechniqueId
/-- A technique or sub-technique. -/
structure Technique where
  id : TechniqueId
  name : Text
  deriving DecidableEq

end ThreatMatrix
