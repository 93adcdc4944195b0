import ThreatMatrix.Json.Reader

/-!
# Strict documents

A strict document names no lone half of a surrogate pair, in a name or anywhere else, and nests
containers that hold something to a limited depth.
-/

namespace ThreatMatrix.Json

mutual

/-- Whether every text of a document is free of lone halves. -/
def isPaired : Json → Bool
  | .text value => !value.any CodePoint.isSurrogate
  | .array items => arePaired items
  | .object fields => fieldsPaired fields
  | _ => true

/-- Whether every text of some documents is free of lone halves. -/
def arePaired : List Json → Bool
  | [] => true
  | item :: more => isPaired item && arePaired more

/-- Whether every name and every text of some fields is free of lone halves. -/
def fieldsPaired : List (Text × Json) → Bool
  | [] => true
  | (name, item) :: more =>
    !name.any CodePoint.isSurrogate && isPaired item && fieldsPaired more

end

mutual

/-- How deep containers that hold something are nested. -/
def depth : Json → Nat
  | .array [] => 0
  | .object [] => 0
  | .array items => itemsDepth items + 1
  | .object fields => fieldsDepth fields + 1
  | _ => 0

/-- The greatest depth among some documents. -/
def itemsDepth : List Json → Nat
  | [] => 0
  | item :: more => max (depth item) (itemsDepth more)

/-- The greatest depth among some fields. -/
def fieldsDepth : List (Text × Json) → Nat
  | [] => 0
  | (_, item) :: more => max (depth item) (fieldsDepth more)

end

/-- The greatest depth of a strict document. -/
def strictDepth : Nat := 200

/-- The strict document that a text holds. Containers that hold nothing are not counted, so there is
room for one container more than those that are. -/
def readStrict? (text : Text) : Option Json :=
  match read (strictDepth + 1) text with
  | .ok found => if found.isPaired && found.depth ≤ strictDepth then some found else none
  | .error _ => none

end ThreatMatrix.Json
