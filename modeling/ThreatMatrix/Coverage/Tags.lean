import ThreatMatrix.Coverage.Basic
import ThreatMatrix.Log

/-!
# Tags

Rules carry their coverage as tags: the namespace `attack`, a point, and the name of a tactic or
technique. Every tag either lies outside the namespace, means a tactic or a technique, or is noted
as not recognized.
-/

namespace ThreatMatrix

/-- What a tag means. -/
inductive TagMeaning where
  /-- The tag lies outside the namespace or names nothing. -/
  | foreign
  | tactic (tactic : Tactic)
  | technique (technique : Technique)
  | unrecognized
  deriving DecidableEq

namespace TagMeaning

/-- The namespace of tags. -/
def tagSpace : Text := "attack"

/-- The meaning of a name in a tag: a tactic if it can be one, or else a technique. -/
def ofName (catalog : Catalog) (name : Text) : TagMeaning :=
  match Tactic.ofTagName? name with
  | some found => .tactic found
  | none =>
    match catalog.parse? name with
    | some found => .technique found
    | none => .unrecognized

/-- The meaning of a tag without the white space around it. -/
def ofStripped (catalog : Catalog) (tag : Text) : TagMeaning :=
  let (space, name) := Text.partition '.' tag
  if space.lower ≠ tagSpace ∨ name = [] then .foreign else ofName catalog name

/-- The meaning of a tag. -/
def ofTag (catalog : Catalog) (tag : Text) : TagMeaning :=
  ofStripped catalog tag.strip

/-- The meaning of an offered tag. -/
def ofValue (catalog : Catalog) (tag : Value) : Except Misuse TagMeaning := do
  match ← tag.strip with
  | .text stripped => return ofStripped catalog stripped
  | _ => .error .textForOctets

/-- A coverage's members with what a tag adds in front of them. -/
def add (meaning : TagMeaning) (members : List Tactic × List Technique) :
    List Tactic × List Technique :=
  match meaning with
  | .tactic found => (found :: members.1, members.2)
  | .technique found => (members.1, found :: members.2)
  | _ => members

end TagMeaning

namespace Coverage

/-- The members that tags mean, in order, and notes of those that are not recognized. -/
def membersOfTags (catalog : Catalog) : List Value → Outcome (List Tactic × List Technique)
  | [] => pure ([], [])
  | tag :: more => do
    let meaning ← .ofExcept ((TagMeaning.ofValue catalog tag).mapError .misuse)
    match meaning with
    | .unrecognized => .note (.skippedTag tag.plain)
    | _ => pure ()
    let members ← membersOfTags catalog more
    return meaning.add members

/-- The coverage that offered tags mean. -/
def ofTagValues (catalog : Catalog) (tags : Value) : Outcome Coverage := do
  let items ← .ofExcept (tags.iterate.mapError .misuse)
  let (tactics, techniques) ← membersOfTags catalog items
  return ofMembers tactics techniques

/-- The coverage that tags mean. -/
def ofTags (catalog : Catalog) (tags : List Text) : Outcome Coverage :=
  ofTagValues catalog (.list (tags.map .text))

/-- The tags that mean a coverage's tactics and techniques. -/
def toTags (coverage : Coverage) : List Text :=
  let tag (name : Text) : Text := TagMeaning.tagSpace ++ "." ++ name
  coverage.tactics.map (fun tactic => tag (tactic.shortname.exchange '-' '_')) ++
    coverage.techniques.map fun technique => tag technique.id.text.lower

end Coverage
end ThreatMatrix
