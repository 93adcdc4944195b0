import ThreatMatrix.Keyed
import ThreatMatrix.Table.File

/-!
# Bundles

A bundle is a published document of objects of many types. Its current attack patterns are the
techniques of a table: those that are neither revoked nor deprecated and whose first reference to
the publisher carries a technique identifier. Nothing is known about the shape of an offered bundle,
so every access to it may be a misuse.
-/

namespace ThreatMatrix.Bundle

/-- The name under which the publisher's references stand. -/
def publisher : Text := "mitre-attack"

/-- The type of the objects that describe techniques. -/
def patternType : Text := "attack-pattern"

/-- The type of the object that describes the published collection. -/
def collectionType : Text := "x-mitre-collection"

/-- The bundle in a file: a record whose type says that it is one. -/
def read (room : Nat) (tree : Tree) (path : Path) : Except Problem Value := do
  let document ← (tree.readDocument room path).mapError fun problem =>
    if problem.isLoadFailure then .bundleUnreadable path.text problem else problem
  let bundle := Value.ofJson document
  match bundle with
  | .record fields =>
    if (fields.lookup ("type" : Text)).bind Value.asText? = some ("bundle" : Text) then .ok bundle
    else .error (.notBundle path.text)
  | _ => .error (.notBundle path.text)

/-- The items of a field; an absent field has none. -/
def fieldItems (value : Value) (name : Text) : Except Misuse (List Value) := do
  match ← value.field? name with
  | none => return []
  | some items => items.iterate

/-- Whether a field is a particular text. -/
def fieldIs (value : Value) (name expected : Text) : Except Misuse Bool := do
  return (← value.field name).asText? = some expected

/-- The identifier in the first reference to the publisher; without one it is null. -/
def firstReference : List Value → Except Misuse Value
  | [] => .ok .null
  | reference :: more => do
    if ← fieldIs reference "source_name" publisher then reference.field "external_id"
    else firstReference more

/-- The identifier under which the publisher describes an object. -/
def externalId (object : Value) : Except Misuse Value := do
  firstReference (← fieldItems object "external_references")

/-- Whether an object was withdrawn. -/
def isWithdrawn (object : Value) : Except Misuse Bool := do
  if (← object.field "revoked").isPresent then return true
  else return (← object.field "x_mitre_deprecated").isPresent

/-- Whether a value is a line that holds a technique identifier. An absent value is none. -/
def isIdLine (value : Value) : Except Misuse Bool :=
  if !value.isPresent then .ok false
  else
    match value with
    | .bytes _ => .error .octetsForText
    | other =>
      match other.asText? with
      | some text => .ok (isTechniqueIdLine text)
      | none => .error (.unmatchable other.kind)

/-- The name of an object without white space around it; an absent name is empty. -/
def strippedName (object : Value) : Except Misuse Value := do
  let name ← object.field "name"
  if name.isPresent then name.strip else return .text []

/-- The technique that an attack pattern describes, if it is to be kept. -/
def technique? (object : Value) : Except Problem (Option Technique) := do
  if ← (isWithdrawn object).mapError .misuse then return none
  else
    let id ← (externalId object).mapError .misuse
    if ← (isIdLine id).mapError .misuse then
      let name ← (strippedName object).mapError .misuse
      let technique ←
        (Technique.ofValue (.record [("id", id), ("name", name)])).mapError .invalid
      return some technique
    else return none

/-- Techniques with one more. One with the same identifier gives its place to the new one. -/
def putTechnique (techniques : List Technique) (technique : Technique) : List Technique :=
  Keyed.put Technique.id techniques technique

/-- What was gathered from objects: the techniques to be kept, and how many attack patterns were
passed over. -/
structure Harvest where
  techniques : List Technique
  skipped : Nat

/-- What was gathered, with one more object. Objects that are no attack patterns say nothing. -/
def gather (harvest : Harvest) (object : Value) : Except Problem Harvest := do
  if ← (fieldIs object "type" patternType).mapError .misuse then
    match ← technique? object with
    | none => return { harvest with skipped := harvest.skipped + 1 }
    | some technique =>
      return { harvest with techniques := putTechnique harvest.techniques technique }
  else return harvest

/-- The version of the first collection among objects; without one it is null. -/
def collectionVersion : List Value → Except Misuse Value
  | [] => .ok .null
  | object :: more => do
    if ← fieldIs object "type" collectionType then object.field "x_mitre_version"
    else collectionVersion more

/-- The table of given techniques, whose domain and version are still to be validated. -/
def tableOf (domain version : Value) (techniques : List Technique) : Except Report Table :=
  let labels := bothChecked
    ((atOnce domain.checkText).mapError fun issues => issues.map (·.within (.field "domain")))
    ((atOnce (Table.checkVersion version)).mapError fun issues =>
      issues.map (·.within (.field "attack_version")))
  let table := do
    let (domain, version) ← labels
    atOnce ((Table.ofRows domain version techniques).mapError .inconsistent)
  table.mapError (⟨some .table, ·⟩)

/-- The table of a bundle's current techniques, in the order of their numbers. -/
def build (bundle domain : Value) : Outcome Table := do
  let objects ← .ofExcept ((fieldItems bundle "objects").mapError .misuse)
  let harvest ← .ofExcept (objects.foldlM gather ⟨[], 0⟩)
  let version ← .ofExcept ((collectionVersion objects).mapError .misuse)
  let rows ← .ofExcept ((tableOf domain version harvest.techniques).mapError fun report =>
    .bundleInconsistent (.invalid report))
  let table ← .ofExcept (rows.sort.mapError .notNumeral)
  .note (.built domain.plain table.version table.techniques.length harvest.skipped)
  return table

end ThreatMatrix.Bundle
