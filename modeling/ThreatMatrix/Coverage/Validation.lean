import ThreatMatrix.Coverage.Basic
import ThreatMatrix.Identifier
import ThreatMatrix.Json.Strict
import ThreatMatrix.Settings

/-!
# Validation of coverages

Reads coverages and their members from offered values. The settings matter for one kind of value
only: a text with a low line that is offered as a technique. Only such a value makes validation look
at them, and where they cannot be read their issues are reported at its place.
-/

namespace ThreatMatrix

namespace Coverage

/-- An identifier that is not recognized, as an issue. -/
def identified {α : Type} (result : Except Unrecognized α) : Except (List Issue) α :=
  result.mapError fun fault => [⟨[], .unrecognized fault⟩]

/-- The tactic offered for a field. -/
def checkTactic (value : Value) : Except (List Issue) Tactic :=
  match value with
  | .member (.tactic tactic) => .ok tactic
  | other => identified (Tactic.ofValue other)

/-- The text of a technique that is spelled with a low line. -/
def lowLine? : Value → Option Text
  | .member (.technique _) => none
  | value =>
    match value.asText? with
    | some text => if text.contains '_' then some text else none
    | none => none

/-- The technique offered for a field, under the settings as they could be read. -/
def checkTechnique (catalog : Catalog) (settings : Except Report Settings) (value : Value) :
    Except (List Issue) Technique :=
  match value with
  | .member (.technique technique) => .ok technique
  | other =>
    match lowLine? other with
    | none => identified (catalog.ofValue other)
    | some text =>
      match settings with
      | .error report => .error report.issues
      | .ok found =>
        if found.acceptLegacyTags then
          identified (catalog.ofValue (.text (text.exchange '_' '.')))
        else identified (catalog.ofValue other)

/-- Applies a check to the items of a list. -/
def checkList {α : Type} (source : Source) (check : Value → Except (List Issue) α) (value : Value) :
    Except (List Issue) (List α) :=
  match value with
  | .list items => checkItems check 0 items
  | .tuple items => checkItems check 0 items
  | _ => .error [⟨[], .notList source⟩]

/-- Applies a check to the items of a field; an absent field has no items. -/
def checkListField {α : Type} (source : Source) (fields : List (Text × Value)) (name : Text)
    (check : Value → Except (List Issue) α) : Except (List Issue) (List α) :=
  match fields.lookup name with
  | none => .ok []
  | some value =>
    (checkList source check value).mapError fun issues => issues.map (·.within (.field name))

/-- The coverage that a value describes. -/
def check (catalog : Catalog) (settings : Except Report Settings) (source : Source)
    (value : Value) : Except (List Issue) Coverage :=
  match value with
  | .record fields => do
    let (tactics, techniques) ← bothChecked
      (checkListField source fields "tactics" checkTactic)
      (checkListField source fields "techniques" (checkTechnique catalog settings))
    return ⟨tactics, techniques⟩
  | _ => .error [⟨[], .notRecord source .coverage⟩]

/-- Whether validation looks at the settings for the items of a value. -/
def consultsFor : Value → Bool
  | .list items => items.any fun item => (lowLine? item).isSome
  | .tuple items => items.any fun item => (lowLine? item).isSome
  | _ => false

/-- Whether validation of a coverage looks at the settings. -/
def consultsSettings : Value → Bool
  | .record fields =>
    match fields.lookup ("techniques" : Text) with
    | some value => consultsFor value
    | none => false
  | _ => false

/-- The value that a text offers as a document. -/
def offered (text : Text) : Except (List Issue) Value :=
  if text.any CodePoint.isSurrogate then .error [⟨[], .notUnicode⟩]
  else
    match Json.readStrict? text with
    | some document => .ok (.ofJson document)
    | none => .error [⟨[], .notDocument⟩]

/-- The coverage that a value describes, or a report. -/
def ofValue (catalog : Catalog) (settings : Except Report Settings) (value : Value) :
    Except Report Coverage :=
  (check catalog settings .data value).mapError (⟨some .coverage, ·⟩)

/-- The coverage that a document describes, or a report. -/
def ofJsonText (catalog : Catalog) (settings : Except Report Settings) (text : Text) :
    Except Report Coverage :=
  (offered text >>= check catalog settings .document).mapError (⟨some .coverage, ·⟩)

end Coverage
end ThreatMatrix
