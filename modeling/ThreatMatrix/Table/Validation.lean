import ThreatMatrix.Table.Basic
import ThreatMatrix.Text.Utf8
import ThreatMatrix.Value.Access

/-!
# Validation of tables

Reads techniques and tables from offered values. Octets are taken for the text that they hold,
names that say nothing about a table are passed over, and the rules of the table are looked at only
when every row is well formed.
-/

namespace ThreatMatrix

/-- The text that a value is, counts as, or holds in octets. -/
def Value.checkText (value : Value) : Except Complaint Text :=
  match value with
  | .bytes octets => (Utf8.decode octets).mapError fun _ => .notUnicode
  | other =>
    match other.asText? with
    | some found => .ok found
    | none => .error .notText

/-- The technique identifier that a value is. -/
def Value.checkTechniqueId (value : Value) : Except Complaint TechniqueId := do
  let found ← value.checkText
  if found.any CodePoint.isSurrogate then .error .notUnicode
  else
    match TechniqueId.ofText? found with
    | some id => .ok id
    | none => .error .notTechniqueId

/-- Applies a check to a field and places its complaint there. A field that is absent has its
default, or else is missing. -/
def checkField {α : Type} (fields : List (Text × Value)) (name : Text) (default : Option α)
    (check : Value → Except (List Issue) α) : Except (List Issue) α :=
  match fields.lookup name, default with
  | some value, _ => (check value).mapError fun issues => issues.map (·.within (.field name))
  | none, some value => .ok value
  | none, none => .error [⟨[.field name], .missing⟩]

/-- A check of a single value as a check that reports issues. -/
def atOnce {α : Type} (result : Except Complaint α) : Except (List Issue) α :=
  result.mapError fun complaint => [⟨[], complaint⟩]

namespace Technique

/-- The technique that a value describes. -/
def check (value : Value) : Except (List Issue) Technique :=
  match value with
  | .record fields => do
    let (id, name) ← bothChecked
      (checkField fields "id" none fun field => atOnce field.checkTechniqueId)
      (checkField fields "name" none fun field => atOnce field.checkText)
    return ⟨id, name⟩
  | _ => .error [⟨[], .notRecord .data .technique⟩]

/-- The technique that a value describes, or a report. -/
def ofValue (value : Value) : Except Report Technique :=
  (check value).mapError (⟨some .technique, ·⟩)

end Technique

namespace Table

/-- The version that a value names; null names none. -/
def checkVersion : Value → Except Complaint (Option Text)
  | .null => .ok none
  | value => value.checkText.map some

/-- The techniques that a sequence describes. -/
def checkTechniques : Value → Except (List Issue) (List Technique)
  | .list items => checkItems Technique.check 0 items
  | .tuple items => checkItems Technique.check 0 items
  | _ => .error [⟨[], .notList .data⟩]

/-- The domain of a table that names none. -/
def defaultDomain : Text := "enterprise-attack"

/-- The table that a value describes. -/
def check (value : Value) : Except (List Issue) Table :=
  match value with
  | .record fields => do
    let (domain, version, techniques) ← bothChecked
      (checkField fields "domain" (some defaultDomain) fun field => atOnce field.checkText)
      (bothChecked
        (checkField fields "attack_version" (some none) fun field => atOnce (checkVersion field))
        (checkField fields "techniques" (some []) checkTechniques))
    atOnce ((ofRows domain version techniques).mapError .inconsistent)
  | _ => .error [⟨[], .notRecord .data .table⟩]

/-- The table that a value describes, or a report. -/
def ofValue (value : Value) : Except Report Table :=
  (check value).mapError (⟨some .table, ·⟩)

end Table
end ThreatMatrix
