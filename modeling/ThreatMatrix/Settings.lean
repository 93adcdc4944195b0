import ThreatMatrix.Files.Path
import ThreatMatrix.Keyed
import ThreatMatrix.Report
import ThreatMatrix.Text.Lowercase

/-!
# Settings

Settings come from variables of the environment, whose names are compared without regard to letter
case. A reading is kept and serves until it is dropped; a reading that fails is not kept.
-/

namespace ThreatMatrix

/-- The variables of the environment in the order in which they were first set. -/
abbrev Environment := List (Text × Text)

namespace Environment

/-- The environment with a variable set. -/
def assign (environment : Environment) (name value : Text) : Environment :=
  Keyed.put Prod.fst environment (name, value)

/-- The environment without a variable. -/
def remove (environment : Environment) (name : Text) : Environment :=
  environment.filter (·.1 ≠ name)

/-- The value of the last variable whose name has this small form. -/
def find? (environment : Environment) (name : Text) : Option Text :=
  (environment.reverse.find? fun entry => entry.1.lower = name).map (·.2)

end Environment

/-- What can be set. -/
structure Settings where
  /-- The table that the catalog is made from, if it is not the packaged one. -/
  techniquesFile : Option Path
  /-- Whether technique identifiers may be spelled with low lines instead of points. -/
  acceptLegacyTags : Bool
  deriving DecidableEq

namespace Settings

/-- The variable for the table. -/
def fileVariable : Text := "attack_taxonomy_techniques_file"

/-- The variable for low lines in identifiers. -/
def legacyVariable : Text := "attack_taxonomy_accept_legacy_tags"

/-- The words for no. -/
def noWords : List Text := ["0", "off", "f", "false", "n", "no"]

/-- The words for yes. -/
def yesWords : List Text := ["1", "on", "t", "true", "y", "yes"]

/-- What a word says, in any letter case of the basic letters. -/
def ofWord? (word : Text) : Option Bool :=
  let key := word.map CodePoint.lowerBasic
  if yesWords.contains key then some true
  else if noWords.contains key then some false
  else none

/-- The settings in an environment. -/
def read (environment : Environment) : Except Report Settings :=
  let techniquesFile := (environment.find? fileVariable).map Path.ofText
  match environment.find? legacyVariable with
  | none => .ok { techniquesFile, acceptLegacyTags := true }
  | some word =>
    match ofWord? word with
    | some acceptLegacyTags => .ok { techniquesFile, acceptLegacyTags }
    | none => .error ⟨some .settings, [⟨[.field "accept_legacy_tags"], .notBoolean⟩]⟩

end Settings
end ThreatMatrix
