import ThreatMatrix.Catalog.Constants
import ThreatMatrix.Coverage.Validation
import ThreatMatrix.Settings
import ThreatMatrix.Table.File

/-!
# Sessions

What one run of the library has around it: the files, the environment, the settings as far as they
were read, and the catalog. The catalog is chosen when the session begins and stays. Settings are
read when something first needs them and then kept until they are dropped.
-/

namespace ThreatMatrix

/-- The state of a run. -/
structure Session where
  files : Tree
  environment : Environment
  /-- The settings that were read last and are still kept. -/
  kept : Option Settings
  catalog : Catalog

namespace Session

/-- The catalog of the packaged table. -/
def packagedCatalog : Catalog := .ofTable Table.packaged

/-- A session with the packaged catalog, in which no settings were read. -/
def packaged (files : Tree) (environment : Environment) : Session :=
  { files, environment, kept := none, catalog := packagedCatalog }

/-- The packaged catalog has the techniques of the packaged table. -/
theorem techniques_packagedCatalog : packagedCatalog.techniques = Table.packaged.techniques := by
  rw [packagedCatalog, Catalog.techniques_ofTable]

theorem catalog_packaged (files : Tree) (environment : Environment) :
    (packaged files environment).catalog = packagedCatalog := by
  rw [packaged]

/-- The identifiers that every catalog must hold, as they are offered to the loader. -/
def requiredIds : Value :=
  .tuple (Constants.required.map .text)

/-- A session as it begins: settings are read and kept, and the catalog comes from the table that
they name. -/
def start (room : Nat) (files : Tree) (environment : Environment) : Outcome Session := do
  let settings ← .ofExcept ((Settings.read environment).mapError .invalid)
  let table ← Table.load? room files settings.techniquesFile requiredIds
  let catalog ← .ofExcept (Catalog.build table)
  return { files, environment, kept := some settings, catalog }

/-- The settings in force: those that are kept, or else those in the environment. -/
def settings (session : Session) : Except Report Settings :=
  match session.kept with
  | some kept => .ok kept
  | none => Settings.read session.environment

/-- The session after its settings were looked at. -/
def keepSettings (session : Session) : Session :=
  match session.settings with
  | .ok found => { session with kept := some found }
  | .error _ => session

/-- The session after its settings were dropped. -/
def dropSettings (session : Session) : Session :=
  { session with kept := none }

/-- The session with a variable set, or removed where no value is given. -/
def setVariable (session : Session) (name : Text) (value : Option Text) : Session :=
  { session with
    environment := match value with
      | some value => session.environment.assign name value
      | none => session.environment.remove name }

/-- The coverage that a value describes. The settings are kept if they were looked at. -/
def validateCoverage (session : Session) (value : Value) : Session × Except Report Coverage :=
  (if Coverage.consultsSettings value then session.keepSettings else session,
    Coverage.ofValue session.catalog session.settings value)

/-- The coverage that a document describes. The settings are kept if they were looked at. -/
def validateCoverageText (session : Session) (text : Text) : Session × Except Report Coverage :=
  let consults := match Coverage.offered text with
    | .ok value => Coverage.consultsSettings value
    | .error _ => false
  (if consults then session.keepSettings else session,
    Coverage.ofJsonText session.catalog session.settings text)

/-- The technique that a value offers. The settings are kept if they were looked at. -/
def validateTechnique (session : Session) (value : Value) :
    Session × Except (List Issue) Technique :=
  (if (Coverage.lowLine? value).isSome then session.keepSettings else session,
    Coverage.checkTechnique session.catalog session.settings value)

end Session
end ThreatMatrix
