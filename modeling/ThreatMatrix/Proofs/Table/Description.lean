import Mathlib.Data.List.Nodup
import ThreatMatrix.Proofs.Table.Reordering

/-!
# Documents that describe tables

What a document has to say to be taken for a table. Of every field only the last of its name counts,
other fields are passed over, and texts may hold anything. The rows that a document describes are
those of a table if they are consistent with each other.
-/

namespace ThreatMatrix

/-! ## Documents -/

namespace Json

/-- A field gives what its value means, or it is absent and gives what stands by default. -/
inductive Gives {α : Type} (document : Json) (name : Text) (default : α) (means : Json → α → Prop)
    (meant : α) : Prop where
  | present {item : Json} (found : document.field? name = some item) (isMeant : means item meant)
  | absent (missing : document.field? name = none) (isDefault : meant = default)

/-- An object that describes a technique. -/
structure DescribesTechnique (document : Json) (technique : Technique) : Prop where
  id : document.field? "id" = some (.text technique.id.text)
  name : document.field? "name" = some (.text technique.name)

/-- An array of objects that describe techniques. -/
inductive ListsTechniques : Json → List Technique → Prop where
  | array {items : List Json} {rows : List Technique}
      (describe : List.Forall₂ DescribesTechnique items rows) : ListsTechniques (.array items) rows

/-- An object that describes the domain, the version and the rows of a table. -/
structure DescribesTable (document : Json) (domain : Text) (version : Option Text)
    (rows : List Technique) : Prop where
  isObject : ∃ fields, document = .object fields
  domain : document.Gives "domain" Table.defaultDomain (fun item meant => item = .text meant) domain
  version : document.Gives "attack_version" none (fun item meant => item = .ofText? meant) version
  techniques : document.Gives "techniques" [] ListsTechniques rows

end Json

/-! ## Validation of documents -/

section

variable {document : Json}

namespace Value

/-- Of documents only texts count as texts. -/
theorem checkText_ofJson {text : Text} :
    (ofJson document).checkText = .ok text ↔ document = .text text := by
  cases document with
  | text other => simp [ofJson, checkText, asText?]
  | _ => simp [ofJson, checkText, asText?]

/-- A document is the identifier that it is the text of. -/
theorem checkTechniqueId_ofJson {id : TechniqueId} :
    (ofJson document).checkTechniqueId = .ok id ↔ document = .text id.text := by
  constructor
  · intro isId
    obtain ⟨text, isText, isId⟩ := bind_eq_ok_iff.1 isId
    rw [checkText_ofJson] at isText
    split at isId
    · cases isId
    · split at isId
      · next found isFound =>
        cases isId
        rw [isText, TechniqueId.ofText?_eq_some_iff.1 isFound]
      · cases isId
  · rintro rfl
    exact Technique.checkTechniqueId_text id

end Value

/-- A field that has no default has to be there. -/
theorem checkField_ofFields_iff {α : Type} {fields : List (Text × Json)} {name : Text}
    {check : Value → Except (List Issue) α} {result : α} :
    checkField (Value.mergeFields (Value.ofFields fields)) name none check = .ok result ↔
      ∃ item, (Json.object fields).field? name = some item ∧ check (.ofJson item) = .ok result := by
  unfold checkField
  rw [Value.lookup_ofFields]
  cases (Json.object fields).field? name with
  | none => simp
  | some item => simp [mapError_eq_ok_iff]

/-- A field that has a default passes for what it gives. -/
theorem checkField_gives_iff {α : Type} {fields : List (Text × Json)} {name : Text} {default : α}
    {check : Value → Except (List Issue) α} {means : Json → α → Prop} {result : α}
    (isMeant : ∀ item meant, check (.ofJson item) = .ok meant ↔ means item meant) :
    checkField (Value.mergeFields (Value.ofFields fields)) name (some default) check = .ok result ↔
      (Json.object fields).Gives name default means result := by
  unfold checkField
  rw [Value.lookup_ofFields]
  cases found : (Json.object fields).field? name with
  | none =>
    constructor
    · intro isDefault
      cases isDefault
      exact .absent found rfl
    · intro gives
      cases gives with
      | present present _ =>
        rw [found] at present
        cases present
      | absent _ isDefault => rw [isDefault]; rfl
  | some item =>
    rw [Option.map_some, mapError_eq_ok_iff, isMeant]
    constructor
    · exact .present found
    · intro gives
      cases gives with
      | present present isMeant =>
        rw [found] at present
        cases present
        exact isMeant
      | absent missing _ =>
        rw [found] at missing
        cases missing

/-- A document passes as a technique exactly if it describes the technique. -/
theorem Technique.check_ofJson {technique : Technique} :
    check (.ofJson document) = .ok technique ↔ document.DescribesTechnique technique := by
  cases document with
  | object fields =>
    rw [Value.ofJson, check, bind_eq_ok_iff]
    simp only [Prod.exists, bothChecked_eq_ok_iff, checkField_ofFields_iff, atOnce_eq_ok_iff,
      Value.checkTechniqueId_ofJson, Value.checkText_ofJson]
    constructor
    · rintro ⟨id, name, ⟨⟨_, foundId, rfl⟩, _, foundName, rfl⟩, made⟩
      cases made
      exact ⟨foundId, foundName⟩
    · intro describes
      exact ⟨technique.id, technique.name,
        ⟨⟨_, describes.id, rfl⟩, _, describes.name, rfl⟩, rfl⟩
  | _ =>
    constructor
    · intro isTechnique
      cases isTechnique
    · intro describes
      cases describes.id

namespace Table

/-- A document passes as a version exactly if it is the version, or null where there is none. -/
theorem checkVersion_ofJson {version : Option Text} :
    checkVersion (.ofJson document) = .ok version ↔ document = .ofText? version := by
  by_cases isNull : document = .null
  · rw [isNull]
    cases version with
    | none => simp [Value.ofJson, checkVersion, Json.ofText?]
    | some text => simp [Value.ofJson, checkVersion, Json.ofText?]
  · have asText : checkVersion (.ofJson document) = (Value.ofJson document).checkText.map some := by
      cases document with
      | null => exact absurd rfl isNull
      | _ => rfl
    rw [asText]
    cases version with
    | none =>
      rw [Json.ofText?, iff_false_right isNull]
      cases (Value.ofJson document).checkText with
      | error complaint => simp [Except.map]
      | ok text => simp [Except.map]
    | some text =>
      rw [Json.ofText?, ← Value.checkText_ofJson]
      cases (Value.ofJson document).checkText with
      | error complaint => simp [Except.map]
      | ok other => simp [Except.map]

/-- A document passes as rows exactly if it lists the techniques. -/
theorem checkTechniques_ofJson {rows : List Technique} :
    checkTechniques (.ofJson document) = .ok rows ↔ document.ListsTechniques rows := by
  cases document with
  | array items =>
    rw [Value.ofJson, checkTechniques, Value.ofItems_eq_map, checkItems_eq_ok_iff,
      List.forall₂_map_left_iff]
    simp only [Technique.check_ofJson]
    constructor
    · exact .array
    · rintro ⟨describe⟩
      exact describe
  | _ =>
    constructor
    · intro passes
      cases passes
    · intro lists
      cases lists

/-- A document passes as a table exactly if it describes the rows of the table. -/
theorem check_ofJson {table : Table} :
    check (.ofJson document) = .ok table ↔
      document.DescribesTable table.domain table.version table.techniques := by
  cases document with
  | object fields =>
    have isText : ∀ item meant, atOnce (Value.ofJson item).checkText = .ok meant ↔
        item = .text meant := fun _ _ => atOnce_eq_ok_iff.trans Value.checkText_ofJson
    have isVersion : ∀ item meant, atOnce (checkVersion (.ofJson item)) = .ok meant ↔
        item = .ofText? meant := fun _ _ => atOnce_eq_ok_iff.trans checkVersion_ofJson
    rw [Value.ofJson, check_record_eq_ok_iff,
      checkField_gives_iff isText, checkField_gives_iff isVersion,
      checkField_gives_iff fun _ _ => checkTechniques_ofJson]
    constructor
    · rintro ⟨domain, version, techniques⟩
      exact ⟨⟨fields, rfl⟩, domain, version, techniques⟩
    · intro describes
      exact ⟨describes.domain, describes.version, describes.techniques⟩
  | _ =>
    constructor
    · intro passes
      cases passes
    · intro describes
      obtain ⟨fields, isObject⟩ := describes.isObject
      cases isObject

/-! ## Consistent rows -/

/-- Rows that make up a table: no identifier stands twice, and the technique of every sub-technique
has a row. -/
structure AreConsistent (rows : List Technique) : Prop where
  distinct : (rows.map (·.id.text)).Nodup
  parented : ∀ row ∈ rows, ∀ parent, row.id.parentText? = some parent →
    parent ∈ rows.map (·.id.text)

/-- The rows of a table are consistent. -/
theorem areConsistent (table : Table) : AreConsistent table.techniques where
  distinct := nodup_of_ids table.distinct (·.text) TechniqueId.eq_of_text
  parented := table.parented

/-- The table of consistent rows. -/
def ofConsistent (domain : Text) (version : Option Text) {rows : List Technique}
    (consistent : AreConsistent rows) : Table where
  domain := domain
  version := version
  techniques := rows
  distinct := by
    have distinct : ((rows.map (·.id)).map (·.text)).Nodup := by
      rw [List.map_map]
      exact consistent.distinct
    exact List.Nodup.of_map _ distinct
  parented := consistent.parented

end Table

end

end ThreatMatrix
