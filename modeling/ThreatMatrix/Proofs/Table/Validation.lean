import ThreatMatrix.Proofs.Text.Utf8
import ThreatMatrix.Steps
import ThreatMatrix.Table.File
import ThreatMatrix.Technique.Form

/-!
# Written tables validated

The document that a table is written as describes that table: validation finds every row as it was,
and the rules that rows must keep are those that the rows of a table keep already.
-/

namespace ThreatMatrix

/-- Fields of distinct names are those of a record, in their order. -/
theorem Value.mergeFields_of_nodup {α : Type} {fields : List (Text × α)}
    (distinct : (fields.map Prod.fst).Nodup) : mergeFields fields = fields :=
  Keyed.foldl_put_of_nodup distinct

/-- The items of an array stand for their values one by one. -/
theorem Value.ofItems_eq_map (items : List Json) : ofItems items = items.map ofJson := by
  induction items with
  | nil => rfl
  | cons item more inductionHypothesis => rw [ofItems, inductionHypothesis, List.map_cons]

/-- Items that pass a check one by one pass it together. -/
theorem checkItems_map {α β : Type} {check : α → Except (List Issue) β} {offer : β → α}
    {items : List β} (passes : ∀ item ∈ items, check (offer item) = .ok item) (index : Nat) :
    checkItems check index (items.map offer) = .ok items := by
  induction items generalizing index with
  | nil => rfl
  | cons first more inductionHypothesis =>
    have others := inductionHypothesis fun item member =>
      passes item (List.mem_cons_of_mem first member)
    rw [List.map_cons, checkItems, passes first List.mem_cons_self, others]

/-- A field that is there passes exactly if its value passes the check. -/
theorem checkField_eq_ok_iff {α : Type} {fields : List (Text × Value)} {name : Text} {value : Value}
    {default : Option α} {check : Value → Except (List Issue) α} {result : α}
    (found : fields.lookup name = some value) :
    checkField fields name default check = .ok result ↔ check value = .ok result := by
  unfold checkField
  rw [found]
  exact mapError_eq_ok_iff

/-- Two parts pass exactly if both do. -/
theorem bothChecked_eq_ok_iff {α β : Type} {left : Except (List Issue) α}
    {right : Except (List Issue) β} {first : α} {second : β} :
    bothChecked left right = .ok (first, second) ↔ left = .ok first ∧ right = .ok second := by
  cases left with
  | error issues =>
    cases right with
    | error further => simp [bothChecked]
    | ok other => simp [bothChecked]
  | ok other =>
    cases right with
    | error issues => simp [bothChecked]
    | ok another => simp [bothChecked]

/-- A check of a single value reports only what it complains about. -/
theorem atOnce_eq_ok_iff {α : Type} {result : Except Complaint α} {value : α} :
    atOnce result = .ok value ↔ result = .ok value :=
  mapError_eq_ok_iff

/-- Identifiers hold no halves of pairs. -/
theorem TechniqueId.any_isSurrogate (id : TechniqueId) :
    id.text.any CodePoint.isSurrogate = false := by
  obtain ⟨rest, isText, marks⟩ := id.text_eq_cons
  rw [isText, List.any_eq_false]
  intro c member
  rw [Bool.not_eq_true]
  rcases List.mem_cons.1 member with rfl | behind
  · decide
  · rcases marks c behind with rfl | digit
    · decide
    · exact CodePoint.isSurrogate_of_isDigit digit

/-- Identifiers are whole texts. -/
theorem TechniqueId.isWhole_text (id : TechniqueId) : id.text.isWhole = true := by
  rw [Text.isWhole, id.any_isSurrogate]
  rfl

namespace Technique

/-- The value that the document of a technique stands for. -/
theorem ofJson_toJson (technique : Technique) :
    Value.ofJson technique.toJson =
      .record [("id", .text technique.id.text), ("name", .text technique.name)] := by
  have distinct : [("id" : Text), "name"].Nodup := by decide
  rw [toJson, Value.ofJson, Value.ofFields, Value.ofFields, Value.ofFields, Value.ofJson,
    Value.ofJson, Value.mergeFields_of_nodup]
  exact distinct

/-- A technique is described by its identifier and its name. -/
theorem check_eq_ok_iff {id name : Value} {technique : Technique} :
    check (.record [("id", id), ("name", name)]) = .ok technique ↔
      id.checkTechniqueId = .ok technique.id ∧ name.checkText = .ok technique.name := by
  let fields : List (Text × Value) := [("id", id), ("name", name)]
  have foundId : fields.lookup ("id" : Text) = some id := rfl
  have foundName : fields.lookup ("name" : Text) = some name := rfl
  rw [check, bind_eq_ok_iff, ← atOnce_eq_ok_iff, ← atOnce_eq_ok_iff]
  constructor
  · rintro ⟨⟨isId, isName⟩, both, made⟩
    cases made
    obtain ⟨passesId, passesName⟩ := bothChecked_eq_ok_iff.1 both
    exact ⟨(checkField_eq_ok_iff foundId).1 passesId, (checkField_eq_ok_iff foundName).1 passesName⟩
  · rintro ⟨passesId, passesName⟩
    exact ⟨(technique.id, technique.name), bothChecked_eq_ok_iff.2
      ⟨(checkField_eq_ok_iff foundId).2 passesId, (checkField_eq_ok_iff foundName).2 passesName⟩, rfl⟩

/-- The text of an identifier is that identifier. -/
theorem checkTechniqueId_text (id : TechniqueId) :
    (Value.text id.text).checkTechniqueId = .ok id := by
  have isId : TechniqueId.ofText? id.text = some id := TechniqueId.ofText?_eq_some_iff.2 rfl
  have isText : (Value.text id.text).checkText = .ok id.text := rfl
  rw [Value.checkTechniqueId, isText, ok_bind, id.any_isSurrogate, if_neg Bool.false_ne_true, isId]

/-- The document of a technique describes that technique. -/
theorem check_toJson (technique : Technique) :
    check (.ofJson technique.toJson) = .ok technique := by
  rw [ofJson_toJson]
  exact check_eq_ok_iff.2 ⟨checkTechniqueId_text technique.id, rfl⟩

end Technique

namespace Table

variable {domain : Text} {version : Option Text} {techniques : List Technique} {table : Table}

theorem firstRepeated?_of_nodup {earlier ids : List TechniqueId} (distinct : ids.Nodup)
    (apart : ∀ id ∈ ids, id ∉ earlier) : firstRepeated? earlier ids = none := by
  induction ids generalizing earlier with
  | nil => rfl
  | cons id more inductionHypothesis =>
    rw [List.nodup_cons] at distinct
    rw [firstRepeated?, if_neg (apart id List.mem_cons_self)]
    refine inductionHypothesis distinct.2 fun other member => ?_
    rw [List.mem_cons, not_or]
    refine ⟨?_, apart other (List.mem_cons_of_mem id member)⟩
    rintro rfl
    exact distinct.1 member

/-- Rows make up a table exactly if they are the rows of a table. -/
theorem ofRows_eq_ok_iff : ofRows domain version techniques = .ok table ↔
    table.domain = domain ∧ table.version = version ∧ table.techniques = techniques := by
  constructor
  · intro isTable
    unfold ofRows at isTable
    dsimp only at isTable
    split at isTable
    · cases isTable
    split at isTable
    · cases isTable
    · cases isTable
      exact ⟨rfl, rfl, rfl⟩
  · rintro ⟨rfl, rfl, rfl⟩
    have unrepeated : firstRepeated? [] (table.techniques.map (·.id)) = none :=
      firstRepeated?_of_nodup table.distinct fun _ _ => List.not_mem_nil
    have complete : orphans (table.techniques.map (·.id)) = [] := by
      rw [orphans, List.filter_eq_nil_iff]
      intro id member
      obtain ⟨technique, inTable, rfl⟩ := List.mem_map.1 member
      unfold isOrphan
      cases isParent : technique.id.parentText? with
      | none => simp
      | some parent => simpa using table.parented technique inTable parent isParent
    unfold ofRows
    dsimp only
    split
    · next repeated => rw [unrepeated] at repeated; cases repeated
    split
    · next orphaned => rw [complete] at orphaned; cases orphaned
    · rfl

/-- Rows of distinct identifiers make up a table exactly if no technique is missing. -/
theorem ofRows_of_nodup (distinct : (techniques.map (·.id)).Nodup) :
    (orphans (techniques.map (·.id)) = [] → ∃ table, ofRows domain version techniques = .ok table) ∧
      (orphans (techniques.map (·.id)) ≠ [] → ofRows domain version techniques =
        .error (.orphans (orphans (techniques.map (·.id))))) := by
  have unrepeated : firstRepeated? [] (techniques.map (·.id)) = none :=
    firstRepeated?_of_nodup distinct fun _ _ => List.not_mem_nil
  unfold ofRows
  dsimp only
  split
  · next repeated =>
    rw [unrepeated] at repeated
    cases repeated
  split
  · next orphaned => exact ⟨fun none => by simp [orphaned] at none, fun _ => by rw [orphaned]⟩
  · next complete => exact ⟨fun _ => ⟨_, rfl⟩, fun some => absurd complete some⟩

/-- The values of written rows. -/
theorem ofItems_toJson (techniques : List Technique) :
    Value.ofItems (techniques.map Technique.toJson) =
      techniques.map fun technique => Value.ofJson technique.toJson := by
  rw [Value.ofItems_eq_map, List.map_map]
  rfl

/-- The value that the document of a table stands for. -/
theorem ofJson_toJson (table : Table) :
    Value.ofJson table.toJson = .record [("domain", .text table.domain),
      ("attack_version", .ofJson (.ofText? table.version)),
      ("techniques", .list (table.techniques.map fun technique => .ofJson technique.toJson))] := by
  have distinct : [("domain" : Text), "attack_version", "techniques"].Nodup := by decide
  rw [toJson, Value.ofJson, Value.ofFields, Value.ofFields, Value.ofFields, Value.ofFields,
    Value.ofJson, Value.ofJson, ofItems_toJson, Value.mergeFields_of_nodup]
  exact distinct

/-- A record describes a table exactly if what stands in its three fields describes the parts. -/
theorem check_record_eq_ok_iff {fields : List (Text × Value)} {table : Table} :
    check (.record fields) = .ok table ↔
      checkField fields "domain" (some defaultDomain) (fun field => atOnce field.checkText) =
          .ok table.domain ∧
        checkField fields "attack_version" (some none) (fun field => atOnce (checkVersion field)) =
          .ok table.version ∧
        checkField fields "techniques" (some []) checkTechniques = .ok table.techniques := by
  rw [check, bind_eq_ok_iff]
  constructor
  · rintro ⟨⟨isDomain, isVersion, rows⟩, both, made⟩
    obtain ⟨passesDomain, both⟩ := bothChecked_eq_ok_iff.1 both
    obtain ⟨passesVersion, passesTechniques⟩ := bothChecked_eq_ok_iff.1 both
    obtain ⟨rfl, rfl, rfl⟩ := ofRows_eq_ok_iff.1 (mapError_eq_ok_iff.1 (atOnce_eq_ok_iff.1 made))
    exact ⟨passesDomain, passesVersion, passesTechniques⟩
  · rintro ⟨passesDomain, passesVersion, passesTechniques⟩
    refine ⟨(table.domain, table.version, table.techniques), bothChecked_eq_ok_iff.2
      ⟨passesDomain, bothChecked_eq_ok_iff.2 ⟨passesVersion, passesTechniques⟩⟩, ?_⟩
    exact atOnce_eq_ok_iff.2 (mapError_eq_ok_iff.2 (ofRows_eq_ok_iff.2 ⟨rfl, rfl, rfl⟩))

/-- A table is described by its domain, its version and its rows. -/
theorem check_eq_ok_iff {domain version techniques : Value} {table : Table} :
    check (.record [("domain", domain), ("attack_version", version),
        ("techniques", techniques)]) = .ok table ↔
      domain.checkText = .ok table.domain ∧ checkVersion version = .ok table.version ∧
        checkTechniques techniques = .ok table.techniques := by
  let fields : List (Text × Value) :=
    [("domain", domain), ("attack_version", version), ("techniques", techniques)]
  have foundDomain : fields.lookup ("domain" : Text) = some domain := rfl
  have foundVersion : fields.lookup ("attack_version" : Text) = some version := rfl
  have foundTechniques : fields.lookup ("techniques" : Text) = some techniques := rfl
  rw [check_record_eq_ok_iff, checkField_eq_ok_iff foundDomain, checkField_eq_ok_iff foundVersion,
    checkField_eq_ok_iff foundTechniques, atOnce_eq_ok_iff, atOnce_eq_ok_iff]

/-- The document of a table describes that table. -/
theorem check_toJson (table : Table) : check (.ofJson table.toJson) = .ok table := by
  rw [ofJson_toJson]
  refine check_eq_ok_iff.2 ⟨rfl, ?_, checkItems_map (fun row _ => row.check_toJson) 0⟩
  cases table.version with
  | none => rfl
  | some version => rfl

/-- The document of a table describes that table, whoever asks. -/
theorem ofValue_toJson (table : Table) : ofValue (.ofJson table.toJson) = .ok table := by
  rw [ofValue, check_toJson, mapError_ok]

end Table
end ThreatMatrix
