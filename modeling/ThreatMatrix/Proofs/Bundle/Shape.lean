import ThreatMatrix.Proofs.Bundle.Building

/-!
# Bundles of the published shape

In a bundle of the published shape objects and references are records, and identifiers and names are
texts where there are any. Every access to such a bundle succeeds, so each object comes to one of
three things: it is kept, it is passed over, or its identifier has a line end behind it. The test
for identifiers lets such a line through and validation refuses it, which ends the building of the
table with a report of its own.
-/

namespace ThreatMatrix

/-! ## Lines -/

/-- The line of an identifier is refused as an identifier. -/
theorem Value.checkTechniqueId_line (id : TechniqueId) :
    (Value.text id.line).checkTechniqueId = .error .notTechniqueId := by
  have paired : id.line.any CodePoint.isSurrogate = false := by
    rw [TechniqueId.line, List.any_append, id.any_isSurrogate]
    rfl
  have isText : (Value.text id.line).checkText = .ok id.line := rfl
  have noId : TechniqueId.ofText? id.line = none := by
    rw [TechniqueId.ofText?, dif_neg (by simp [id.isTechniqueId_line])]
  rw [checkTechniqueId, isText, ok_bind, paired, if_neg Bool.false_ne_true, noId]

/-- A value that counts as a text is checked like that text. -/
theorem Value.checkTechniqueId_of_asText? {value : Value} {text : Text}
    (isText : value.asText? = some text) :
    value.checkTechniqueId = (Value.text text).checkTechniqueId := by
  cases value with
  | text content =>
    cases isText
    rfl
  | member named =>
    cases isText
    rfl
  | _ => cases isText

namespace Bundle

/-! ## The shape -/

/-- A value is a record. -/
def IsRecord (value : Value) : Prop :=
  ∃ fields, value = .record fields

/-- A value is null, or is or counts as a text. -/
def IsOptionalText (value : Value) : Prop :=
  value = .null ∨ ∃ text, value.asText? = some text

/-- A record with a field that lists values of a kind, if the field is there. -/
inductive Lists (kind : Value → Prop) (name : Text) : Value → Prop where
  | nothing {fields} (absent : fields.lookup name = none) : Lists kind name (.record fields)
  | items {fields items} (found : fields.lookup name = some (.list items))
      (each : ∀ item ∈ items, kind item) : Lists kind name (.record fields)

/-- A reference of the published shape. -/
structure IsReference (reference : Value) : Prop where
  record : IsRecord reference
  id : IsOptionalText (entry reference "external_id")

/-- An object of the published shape. -/
structure IsObject (object : Value) : Prop where
  references : Lists IsReference "external_references" object
  name : IsOptionalText (entry object "name")

/-- A bundle of the published shape. -/
def IsShaped (bundle : Value) : Prop :=
  Lists IsObject "objects" bundle

/-- A current attack pattern whose published identifier has a line end behind it. -/
def PublishesLine (object : Value) : Prop :=
  ∃ id : TechniqueId, publishes id.line object = true

/-- The report that refuses an identifier. -/
def lineReport : Report :=
  ⟨some .technique, [⟨[.field "id"], .notTechniqueId⟩]⟩

/-! ## Access -/

section

variable {kind : Value → Prop} {value object : Value} {name text : Text}

theorem Lists.isRecord (lists : Lists kind name value) : IsRecord value := by
  cases lists with
  | nothing absent => exact ⟨_, rfl⟩
  | items found each => exact ⟨_, rfl⟩

theorem Lists.fieldItems_eq (lists : Lists kind name value) :
    fieldItems value name = .ok (entries value name) := by
  cases lists with
  | nothing absent => simp [entries, fieldItems, Value.field?, absent]
  | items found each => simp [entries, fieldItems, Value.field?, found, Value.iterate]

theorem Lists.each (lists : Lists kind name value) : ∀ item ∈ entries value name, kind item := by
  cases lists with
  | nothing absent => simp [entries, fieldItems, Value.field?, absent]
  | items found each => simpa [entries, fieldItems, Value.field?, found, Value.iterate] using each

theorem IsObject.isRecord (isObject : IsObject object) : IsRecord object :=
  isObject.references.isRecord

theorem IsRecord.field_eq (isRecord : IsRecord value) (name : Text) :
    value.field name = .ok (entry value name) := by
  obtain ⟨fields, rfl⟩ := isRecord
  rfl

theorem IsRecord.fieldIs_eq (isRecord : IsRecord value) (name text : Text) :
    fieldIs value name text = .ok (states value name text) := by
  rw [fieldIs, isRecord.field_eq, ok_bind]
  rfl

theorem IsRecord.isWithdrawn_eq (isRecord : IsRecord object) : isWithdrawn object =
    .ok ((entry object "revoked").isPresent || (entry object "x_mitre_deprecated").isPresent) := by
  rw [isWithdrawn, isRecord.field_eq, ok_bind, isRecord.field_eq, ok_bind]
  cases (entry object "revoked").isPresent with
  | true => rfl
  | false => rfl

/-- The first reference to the publisher can be looked for. -/
theorem exists_firstReference {references : List Value}
    (shaped : ∀ reference ∈ references, IsReference reference) :
    ∃ value, firstReference references = .ok value ∧ IsOptionalText value := by
  induction references with
  | nil => exact ⟨.null, rfl, .inl rfl⟩
  | cons first more inductionHypothesis =>
    have isReference := shaped first List.mem_cons_self
    rw [firstReference, isReference.record.fieldIs_eq, ok_bind]
    cases states first "source_name" publisher with
    | true => exact ⟨_, isReference.record.field_eq _, isReference.id⟩
    | false =>
      exact inductionHypothesis fun reference member =>
        shaped reference (List.mem_cons_of_mem first member)

/-- The published identifier of an object can be looked up. -/
theorem IsObject.exists_externalId (isObject : IsObject object) : ∃ value,
    externalId object = .ok value ∧ IsOptionalText value ∧ value.asText? = publishedId? object := by
  obtain ⟨value, found, isText⟩ := exists_firstReference isObject.references.each
  have accessed : externalId object = .ok value := by
    rw [externalId, isObject.references.fieldItems_eq, ok_bind, found]
  exact ⟨value, accessed, isText, (externalId_eq_ok accessed).symm⟩

/-- What may be a text can be tested for an identifier. -/
theorem IsOptionalText.isIdLine_eq (isText : IsOptionalText value) :
    isIdLine value = .ok (value.asText?.any isTechniqueIdLine) := by
  rcases isText with rfl | ⟨text, isText⟩
  · rfl
  · unfold isIdLine
    split
    · next absent =>
      cases value with
      | text content =>
        have empty : content = [] := by simpa [Value.isPresent] using absent
        subst empty
        rfl
      | member named => cases absent
      | _ => cases isText
    · split
      · cases isText
      · rw [isText]
        rfl

/-- What may be a name can be stripped. -/
theorem IsObject.strippedName_eq (isObject : IsObject object) :
    strippedName object = .ok (.text (publishedName object)) := by
  rw [strippedName, isObject.isRecord.field_eq, ok_bind, publishedName]
  rcases isObject.name with isNull | ⟨text, isText⟩
  · rw [isNull]
    rfl
  · generalize entry object "name" = name at isText
    cases name with
    | text content =>
      cases content with
      | nil => rfl
      | cons first more => rfl
    | member named => rfl
    | _ => cases isText

/-- The version of a collection among records can be looked up. -/
theorem exists_collectionVersion {objects : List Value}
    (records : ∀ object ∈ objects, IsRecord object) :
    ∃ version, collectionVersion objects = .ok version := by
  induction objects with
  | nil => exact ⟨.null, rfl⟩
  | cons first more inductionHypothesis =>
    have isRecord := records first List.mem_cons_self
    rw [collectionVersion, isRecord.fieldIs_eq, ok_bind]
    cases states first "type" collectionType with
    | true => exact ⟨_, isRecord.field_eq _⟩
    | false =>
      exact inductionHypothesis fun object member =>
        records object (List.mem_cons_of_mem first member)

end

/-! ## Building -/

section

variable {object : Value} {objects : List Value}

/-- A record of an identifier and a name describes a technique. -/
theorem ofValue_of_text {id : TechniqueId} {value : Value} (isText : value.asText? = some id.text)
    (name : Text) :
    Technique.ofValue (.record [("id", value), ("name", .text name)]) = .ok ⟨id, name⟩ := by
  have isId : value.checkTechniqueId = .ok id := by
    rw [Value.checkTechniqueId_of_asText? isText, Technique.checkTechniqueId_text]
  have described : Technique.check (.record [("id", value), ("name", .text name)]) =
      .ok ⟨id, name⟩ :=
    Technique.check_eq_ok_iff.2 ⟨isId, rfl⟩
  rw [Technique.ofValue, described, mapError_ok]

/-- A record of a line and a name is refused for its line end. -/
theorem ofValue_of_line {id : TechniqueId} {value : Value} (isText : value.asText? = some id.line)
    (name : Text) :
    Technique.ofValue (.record [("id", value), ("name", .text name)]) = .error lineReport := by
  have refused : value.checkTechniqueId = .error .notTechniqueId := by
    rw [Value.checkTechniqueId_of_asText? isText, Value.checkTechniqueId_line]
  let fields : List (Text × Value) := [("id", value), ("name", .text name)]
  have foundId : fields.lookup ("id" : Text) = some value := rfl
  have isId : checkField fields "id" none (fun field => atOnce field.checkTechniqueId) =
      .error [⟨[.field "id"], .notTechniqueId⟩] := by
    unfold checkField
    rw [foundId]
    dsimp only
    rw [refused]
    rfl
  have isName : checkField fields "name" none (fun field => atOnce field.checkText) = .ok name :=
    rfl
  rw [Technique.ofValue, Technique.check, isId, isName]
  rfl

/-- What becomes of an attack pattern: it is refused if it publishes an identifier with a line end,
and else it is kept or passed over. -/
theorem technique?_eq (isObject : IsObject object)
    (pattern : states object "type" patternType = true) :
    (PublishesLine object ∧ technique? object = .error (.invalid lineReport)) ∨
      (¬PublishesLine object ∧ ∃ kept, technique? object = .ok kept) := by
  obtain ⟨value, accessed, isText, isId⟩ := isObject.exists_externalId
  rw [technique?, isObject.isRecord.isWithdrawn_eq, mapError_ok, ok_bind]
  cases withdrawn : (entry object "revoked").isPresent ||
      (entry object "x_mitre_deprecated").isPresent with
  | true =>
    have notCurrent : isCurrent object = false := by
      rw [isCurrent, Bool.and_assoc, ← Bool.not_or, withdrawn, Bool.not_true, Bool.and_false]
    refine .inr ⟨?_, none, rfl⟩
    rintro ⟨id, published⟩
    rw [publishes, notCurrent] at published
    cases published
  | false =>
    have current : isCurrent object = true := by
      rw [isCurrent, pattern, Bool.and_assoc, ← Bool.not_or, withdrawn]
      rfl
    have publishesLine : PublishesLine object ↔ ∃ id : TechniqueId,
        isTechniqueIdLine id.line = true ∧ value.asText? = some id.line := by
      simp only [PublishesLine, publishes, current, isId, Bool.true_and, Bool.and_eq_true,
        decide_eq_true_eq]
    rw [publishesLine, if_neg Bool.false_ne_true, accessed, mapError_ok, ok_bind,
      isText.isIdLine_eq, mapError_ok, ok_bind]
    cases isLine : value.asText?.any isTechniqueIdLine with
    | false =>
      refine .inr ⟨?_, none, rfl⟩
      rintro ⟨id, ended, published⟩
      rw [published, Option.any_some, ended] at isLine
      cases isLine
    | true =>
      obtain ⟨text, published, isLine⟩ := (Option.any_eq_true _ _).1 isLine
      rw [if_pos rfl, isObject.strippedName_eq, mapError_ok, ok_bind]
      -- What the test lets through is an identifier, which is kept, or its line, which is refused.
      obtain ⟨id, -, rfl | rfl⟩ := TechniqueId.isTechniqueIdLine_iff.1 isLine
      · refine .inr ⟨?_, some ⟨id, publishedName object⟩, ?_⟩
        · rintro ⟨other, -, isOther⟩
          have refused := other.isTechniqueId_line
          rw [← Option.some.inj (published.symm.trans isOther), id.wellFormed] at refused
          cases refused
        · rw [ofValue_of_text published, mapError_ok]
          rfl
      · refine .inl ⟨⟨id, isLine, published⟩, ?_⟩
        rw [ofValue_of_line published]
        rfl

/-- One object either refuses the bundle or is taken. -/
theorem gather_eq (isObject : IsObject object) (harvest : Harvest) :
    (PublishesLine object ∧ gather harvest object = .error (.invalid lineReport)) ∨
      (¬PublishesLine object ∧ ∃ next, gather harvest object = .ok next) := by
  rw [gather, isObject.isRecord.fieldIs_eq, mapError_ok, ok_bind]
  cases pattern : states object "type" patternType with
  | false =>
    refine .inr ⟨?_, harvest, rfl⟩
    rintro ⟨id, published⟩
    rw [publishes, isCurrent, pattern] at published
    cases published
  | true =>
    rw [if_pos rfl]
    rcases technique?_eq isObject pattern with ⟨isLine, refused⟩ | ⟨noLine, kept, isKept⟩
    · exact .inl ⟨isLine, by rw [refused, error_bind]⟩
    · refine .inr ⟨noLine, ?_⟩
      rw [isKept, ok_bind]
      cases kept with
      | none => exact ⟨_, rfl⟩
      | some technique => exact ⟨_, rfl⟩

/-- The objects of a bundle are gathered up to the first that publishes an identifier with a line
end. -/
theorem gathered_eq (shaped : ∀ object ∈ objects, IsObject object) (harvest : Harvest) :
    ((∃ object ∈ objects, PublishesLine object) ∧
        objects.foldlM gather harvest = .error (.invalid lineReport)) ∨
      ((∀ object ∈ objects, ¬PublishesLine object) ∧
        ∃ final, objects.foldlM gather harvest = .ok final) := by
  induction objects generalizing harvest with
  | nil => exact .inr ⟨nofun, harvest, rfl⟩
  | cons first more inductionHypothesis =>
    rw [List.foldlM_cons]
    rcases gather_eq (shaped first List.mem_cons_self) harvest with
      ⟨isLine, refused⟩ | ⟨noLine, next, gathered⟩
    · exact .inl ⟨⟨first, List.mem_cons_self, isLine⟩, by rw [refused, error_bind]⟩
    · rw [gathered, ok_bind]
      have others := inductionHypothesis
        (fun object member => shaped object (List.mem_cons_of_mem first member)) next
      rcases others with ⟨⟨object, member, isLine⟩, refused⟩ | ⟨noLines, final, ran⟩
      · exact .inl ⟨⟨object, List.mem_cons_of_mem first member, isLine⟩, refused⟩
      · refine .inr ⟨fun object member => ?_, final, ran⟩
        rcases List.mem_cons.1 member with rfl | later
        · exact noLine
        · exact noLines object later

/-- What becomes of a bundle: it is refused for the first identifier with a line end, and else it is
built into a table or refused as inconsistent. -/
theorem build_eq {bundle : Value} (shaped : IsShaped bundle) (domain : Value) :
    ((∃ object ∈ entries bundle "objects", PublishesLine object) ∧
        (build bundle domain).result = .error (.invalid lineReport)) ∨
      ((∀ object ∈ entries bundle "objects", ¬PublishesLine object) ∧
        ((∃ table, (build bundle domain).result = .ok table) ∨ ∃ report,
          (build bundle domain).result = .error (.bundleInconsistent (.invalid report)))) := by
  obtain ⟨version, isVersion⟩ :=
    exists_collectionVersion fun object member => (shaped.each object member).isRecord
  simp only [build, Outcome.result_bind, Outcome.result_ofExcept, Outcome.result_note,
    Outcome.result_pure, shaped.fieldItems_eq, isVersion, mapError_ok, ok_bind]
  rcases gathered_eq shaped.each ⟨[], 0⟩ with ⟨isLine, refused⟩ | ⟨noLines, harvest, ran⟩
  · exact .inl ⟨isLine, by rw [refused, error_bind]⟩
  · refine .inr ⟨noLines, ?_⟩
    rw [ran, ok_bind, harvest_of_gathered ran]
    cases isTable : tableOf domain version (keptTechniques (entries bundle "objects")) with
    | ok table =>
      refine .inl ⟨table.sorted, ?_⟩
      rw [mapError_ok, ok_bind, sort_of_tableOf isTable]
      rfl
    | error report => exact .inr ⟨report, rfl⟩

/-- Of the lines that pass the test for identifiers, validation refuses those that end with a line
end. -/
theorem exists_ofValue_iff {text : Text} (isLine : isIdLine (.text text) = .ok true) (name : Text) :
    (∃ technique, Technique.ofValue (.record [("id", .text text), ("name", .text name)]) =
      .ok technique) ↔ text.getLast? ≠ some '\n' := by
  have isText : IsOptionalText (.text text) := .inr ⟨text, rfl⟩
  rw [isText.isIdLine_eq, Except.ok.injEq] at isLine
  obtain ⟨id, -, rfl | rfl⟩ := TechniqueId.isTechniqueIdLine_iff.1 isLine
  · refine iff_of_true ⟨_, ofValue_of_text rfl name⟩ fun ended => ?_
    exact id.lineEnd_not_mem (List.mem_of_getLast? ended)
  · refine iff_of_false ?_ fun apart => apart List.getLast?_concat
    rintro ⟨technique, described⟩
    rw [ofValue_of_line rfl] at described
    cases described

end

/-- A bundle of the published shape is built into a table or refused as inconsistent exactly if no
current attack pattern publishes an identifier with a line end behind it; else the building ends
with the report on that identifier. Of the lines that pass the test for identifiers, validation
refuses those that end with a line end. -/
theorem build_of_isShaped {bundle : Value} (shaped : IsShaped bundle) (domain : Value) :
    (((∃ table, (build bundle domain).result = .ok table) ∨
        ∃ report, (build bundle domain).result = .error (.bundleInconsistent (.invalid report))) ↔
      ∀ object ∈ entries bundle "objects", ¬PublishesLine object) ∧
    ((∃ object ∈ entries bundle "objects", PublishesLine object) →
      (build bundle domain).result = .error (.invalid lineReport)) ∧
    ∀ text name, isIdLine (.text text) = .ok true →
      ((∃ technique, Technique.ofValue (.record [("id", .text text), ("name", .text name)]) =
        .ok technique) ↔ text.getLast? ≠ some '\n') := by
  rw [← and_assoc]
  refine ⟨?_, fun text name isLine => exists_ofValue_iff isLine name⟩
  rcases build_eq shaped domain with ⟨⟨object, member, isLine⟩, refused⟩ | ⟨noLines, told⟩
  · refine ⟨iff_of_false ?_ fun noLines => noLines object member isLine, fun _ => refused⟩
    rw [refused]
    rintro (⟨table, isTable⟩ | ⟨report, isReport⟩)
    · cases isTable
    · cases isReport
  · refine ⟨iff_of_true told noLines, ?_⟩
    rintro ⟨object, member, isLine⟩
    exact absurd isLine (noLines object member)

/-- A bundle of one attack pattern with a published identifier. -/
def single (id : Text) : Value :=
  .record [("type", .text "bundle"), ("objects", .list [.record [("type", .text patternType),
    ("name", .text "OS Credential Dumping"), ("external_references", .list [.record
      [("source_name", .text publisher), ("external_id", .text id)]])]])]

/-- It has the published shape, whatever the identifier is. -/
theorem isShaped_single (id : Text) : IsShaped (single id) := by
  refine .items rfl fun object member => ?_
  rw [List.mem_singleton] at member
  subst member
  refine ⟨.items rfl fun reference member => ?_, .inr ⟨_, rfl⟩⟩
  rw [List.mem_singleton] at member
  subst member
  exact ⟨⟨_, rfl⟩, .inr ⟨_, rfl⟩⟩

/-- A bundle of one technique is built, or its rows are told as a fault of the bundle: no line end
stands behind its identifier. -/
theorem build_of_isShaped_single : IsShaped (single "T1003") ∧
    ((∃ table, (build (single "T1003") (.text "enterprise-attack")).result = .ok table) ∨
      ∃ report, (build (single "T1003") (.text "enterprise-attack")).result =
        .error (.bundleInconsistent (.invalid report))) := by
  have shaped := isShaped_single "T1003"
  refine ⟨shaped, (build_of_isShaped shaped (.text "enterprise-attack")).1.2 ?_⟩
  rintro object member ⟨id, published⟩
  obtain rfl : object = _ := List.mem_singleton.1 member
  have same : some ("T1003" : Text) = some id.line :=
    of_decide_eq_true (Bool.and_eq_true_iff.1 published).2
  have ended : ('\n' : CodePoint) ∈ id.line := List.mem_append_right id.text List.mem_cons_self
  rw [← Option.some.inj same] at ended
  exact absurd ended (by decide)

/-- An identifier with a line end behind it passes the test for identifiers and ends the building
with a report that is not told as a fault of the bundle. -/
theorem build_single_line : IsShaped (single "T1003\n") ∧
    isIdLine (.text "T1003\n") = .ok true ∧
      (build (single "T1003\n") (.text "enterprise-attack")).result =
        .error (.invalid lineReport) :=
  ⟨isShaped_single "T1003\n", rfl, rfl⟩

end Bundle
end ThreatMatrix
