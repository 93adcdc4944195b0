import ThreatMatrix.Proofs.Bundle.Influence
import ThreatMatrix.Proofs.Table.Arrangement
import ThreatMatrix.Proofs.Table.Description

/-!
# What is built and what is refused

A table that is built from a bundle holds the techniques that the bundle's objects keep, in the
order of their numbers. Where every attack pattern can be converted and the labels are texts, only a
missing technique keeps a bundle from being a table, and the refusal blames every sub-technique that
lacks one.
-/

namespace ThreatMatrix.Bundle

/-! ## Building -/

section

variable {bundle domain version : Value} {objects : List Value} {techniques : List Technique}
  {table : Table}

/-- Validation of the labels gives the domain and the version as they were read. -/
theorem labels_of_tableOf (isTable : tableOf domain version techniques = .ok table) :
    domain.checkText = .ok table.domain ∧ Table.checkVersion version = .ok table.version := by
  obtain ⟨⟨isDomain, isVersion⟩, labels, made⟩ := bind_eq_ok_iff.1 (mapError_eq_ok_iff.1 isTable)
  obtain ⟨domainPasses, versionPasses⟩ := bothChecked_eq_ok_iff.1 labels
  obtain ⟨rfl, rfl, -⟩ :=
    Table.ofRows_eq_ok_iff.1 (mapError_eq_ok_iff.1 (atOnce_eq_ok_iff.1 made))
  exact ⟨atOnce_eq_ok_iff.1 (mapError_eq_ok_iff.1 domainPasses),
    atOnce_eq_ok_iff.1 (mapError_eq_ok_iff.1 versionPasses)⟩

/-- What a bundle is built into once its objects and their version were read. -/
theorem build_of_gathered (items : fieldItems bundle "objects" = .ok objects)
    (gathered : objects.foldlM gather ⟨[], 0⟩ =
      .ok ⟨keptTechniques objects, objects.countP isPassedOver⟩)
    (isVersion : collectionVersion objects = .ok version) :
    build bundle domain = match tableOf domain version (keptTechniques objects) with
      | .ok rows => ⟨[.built domain.plain rows.sorted.version rows.sorted.techniques.length
          (objects.countP isPassedOver)], .ok rows.sorted⟩
      | .error report => .fail (.bundleInconsistent (.invalid report)) := by
  rw [build, items, mapError_ok, Outcome.ofExcept_ok_bind, gathered, Outcome.ofExcept_ok_bind,
    isVersion, mapError_ok, Outcome.ofExcept_ok_bind]
  cases isTable : tableOf domain version (keptTechniques objects) with
  | ok rows =>
    rw [mapError_ok, Outcome.ofExcept_ok_bind, sort_of_tableOf isTable]
    rfl
  | error report => rfl

/-- The steps of a building that gave a table. -/
theorem built_eq_ok (built : (build bundle domain).result = .ok table) :
    ∃ objects rows, fieldItems bundle "objects" = .ok objects ∧
      objects.foldlM gather ⟨[], 0⟩ = .ok ⟨keptTechniques objects, objects.countP isPassedOver⟩ ∧
      tableOf domain (firstVersion objects) (keptTechniques objects) = .ok rows ∧
      rows.sorted = table ∧ (build bundle domain).notes =
        [.built domain.plain table.version table.techniques.length
          (objects.countP isPassedOver)] := by
  have whole := built
  simp only [build, Outcome.result_bind, Outcome.result_ofExcept, Outcome.result_note,
    Outcome.result_pure, ok_bind] at built
  obtain ⟨objects, items, built⟩ := bind_eq_ok_iff.1 built
  obtain ⟨harvest, gathered, built⟩ := bind_eq_ok_iff.1 built
  obtain ⟨version, isVersion, built⟩ := bind_eq_ok_iff.1 built
  obtain ⟨rows, isTable, built⟩ := bind_eq_ok_iff.1 built
  have isItems := mapError_eq_ok_iff.1 items
  have isFirst := mapError_eq_ok_iff.1 isVersion
  have isRows := mapError_eq_ok_iff.1 isTable
  obtain rfl := harvest_of_gathered gathered
  rw [build_of_gathered isItems gathered isFirst, isRows] at whole ⊢
  obtain rfl := collectionVersion_eq_ok isFirst
  obtain rfl := Except.ok.inj whole
  exact ⟨objects, rows, isItems, gathered, isRows, rfl, rfl⟩

/-- Bundles of records are built into the same if the objects that are of account say the same. -/
theorem build_of_saysSame {other : Value} {others : List Value}
    (items : fieldItems bundle "objects" = .ok objects)
    (records : ∀ object ∈ objects, IsRecord object)
    (otherItems : fieldItems other "objects" = .ok others)
    (otherRecords : ∀ object ∈ others, IsRecord object)
    (same : List.Forall₂ SaysSame (objects.filter concerns) (others.filter concerns)) :
    build other domain = build bundle domain := by
  have patterns : ∀ object, isPattern object = true → concerns object = true :=
    fun object pattern => Bool.or_eq_true_iff.2 (.inl pattern)
  have gathered : objects.foldlM gather ⟨[], 0⟩ = others.foldlM gather ⟨[], 0⟩ := by
    rw [← gathered_filter records patterns, ← gathered_filter otherRecords patterns]
    exact gathered_of_saysSame same
  have versioned : collectionVersion objects = collectionVersion others := by
    rw [← collectionVersion_filter records, ← collectionVersion_filter otherRecords]
    exact collectionVersion_of_saysSame same
  rw [build, otherItems, mapError_ok, Outcome.ofExcept_ok_bind, ← gathered, ← versioned, build,
    items, mapError_ok, Outcome.ofExcept_ok_bind]

end

/-- How a table comes from the objects of the bundle that it was built from. -/
structure IsBuiltExactly (bundle domain : Value) (objects : List Value) (table : Table) : Prop where
  /-- There is a row for each identifier that some current attack pattern publishes. -/
  ids : ∀ id, id ∈ table.ids ↔ Keeps objects id
  /-- Each identifier has one row. -/
  distinct : table.ids.Nodup
  /-- Each row has the name of the last object that publishes its identifier. -/
  names : ∀ technique ∈ table.techniques, ∃ object,
    latest? objects technique.id.text = some object ∧ publishedName object = technique.name
  /-- The rows stand in the order of their numbers. -/
  ordered : table.techniques.Pairwise fun left right => left.id.key.1 < right.id.key.1 ∨
    left.id.key.1 = right.id.key.1 ∧ left.id.key.2 ≤ right.id.key.2
  /-- Rows of the same numbers stay in the order in which they came first. -/
  stays : ∀ key, table.numbered key =
    (keptTechniques objects).filter fun technique => technique.id.key = key
  /-- The domain is the given one, and the version that of the first collection. -/
  labels : domain.checkText = .ok table.domain ∧
    Table.checkVersion (firstVersion objects) = .ok table.version
  /-- The one note counts the rows, and the attack patterns that are not kept. -/
  noted : (build bundle domain).notes =
    [.built domain.plain table.version table.techniques.length (objects.countP isPassedOver)]
  /-- Other objects, and what stands behind the first reference to the publisher, change nothing. -/
  unmoved : ∀ other others, fieldItems other "objects" = .ok others →
    (∀ object ∈ others, IsRecord object) →
      List.Forall₂ SaysSame (objects.filter concerns) (others.filter concerns) →
        build other domain = build bundle domain
  /-- Collections change no row and no count. -/
  unmovedRows : ∀ other others otherDomain otherTable,
    fieldItems other "objects" = .ok others →
      List.Forall₂ SaysSame (objects.filter isPattern) (others.filter isPattern) →
        (build other otherDomain).result = .ok otherTable →
          otherTable.techniques = table.techniques ∧
            others.countP isPassedOver = objects.countP isPassedOver

/-- A bundle of records each of whose attack patterns is converted or passed over, with a text or
nothing for a version. -/
structure IsConvertible (bundle : Value) (objects : List Value) : Prop where
  items : fieldItems bundle "objects" = .ok objects
  records : ∀ object ∈ objects, IsRecord object
  patterns : ∀ object ∈ objects, isPattern object = true → ∃ kept, technique? object = .ok kept
  version : IsOptionalText (firstVersion objects)

/-- Every sub-technique that is kept has its technique kept beside it. -/
def IsClosed (objects : List Value) : Prop :=
  ∀ (id : TechniqueId) (parent : Text), Keeps objects id.text → id.parentText? = some parent →
    Keeps objects parent

/-- An identifier of a sub-technique is kept and that of its technique is not. -/
def LacksParent (objects : List Value) (id : TechniqueId) : Prop :=
  Keeps objects id.text ∧ ∃ parent, id.parentText? = some parent ∧ ¬Keeps objects parent

/-- The problem of a bundle in which the techniques of some sub-techniques are missing. -/
def orphanProblem (ids : List TechniqueId) : Problem :=
  .bundleInconsistent (.invalid ⟨some .table, [⟨[], .inconsistent (.orphans ids)⟩]⟩)

section

variable {bundle domain version : Value} {objects : List Value} {text : Text}

/-- The identifiers that are blamed are those of kept sub-techniques without their techniques. -/
theorem mem_orphans_keptIds {id : TechniqueId} :
    id ∈ Table.orphans (keptIds objects) ↔ LacksParent objects id := by
  rw [Table.orphans, List.mem_filter, LacksParent, keeps_iff_mem_keptIds, Table.isOrphan]
  cases id.parentText? with
  | none => simp
  | some parent => simp [← mem_map_keptIds]

/-- No identifier is blamed exactly if every kept sub-technique has its technique. -/
theorem orphans_keptIds_eq_nil_iff : Table.orphans (keptIds objects) = [] ↔ IsClosed objects := by
  rw [List.eq_nil_iff_forall_not_mem]
  constructor
  · intro blameless id parent keeps isParent
    by_contra lacks
    exact blameless id (mem_orphans_keptIds.2 ⟨keeps, parent, isParent, lacks⟩)
  · intro closed id blamed
    obtain ⟨keeps, parent, isParent, lacks⟩ := mem_orphans_keptIds.1 blamed
    exact lacks (closed id parent keeps isParent)

/-- A text or nothing is read as a version. -/
theorem IsOptionalText.exists_checkVersion (isText : IsOptionalText version) :
    ∃ read, Table.checkVersion version = .ok read := by
  rcases isText with rfl | ⟨text, isText⟩
  · exact ⟨none, rfl⟩
  · cases version with
    | text content => exact ⟨some content, rfl⟩
    | member named => exact ⟨some named.text, rfl⟩
    | _ => cases isText

/-- With labels that are texts, only the rows decide whether there is a table. -/
theorem tableOf_eq (isText : domain.asText? = some text) (versioned : IsOptionalText version) :
    ∃ read, ∀ techniques, tableOf domain version techniques =
      (Table.ofRows text read techniques).mapError fun fault =>
        ⟨some .table, [⟨[], .inconsistent fault⟩]⟩ := by
  obtain ⟨read, isRead⟩ := versioned.exists_checkVersion
  have isDomain : domain.checkText = .ok text := by
    cases domain with
    | text content =>
      cases isText
      rfl
    | member named =>
      cases isText
      rfl
    | _ => cases isText
  refine ⟨read, fun techniques => ?_⟩
  rw [tableOf, isDomain, isRead]
  change (atOnce ((Table.ofRows text read techniques).mapError .inconsistent)).mapError _ = _
  cases Table.ofRows text read techniques with
  | ok table => rfl
  | error fault => rfl

/-- Each object of a convertible bundle can be gathered. -/
theorem IsConvertible.exists_gather (convertible : IsConvertible bundle objects) {object : Value}
    (member : object ∈ objects) (harvest : Harvest) :
    ∃ next, gather harvest object = .ok next := by
  rw [gather, (convertible.records object member).fieldIs_eq, mapError_ok, ok_bind]
  cases pattern : states object "type" patternType with
  | false => exact ⟨harvest, rfl⟩
  | true =>
    obtain ⟨kept, converted⟩ := convertible.patterns object member pattern
    rw [if_pos rfl, converted, ok_bind]
    cases kept with
    | none => exact ⟨_, rfl⟩
    | some technique => exact ⟨_, rfl⟩

/-- The objects of a convertible bundle are gathered to the end. -/
theorem IsConvertible.gathered (convertible : IsConvertible bundle objects) :
    objects.foldlM gather ⟨[], 0⟩ =
      .ok ⟨keptTechniques objects, objects.countP isPassedOver⟩ := by
  obtain ⟨harvest, gathered, -⟩ :
      ∃ harvest, objects.foldlM gather ⟨[], 0⟩ = .ok harvest ∧ True := by
    refine exists_run gather (fun _ _ => True) trivial ?_
    rintro taken object later harvest rfl -
    obtain ⟨next, stepped⟩ := convertible.exists_gather (List.mem_append_cons_self) harvest
    exact ⟨next, stepped, trivial⟩
  rw [gathered, harvest_of_gathered gathered]

/-- What a convertible bundle is built into. -/
theorem IsConvertible.build_eq (convertible : IsConvertible bundle objects)
    (isText : domain.asText? = some text) :
    (IsClosed objects → ∃ table, (build bundle domain).result = .ok table) ∧
      (¬IsClosed objects →
        build bundle domain = .fail (orphanProblem (Table.orphans (keptIds objects)))) := by
  obtain ⟨version, isVersion⟩ := exists_collectionVersion convertible.records
  obtain rfl := collectionVersion_eq_ok isVersion
  obtain ⟨read, isTable⟩ := tableOf_eq isText convertible.version
  have distinct : ((keptTechniques objects).map (·.id)).Nodup := by
    rw [map_id_keptTechniques]
    exact nodup_keptIds
  obtain ⟨returns, refuses⟩ := @Table.ofRows_of_nodup text read _ distinct
  rw [build_of_gathered convertible.items convertible.gathered isVersion, isTable]
  rw [map_id_keptTechniques, orphans_keptIds_eq_nil_iff] at returns
  rw [map_id_keptTechniques, ne_eq, orphans_keptIds_eq_nil_iff] at refuses
  constructor
  · intro closed
    obtain ⟨table, made⟩ := returns closed
    rw [made]
    exact ⟨_, rfl⟩
  · intro broken
    rw [refuses broken]
    rfl

end

/-- Building is exact. -/
structure IsExact (bundle domain : Value) : Prop where
  /-- A table that is built comes from the objects of the bundle, which are records. -/
  built : ∀ table, (build bundle domain).result = .ok table →
    ∃ objects, fieldItems bundle "objects" = .ok objects ∧
      (∀ object ∈ objects, IsRecord object) ∧ IsBuiltExactly bundle domain objects table
  /-- A convertible bundle with a text for a domain is built if its sub-techniques have their
  techniques. -/
  returns : ∀ objects text, IsConvertible bundle objects → domain.asText? = some text →
    IsClosed objects → ∃ table, (build bundle domain).result = .ok table
  /-- Else it is refused, and all sub-techniques without their techniques are blamed, each once. -/
  refuses : ∀ objects text, IsConvertible bundle objects → domain.asText? = some text →
    ¬IsClosed objects → ∃ ids, build bundle domain = .fail (orphanProblem ids) ∧ ids ≠ [] ∧
      ids.Nodup ∧ ∀ id, id ∈ ids ↔ LacksParent objects id

/-- Rows that were gathered from the objects of a bundle and sorted come from these objects. -/
theorem isBuiltExactly_sorted {bundle domain : Value} {objects : List Value} {rows : Table}
    (items : fieldItems bundle "objects" = .ok objects)
    (gathered : objects.foldlM gather ⟨[], 0⟩ =
      .ok ⟨keptTechniques objects, objects.countP isPassedOver⟩)
    (isRows : tableOf domain (firstVersion objects) (keptTechniques objects) = .ok rows)
    (noted : (build bundle domain).notes = [.built domain.plain rows.sorted.version
      rows.sorted.techniques.length (objects.countP isPassedOver)]) :
    IsBuiltExactly bundle domain objects rows.sorted where
  ids := by
    intro id
    rw [← mem_map_keptIds, ← map_id_keptTechniques, ← techniques_of_tableOf isRows, List.map_map]
    exact ((List.mergeSort_perm rows.techniques Table.precedes).map _).mem_iff
  distinct := rows.sorted.areConsistent.distinct
  names := by
    intro technique member
    rw [Table.mem_sorted, techniques_of_tableOf isRows] at member
    exact latest?_of_mem_keptTechniques member
  ordered := rows.pairwise_sorted.imp fun precedes => Table.precedes_iff.1 precedes
  stays := by
    intro key
    rw [Table.numbered_sorted, Table.numbered, techniques_of_tableOf isRows]
  labels := by
    obtain ⟨isDomain, isVersion⟩ := labels_of_tableOf isRows
    exact ⟨isDomain, isVersion⟩
  noted := noted
  unmoved _ _ otherItems otherRecords same :=
    build_of_saysSame items (isRecord_of_gathered gathered) otherItems otherRecords same
  unmovedRows := by
    intro other others otherDomain otherTable otherItems same otherBuilt
    obtain ⟨_, otherRows, found, otherGathered, areRows, rfl, -⟩ := built_eq_ok otherBuilt
    cases otherItems.symm.trans found
    -- Both gather from their attack patterns alone, and these say the same.
    have harvests := @gathered_of_saysSame _ _ ⟨[], 0⟩ same
    rw [gathered_filter (isRecord_of_gathered gathered) fun _ => id, gathered,
      gathered_filter (isRecord_of_gathered otherGathered) fun _ => id, otherGathered] at harvests
    injection Except.ok.inj harvests with sameTechniques sameSkipped
    have sameRows : otherRows.techniques = rows.techniques := by
      rw [techniques_of_tableOf areRows, ← sameTechniques, techniques_of_tableOf isRows]
    exact ⟨congrArg (List.mergeSort · Table.precedes) sameRows, sameSkipped.symm⟩

/-- Building is exact for every bundle and every domain: what is built are the current techniques,
and a bundle that can be converted is refused only for a missing technique. -/
theorem build_isExact (bundle domain : Value) : IsExact bundle domain where
  built := by
    intro table isBuilt
    obtain ⟨objects, rows, items, gathered, isRows, rfl, noted⟩ := built_eq_ok isBuilt
    exact ⟨objects, items, isRecord_of_gathered gathered,
      isBuiltExactly_sorted items gathered isRows noted⟩
  returns := fun objects text convertible isText => (convertible.build_eq isText).1
  refuses := by
    intro objects text convertible isText broken
    refine ⟨_, (convertible.build_eq isText).2 broken, ?_, ?_, fun id => mem_orphans_keptIds⟩
    · rwa [ne_eq, orphans_keptIds_eq_nil_iff]
    · exact nodup_keptIds.filter _

/-- A bundle of some objects. -/
def ofObjects (objects : List Value) : Value :=
  .record [("type", .text "bundle"), ("objects", .list objects)]

/-- An attack pattern with references to another source, to the publisher, and once more to the
publisher. -/
def pattern (id name : Text) (withdrawn : Bool) : Value :=
  .record [("type", .text patternType), ("name", .text name), ("revoked", .bool withdrawn),
    ("external_references", .list [.record [("source_name", .text "capec"),
      ("external_id", .text "CAPEC-1")], .record [("source_name", .text publisher),
      ("external_id", .text id)], .record [("source_name", .text publisher),
      ("external_id", .text "T9999")]])]

/-- A technique that was published twice, a sub-technique before it, and a withdrawn technique. -/
def renamed : List Value :=
  [pattern "T1003.006" "DCSync" false, pattern "T1003" "Credential Dumping" false,
    pattern "T1055" "Process Injection" true, pattern "T1003" " OS Credential Dumping " false,
    .record [("type", .text collectionType), ("x_mitre_version", .text "16.1")]]

/-- A sub-technique alone. -/
def alone : List Value :=
  [pattern "T1003.006" "DCSync" false]

theorem isConvertible_ofObjects {objects : List Value}
    (records : ∀ object ∈ objects, IsRecord object)
    (conversions : ∀ object ∈ objects, isPattern object = true → (technique? object).isOk = true)
    (version : IsOptionalText (firstVersion objects)) :
    IsConvertible (ofObjects objects) objects where
  items := rfl
  records := records
  patterns := by
    intro object member isPattern
    have converted := conversions object member isPattern
    cases kept : technique? object with
    | ok technique => exact ⟨technique, rfl⟩
    | error problem =>
      rw [kept] at converted
      cases converted
  version := version

/-- A bundle of these is built into a table of the technique under its later name and the
sub-technique, and a bundle of the sub-technique alone is refused. -/
theorem build_isExact_renamed : ∃ table,
    (build (ofObjects renamed) (.text "enterprise-attack")).result = .ok table ∧
      IsBuiltExactly (ofObjects renamed) (.text "enterprise-attack") renamed table ∧
      (∀ id, id ∈ table.ids ↔ id ∈ (["T1003.006", "T1003"] : List Text)) ∧
      (∀ technique ∈ table.techniques, technique.id.text = ("T1003" : Text) →
        technique.name = ("OS Credential Dumping" : Text)) ∧
      ∃ ids, build (ofObjects alone) (.text "enterprise-attack") = .fail (orphanProblem ids) ∧
        ids ≠ [] := by
  have convertible : IsConvertible (ofObjects renamed) renamed :=
    isConvertible_ofObjects (by simp [renamed, pattern, IsRecord]) (by decide) (.inr ⟨"16.1", rfl⟩)
  have convertibleAlone : IsConvertible (ofObjects alone) alone :=
    isConvertible_ofObjects (by simp [alone, pattern, IsRecord]) (by decide) (.inl rfl)
  have closed : IsClosed renamed := orphans_keptIds_eq_nil_iff.1 (by decide)
  have broken : ¬IsClosed alone := fun closed =>
    absurd (orphans_keptIds_eq_nil_iff.2 closed) (by decide)
  obtain ⟨table, isBuilt⟩ := (build_isExact (ofObjects renamed) (.text "enterprise-attack")).returns
    renamed "enterprise-attack" convertible rfl closed
  obtain ⟨objects, items, -, exactly⟩ :=
    (build_isExact (ofObjects renamed) (.text "enterprise-attack")).built table isBuilt
  cases items
  obtain ⟨ids, refused, someBlamed, -⟩ :=
    (build_isExact (ofObjects alone) (.text "enterprise-attack")).refuses alone "enterprise-attack"
      convertibleAlone rfl broken
  refine ⟨table, isBuilt, exactly, fun id => ?_, ?_, ids, refused, someBlamed⟩
  · have kept : (keptIds renamed).map (·.text) = (["T1003.006", "T1003"] : List Text) := by decide
    rw [exactly.ids, ← mem_map_keptIds, kept]
  · intro technique member isDumping
    obtain ⟨object, isLatest, named⟩ := exactly.names technique member
    have latest : (latest? renamed "T1003").map publishedName = some "OS Credential Dumping" := by
      decide
    rw [isDumping] at isLatest
    rw [isLatest] at latest
    exact named.symm.trans (Option.some.inj latest)

end ThreatMatrix.Bundle
