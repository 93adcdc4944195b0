import ThreatMatrix.Proofs.Bundle.Objects
import ThreatMatrix.Proofs.Coverage.Union
import ThreatMatrix.Proofs.Table.Order

/-!
# Tables of bundles

Gathering takes the objects of a bundle one after the other. The invariant speaks of the objects
that were taken: the identifiers that they publish are kept, each in the place where it came first
and with the name that came last, and the attack patterns that are not kept are counted. Validation
and sorting neither add nor drop a row.
-/

namespace ThreatMatrix.Bundle

section

variable {object : Value} {harvest next : Harvest}

/-- An object publishes one identifier at most. -/
theorem publishes_unique {left right : TechniqueId} (isLeft : publishes left.text object = true)
    (isRight : publishes right.text object = true) : left = right := by
  simp only [publishes, Bool.and_eq_true, decide_eq_true_eq] at isLeft isRight
  exact TechniqueId.eq_of_text (Option.some.inj (isLeft.2.symm.trans isRight.2))

/-- An attack pattern that is passed over publishes no technique identifier. -/
theorem publishes_of_technique?_none (described : technique? object = .ok none) (id : TechniqueId) :
    publishes id.text object = false := by
  obtain ⟨withdrawn, isWithdrawn, rest⟩ := bind_eq_ok_iff.1 described
  have current := isWithdrawn_eq_ok (mapError_eq_ok_iff.1 isWithdrawn)
  cases withdrawn with
  | true =>
    have notCurrent : isCurrent object = false := by
      rcases Bool.or_eq_true_iff.1 current with revoked | deprecated
      · rw [isCurrent, revoked, Bool.not_true, Bool.and_false, Bool.false_and]
      · rw [isCurrent, deprecated, Bool.not_true, Bool.and_false]
    rw [publishes, notCurrent, Bool.false_and, Bool.false_and]
  | false =>
    obtain ⟨value, found, rest⟩ := bind_eq_ok_iff.1 rest
    have isId := externalId_eq_ok (mapError_eq_ok_iff.1 found)
    obtain ⟨isLine, asked, rest⟩ := bind_eq_ok_iff.1 rest
    cases isLine with
    | true =>
      obtain ⟨name, -, rest⟩ := bind_eq_ok_iff.1 rest
      obtain ⟨technique, -, rest⟩ := bind_eq_ok_iff.1 rest
      cases rest
    | false =>
      rw [← Bool.not_eq_true, publishes, Bool.and_eq_true, Bool.and_eq_true, decide_eq_true_eq,
        isId]
      rintro ⟨⟨-, isLine⟩, published⟩
      rw [isIdLine_of_asText? published (TechniqueId.isTechniqueIdLine_text.1 isLine)] at asked
      cases asked

/-- An attack pattern that is kept publishes the technique that it is kept as. -/
theorem publishes_of_technique?_some {technique : Technique}
    (pattern : states object "type" patternType = true)
    (described : technique? object = .ok (some technique)) :
    publishes technique.id.text object = true ∧ publishedName object = technique.name := by
  obtain ⟨withdrawn, isWithdrawn, rest⟩ := bind_eq_ok_iff.1 described
  have current := isWithdrawn_eq_ok (mapError_eq_ok_iff.1 isWithdrawn)
  cases withdrawn with
  | true => cases rest
  | false =>
    obtain ⟨value, found, rest⟩ := bind_eq_ok_iff.1 rest
    have isId := externalId_eq_ok (mapError_eq_ok_iff.1 found)
    obtain ⟨isLine, asked, rest⟩ := bind_eq_ok_iff.1 rest
    cases isLine with
    | false => cases rest
    | true =>
      obtain ⟨name, named, rest⟩ := bind_eq_ok_iff.1 rest
      obtain ⟨kept, valid, rest⟩ := bind_eq_ok_iff.1 rest
      cases rest
      obtain ⟨text, isText, isLine⟩ := asText?_of_isIdLine (mapError_eq_ok_iff.1 asked)
      obtain ⟨validId, validName⟩ := Technique.check_eq_ok_iff.1
        (mapError_eq_ok_iff.1 (mapError_eq_ok_iff.1 valid))
      refine ⟨?_, strippedName_eq_ok (mapError_eq_ok_iff.1 named) validName⟩
      obtain ⟨notRevoked, notDeprecated⟩ := Bool.or_eq_false_iff.1 current
      rw [publishes, isCurrent, pattern, notRevoked, notDeprecated, isId, isText,
        text_of_checkTechniqueId validId isText, isLine]
      simp

/-- What one object adds: nothing if it is no attack pattern, one to the count of those passed over,
or a technique that takes the place of one with the same identifier. -/
theorem gather_eq_ok (gathered : gather harvest object = .ok next) :
    (states object "type" patternType = false ∧ next = harvest) ∨
      (states object "type" patternType = true ∧
        (∀ id : TechniqueId, publishes id.text object = false) ∧
        next = { harvest with skipped := harvest.skipped + 1 }) ∨
      ∃ technique, publishes technique.id.text object = true ∧
        publishedName object = technique.name ∧
        next = { harvest with techniques := putTechnique harvest.techniques technique } := by
  obtain ⟨isPattern, asked, rest⟩ := bind_eq_ok_iff.1 gathered
  have pattern := states_of_fieldIs (mapError_eq_ok_iff.1 asked)
  cases isPattern with
  | false =>
    cases rest
    exact .inl ⟨pattern, rfl⟩
  | true =>
    obtain ⟨described, isDescribed, rest⟩ := bind_eq_ok_iff.1 rest
    cases described with
    | none =>
      cases rest
      exact .inr (.inl ⟨pattern, publishes_of_technique?_none isDescribed, rfl⟩)
    | some technique =>
      cases rest
      obtain ⟨published, named⟩ := publishes_of_technique?_some pattern isDescribed
      exact .inr (.inr ⟨technique, published, named, rfl⟩)

/-- The last of some objects and one more that publishes an identifier. -/
theorem latest?_append (taken : List Value) (id : Text) :
    latest? (taken ++ [object]) id =
      if publishes id object = true then some object else latest? taken id := by
  rw [latest?, List.reverse_append, List.reverse_singleton, List.singleton_append,
    List.find?_cons]
  cases publishes id object with
  | true => rfl
  | false => rfl

end

/-! ## What is kept -/

/-- The identifier under which an object is kept, if it is a current attack pattern that the
publisher describes under one in digits whose values are known. -/
def keptId? (object : Value) : Option TechniqueId :=
  if isCurrent object then ((publishedId? object).filter isTechniqueIdLine).bind TechniqueId.ofText?
  else none

/-- Whether an object describes a technique, current or not. -/
def isPattern (object : Value) : Bool :=
  states object "type" patternType

/-- Whether an object is an attack pattern that is not kept. -/
def isPassedOver (object : Value) : Bool :=
  isPattern object && (keptId? object).isNone

/-- The identifiers that are kept, in the order in which they came first. -/
def keptIds (objects : List Value) : List TechniqueId :=
  (objects.filterMap keptId?).eraseDups

/-- The name that was published last under an identifier. -/
def latestName (objects : List Value) (id : TechniqueId) : Text :=
  ((latest? objects id.text).map publishedName).getD []

/-- The techniques that are kept, in the order in which they came first. -/
def keptTechniques (objects : List Value) : List Technique :=
  (keptIds objects).map fun id => ⟨id, latestName objects id⟩

/-- A text is an identifier under which some object is kept. -/
def Keeps (objects : List Value) (id : Text) : Prop :=
  isTechniqueId id = true ∧ ∃ object ∈ objects, publishes id object = true

section

variable {object : Value} {objects : List Value} {harvest : Harvest}

/-- An object is kept under the one identifier that it publishes. -/
theorem keptId?_eq_some_iff {id : TechniqueId} :
    keptId? object = some id ↔ publishes id.text object = true := by
  rw [keptId?, publishes, Bool.and_eq_true, Bool.and_eq_true, decide_eq_true_eq]
  cases isCurrent object with
  | false => simp
  | true => simp [Option.bind_eq_some_iff, TechniqueId.ofText?_eq_some_iff, and_comm]

theorem keptId?_eq_none_iff :
    keptId? object = none ↔ ∀ id : TechniqueId, publishes id.text object = false := by
  simp only [Option.eq_none_iff_forall_ne_some, ne_eq, keptId?_eq_some_iff, Bool.not_eq_true]

theorem keeps_iff_mem_keptIds {id : TechniqueId} :
    Keeps objects id.text ↔ id ∈ keptIds objects := by
  simp only [Keeps, id.wellFormed, keptIds, List.mem_eraseDups, List.mem_filterMap,
    keptId?_eq_some_iff, true_and]

/-- The identifiers that are kept, as texts. -/
theorem mem_map_keptIds {text : Text} :
    text ∈ (keptIds objects).map (·.text) ↔ Keeps objects text := by
  rw [List.mem_map]
  constructor
  · rintro ⟨id, kept, rfl⟩
    exact keeps_iff_mem_keptIds.2 kept
  · intro keeps
    exact ⟨⟨text, keeps.1⟩, keeps_iff_mem_keptIds.1 keeps, rfl⟩

theorem map_id_keptTechniques : (keptTechniques objects).map (·.id) = keptIds objects := by
  rw [keptTechniques, List.map_map]
  exact List.map_id _

theorem nodup_keptIds : (keptIds objects).Nodup :=
  nodup_eraseDups _

/-- What is kept is kept under the name that was published last. -/
theorem latest?_of_mem_keptTechniques {technique : Technique}
    (kept : technique ∈ keptTechniques objects) : ∃ object,
      latest? objects technique.id.text = some object ∧ publishedName object = technique.name := by
  obtain ⟨id, isKept, rfl⟩ := List.mem_map.1 kept
  obtain ⟨-, object, member, published⟩ := keeps_iff_mem_keptIds.2 isKept
  have found : (latest? objects id.text).isSome = true :=
    List.find?_isSome.2 ⟨object, List.mem_reverse.2 member, published⟩
  obtain ⟨last, isLast⟩ := Option.isSome_iff_exists.1 found
  exact ⟨last, isLast, by rw [latestName, isLast]; rfl⟩

/-! ## Gathering -/

/-- One more object that is not kept leaves what is kept as it is. -/
theorem keptTechniques_append_of_none (taken : List Value) (passed : keptId? object = none) :
    keptTechniques (taken ++ [object]) = keptTechniques taken := by
  have silent := keptId?_eq_none_iff.1 passed
  simp [keptTechniques, keptIds, latestName, List.filterMap_append, passed, latest?_append, silent]

/-- One more object that is kept takes the place of an earlier one under its identifier. -/
theorem keptTechniques_append_of_some (taken : List Value) {id : TechniqueId}
    (kept : keptId? object = some id) : keptTechniques (taken ++ [object]) =
      putTechnique (keptTechniques taken) ⟨id, publishedName object⟩ := by
  have published := keptId?_eq_some_iff.1 kept
  have named : ∀ other : TechniqueId, latestName (taken ++ [object]) other =
      if other = id then publishedName object else latestName taken other := by
    intro other
    rw [latestName, latest?_append]
    by_cases same : other = id
    · rw [if_pos (same ▸ published), if_pos same]
      rfl
    · rw [if_neg fun isOther => same (publishes_unique isOther published), if_neg same]
      rfl
  have ids : keptIds (taken ++ [object]) =
      if id ∈ keptIds taken then keptIds taken else keptIds taken ++ [id] := by
    simp only [keptIds, List.filterMap_append, List.filterMap_cons, kept, List.filterMap_nil,
      eraseDups_concat, List.mem_eraseDups]
  rw [putTechnique, Keyed.put, map_id_keptTechniques, keptTechniques, ids]
  by_cases old : id ∈ keptIds taken
  · rw [if_pos old, if_pos old, keptTechniques, List.map_map]
    refine List.map_congr_left fun other _ => ?_
    rw [named, Function.comp_apply]
    by_cases same : other = id
    · rw [if_pos same, if_pos same, same]
    · rw [if_neg same, if_neg same]
  · rw [if_neg old, if_neg old, List.map_append, keptTechniques, List.map_singleton, named,
      if_pos rfl]
    congr 1
    refine List.map_congr_left fun other member => ?_
    rw [named, if_neg]
    rintro rfl
    exact old member

/-- Gathering keeps what the objects publish and counts the attack patterns that it passes over. -/
theorem harvest_of_gathered (gathered : objects.foldlM gather ⟨[], 0⟩ = .ok harvest) :
    harvest = ⟨keptTechniques objects, objects.countP isPassedOver⟩ := by
  refine run_keeps (fun taken harvest =>
    harvest = ⟨keptTechniques taken, taken.countP isPassedOver⟩) gathered rfl ?_
  rintro taken object _ next rfl gathered
  rw [List.countP_append, List.countP_singleton]
  rcases gather_eq_ok gathered with ⟨noPattern, rfl⟩ | ⟨pattern, silent, rfl⟩ |
    ⟨technique, published, named, rfl⟩
  · have passed : keptId? object = none := by
      rw [keptId?, isCurrent, noPattern]
      rfl
    rw [keptTechniques_append_of_none taken passed, isPassedOver, isPattern, noPattern]
    rfl
  · have passed := keptId?_eq_none_iff.2 silent
    rw [keptTechniques_append_of_none taken passed, isPassedOver, isPattern, pattern, passed]
    rfl
  · have kept := keptId?_eq_some_iff.2 published
    rw [keptTechniques_append_of_some taken kept, isPassedOver, kept, named]
    simp

end

/-- What was gathered from objects are the techniques that the objects publish, each with the name
that was published last. -/
theorem mem_of_gathered {objects : List Value} {harvest : Harvest}
    (ran : objects.foldlM gather ⟨[], 0⟩ = .ok harvest) (technique : Technique) :
    technique ∈ harvest.techniques ↔ ∃ object,
      latest? objects technique.id.text = some object ∧ publishedName object = technique.name := by
  rw [harvest_of_gathered ran]
  refine ⟨latest?_of_mem_keptTechniques, ?_⟩
  rintro ⟨object, isLatest, named⟩
  have member := List.mem_reverse.1 (List.mem_of_find?_eq_some isLatest)
  have kept : technique.id ∈ keptIds objects :=
    keeps_iff_mem_keptIds.1 ⟨technique.id.wellFormed, object, member, List.find?_some isLatest⟩
  refine List.mem_map.2 ⟨technique.id, kept, ?_⟩
  rw [latestName, isLatest, Option.map_some, Option.getD_some, named]

/-! ## Building -/

/-- The digits of an identifier that is published have values. -/
theorem hasValues_of_latest? {objects : List Value} {object : Value} {id : TechniqueId}
    (isLatest : latest? objects id.text = some object) : id.HasValues := by
  have published := List.find?_some isLatest
  rw [publishes, Bool.and_eq_true, Bool.and_eq_true] at published
  exact TechniqueId.isTechniqueIdLine_text.1 published.1.2

/-- Validation of the labels leaves the rows as they are. -/
theorem techniques_of_tableOf {domain version : Value} {techniques : List Technique} {table : Table}
    (isTable : tableOf domain version techniques = .ok table) : table.techniques = techniques := by
  obtain ⟨⟨domain, version⟩, -, made⟩ := bind_eq_ok_iff.1 (mapError_eq_ok_iff.1 isTable)
  exact (Table.ofRows_eq_ok_iff.1 (mapError_eq_ok_iff.1 (atOnce_eq_ok_iff.1 made))).2.2

/-- The rows that were kept can be put in order. -/
theorem sort_of_tableOf {domain version : Value} {objects : List Value} {table : Table}
    (isTable : tableOf domain version (keptTechniques objects) = .ok table) :
    table.sort = .ok table.sorted := by
  refine Table.sort_eq_ok_iff.2 ⟨fun technique member => ?_, rfl⟩
  rw [techniques_of_tableOf isTable] at member
  obtain ⟨object, isLatest, -⟩ := latest?_of_mem_keptTechniques member
  exact hasValues_of_latest? isLatest

/-- The table of a bundle is in order, and its rows are the techniques that the bundle's objects
publish, each with the name that was published last. -/
theorem build_eq_ok {bundle domain : Value} {rows : Table}
    (built : (build bundle domain).result = .ok rows) :
    rows.sorted = rows ∧ ∀ technique, technique ∈ rows.techniques ↔ ∃ object,
      latest? (entries bundle "objects") technique.id.text = some object ∧
        publishedName object = technique.name := by
  simp only [build, Outcome.result_bind, Outcome.result_ofExcept, Outcome.result_note,
    Outcome.result_pure, ok_bind] at built
  obtain ⟨objects, found, built⟩ := bind_eq_ok_iff.1 built
  obtain ⟨harvest, ran, built⟩ := bind_eq_ok_iff.1 built
  obtain ⟨version, -, built⟩ := bind_eq_ok_iff.1 built
  obtain ⟨table, isTable, built⟩ := bind_eq_ok_iff.1 built
  obtain ⟨other, isSorted, built⟩ := bind_eq_ok_iff.1 built
  cases built
  obtain ⟨-, rfl⟩ := Table.sort_eq_ok_iff.1 (mapError_eq_ok_iff.1 isSorted)
  refine ⟨table.sorted_sorted, fun technique => ?_⟩
  rw [Table.mem_sorted, techniques_of_tableOf (mapError_eq_ok_iff.1 isTable), mem_of_gathered ran,
    entries_of_fieldItems (mapError_eq_ok_iff.1 found)]

/-- The digits of a table that was built have values. -/
theorem hasValues_of_build {bundle domain : Value} {rows : Table}
    (built : (build bundle domain).result = .ok rows) : rows.HasValues := by
  intro technique member
  obtain ⟨object, isLatest, -⟩ := ((build_eq_ok built).2 technique).1 member
  exact hasValues_of_latest? isLatest

end ThreatMatrix.Bundle
