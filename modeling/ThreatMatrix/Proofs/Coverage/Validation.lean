import ThreatMatrix.Proofs.Catalog.Access
import ThreatMatrix.Proofs.Json.Strict
import ThreatMatrix.Proofs.Table.Validation

/-!
# Coverages validated

A coverage is described by its members as they are, and by their identifiers, as data and as a
document. Neither makes validation look at the settings: only a low line does, and identifiers hold
none. So what was written is read back under any settings, and also where they cannot be read.
-/

namespace ThreatMatrix

/-- A canonical identifier names its tactic. -/
theorem Tactic.parse?_id (tactic : Tactic) : parse? tactic.id = some tactic := by
  cases tactic <;> decide

/-- The identifiers of tactics hold no halves of pairs. -/
theorem Tactic.isWhole_id (tactic : Tactic) : tactic.id.isWhole = true := by
  cases tactic <;> decide

namespace Coverage

/-- A coverage of the members of a catalog. -/
def IsListedIn (coverage : Coverage) (catalog : Catalog) : Prop :=
  ∀ technique ∈ coverage.techniques, technique ∈ catalog.techniques

/-- What describes a coverage: two lists under the names of its fields. -/
def fieldsOf (tactics techniques : List Value) : Value :=
  .record [("tactics", .list tactics), ("techniques", .list techniques)]

/-- The members of a coverage as data. -/
def offeredMembers (coverage : Coverage) : Value :=
  fieldsOf (coverage.tactics.map fun tactic => .member (.tactic tactic))
    (coverage.techniques.map fun technique => .member (.technique technique))

section

variable {catalog : Catalog} {settings : Except Report Settings} {coverage : Coverage}
  {tactics techniques : List Value}

/-- Items that pass one by one describe a coverage, wherever they come from. -/
theorem check_fieldsOf (passTactics : checkItems checkTactic 0 tactics = .ok coverage.tactics)
    (passTechniques : checkItems (checkTechnique catalog settings) 0 techniques =
      .ok coverage.techniques) (source : Source) :
    check catalog settings source (fieldsOf tactics techniques) = .ok coverage := by
  let fields : List (Text × Value) := [("tactics", .list tactics), ("techniques", .list techniques)]
  have isTactics : checkListField source fields "tactics" checkTactic = .ok coverage.tactics := by
    show (checkItems checkTactic 0 tactics).mapError _ = _
    rw [passTactics, mapError_ok]
  have isTechniques : checkListField source fields "techniques" (checkTechnique catalog settings) =
      .ok coverage.techniques := by
    show (checkItems (checkTechnique catalog settings) 0 techniques).mapError _ = _
    rw [passTechniques, mapError_ok]
  rw [fieldsOf, check, bothChecked_eq_ok_iff.2 ⟨isTactics, isTechniques⟩]
  rfl

/-- Only a low line in a technique makes validation look at the settings. -/
theorem consultsSettings_fieldsOf (noLowLine : ∀ item ∈ techniques, lowLine? item = none) :
    consultsSettings (fieldsOf tactics techniques) = false := by
  show (techniques.any fun item => (lowLine? item).isSome) = false
  rw [List.any_eq_false]
  intro item member
  simp [noLowLine item member]

/-- A tactic passes as it is. -/
theorem checkTactic_member (tactic : Tactic) : checkTactic (.member (.tactic tactic)) = .ok tactic :=
  rfl

/-- A technique passes as it is, also one of another catalog. -/
theorem checkTechnique_member (technique : Technique) :
    checkTechnique catalog settings (.member (.technique technique)) = .ok technique :=
  rfl

/-- The identifier of a tactic passes for that tactic. -/
theorem checkTactic_id (tactic : Tactic) : checkTactic (.text tactic.id) = .ok tactic := by
  simp [checkTactic, identified, Tactic.ofValue, Value.asText?, tactic.parse?_id]

/-- The identifier of a technique holds no low line. -/
theorem lowLine?_id (id : TechniqueId) : lowLine? (.text id.text) = none := by
  simp [lowLine?, Value.asText?, id.lowLine_not_mem]

/-- The identifier of a member of the catalog passes for that member, whatever the settings are. -/
theorem checkTechnique_id {technique : Technique} (member : technique ∈ catalog.techniques) :
    checkTechnique catalog settings (.text technique.id.text) = .ok technique := by
  have named := Catalog.ofValue_eq_ok_iff.2 ⟨member, rfl⟩
  simp [checkTechnique, lowLine?_id, named, identified]

end

/-! ## Members -/

/-- The members of a coverage describe it in every session, and change nothing there. -/
theorem validateCoverage_offeredMembers (session : Session) (coverage : Coverage) :
    session.validateCoverage coverage.offeredMembers = (session, .ok coverage) := by
  have consults : consultsSettings coverage.offeredMembers = false :=
    consultsSettings_fieldsOf fun item member => by
      obtain ⟨technique, -, rfl⟩ := List.mem_map.1 member
      rfl
  have passes : check session.catalog session.settings .data coverage.offeredMembers =
      .ok coverage :=
    check_fieldsOf (checkItems_map (fun tactic _ => checkTactic_member tactic) 0)
      (checkItems_map (fun technique _ => checkTechnique_member technique) 0) .data
  rw [Session.validateCoverage, ofValue, passes, consults]
  rfl

/-! ## Documents -/

/-- The values of the items of an array of texts. -/
theorem ofItems_texts {α : Type} (spelling : α → Text) (items : List α) :
    Value.ofItems (items.map fun item => .text (spelling item)) =
      items.map fun item => .text (spelling item) := by
  rw [Value.ofItems_eq_map, List.map_map]
  rfl

/-- The value that the document of a coverage stands for. -/
theorem ofJson_toJson (coverage : Coverage) :
    Value.ofJson coverage.toJson =
      fieldsOf (coverage.tactics.map fun tactic => .text tactic.id)
        (coverage.techniques.map fun technique => .text technique.id.text) := by
  have distinct : [("tactics" : Text), "techniques"].Nodup := by decide
  rw [toJson, Value.ofJson, Value.ofFields, Value.ofFields, Value.ofFields, Value.ofJson,
    Value.ofJson, ofItems_texts, ofItems_texts, Value.mergeFields_of_nodup]
  · rfl
  · exact distinct

/-- The document of a coverage is plain. -/
theorem isPlain_toJson (coverage : Coverage) : coverage.toJson.IsPlain Text.isWhole 2 := by
  have names : ("tactics" : Text).isWhole = true ∧ ("techniques" : Text).isWhole = true := by decide
  refine .object (by simp [names]) fun field member => ?_
  simp only [List.mem_cons, List.not_mem_nil, or_false] at member
  rcases member with rfl | rfl
  · refine .array fun item member => ?_
    obtain ⟨tactic, -, rfl⟩ := List.mem_map.1 member
    exact .text 0 tactic.isWhole_id
  · refine .array fun item member => ?_
    obtain ⟨technique, -, rfl⟩ := List.mem_map.1 member
    exact .text 0 technique.id.isWhole_text

/-- A text without halves offers what its strict document stands for. -/
theorem offered_of_isWhole {text : Text} {document : Json} (whole : text.isWhole = true)
    (isRead : Json.readStrict? text = some document) : offered text = .ok (.ofJson document) := by
  rw [Text.isWhole, Bool.not_eq_true'] at whole
  rw [offered, whole, if_neg Bool.false_ne_true, isRead]

/-- The text of a coverage offers what its document stands for. -/
theorem offered_jsonText (coverage : Coverage) :
    offered coverage.jsonText = .ok (.ofJson coverage.toJson) :=
  offered_of_isWhole (Json.isWhole_print (by decide) coverage.isPlain_toJson)
    (Json.readStrict?_print Json.Layout.isSpaced_compact
      (coverage.isPlain_toJson.weaken (fun _ whole => whole) (by decide)))

section

variable {session : Session} {coverage : Coverage}

/-- The document of a coverage describes it, wherever it comes from and whatever the settings
are. -/
theorem check_toJson (listed : coverage.IsListedIn session.catalog) (source : Source) :
    check session.catalog session.settings source (.ofJson coverage.toJson) = .ok coverage := by
  rw [ofJson_toJson]
  exact check_fieldsOf (checkItems_map (fun tactic _ => checkTactic_id tactic) 0)
    (checkItems_map (fun technique member => checkTechnique_id (listed technique member)) 0) source

/-- No document of a coverage makes validation look at the settings. -/
theorem consultsSettings_toJson (coverage : Coverage) :
    consultsSettings (.ofJson coverage.toJson) = false := by
  rw [ofJson_toJson]
  refine consultsSettings_fieldsOf fun item member => ?_
  obtain ⟨technique, -, rfl⟩ := List.mem_map.1 member
  exact lowLine?_id technique.id

/-- The text of a coverage is validated as that coverage, and the session stays as it is. -/
theorem validateCoverageText_jsonText (listed : coverage.IsListedIn session.catalog) :
    session.validateCoverageText coverage.jsonText = (session, .ok coverage) := by
  rw [Session.validateCoverageText, ofJsonText, offered_jsonText, ok_bind, check_toJson listed,
    mapError_ok]
  simp only [consultsSettings_toJson, if_neg Bool.false_ne_true]

/-- The document of a coverage is validated as that coverage, and the session stays as it is. -/
theorem validateCoverage_toJson (listed : coverage.IsListedIn session.catalog) :
    session.validateCoverage (.ofJson coverage.toJson) = (session, .ok coverage) := by
  rw [Session.validateCoverage, ofValue, check_toJson listed, mapError_ok, consultsSettings_toJson,
    if_neg Bool.false_ne_true]

end

/-- A coverage is recorded by its text if the text lists the identifiers of its members in order, is
validated as the coverage in a session and leaves the session as it was, and is the text of no other
coverage there. -/
structure IsRecordedIn (coverage : Coverage) (session : Session) : Prop where
  identifiers : ∀ room ≥ 2, Json.read room coverage.jsonText = .ok (.object [
    ("tactics", .array (coverage.tactics.map fun tactic => .text tactic.id)),
    ("techniques", .array (coverage.techniques.map fun technique => .text technique.id.text))])
  fromText : session.validateCoverageText coverage.jsonText = (session, .ok coverage)
  /-- The document is validated as data in the same way. -/
  fromData : session.validateCoverage (.ofJson coverage.toJson) = (session, .ok coverage)
  alone : ∀ other : Coverage, other.IsListedIn session.catalog →
    other.jsonText = coverage.jsonText → other = coverage

/-- Every coverage of the members of a session's catalog is recorded by its text, whatever is kept
in the session and whatever its environment holds. -/
theorem isRecordedIn_of_isListedIn {session : Session} {coverage : Coverage}
    (listed : coverage.IsListedIn session.catalog) : coverage.IsRecordedIn session where
  identifiers := by
    intro room fits
    have plain := coverage.isPlain_toJson.weaken
      (fun _ whole => Json.isReadableText_of_isWhole Json.Layout.compact.escaped whole) fits
    have isRead := Json.read_print Json.Layout.isSpaced_compact plain
      fun _ inNothing => absurd inNothing List.not_mem_nil
    rwa [List.append_nil] at isRead
  fromText := validateCoverageText_jsonText listed
  fromData := validateCoverage_toJson listed
  alone other otherListed same := by
    -- The one text is validated as both coverages.
    have isOther := validateCoverageText_jsonText otherListed
    rw [same, validateCoverageText_jsonText listed] at isOther
    cases isOther
    rfl

/-- A coverage with tactics of both matrices and with members that occur twice. -/
def repetitive : Coverage where
  tactics := [.commandAndControl, .mobileNetworkEffects, .mobileExecution, .execution,
    .mobileNetworkEffects]
  techniques := [⟨.ofNumbers 1003 6, "DCSync"⟩, ⟨.ofNumbers 1003 0, "OS Credential Dumping"⟩,
    ⟨.ofNumbers 1003 6, "DCSync"⟩]

/-- The packaged catalog lists the techniques of that coverage. -/
theorem isListedIn_repetitive : repetitive.IsListedIn Session.packagedCatalog := by
  rw [IsListedIn, Session.techniques_packagedCatalog]
  decide +kernel

/-- A session with the packaged catalog whose settings cannot be read. -/
def unsettled : Session :=
  .packaged .empty [("ATTACK_TAXONOMY_ACCEPT_LEGACY_TAGS", "maybe")]

/-- The coverage is recorded also where settings cannot be read. -/
theorem isRecordedIn_repetitive :
    unsettled.settings = .error ⟨some .settings, [⟨[.field "accept_legacy_tags"], .notBoolean⟩]⟩ ∧
      repetitive.IsListedIn unsettled.catalog ∧ repetitive.IsRecordedIn unsettled := by
  have isSet : unsettled.environment.find? Settings.legacyVariable = some ("maybe" : Text) := by
    decide +kernel
  have noWord : Settings.ofWord? "maybe" = none := by decide
  have unreadable : unsettled.settings = Settings.read unsettled.environment := rfl
  have isPackaged : unsettled.catalog = Session.packagedCatalog := by rw [unsettled, Session.packaged]
  have listed : repetitive.IsListedIn unsettled.catalog := isPackaged ▸ isListedIn_repetitive
  refine ⟨?_, listed, isRecordedIn_of_isListedIn listed⟩
  rw [unreadable, Settings.read, isSet]
  simp only [noWord]

end Coverage
end ThreatMatrix
