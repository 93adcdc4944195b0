import ThreatMatrix.Proofs.Coverage.Blame
import ThreatMatrix.Proofs.Session.Snapshot

/-!
# Lists validated element by element

The tactics and techniques of a coverage are taken one by one. If all of them are accepted they are
the members, in order; otherwise each rejected one is reported once, at its index under its field,
and nothing else is. Data and a document that stands for it are validated alike, because an element
that is read from a document is the element that was written into it.
-/

namespace ThreatMatrix

private theorem flatMap_eq_map_filter {α β : Type} {items : List α} {report : α → List β}
    {keeps : α → Bool} {only : α → β} (kept : ∀ item, keeps item = true → report item = [only item])
    (silent : ∀ item, keeps item = false → report item = []) :
    items.flatMap report = (items.filter keeps).map only := by
  induction items with
  | nil => rfl
  | cons first more inductionHypothesis =>
    rw [List.flatMap_cons, inductionHypothesis]
    cases isKept : keeps first with
    | false => rw [silent first isKept, List.filter_cons_of_neg (by simp [isKept]), List.nil_append]
    | true =>
      rw [kept first isKept, List.filter_cons_of_pos isKept, List.map_cons, List.singleton_append]

namespace Coverage

/-! ## Rejected elements -/

/-- A check rejects an element. -/
def Rejects {α : Type} (check : Value → Except (List Issue) α) (item : Value) : Prop :=
  ∃ issues, check item = .error issues

/-- Issues blame the elements at some indices, one issue for each index. -/
structure BlamesEach {α : Type} (name : Text) (check : Value → Except (List Issue) α)
    (items : List Value) (indices : List Nat) (issues : List Issue) : Prop where
  increasing : indices.Pairwise (· < ·)
  /-- The indices are those of the rejected elements. -/
  rejected : ∀ index, index ∈ indices ↔ ∃ item, items[index]? = some item ∧ Rejects check item
  /-- Each issue stands at its index under the field and complains of what the check complains of
  there. -/
  issues : List.Forall₂ (fun index issue => issue.way = [.field name, .item index] ∧
    issue.complaint.code = ("value_error" : Text) ∧
    ∃ item, items[index]? = some item ∧ check item = .error [⟨[], issue.complaint⟩]) indices issues

section

variable {α : Type} {name : Text} {check : Value → Except (List Issue) α}
  {fault : Value → Unrecognized} {items : List Value}

/-- The elements that a check rejects, with their indices. -/
def rejectedAmong (check : Value → Except (List Issue) α) (items : List Value) :
    List (Value × Nat) :=
  items.zipIdx.filter fun item => (check item.1).toOption.isNone

theorem mem_rejectedAmong {item : Value × Nat} : item ∈ rejectedAmong check items ↔
    items[item.2]? = some item.1 ∧ Rejects check item.1 := by
  rw [rejectedAmong, List.mem_filter, List.mem_zipIdx_iff_getElem?]
  cases checked : check item.1 with
  | ok result => simp [Rejects, checked, Except.toOption]
  | error issues => simp [Rejects, checked, Except.toOption]

/-- Rejected elements are reported one by one. -/
theorem issuesOf_checkItems_eq_map (faults : BlamesOne check fault) (items : List Value) :
    issuesOf (checkItems check 0 items) = (rejectedAmong check items).map fun item =>
      ⟨[.item item.2], .unrecognized (fault item.1)⟩ := by
  rw [issuesOf_checkItems]
  apply flatMap_eq_map_filter
  · intro item isRejected
    cases checked : check item.1 with
    | ok result =>
      rw [checked] at isRejected
      cases isRejected
    | error issues =>
      rw [faults item.1 issues checked]
      rfl
  · intro item isAccepted
    cases checked : check item.1 with
    | ok result => rfl
    | error issues =>
      rw [checked] at isAccepted
      cases isAccepted

/-- The issues of a list blame its rejected elements. -/
theorem blamesEach_issuesOf (faults : BlamesOne check fault) (items : List Value) :
    BlamesEach name check items ((rejectedAmong check items).map (·.2))
      ((issuesOf (checkItems check 0 items)).map (·.within (.field name))) where
  increasing := by
    have inOrder : (items.zipIdx.map (·.2)).Pairwise (· < ·) := by
      rw [List.zipIdx_map_snd]
      exact List.pairwise_lt_range'
    exact inOrder.sublist (List.filter_sublist.map _)
  rejected index := by
    rw [List.mem_map]
    constructor
    · rintro ⟨item, member, rfl⟩
      exact ⟨item.1, mem_rejectedAmong.1 member⟩
    · rintro ⟨item, isItem, rejects⟩
      exact ⟨(item, index), mem_rejectedAmong.2 ⟨isItem, rejects⟩, rfl⟩
  issues := by
    rw [issuesOf_checkItems_eq_map faults, List.map_map, List.forall₂_map_left_iff,
      List.forall₂_map_right_iff, List.forall₂_same]
    intro item member
    obtain ⟨isItem, issues, checked⟩ := mem_rejectedAmong.1 member
    refine ⟨rfl, rfl, item.1, isItem, ?_⟩
    rw [checked, faults item.1 issues checked]
    rfl

end

/-! ## Two lists -/

section

variable {α : Type} {catalog : Catalog} {settings : Except Report Settings} {source : Source}
  {fields : List (Text × Value)} {name : Text} {check : Value → Except (List Issue) α}
  {items tactics techniques : List Value} {coverage : Coverage}

/-- A list under a name is checked item by item, wherever it comes from. -/
theorem checkListField_list (found : fields.lookup name = some (.list items)) :
    checkListField source fields name check =
      (checkItems check 0 items).mapError fun issues => issues.map (·.within (.field name)) := by
  rw [checkListField, found]
  rfl

theorem lookup_tactics : List.lookup ("tactics" : Text)
    [("tactics", Value.list tactics), ("techniques", .list techniques)] = some (.list tactics) :=
  rfl

theorem lookup_techniques : List.lookup ("techniques" : Text)
    [("tactics", Value.list tactics), ("techniques", .list techniques)] = some (.list techniques) :=
  rfl

/-- Nothing else in a record has a part in what its lists describe. -/
theorem check_record_eq (isTactics : fields.lookup ("tactics" : Text) = some (.list tactics))
    (isTechniques : fields.lookup ("techniques" : Text) = some (.list techniques)) :
    Coverage.check catalog settings source (.record fields) =
      Coverage.check catalog settings .data (fieldsOf tactics techniques) := by
  rw [fieldsOf, Coverage.check, Coverage.check, checkListField_list isTactics,
    checkListField_list isTechniques, checkListField_list lookup_tactics,
    checkListField_list lookup_techniques]

theorem consultsSettings_record_eq
    (isTechniques : fields.lookup ("techniques" : Text) = some (.list techniques)) :
    consultsSettings (.record fields) = consultsSettings (fieldsOf tactics techniques) := by
  rw [fieldsOf, consultsSettings, consultsSettings, isTechniques, lookup_techniques]

/-- Two lists describe a coverage exactly if their items pass one by one for its members. -/
theorem check_fieldsOf_iff :
    Coverage.check catalog settings .data (fieldsOf tactics techniques) = .ok coverage ↔
      checkItems checkTactic 0 tactics = .ok coverage.tactics ∧
        checkItems (checkTechnique catalog settings) 0 techniques = .ok coverage.techniques := by
  constructor
  · intro passes
    obtain ⟨⟨found, others⟩, both, isCoverage⟩ := bind_eq_ok_iff.1 passes
    cases isCoverage
    obtain ⟨first, second⟩ := bothChecked_eq_ok_iff.1 both
    rw [checkListField_list lookup_tactics] at first
    rw [checkListField_list lookup_techniques] at second
    exact ⟨mapError_eq_ok_iff.1 first, mapError_eq_ok_iff.1 second⟩
  · exact fun passes => check_fieldsOf passes.1 passes.2 .data

/-- Items pass together exactly if each of them does. -/
theorem exists_checkItems_iff : (∃ results, checkItems check 0 items = .ok results) ↔
    ∀ item ∈ items, ∃ result, check item = .ok result := by
  constructor
  · rintro ⟨results, passes⟩ item member
    exact passes_of_checkItems passes member
  · intro passes
    simp only [checkItems_eq_ok_iff]
    induction items with
    | nil => exact ⟨[], .nil⟩
    | cons first more inductionHypothesis =>
      rw [List.forall_mem_cons] at passes
      obtain ⟨result, isFirst⟩ := passes.1
      obtain ⟨results, rest⟩ := inductionHypothesis passes.2
      exact ⟨result :: results, .cons isFirst rest⟩

end

/-- How two lists of elements are validated in a session. -/
structure ValidatesEach (session : Session) (settings : Settings) (tactics techniques : List Value) :
    Prop where
  /-- The lists are accepted exactly if every element is. -/
  accepted : (∃ coverage, (session.validateCoverage (fieldsOf tactics techniques)).2 = .ok coverage) ↔
    (∀ item ∈ tactics, ∃ tactic, checkTactic item = .ok tactic) ∧
      ∀ item ∈ techniques, ∃ technique,
        checkTechnique session.catalog (.ok settings) item = .ok technique
  /-- Then every element is one member, in the order of the elements. -/
  members : ∀ coverage,
    (session.validateCoverage (fieldsOf tactics techniques)).2 = .ok coverage →
      List.Forall₂ (fun item tactic => checkTactic item = .ok tactic) tactics coverage.tactics ∧
      List.Forall₂ (fun item technique =>
        checkTechnique session.catalog (.ok settings) item = .ok technique)
          techniques coverage.techniques
  /-- Otherwise one report blames the rejected elements, tactics before techniques. -/
  refused : ∀ report,
    (session.validateCoverage (fieldsOf tactics techniques)).2 = .error report →
      report.subject = some .coverage ∧
      ∃ tacticIndices techniqueIndices tacticIssues techniqueIssues,
        report.issues = tacticIssues ++ techniqueIssues ∧
        BlamesEach "tactics" checkTactic tactics tacticIndices tacticIssues ∧
        BlamesEach "techniques" (checkTechnique session.catalog (.ok settings)) techniques
          techniqueIndices techniqueIssues

/-- Under settings that can be read every two lists are validated element by element. -/
theorem validatesEach {session : Session} {settings : Settings}
    (settled : session.settings = .ok settings) (tactics techniques : List Value) :
    ValidatesEach session settings tactics techniques := by
  have validates : (session.validateCoverage (fieldsOf tactics techniques)).2 =
      (check session.catalog (.ok settings) .data (fieldsOf tactics techniques)).mapError
        (⟨some .coverage, ·⟩) := by
    rw [Session.validateCoverage, settled, ofValue]
  exact {
    accepted := by
      simp only [validates, mapError_eq_ok_iff, check_fieldsOf_iff, ← exists_checkItems_iff]
      constructor
      · rintro ⟨coverage, first, second⟩
        exact ⟨⟨_, first⟩, ⟨_, second⟩⟩
      · rintro ⟨⟨found, first⟩, ⟨others, second⟩⟩
        exact ⟨⟨found, others⟩, first, second⟩
    members := by
      intro coverage passes
      rw [validates, mapError_eq_ok_iff, check_fieldsOf_iff, checkItems_eq_ok_iff,
        checkItems_eq_ok_iff] at passes
      exact passes
    refused := by
      intro report rejected
      rw [validates, mapError_eq_error_iff] at rejected
      obtain ⟨issues, rejected, rfl⟩ := rejected
      have parts := issuesOf_check session.catalog (.ok settings) .data
        [("tactics", .list tactics), ("techniques", .list techniques)]
      rw [← fieldsOf, rejected, checkListField_list lookup_tactics,
        checkListField_list lookup_techniques, issuesOf_mapError, issuesOf_mapError] at parts
      exact ⟨rfl, _, _, _, _, parts, blamesEach_issuesOf (fun _ _ => issues_of_checkTactic) tactics,
        blamesEach_issuesOf (fun _ _ => issues_of_checkTechnique) techniques⟩ }

/-! ## Documents -/

/-- The document of two lists. -/
def documentOf (tactics techniques : List Json) : Json :=
  .object [("tactics", .array tactics), ("techniques", .array techniques)]

/-- How two lists of documents are validated in a session, as data and as parts of a text. -/
structure ValidatesAlike (session : Session) (settings : Settings) (tactics techniques : List Json) :
    Prop where
  each : ValidatesEach session settings (tactics.map .ofJson) (techniques.map .ofJson)
  /-- A text that holds both lists is validated as they are, whatever else it holds: the result, its
  issues and the session afterwards are the same. -/
  fromText : ∀ text document, text.isWhole = true → Json.readStrict? text = some document →
    document.field? "tactics" = some (.array tactics) →
    document.field? "techniques" = some (.array techniques) →
      session.validateCoverageText text =
        session.validateCoverage (fieldsOf (tactics.map .ofJson) (techniques.map .ofJson))
  /-- Such a text is what is written for both lists. -/
  written : ∀ layout : Json.Layout, layout.IsSpaced → layout.isMarked = true →
    ((documentOf tactics techniques).print layout).isWhole = true ∧
      Json.readStrict? ((documentOf tactics techniques).print layout) =
        some (documentOf tactics techniques) ∧
      (documentOf tactics techniques).field? "tactics" = some (.array tactics) ∧
      (documentOf tactics techniques).field? "techniques" = some (.array techniques)

section

variable {session : Session} {tactics techniques : List Json}

/-- The lists of a document are validated as data are. -/
theorem validateCoverageText_of_field? {text : Text} {document : Json} (whole : text.isWhole = true)
    (isRead : Json.readStrict? text = some document)
    (isTactics : document.field? "tactics" = some (.array tactics))
    (isTechniques : document.field? "techniques" = some (.array techniques)) :
    session.validateCoverageText text =
      session.validateCoverage (fieldsOf (tactics.map .ofJson) (techniques.map .ofJson)) := by
  cases document with
  | object fields =>
    have first := Value.lookup_ofFields fields "tactics"
    have second := Value.lookup_ofFields fields "techniques"
    rw [isTactics, Option.map_some, Value.ofJson, Value.ofItems_eq_map] at first
    rw [isTechniques, Option.map_some, Value.ofJson, Value.ofItems_eq_map] at second
    have isOffered := offered_of_isWhole whole isRead
    have consults := @consultsSettings_record_eq _ (tactics.map .ofJson) _ second
    rw [Value.ofJson] at isOffered
    simp only [Session.validateCoverageText, Session.validateCoverage, ofJsonText, ofValue, isOffered,
      ok_bind, check_record_eq first second, consults]
  | _ => cases isTactics

/-- The document of plain documents is plain. -/
theorem isPlain_documentOf {bound : Nat}
    (plainTactics : ∀ item ∈ tactics, item.IsPlain Text.isWhole bound)
    (plainTechniques : ∀ item ∈ techniques, item.IsPlain Text.isWhole bound) :
    (documentOf tactics techniques).IsPlain Text.isWhole (bound + 2) := by
  have names : ("tactics" : Text).isWhole = true ∧ ("techniques" : Text).isWhole = true := by decide
  refine .object (by simp [names]) fun field member => ?_
  simp only [List.mem_cons, List.not_mem_nil, or_false] at member
  rcases member with rfl | rfl
  · exact .array plainTactics
  · exact .array plainTechniques

/-- Lists of plain documents, nested not too deep for two more containers around them, are validated
element by element, and alike as data and in a text. -/
theorem validatesAlike_of_isPlain {settings : Settings} (settled : session.settings = .ok settings)
    {bound : Nat} (within : bound + 2 ≤ Json.strictDepth)
    (plainTactics : ∀ item ∈ tactics, item.IsPlain Text.isWhole bound)
    (plainTechniques : ∀ item ∈ techniques, item.IsPlain Text.isWhole bound) :
    ValidatesAlike session settings tactics techniques where
  each := validatesEach settled _ _
  fromText _ _ whole isRead isTactics isTechniques :=
    validateCoverageText_of_field? whole isRead isTactics isTechniques
  written layout spaced marked := by
    have plain := isPlain_documentOf plainTactics plainTechniques
    exact ⟨Json.isWhole_print marked plain,
      Json.readStrict?_print spaced (plain.weaken (fun _ whole => whole) within), rfl, rfl⟩

end

/-- Elements of every kind: the first and the third are tactics. -/
def mixedTactics : List Json :=
  [.text "ta0006", .int (2 ^ 63), .text "TA0011", .array [.null, .array [.bool true]]]

/-- A technique that is spelled with a low line, and an object. -/
def mixedTechniques : List Json := [.text "T1003_006", .object [("id", .int (-1))]]

/-- The lists are validated alike in a session, and of the tactics those are blamed that are no
texts. -/
theorem validatesAlike_mixed :
    Session.begun.settings = .ok ⟨none, true⟩ ∧ 100 + 2 ≤ Json.strictDepth ∧
      (∀ item ∈ mixedTactics, item.IsPlain Text.isWhole 100) ∧
      (∀ item ∈ mixedTechniques, item.IsPlain Text.isWhole 100) ∧
      ValidatesAlike Session.begun ⟨none, true⟩ mixedTactics mixedTechniques ∧
      BlamesEach "tactics" checkTactic (mixedTactics.map .ofJson) [1, 3]
        [⟨[.field "tactics", .item 1], .unrecognized ⟨.tactic, .int (2 ^ 63)⟩⟩,
          ⟨[.field "tactics", .item 3],
            .unrecognized ⟨.tactic, .list [.null, .list [.bool true]]⟩⟩] := by
  have settled : Session.begun.settings = .ok ⟨none, true⟩ := rfl
  have short : ∀ value : Int, -(2 ^ 63) ≤ value → value < 2 ^ 64 → Json.IsShort value :=
    fun _ => Json.isShort_of_64_bits
  have plainTactics : ∀ item ∈ mixedTactics, item.IsPlain Text.isWhole 100 := by
    simp only [mixedTactics, List.forall_mem_cons]
    refine ⟨.text 100 (by decide), .int 100 (short _ (by decide) (by decide)),
      .text 100 (by decide), .array ?_, nofun⟩
    simp only [List.forall_mem_cons]
    refine ⟨.null 99, .array ?_, nofun⟩
    simp only [List.forall_mem_cons]
    exact ⟨.bool 98 true, nofun⟩
  have plainTechniques : ∀ item ∈ mixedTechniques, item.IsPlain Text.isWhole 100 := by
    simp only [mixedTechniques, List.forall_mem_cons]
    refine ⟨.text 100 (by decide), .object ?_ ?_, nofun⟩
    · simp only [List.forall_mem_cons]
      exact ⟨by decide, nofun⟩
    · simp only [List.forall_mem_cons]
      exact ⟨.int 99 (short _ (by decide) (by decide)), nofun⟩
  exact ⟨settled, by decide, plainTactics, plainTechniques,
    validatesAlike_of_isPlain settled (by decide) plainTactics plainTechniques,
    blamesEach_issuesOf (fun _ _ => issues_of_checkTactic) (mixedTactics.map .ofJson)⟩

end Coverage
end ThreatMatrix
