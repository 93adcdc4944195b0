import ThreatMatrix.Proofs.Coverage.Consulting
import ThreatMatrix.Proofs.Text.Quoted

/-!
# What rejections name

A rejected item is reported at its index under its field, and the report holds the value that is
blamed. That is the item as it was offered, with one exception: where low lines are accepted, a
technique spelled with one is blamed with its low lines exchanged for points, which is not what was
offered.
-/

namespace ThreatMatrix

/-! ## Issues -/

/-- The issues that a check reports; one that succeeds reports none. -/
def issuesOf {α : Type} : Except (List Issue) α → List Issue
  | .ok _ => []
  | .error issues => issues

section

variable {α β : Type}

/-- Issues are placed all alike. -/
theorem issuesOf_mapError (place : Issue → Issue) (result : Except (List Issue) α) :
    issuesOf (result.mapError fun issues => issues.map place) = (issuesOf result).map place := by
  cases result with
  | ok value => rfl
  | error issues => rfl

/-- Two parts report the issues of both. -/
theorem issuesOf_bothChecked (left : Except (List Issue) α) (right : Except (List Issue) β) :
    issuesOf (bothChecked left right) = issuesOf left ++ issuesOf right := by
  cases left with
  | ok first =>
    cases right with
    | ok second => rfl
    | error issues => rfl
  | error issues =>
    cases right with
    | ok second => exact (List.append_nil issues).symm
    | error further => rfl

/-- Items report the issues of each, at its index. -/
theorem issuesOf_checkItems (check : α → Except (List Issue) β) (items : List α) (index : Nat) :
    issuesOf (checkItems check index items) = (items.zipIdx index).flatMap fun item =>
      (issuesOf (check item.1)).map (·.within (.item item.2)) := by
  induction items generalizing index with
  | nil => rfl
  | cons first more inductionHypothesis =>
    rw [List.zipIdx_cons, List.flatMap_cons, ← inductionHypothesis, checkItems]
    cases check first with
    | ok result =>
      cases checkItems check (index + 1) more with
      | ok results => rfl
      | error issues => rfl
    | error issues =>
      cases checkItems check (index + 1) more with
      | ok results => exact (List.append_nil _).symm
      | error further => rfl

end

namespace Coverage

/-! ## Items -/

/-- The value that is blamed where a technique is rejected. -/
def blamed (settings : Settings) (value : Value) : Value :=
  match lowLine? value with
  | some text => if settings.acceptLegacyTags then .text (text.exchange '_' '.') else value
  | none => value

section

variable {catalog : Catalog} {settings : Settings} {value : Value} {issues : List Issue}

/-- A rejected tactic is blamed as it was offered. -/
theorem issues_of_checkTactic (rejected : checkTactic value = .error issues) :
    issues = [⟨[], .unrecognized ⟨.tactic, value⟩⟩] := by
  unfold checkTactic at rejected
  split at rejected
  · cases rejected
  obtain ⟨fault, unrecognized, rfl⟩ := mapError_eq_error_iff.1 rejected
  unfold Tactic.ofValue at unrecognized
  split at unrecognized
  · cases unrecognized
  · cases unrecognized
    rfl

/-- A value that names no technique of a catalog is blamed as it was looked up. -/
theorem issues_of_identified (rejected : identified (catalog.ofValue value) = .error issues) :
    issues = [⟨[], .unrecognized ⟨.technique, value⟩⟩] := by
  obtain ⟨fault, unrecognized, rfl⟩ := mapError_eq_error_iff.1 rejected
  unfold Catalog.ofValue at unrecognized
  split at unrecognized
  · cases unrecognized
  · cases unrecognized
    rfl

/-- A rejected technique is blamed as it was looked up. -/
theorem issues_of_checkTechnique
    (rejected : checkTechnique catalog (.ok settings) value = .error issues) :
    issues = [⟨[], .unrecognized ⟨.technique, blamed settings value⟩⟩] := by
  unfold checkTechnique at rejected
  rw [blamed]
  split at rejected
  · cases rejected
  · cases isLowLine : lowLine? value with
    | none =>
      rw [isLowLine] at rejected
      exact issues_of_identified rejected
    | some text =>
      rw [isLowLine] at rejected
      dsimp only at rejected ⊢
      split at rejected
      · next accepted =>
        rw [if_pos accepted]
        exact issues_of_identified rejected
      · next refused =>
        rw [if_neg refused]
        exact issues_of_identified rejected

/-- What is blamed is what was offered, but for low lines where they are accepted. -/
theorem blamed_eq_self_iff :
    blamed settings value = value ↔ ¬(settings.acceptLegacyTags = true ∧ HasLowLine value) := by
  rw [← lowLine?_isSome_iff, blamed]
  cases isLowLine : lowLine? value with
  | none => simp
  | some text =>
    dsimp only
    split
    · next accepted =>
      refine iff_of_false (fun same => ?_) (by simp [accepted])
      obtain ⟨spelled, spells, lowLine⟩ := lowLine?_isSome_iff.1 (by rw [isLowLine]; rfl)
      rw [lowLine?_of_spelling spells, if_pos (List.contains_iff_mem.2 lowLine)] at isLowLine
      cases isLowLine
      rcases eq_of_spelling spells with rfl | ⟨member, rfl, -, -⟩
      · exact Text.exchange_ne (by decide) lowLine (Value.text.inj same)
      · cases same
    · next refused => exact iff_of_true rfl fun both => refused both.1

end

/-! ## Fields -/

/-- A value that is no list. -/
def IsNoList (value : Value) : Prop :=
  ∀ items, value ≠ .list items ∧ value ≠ .tuple items

/-- The issues of a list field: items that a check rejects are blamed one by one, each at its index,
and a value that is no list is blamed itself. -/
inductive FieldBlames {α : Type} (source : Source) (fields : List (Text × Value)) (name : Text)
    (check : Value → Except (List Issue) α) (fault : Value → Unrecognized) : Issue → Prop where
  | noList {value : Value} (found : fields.lookup name = some value) (noList : IsNoList value) :
      FieldBlames source fields name check fault ⟨[.field name], .notList source⟩
  | item {value item : Value} {index : Nat} (found : fields.lookup name = some value)
      (isItem : (itemsOf value)[index]? = some item)
      (rejected : ∃ issues, check item = .error issues) :
      FieldBlames source fields name check fault
        ⟨[.field name, .item index], .unrecognized (fault item)⟩

section

variable {α : Type} {source : Source} {fields : List (Text × Value)} {name : Text}
  {check : Value → Except (List Issue) α} {fault : Value → Unrecognized} {value : Value}
  {issue : Issue}

/-- A check rejects each item with one issue, which blames one value. -/
def BlamesOne (check : Value → Except (List Issue) α) (fault : Value → Unrecognized) : Prop :=
  ∀ item issues, check item = .error issues → issues = [⟨[], .unrecognized (fault item)⟩]

/-- Items are rejected with an issue for each. -/
theorem mem_issuesOf_checkItems (faults : BlamesOne check fault) (items : List Value) :
    issue ∈ issuesOf (checkItems check 0 items) ↔ ∃ index item, items[index]? = some item ∧
      (∃ issues, check item = .error issues) ∧
      issue = ⟨[.item index], .unrecognized (fault item)⟩ := by
  rw [issuesOf_checkItems, List.mem_flatMap]
  constructor
  · rintro ⟨⟨item, index⟩, member, isIssue⟩
    cases checked : check item with
    | ok result =>
      rw [checked] at isIssue
      cases isIssue
    | error issues =>
      rw [checked, faults item issues checked] at isIssue
      exact ⟨index, item, List.mem_zipIdx_iff_getElem?.1 member, ⟨issues, checked⟩,
        List.mem_singleton.1 isIssue⟩
  · rintro ⟨index, item, isItem, ⟨issues, checked⟩, rfl⟩
    refine ⟨(item, index), List.mem_zipIdx_iff_getElem?.2 isItem, ?_⟩
    rw [checked, faults item issues checked]
    exact List.mem_singleton_self _

/-- A list is rejected with the issues of its items, and anything else with one of its own. -/
theorem mem_issuesOf_checkList (faults : BlamesOne check fault) :
    issue ∈ issuesOf (checkList source check value) ↔
      (IsNoList value ∧ issue = ⟨[], .notList source⟩) ∨
      ∃ index item, (itemsOf value)[index]? = some item ∧ (∃ issues, check item = .error issues) ∧
        issue = ⟨[.item index], .unrecognized (fault item)⟩ := by
  cases value with
  | list items =>
    rw [checkList, mem_issuesOf_checkItems faults,
      or_iff_right fun noList => (noList.1 items).1 rfl]
    rfl
  | tuple items =>
    rw [checkList, mem_issuesOf_checkItems faults,
      or_iff_right fun noList => (noList.1 items).2 rfl]
    rfl
  | _ => simp [checkList, issuesOf, itemsOf, IsNoList]

/-- The issues of a list field are those that blame its items, or its value if that is no list. -/
theorem mem_issuesOf_checkListField (faults : BlamesOne check fault) :
    issue ∈ issuesOf (checkListField source fields name check) ↔
      FieldBlames source fields name check fault issue := by
  unfold checkListField
  split
  · next absent =>
    constructor
    · intro member
      cases member
    · rintro (⟨found, -⟩ | ⟨found, -, -⟩)
      · cases absent.symm.trans found
      · cases absent.symm.trans found
  · next value present =>
    rw [issuesOf_mapError, List.mem_map]
    simp only [mem_issuesOf_checkList faults]
    constructor
    · rintro ⟨_, ⟨noList, rfl⟩ | ⟨index, item, isItem, rejected, rfl⟩, rfl⟩
      · exact .noList present noList
      · exact .item present isItem rejected
    · rintro (⟨found, noList⟩ | ⟨found, isItem, rejected⟩)
      · cases present.symm.trans found
        exact ⟨_, .inl ⟨noList, rfl⟩, rfl⟩
      · cases present.symm.trans found
        exact ⟨_, .inr ⟨_, _, isItem, rejected, rfl⟩, rfl⟩

end

/-- A record has the issues of both its fields. -/
theorem issuesOf_check (catalog : Catalog) (settings : Except Report Settings) (source : Source)
    (fields : List (Text × Value)) : issuesOf (check catalog settings source (.record fields)) =
      issuesOf (checkListField source fields "tactics" checkTactic) ++
        issuesOf (checkListField source fields "techniques" (checkTechnique catalog settings)) := by
  rw [← issuesOf_bothChecked, check]
  cases bothChecked (checkListField source fields "tactics" checkTactic)
    (checkListField source fields "techniques" (checkTechnique catalog settings)) with
  | ok both => rfl
  | error issues => rfl

/-- A record is rejected with the issues of both its fields. -/
theorem mem_issues_of_check {catalog : Catalog} {settings : Settings} {source : Source}
    {fields : List (Text × Value)} {issues : List Issue}
    (rejected : check catalog (.ok settings) source (.record fields) = .error issues)
    (issue : Issue) :
    issue ∈ issues ↔ FieldBlames source fields "tactics" checkTactic (⟨.tactic, ·⟩) issue ∨
      FieldBlames source fields "techniques" (checkTechnique catalog (.ok settings))
        (fun item => ⟨.technique, blamed settings item⟩) issue := by
  have isBoth : issues = issuesOf (check catalog (.ok settings) source (.record fields)) := by
    rw [rejected]
    rfl
  rw [isBoth, issuesOf_check, List.mem_append,
    mem_issuesOf_checkListField fun _ _ => issues_of_checkTactic,
    mem_issuesOf_checkListField fun _ _ => issues_of_checkTechnique]

/-! ## Messages -/

/-- Different texts are blamed in different words. -/
theorem eq_of_message {vocabulary : Vocabulary} {left right : Text}
    (same : (Unrecognized.mk vocabulary (.text left)).message =
      (Unrecognized.mk vocabulary (.text right)).message) : left = right :=
  Text.quoted_injective (List.append_cancel_left same)

/-- How a catalog's validation names what it rejects, wherever settings can be read. -/
structure NamesRejected (catalog : Catalog) : Prop where
  /-- A rejected tactic is blamed as it was offered. -/
  tactics : ∀ value issues, checkTactic value = .error issues →
    issues = [⟨[], .unrecognized ⟨.tactic, value⟩⟩]
  /-- A rejected technique is blamed as it was offered, unless it is spelled with a low line and low
  lines are accepted. -/
  techniques : ∀ settings value issues,
    checkTechnique catalog (.ok settings) value = .error issues →
      ¬(settings.acceptLegacyTags = true ∧ HasLowLine value) →
        issues = [⟨[], .unrecognized ⟨.technique, value⟩⟩]
  /-- Then another text is blamed, the one with points in place of the low lines. -/
  exchanged : ∀ settings value text issues, spelling? value = some text →
    checkTechnique catalog (.ok settings) value = .error issues →
      settings.acceptLegacyTags = true → ('_' : CodePoint) ∈ text →
        issues = [⟨[], .unrecognized ⟨.technique, .text (text.exchange '_' '.')⟩⟩] ∧
          text.exchange '_' '.' ≠ text
  /-- A rejected record is blamed item by item, each at its index under its field. -/
  records : ∀ settings source fields issues,
    check catalog (.ok settings) source (.record fields) = .error issues → ∀ issue,
      issue ∈ issues ↔ FieldBlames source fields "tactics" checkTactic (⟨.tactic, ·⟩) issue ∨
        FieldBlames source fields "techniques" (checkTechnique catalog (.ok settings))
          (fun item => ⟨.technique, blamed settings item⟩) issue
  /-- The message shows the value that is blamed. -/
  messages : ∀ vocabulary offered, Complaint.message? (.unrecognized ⟨vocabulary, offered⟩) =
    some ("Value error, " ++ ("invalid " ++ vocabulary.name ++ " identifier: " ++ offered.display))
  /-- So a text that is blamed can be told from every other text by its message. -/
  legible : ∀ vocabulary left right, (Unrecognized.mk vocabulary (.text left)).message =
    (Unrecognized.mk vocabulary (.text right)).message → left = right

/-- Every catalog's validation names what it rejects as it was offered, except for low lines where
they are accepted. -/
theorem namesRejected (catalog : Catalog) : NamesRejected catalog where
  tactics _ _ rejected := issues_of_checkTactic rejected
  techniques := by
    intro settings value issues rejected plain
    rw [issues_of_checkTechnique rejected, blamed_eq_self_iff.2 plain]
  exchanged := by
    intro settings value text issues spells rejected accepted lowLine
    refine ⟨?_, Text.exchange_ne (by decide) lowLine⟩
    rw [issues_of_checkTechnique rejected, blamed, lowLine?_of_spelling spells,
      if_pos (List.contains_iff_mem.2 lowLine)]
    dsimp only
    rw [if_pos accepted]
  records _ _ _ _ rejected issue := mem_issues_of_check rejected issue
  messages _ _ := rfl
  legible _ _ _ same := eq_of_message same

/-- No packaged technique has the identifier T1003.999. -/
theorem packaged_lacks : ∀ technique ∈ Session.packagedCatalog.techniques,
    technique.id ≠ .ofNumbers 1003 999 := by
  rw [Session.techniques_packagedCatalog]
  decide +kernel

/-- In a session without settings a text with a low line is rejected, and another text is blamed:
the message shows a text that was not offered. -/
theorem blames_other_lowLine :
    ((Session.packaged .empty []).validateTechnique (.text "T1003_999")).2 =
        .error [⟨[], .unrecognized ⟨.technique, .text "T1003.999"⟩⟩] ∧
      Complaint.message? (.unrecognized ⟨.technique, .text "T1003.999"⟩) =
        some "Value error, invalid technique identifier: 'T1003.999'" ∧
      Complaint.message? (.unrecognized ⟨.technique, .text "T1003_999"⟩) =
        some "Value error, invalid technique identifier: 'T1003_999'" := by
  have settled : (Session.packaged .empty []).settings = .ok ⟨none, true⟩ := rfl
  have spelled : (TechniqueId.ofNumbers 1003 999).IsSpelledBy true "T1003_999" :=
    .inr ⟨rfl, by decide⟩
  have rejected : ∃ issues, checkTechnique Session.packagedCatalog (.ok ⟨none, true⟩)
      (.text "T1003_999") = .error issues := by
    refine exists_eq_error_iff.2 fun technique passes => ?_
    obtain ⟨isMember, isSpelled⟩ := (checkTechnique_eq_ok_iff rfl).1 passes
    exact packaged_lacks technique isMember (TechniqueId.eq_of_isSpelledBy isSpelled spelled)
  obtain ⟨issues, checked⟩ := rejected
  refine ⟨?_, by decide, by decide⟩
  have isPackaged : (Session.packaged .empty []).catalog = Session.packagedCatalog := by
    rw [Session.packaged]
  have isBlamed : blamed ⟨none, true⟩ (.text "T1003_999") = .text "T1003.999" :=
    congrArg Value.text (by decide)
  have named := issues_of_checkTechnique checked
  rw [isBlamed] at named
  rw [named] at checked
  unfold Session.validateTechnique
  dsimp only
  rw [settled, isPackaged]
  exact checked

end Coverage
end ThreatMatrix
