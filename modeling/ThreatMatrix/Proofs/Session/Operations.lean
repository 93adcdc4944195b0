import ThreatMatrix.Identifier
import ThreatMatrix.Proofs.Coverage.Extraction
import ThreatMatrix.Proofs.Coverage.Spelling
import ThreatMatrix.Proofs.Session.Events

/-!
# Operations in a session

Identifiers are read, tags become coverages and coverages tags, and coverages are merged, written
and validated. What tags or two coverages come to passes through validation once more, where the
settings could have a part. They have none: only members reach validation there. Elsewhere the
settings matter for a technique that is spelled with a low line, and for nothing else.
-/

namespace ThreatMatrix

namespace Session

/-! ## Operations -/

/-- What a session can be asked for. -/
inductive Operation where
  | parseTactic (value : Value)
  | parseTechnique (value : Value)
  | ofShortname (matrix name : Value)
  | extract (tags : Value)
  | render (coverage : Coverage)
  | merge (left right : Coverage)
  | write (coverage : Coverage)
  | validate (value : Value)
  | validateText (text : Text)

/-- What a session replies with. -/
inductive Reply where
  | tactic (tactic : Tactic)
  | technique (technique : Technique)
  | coverage (coverage : Coverage)
  | tags (tags : List Text)
  | document (document : Json) (text : Text)

/-- A coverage that was put together, with notes, is validated by its members. -/
def accept (session : Session) (assembled : Outcome Coverage) : Session × Outcome Coverage :=
  match assembled.result with
  | .error _ => (session, assembled)
  | .ok coverage =>
    let (next, validated) := session.validateCoverage coverage.offeredMembers
    (next, ⟨assembled.notes, validated.mapError .invalid⟩)

/-- The session after an operation, and the reply or the problem, with the notes that were made. -/
def operate (session : Session) : Operation → Session × Outcome Reply
  | .parseTactic value =>
    (session, .ofExcept (.tactic <$> (Tactic.ofValue value).mapError .unrecognized))
  | .parseTechnique value =>
    (session, .ofExcept (.technique <$> (session.catalog.ofValue value).mapError .unrecognized))
  | .ofShortname matrix name =>
    (session, .ofExcept (.tactic <$> Tactic.ofShortnameValue matrix name))
  | .extract tags =>
    (session.accept (Coverage.ofTagValues session.catalog tags)).map id (.coverage <$> ·)
  | .render coverage => (session, pure (.tags coverage.toTags))
  | .merge left right => (session.accept (pure (left.merge right))).map id (.coverage <$> ·)
  | .write coverage => (session, pure (.document coverage.toJson coverage.jsonText))
  | .validate value =>
    (session.validateCoverage value).map id fun result =>
      .ofExcept (.coverage <$> result.mapError .invalid)
  | .validateText text =>
    (session.validateCoverageText text).map id fun result =>
      .ofExcept (.coverage <$> result.mapError .invalid)

/-- The session after operations in a row, each behind a stretch of events, and all replies. -/
def operateAmong (session : Session) :
    List (List Event × Operation) → Session × List (Outcome Reply)
  | [] => (session, [])
  | (events, operation) :: more =>
    let (next, reply) := (session.after events).operate operation
    let (last, replies) := next.operateAmong more
    (last, reply :: replies)

namespace Operation

/-- An operation in which no technique with a low line is offered for validation. -/
def IsPlain : Operation → Prop
  | validate value => ∀ item, Coverage.ListsTechnique item value → ¬Coverage.HasLowLine item
  | validateText text => ∀ value, Coverage.offered text = .ok value →
      ∀ item, Coverage.ListsTechnique item value → ¬Coverage.HasLowLine item
  | _ => True

/-- The reply to an operation under the settings as they could be read. -/
def reply (catalog : Catalog) (settings : Except Report Settings) : Operation → Outcome Reply
  | parseTactic value => .ofExcept (.tactic <$> (Tactic.ofValue value).mapError .unrecognized)
  | parseTechnique value =>
    .ofExcept (.technique <$> (catalog.ofValue value).mapError .unrecognized)
  | ofShortname matrix name => .ofExcept (.tactic <$> Tactic.ofShortnameValue matrix name)
  | extract tags => .coverage <$> Coverage.ofTagValues catalog tags
  | render coverage => pure (.tags coverage.toTags)
  | merge left right => pure (.coverage (left.merge right))
  | write coverage => pure (.document coverage.toJson coverage.jsonText)
  | validate value =>
    .ofExcept (.coverage <$> (Coverage.ofValue catalog settings value).mapError .invalid)
  | validateText text =>
    .ofExcept (.coverage <$> (Coverage.ofJsonText catalog settings text).mapError .invalid)

/-- What is validated in a plain operation does not look at the settings. -/
theorem not_looks_of_isPlain_validate {value : Value} (isPlain : (validate value).IsPlain) :
    ¬(Event.validateCoverage value).Looks := by
  intro looks
  cases looks with
  | coverage lists lowLine => exact isPlain _ lists lowLine

theorem not_looks_of_isPlain_validateText {text : Text} (isPlain : (validateText text).IsPlain) :
    ¬(Event.validateCoverageText text).Looks := by
  intro looks
  cases looks with
  | coverageText isOffered lists lowLine => exact isPlain _ isOffered _ lists lowLine

/-- The settings have no part in the reply to a plain operation. -/
theorem reply_of_isPlain {operation : Operation} (isPlain : operation.IsPlain) (catalog : Catalog)
    (left right : Except Report Settings) :
    operation.reply catalog left = operation.reply catalog right := by
  cases operation with
  | validate value =>
    have same :=
      @Event.answer_of_not_looks catalog _ (not_looks_of_isPlain_validate isPlain) left right
    rw [Event.answer, Event.answer, Answer.coverage.injEq] at same
    rw [reply, reply, same]
  | validateText text =>
    have same :=
      @Event.answer_of_not_looks catalog _ (not_looks_of_isPlain_validateText isPlain) left right
    rw [Event.answer, Event.answer, Answer.coverage.injEq] at same
    rw [reply, reply, same]
  | _ => rfl

end Operation

/-! ## One operation -/

section

variable {session : Session} {operation : Operation}

/-- A coverage is accepted as it was put together: its members pass in every session. -/
theorem accept_eq (session : Session) (assembled : Outcome Coverage) :
    session.accept assembled = (session, assembled) := by
  obtain ⟨notes, result⟩ := assembled
  cases result with
  | error problem => rfl
  | ok coverage =>
    simp only [accept, Coverage.validateCoverage_offeredMembers, mapError_ok]

/-- Every operation is replied to under the settings that are in force. -/
theorem operate_reply (session : Session) (operation : Operation) :
    (session.operate operation).2 = operation.reply session.catalog session.settings := by
  cases operation with
  | extract tags => rw [operate, accept_eq, Operation.reply, Prod.map_snd]
  | merge left right =>
    rw [operate, accept_eq, Operation.reply, Prod.map_snd, map_pure]
  | _ => rfl

/-- A plain operation leaves the session as it was, what is kept of the settings included. -/
theorem operate_session (isPlain : operation.IsPlain) :
    (session.operate operation).1 = session := by
  cases operation with
  | extract tags => rw [operate, accept_eq, Prod.map_fst, id]
  | merge left right => rw [operate, accept_eq, Prod.map_fst, id]
  | validate value =>
    exact @perform_of_not_looks session (.validateCoverage value)
      (Operation.not_looks_of_isPlain_validate isPlain) Event.noConfusion
  | validateText text =>
    exact @perform_of_not_looks session (.validateCoverageText text)
      (Operation.not_looks_of_isPlain_validateText isPlain) Event.noConfusion
  | _ => rfl

/-! ## Operations among events -/

theorem after_append (session : Session) (events more : List Event) :
    session.after (events ++ more) = (session.after events).after more :=
  List.foldl_append

/-- Plain operations are replied to by the catalog alone, and what becomes of the session among them
is what the events make of it. -/
theorem operateAmong_eq {run : List (List Event × Operation)} (settings : Except Report Settings)
    (arePlain : ∀ step ∈ run, step.2.IsPlain) :
    session.operateAmong run =
      (session.after (run.flatMap (·.1)),
        run.map fun step => step.2.reply session.catalog settings) := by
  induction run generalizing session with
  | nil => rfl
  | cons step more inductionHypothesis =>
    obtain ⟨events, operation⟩ := step
    obtain ⟨isPlain, arePlain⟩ := List.forall_mem_cons.1 arePlain
    have isReply : ((session.after events).operate operation).2 =
        operation.reply session.catalog settings := by
      rw [operate_reply, (after_rest session events).2.1]
      exact Operation.reply_of_isPlain isPlain session.catalog _ settings
    have rest := @inductionHypothesis (session.after events) arePlain
    rw [(after_rest session events).2.1, ← after_append] at rest
    simp only [operateAmong, operate_session isPlain, isReply, rest, List.flatMap_cons,
      List.map_cons]

end

end Session

/-! ## Low lines in tags -/

/-- A name with a low line stands for no technique. -/
theorem Catalog.parse?_of_lowLine (catalog : Catalog) {name : Text}
    (lowLine : ('_' : CodePoint) ∈ name) : catalog.parse? name = none := by
  cases isRead : catalog.parse? name with
  | none => rfl
  | some technique =>
    have spelled := (parse?_eq_some_iff.1 isRead).2
    rw [← Text.mem_lower (by decide), ← spelled, Text.mem_lower (by decide)] at lowLine
    exact absurd lowLine technique.id.lowLine_not_mem

/-- A name that is the symbol of a technique has a digit behind its first letter. -/
theorem TechniqueId.isNumbered_lower_symbol (id : TechniqueId) :
    id.symbol.lower.isNumbered = true := by
  rw [symbol, Text.lower_exchange (by decide) (by decide),
    Text.isNumbered_exchange (by decide) (by decide), id.isNumbered_lower_text]

namespace TagMeaning

variable {catalog : Catalog} {tag name : Text}

/-- A tag whose name has a low line means no technique. -/
theorem technique?_of_lowLine (named : Names tag name) (lowLine : ('_' : CodePoint) ∈ name) :
    (ofTag catalog tag).technique? = none := by
  rw [ofTag_of_names named, ofName, catalog.parse?_of_lowLine lowLine]
  cases Tactic.ofTagName? name with
  | none => rfl
  | some tactic => rfl

/-- A tag that names a sub-technique by its symbol is not recognized. -/
theorem means_unrecognized_of_symbol {id : TechniqueId} (named : Names tag name)
    (isSub : id.isSub = true) (isSymbol : name.lower = id.symbol.lower) :
    Means catalog tag .unrecognized := by
  have point : ('.' : CodePoint) ∈ id.text := by simpa [TechniqueId.isSub] using isSub
  have lowLine : ('_' : CodePoint) ∈ name := by
    rw [← Text.mem_lower (by decide), isSymbol, Text.mem_lower (by decide)]
    exact Text.mem_exchange point
  refine .unrecognized named (Tactic.ofTagName?_of_isNumbered ?_) (catalog.parse?_of_lowLine lowLine)
  rw [isSymbol, id.isNumbered_lower_symbol]

end TagMeaning

/-- A tag whose name has a low line adds no technique to those of the other tags. -/
theorem Coverage.techniquesOf_of_lowLine {catalog : Catalog} {tag name : Text}
    (named : TagMeaning.Names tag name) (lowLine : ('_' : CodePoint) ∈ name)
    (before behind : List Text) :
    techniquesOf catalog (before ++ tag :: behind) = techniquesOf catalog (before ++ behind) := by
  have nothing : techniquesOf catalog (tag :: behind) = techniquesOf catalog behind :=
    List.filterMap_cons_none (TagMeaning.technique?_of_lowLine named lowLine)
  rw [techniquesOf_append, techniquesOf_append, nothing]

namespace Session

/-! ## Two sessions -/

/-- How little the settings matter, told for two sessions that may differ in files, in environment
and in the settings that are kept. -/
structure AgreesWith (left right : Session) : Prop where
  /-- A plain operation is replied to alike, notes included, and leaves both sessions as they were.
  -/
  once : ∀ operation : Operation, operation.IsPlain →
    ∃ reply, left.operate operation = (left, reply) ∧ right.operate operation = (right, reply)
  /-- So are plain operations in a row, whatever happens to the sessions in between: each session
  becomes what the events alone make of it. -/
  among : ∀ leftRun rightRun : List (List Event × Operation),
    leftRun.map (·.2) = rightRun.map (·.2) → (∀ step ∈ leftRun, step.2.IsPlain) →
      ∃ replies, left.operateAmong leftRun = (left.after (leftRun.flatMap (·.1)), replies) ∧
        right.operateAmong rightRun = (right.after (rightRun.flatMap (·.1)), replies)
  /-- A tag whose name has a low line adds no technique to those of the other tags, in the one
  session and so in the other. -/
  passedOver : ∀ before tag behind name, TagMeaning.Names tag name → ('_' : CodePoint) ∈ name →
    ∃ notes notesWithout coverage coverageWithout,
      left.operate (.extract (.list ((before ++ tag :: behind).map .text))) =
        (left, ⟨notes, .ok (.coverage coverage)⟩) ∧
      left.operate (.extract (.list ((before ++ behind).map .text))) =
        (left, ⟨notesWithout, .ok (.coverage coverageWithout)⟩) ∧
      coverage.techniques = coverageWithout.techniques
  /-- A tag that spells a sub-technique with a low line is noted as not recognized. -/
  skipped : ∀ (tags : List Text) tag name (id : TechniqueId), tag ∈ tags →
    TagMeaning.Names tag name → id.isSub = true → name.lower = id.symbol.lower →
      .skippedTag tag ∈ (left.operate (.extract (.list (tags.map .text)))).2.notes

section

variable {left right session : Session}

/-- The reply to tags is their coverage. -/
theorem operate_extract (session : Session) (tags : List Text) :
    session.operate (.extract (.list (tags.map .text))) =
      (session, ⟨Coverage.notesOf session.catalog tags, .ok (.coverage (.ofMembers
        (Coverage.tacticsOf session.catalog tags) (Coverage.techniquesOf session.catalog tags)))⟩) := by
  rw [operate, accept_eq, ← Coverage.ofTags, Coverage.ofTags_eq, Prod.map_apply, map_eq_pure_bind,
    Outcome.bind_pure_of_ok, id]

theorem exists_operate_of_isPlain (same : left.catalog = right.catalog) {operation : Operation}
    (isPlain : operation.IsPlain) :
    ∃ reply, left.operate operation = (left, reply) ∧ right.operate operation = (right, reply) := by
  have inLeft := operate_reply left operation
  rw [same, Operation.reply_of_isPlain isPlain right.catalog left.settings right.settings,
    ← operate_reply] at inLeft
  exact ⟨_, Prod.ext (operate_session isPlain) inLeft, Prod.ext (operate_session isPlain) rfl⟩

theorem exists_operateAmong (same : left.catalog = right.catalog)
    {leftRun rightRun : List (List Event × Operation)}
    (alike : leftRun.map (·.2) = rightRun.map (·.2)) (arePlain : ∀ step ∈ leftRun, step.2.IsPlain) :
    ∃ replies, left.operateAmong leftRun = (left.after (leftRun.flatMap (·.1)), replies) ∧
      right.operateAmong rightRun = (right.after (rightRun.flatMap (·.1)), replies) := by
  have alsoPlain : ∀ step ∈ rightRun, step.2.IsPlain := by
    intro step member
    have listed : step.2 ∈ leftRun.map (·.2) := alike ▸ List.mem_map_of_mem member
    obtain ⟨other, isOther, same⟩ := List.mem_map.1 listed
    exact same ▸ arePlain other isOther
  have replies := congrArg (List.map (Operation.reply left.catalog left.settings)) alike
  rw [List.map_map, List.map_map] at replies
  refine ⟨_, operateAmong_eq left.settings arePlain, ?_⟩
  rw [operateAmong_eq left.settings alsoPlain, ← same]
  exact congrArg (right.after _, ·) replies.symm

/-- Settings influence nothing but the spelling of techniques with low lines. Sessions with one
catalog reply alike to everything else, and no setting makes a tag with a low line mean a
technique. -/
theorem agreesWith_of_catalog_eq (same : left.catalog = right.catalog) : left.AgreesWith right where
  once _ isPlain := exists_operate_of_isPlain same isPlain
  among _ _ alike arePlain := exists_operateAmong same alike arePlain
  passedOver before tag behind name named lowLine := by
    refine ⟨_, _, _, _, operate_extract left _, operate_extract left _, ?_⟩
    rw [Coverage.ofMembers, Coverage.ofMembers,
      Coverage.techniquesOf_of_lowLine named lowLine before behind]
  skipped tags tag name id member named isSub isSymbol := by
    have unknown : TagMeaning.Means left.catalog tag .unrecognized :=
      TagMeaning.means_unrecognized_of_symbol named isSub isSymbol
    rw [operate_extract]
    exact List.mem_map_of_mem (List.mem_filter.2 ⟨member, decide_eq_true unknown⟩)

end

/-- A session in which low lines are switched off, and in which this is known. -/
def lineless : Session :=
  (packaged .empty [("attack_taxonomy_accept_legacy_tags", "no")]).keepSettings

/-- Settings that cannot be read come to the same as others that are kept, and a symbol in a tag is
noted under either. -/
theorem agreesWith_lineless :
    (∃ report, Coverage.unsettled.settings = .error report) ∧
      lineless.kept = some ⟨none, false⟩ ∧ Coverage.unsettled.catalog = lineless.catalog ∧
      Coverage.unsettled.AgreesWith lineless ∧
      .skippedTag "attack.t1003_006" ∈ (lineless.operate
        (.extract (.list (List.map .text ["attack.t1003_006"])))).2.notes := by
  have same : Coverage.unsettled.catalog = lineless.catalog := by
    rw [lineless, keepSettings_eq, Coverage.unsettled, catalog_packaged, catalog_packaged]
  have isFault : ∃ report, Coverage.unsettled.settings = .error report := ⟨_, rfl⟩
  have isKept : lineless.kept = some ⟨none, false⟩ := rfl
  refine ⟨isFault, isKept, same, agreesWith_of_catalog_eq same, ?_⟩
  have named : TagMeaning.Names "attack.t1003_006" "t1003_006" :=
    ⟨"attack", by decide, by decide, by decide, by decide⟩
  exact (agreesWith_of_catalog_eq same.symm).skipped ["attack.t1003_006"] _ _ ⟨"T1003.006", by decide⟩
    List.mem_cons_self named (by decide) (by decide)

end Session
end ThreatMatrix
