import ThreatMatrix.Proofs.Coverage.Consulting
import ThreatMatrix.Session

/-!
# Events of a session

A session goes through events: variables change, settings are read or dropped, and values are
validated. An event looks at the settings, drops them, or changes nothing but the environment; no
event touches the catalog.
-/

namespace ThreatMatrix

namespace Session

/-! ## Events -/

/-- What can happen to a session. -/
inductive Event where
  | setVariable (name : Text) (value : Option Text)
  | readSettings
  | dropSettings
  | validateCoverage (value : Value)
  | validateCoverageText (text : Text)
  | validateTechnique (value : Value)

/-- What is answered to an event. -/
inductive Answer where
  | nothing
  | settings (result : Except Report Settings)
  | coverage (result : Except Report Coverage)
  | technique (result : Except (List Issue) Technique)

/-- An answer that reports a fault. -/
inductive Answer.IsFailure : Answer → Prop where
  | settings (report : Report) : IsFailure (.settings (.error report))
  | coverage (report : Report) : IsFailure (.coverage (.error report))
  | technique (issues : List Issue) : IsFailure (.technique (.error issues))

/-- The session after an event, and what is answered. -/
def perform (session : Session) : Event → Session × Answer
  | .setVariable name value => (session.setVariable name value, .nothing)
  | .readSettings => (session.keepSettings, .settings session.settings)
  | .dropSettings => (session.dropSettings, .nothing)
  | .validateCoverage value => (session.validateCoverage value).map id .coverage
  | .validateCoverageText text => (session.validateCoverageText text).map id .coverage
  | .validateTechnique value => (session.validateTechnique value).map id .technique

/-- The session after events in a row. -/
def after (session : Session) (events : List Event) : Session :=
  events.foldl (fun here event => (here.perform event).1) session

namespace Event

/-- An event that looks at the settings: they are read, or a value is validated in which a technique
is spelled with a low line. -/
inductive Looks : Event → Prop where
  | readSettings : Looks .readSettings
  | technique {value : Value} (lowLine : Coverage.HasLowLine value) :
      Looks (.validateTechnique value)
  | coverage {item value : Value} (lists : Coverage.ListsTechnique item value)
      (lowLine : Coverage.HasLowLine item) : Looks (.validateCoverage value)
  | coverageText {text : Text} {item value : Value} (isOffered : Coverage.offered text = .ok value)
      (lists : Coverage.ListsTechnique item value) (lowLine : Coverage.HasLowLine item) :
      Looks (.validateCoverageText text)

/-- The environment that an event leaves. -/
def environmentAfter (environment : Environment) : Event → Environment
  | setVariable name (some value) => environment.assign name value
  | setVariable name none => environment.remove name
  | _ => environment

/-- What is answered to an event under the settings as they could be read. -/
def answer (catalog : Catalog) (settings : Except Report Settings) : Event → Answer
  | setVariable _ _ => .nothing
  | readSettings => .settings settings
  | dropSettings => .nothing
  | validateCoverage value => .coverage (Coverage.ofValue catalog settings value)
  | validateCoverageText text => .coverage (Coverage.ofJsonText catalog settings text)
  | validateTechnique value => .technique (Coverage.checkTechnique catalog settings value)

section

variable {catalog : Catalog} {value : Value} {text : Text}

theorem not_looks_setVariable {name : Text} {assigned : Option Text} :
    ¬(setVariable name assigned).Looks := by
  intro looks
  cases looks

theorem not_looks_dropSettings : ¬dropSettings.Looks := by
  intro looks
  cases looks

theorem environmentAfter_of_looks {event : Event} (looks : event.Looks)
    (environment : Environment) : event.environmentAfter environment = environment := by
  cases looks with
  | _ => rfl

theorem looks_validateTechnique_iff :
    (validateTechnique value).Looks ↔ (Coverage.lowLine? value).isSome = true := by
  rw [Coverage.lowLine?_isSome_iff]
  constructor
  · intro looks
    cases looks with
    | technique lowLine => exact lowLine
  · exact Looks.technique

theorem looks_validateCoverage_iff :
    (validateCoverage value).Looks ↔ Coverage.consultsSettings value = true := by
  rw [Coverage.consultsSettings_iff]
  constructor
  · intro looks
    cases looks with
    | coverage lists lowLine => exact ⟨_, lists, lowLine⟩
  · rintro ⟨item, lists, lowLine⟩
    exact .coverage lists lowLine

theorem looks_validateCoverageText_iff :
    (validateCoverageText text).Looks ↔
      ∃ value, Coverage.offered text = .ok value ∧ Coverage.consultsSettings value = true := by
  simp only [Coverage.consultsSettings_iff]
  constructor
  · intro looks
    cases looks with
    | coverageText isOffered lists lowLine => exact ⟨_, isOffered, _, lists, lowLine⟩
  · rintro ⟨value, isOffered, item, lists, lowLine⟩
    exact .coverageText isOffered lists lowLine

/-- Where an event does not look at the settings, they have no part in the answer. -/
theorem answer_of_not_looks {event : Event} (unseen : ¬event.Looks)
    (left right : Except Report Settings) :
    event.answer catalog left = event.answer catalog right := by
  cases event with
  | setVariable name value => rfl
  | readSettings => exact absurd .readSettings unseen
  | dropSettings => rfl
  | validateCoverage value =>
    rw [looks_validateCoverage_iff, Bool.not_eq_true] at unseen
    rw [answer, answer, Coverage.ofValue, Coverage.ofValue,
      Coverage.check_of_not_consultsSettings unseen left right]
  | validateCoverageText text =>
    rw [answer, answer, Coverage.ofJsonText, Coverage.ofJsonText]
    cases isOffered : Coverage.offered text with
    | error issues => rfl
    | ok value =>
      have noLowLine : Coverage.consultsSettings value = false := by
        rw [← Bool.not_eq_true]
        intro consults
        exact unseen (looks_validateCoverageText_iff.2 ⟨value, isOffered, consults⟩)
      rw [ok_bind, ok_bind, Coverage.check_of_not_consultsSettings noLowLine left right]
  | validateTechnique value =>
    rw [looks_validateTechnique_iff, Coverage.lowLine?_isSome_iff] at unseen
    rw [answer, answer, Coverage.checkTechnique_of_not_hasLowLine unseen left right]

/-- Where an event looks at settings that cannot be read, a fault is answered. -/
theorem isFailure_answer {event : Event} (looks : event.Looks) (report : Report) :
    (event.answer catalog (.error report)).IsFailure := by
  cases looks with
  | readSettings => exact .settings report
  | technique lowLine =>
    rw [answer, Coverage.checkTechnique_of_unreadable lowLine]
    exact .technique report.issues
  | coverage lists lowLine =>
    obtain ⟨issues, refused⟩ := Coverage.exists_check_error
      (Coverage.consultsSettings_iff.2 ⟨_, lists, lowLine⟩) .data
    rw [answer, Coverage.ofValue, refused]
    exact .coverage _
  | coverageText isOffered lists lowLine =>
    obtain ⟨issues, refused⟩ := Coverage.exists_check_error
      (Coverage.consultsSettings_iff.2 ⟨_, lists, lowLine⟩) .document
    rw [answer, Coverage.ofJsonText, isOffered, ok_bind, refused]
    exact .coverage _

end

end Event

/-- The environment that events in a row leave. -/
def environmentAfter (environment : Environment) (events : List Event) : Environment :=
  events.foldl Event.environmentAfter environment

/-! ## One event -/

/-- The settings in force are those that are kept, and else those of the environment. -/
theorem settings_eq (session : Session) :
    session.settings = session.kept.elim (Settings.read session.environment) .ok := by
  unfold settings
  cases session.kept with
  | none => rfl
  | some kept => rfl

/-- Nothing is kept where the settings cannot be read. -/
theorem kept_of_failed {session : Session} {report : Report}
    (isFault : session.settings = .error report) : session.kept = none := by
  rw [settings_eq] at isFault
  cases isKept : session.kept with
  | none => rfl
  | some found =>
    rw [isKept] at isFault
    cases isFault

/-- Looking at the settings keeps what could be read. -/
theorem keepSettings_eq (session : Session) :
    session.keepSettings = { session with kept := session.settings.toOption } := by
  unfold keepSettings
  cases found : session.settings with
  | ok settings => rfl
  | error report => rw [Except.toOption, ← kept_of_failed found]

/-- Every event is answered under the settings that are in force. -/
theorem perform_answer (session : Session) (event : Event) :
    (session.perform event).2 = event.answer session.catalog session.settings := by
  cases event with
  | _ => rfl

/-- What an event makes of a session: its settings are looked at, or they are dropped, or nothing
but its environment changes. -/
inductive Becomes (session : Session) (event : Event) (next : Session) : Prop where
  | looked (looks : event.Looks) (isNext : next = session.keepSettings)
  | dropped (isDrop : event = .dropSettings) (isNext : next = session.dropSettings)
  | unseen (unseen : ¬event.Looks) (undropped : event ≠ .dropSettings)
      (isNext : next =
        { session with environment := event.environmentAfter session.environment })

theorem becomes_of_looks_iff {session : Session} {event : Event} {consults : Bool}
    (looks : event.Looks ↔ consults = true) (undropped : event ≠ .dropSettings)
    (same : event.environmentAfter session.environment = session.environment) :
    session.Becomes event (if consults then session.keepSettings else session) := by
  cases consults with
  | true => exact .looked (looks.2 rfl) rfl
  | false => exact .unseen (mt looks.1 Bool.false_ne_true) undropped (by rw [same]; rfl)

theorem becomes_perform (session : Session) (event : Event) :
    session.Becomes event (session.perform event).1 := by
  cases event with
  | setVariable name value =>
    apply Becomes.unseen Event.not_looks_setVariable Event.noConfusion
    cases value with
    | none => rfl
    | some value => rfl
  | readSettings => exact .looked .readSettings rfl
  | dropSettings => exact .dropped rfl rfl
  | validateCoverage value =>
    exact becomes_of_looks_iff Event.looks_validateCoverage_iff Event.noConfusion rfl
  | validateCoverageText text =>
    apply becomes_of_looks_iff _ Event.noConfusion rfl
    rw [Event.looks_validateCoverageText_iff]
    cases Coverage.offered text with
    | error issues => simp
    | ok value => simp
  | validateTechnique value =>
    exact becomes_of_looks_iff Event.looks_validateTechnique_iff Event.noConfusion rfl

/-- An event that looks at the settings keeps what it finds and changes nothing else. -/
theorem perform_of_looks {session : Session} {event : Event} (looks : event.Looks) :
    (session.perform event).1 = session.keepSettings := by
  cases becomes_perform session event with
  | looked _ isNext => exact isNext
  | dropped isDrop _ => exact absurd (isDrop ▸ looks) Event.not_looks_dropSettings
  | unseen unseen _ _ => exact absurd looks unseen

/-- An event that neither looks at the settings nor drops them changes the environment only. -/
theorem perform_of_not_looks {session : Session} {event : Event} (unseen : ¬event.Looks)
    (undropped : event ≠ .dropSettings) :
    (session.perform event).1 =
      { session with environment := event.environmentAfter session.environment } := by
  cases becomes_perform session event with
  | looked looks _ => exact absurd looks unseen
  | dropped isDrop _ => exact absurd isDrop undropped
  | unseen _ _ isNext => exact isNext

/-- An event that looks at settings that cannot be read changes nothing. -/
theorem perform_of_failed {session : Session} {event : Event} {report : Report}
    (looks : event.Looks) (isFault : session.settings = .error report) :
    (session.perform event).1 = session := by
  rw [perform_of_looks looks, keepSettings, isFault]

/-- No event touches the files or the catalog, and only a variable that is set changes the
environment. -/
theorem perform_rest (session : Session) (event : Event) :
    (session.perform event).1.files = session.files ∧
      (session.perform event).1.catalog = session.catalog ∧
      (session.perform event).1.environment = event.environmentAfter session.environment := by
  cases becomes_perform session event with
  | looked looks isNext =>
    rw [isNext, keepSettings_eq, Event.environmentAfter_of_looks looks]
    exact ⟨rfl, rfl, rfl⟩
  | dropped isDrop isNext =>
    rw [isNext, isDrop]
    exact ⟨rfl, rfl, rfl⟩
  | unseen _ _ isNext =>
    rw [isNext]
    exact ⟨rfl, rfl, rfl⟩

/-! ## Events in a row -/

theorem after_snoc (session : Session) (events : List Event) (event : Event) :
    session.after (events ++ [event]) = ((session.after events).perform event).1 :=
  List.foldl_concat ..

theorem environmentAfter_snoc (environment : Environment) (events : List Event) (event : Event) :
    environmentAfter environment (events ++ [event]) =
      event.environmentAfter (environmentAfter environment events) :=
  List.foldl_concat ..

theorem environmentAfter_append (environment : Environment) (events more : List Event) :
    environmentAfter environment (events ++ more) =
      environmentAfter (environmentAfter environment events) more :=
  List.foldl_append

/-- No events touch the files or the catalog, and the environment is what the variables that are set
make of it. -/
theorem after_rest (session : Session) (events : List Event) :
    (session.after events).files = session.files ∧
      (session.after events).catalog = session.catalog ∧
      (session.after events).environment = environmentAfter session.environment events := by
  induction events using List.reverseRecOn with
  | nil => exact ⟨rfl, rfl, rfl⟩
  | append_singleton events event inductionHypothesis =>
    obtain ⟨files, catalog, environment⟩ := perform_rest (session.after events) event
    rw [after_snoc, environmentAfter_snoc, files, catalog, environment]
    obtain ⟨sameFiles, sameCatalog, sameEnvironment⟩ := inductionHypothesis
    exact ⟨sameFiles, sameCatalog, congrArg event.environmentAfter sameEnvironment⟩

end Session
end ThreatMatrix
