import ThreatMatrix.Proofs.Session.Events
import ThreatMatrix.Proofs.Table.Loading

/-!
# Settings as a snapshot

Settings that are looked at come from the first look that succeeded since they were last dropped,
and the beginning of a session is such a look. A look that fails keeps nothing, so the next one
finds the environment as it is by then.
-/

namespace ThreatMatrix

namespace Session

/-! ## The first look that succeeds -/

/-- A history that is cut where the settings were last dropped, or else at its beginning. -/
structure IsSinceDrop (history older stretch : List Event) : Prop where
  whole : history = older ++ stretch
  cut : older = [] ∨ ∃ before, older = before ++ [.dropSettings]
  undropped : .dropSettings ∉ stretch

/-- No look in a stretch of events succeeded. -/
def NoneRead (environment : Environment) (stretch : List Event) : Prop :=
  ∀ before event later, stretch = before ++ event :: later → event.Looks →
    ∃ report, Settings.read (environmentAfter environment before) = .error report

/-- The first look that succeeded in a stretch of events found these settings. -/
def FirstRead (environment : Environment) (stretch : List Event) (found : Settings) : Prop :=
  ∃ before event later, stretch = before ++ event :: later ∧ NoneRead environment before ∧
    event.Looks ∧ Settings.read (environmentAfter environment before) = .ok found

/-- What the looks in a stretch of events came to. -/
def HasRead (environment : Environment) (stretch : List Event) : Option Settings → Prop
  | some found => FirstRead environment stretch found
  | none => NoneRead environment stretch

section

variable {environment : Environment} {history older stretch : List Event} {event : Event}
  {found : Settings}

theorem IsSinceDrop.snoc (isSinceDrop : IsSinceDrop history older stretch)
    (undropped : event ≠ .dropSettings) :
    IsSinceDrop (history ++ [event]) older (stretch ++ [event]) where
  whole := by rw [isSinceDrop.whole, List.append_assoc]
  cut := isSinceDrop.cut
  undropped := by
    rw [List.mem_append, List.mem_singleton, not_or]
    exact ⟨isSinceDrop.undropped, undropped.symm⟩

theorem NoneRead.nil : NoneRead environment [] := by
  intro before event later split
  cases List.append_eq_nil_iff.1 split.symm with
  | intro _ isNil => cases isNil

theorem NoneRead.snoc (noneRead : NoneRead environment stretch)
    (fails : event.Looks →
      ∃ report, Settings.read (environmentAfter environment stretch) = .error report) :
    NoneRead environment (stretch ++ [event]) := by
  intro before look later split looks
  rcases List.eq_nil_or_concat later with rfl | ⟨later, last, rfl⟩
  · obtain ⟨rfl, isLook⟩ := List.append_inj' split rfl
    cases isLook
    exact fails looks
  · rw [List.concat_eq_append, ← List.cons_append, ← List.append_assoc] at split
    obtain ⟨isStretch, -⟩ := List.append_inj' split rfl
    exact noneRead before look later isStretch looks

theorem FirstRead.snoc (firstRead : FirstRead environment stretch found) :
    FirstRead environment (stretch ++ [event]) found := by
  obtain ⟨before, look, later, split, noneRead, looks, isFound⟩ := firstRead
  refine ⟨before, look, later ++ [event], ?_, noneRead, looks, isFound⟩
  rw [split, List.append_assoc, List.cons_append]

/-- A look adds to what the looks before it came to: nothing where one succeeded, and else what can
be read by then. -/
theorem HasRead.look {kept : Option Settings} {settings : Except Report Settings}
    (hasRead : HasRead environment stretch kept) (looks : event.Looks)
    (inForce : settings =
      kept.elim (Settings.read (environmentAfter environment stretch)) Except.ok) :
    HasRead environment (stretch ++ [event]) settings.toOption := by
  cases kept with
  | some found =>
    rw [inForce]
    exact hasRead.snoc
  | none =>
    rw [Option.elim_none] at inForce
    cases settings with
    | ok found => exact ⟨stretch, event, [], rfl, hasRead, looks, inForce.symm⟩
    | error report => exact NoneRead.snoc hasRead fun _ => ⟨report, inForce.symm⟩

theorem HasRead.snoc {kept : Option Settings} (hasRead : HasRead environment stretch kept)
    (unseen : ¬event.Looks) : HasRead environment (stretch ++ [event]) kept := by
  cases kept with
  | some found => exact FirstRead.snoc hasRead
  | none => exact NoneRead.snoc hasRead fun looks => absurd looks unseen

end

/-! ## Sessions from their beginning -/

section

variable {session : Session} {event : Event} {found : Settings}

/-- One event adds to what the looks before it came to. -/
theorem HasRead.perform {environment : Environment} {stretch : List Event}
    (hasRead : HasRead environment stretch session.kept)
    (here : session.environment = environmentAfter environment stretch)
    (undropped : event ≠ .dropSettings) :
    HasRead environment (stretch ++ [event]) (session.perform event).1.kept := by
  cases becomes_perform session event with
  | looked looks isNext =>
    rw [isNext, keepSettings_eq]
    apply hasRead.look looks
    rw [settings_eq, here]
  | dropped isDrop _ => exact absurd isDrop undropped
  | unseen unseen _ isNext =>
    rw [isNext]
    exact hasRead.snoc unseen

/-- From a session that keeps nothing on, what is kept is what the looks came to since the settings
were last dropped. -/
theorem hasRead_after (blank : session.kept = none) (history : List Event) :
    ∃ older stretch, IsSinceDrop history older stretch ∧
      HasRead (environmentAfter session.environment older) stretch
        (session.after history).kept := by
  induction history using List.reverseRecOn with
  | nil =>
    refine ⟨[], [], ⟨rfl, .inl rfl, List.not_mem_nil⟩, ?_⟩
    have nothingKept : (session.after []).kept = none := blank
    rw [nothingKept]
    exact NoneRead.nil
  | append_singleton history event inductionHypothesis =>
    rw [after_snoc]
    by_cases dropped : event = .dropSettings
    · refine ⟨history ++ [event], [], ⟨(List.append_nil _).symm, ?_, List.not_mem_nil⟩, ?_⟩
      · exact .inr ⟨history, by rw [dropped]⟩
      · rw [dropped]
        exact NoneRead.nil
    · obtain ⟨older, stretch, isSinceDrop, hasRead⟩ := inductionHypothesis
      refine ⟨older, stretch ++ [event], isSinceDrop.snoc dropped, hasRead.perform ?_ dropped⟩
      rw [(after_rest session history).2.2, isSinceDrop.whole, environmentAfter_append]

/-- Settings that are kept stay as long as they are not dropped. -/
theorem kept_after (isKept : session.kept = some found) {later : List Event}
    (undropped : .dropSettings ∉ later) : (session.after later).kept = some found := by
  induction later using List.reverseRecOn with
  | nil => exact isKept
  | append_singleton later event inductionHypothesis =>
    rw [List.mem_append, List.mem_singleton, not_or] at undropped
    have before := inductionHypothesis undropped.1
    rw [after_snoc]
    cases becomes_perform (session.after later) event with
    | looked _ isNext =>
      rw [isNext, keepSettings_eq, settings_eq, before, Option.elim_some, Except.toOption]
    | dropped isDrop _ => exact absurd isDrop.symm undropped.2
    | unseen _ _ isNext => rw [isNext, before]

/-- Where nothing is kept and nothing looks, the environment is in force. -/
theorem settings_after_of_not_looks (blank : session.kept = none) {later : List Event}
    (unseen : ∀ event ∈ later, ¬event.Looks) :
    (session.after later).settings = Settings.read (session.after later).environment := by
  have nothingKept : (session.after later).kept = none := by
    induction later using List.reverseRecOn with
    | nil => exact blank
    | append_singleton later event inductionHypothesis =>
      have before := inductionHypothesis fun other member =>
        unseen other (List.mem_append_left _ member)
      rw [after_snoc]
      cases becomes_perform (session.after later) event with
      | looked looks _ =>
        exact absurd looks (unseen event (List.mem_append_right _ List.mem_cons_self))
      | dropped _ isNext => rw [isNext, dropSettings]
      | unseen _ _ isNext => rw [isNext, before]
  rw [settings_eq, nothingKept, Option.elim_none]

/-- A session begins with a look at its settings. -/
theorem perform_of_start {room : Nat} {files : Tree} {environment : Environment}
    (begins : (start room files environment).result = .ok session) :
    session.environment = environment ∧
      (session.dropSettings.perform .readSettings).1 = session := by
  simp only [start, Outcome.result_bind, Outcome.result_ofExcept, Outcome.result_pure] at begins
  obtain ⟨settings, isRead, begins⟩ := bind_eq_ok_iff.1 begins
  obtain ⟨table, -, begins⟩ := bind_eq_ok_iff.1 begins
  obtain ⟨catalog, -, begins⟩ := bind_eq_ok_iff.1 begins
  cases begins
  refine ⟨rfl, ?_⟩
  have inForce : Settings.read environment = .ok settings := mapError_eq_ok_iff.1 isRead
  simp only [perform, keepSettings_eq, settings_eq, dropSettings, Option.elim_none, inForce,
    Except.toOption]

/-- In a session that has begun, a look comes to what the looks came to since the settings were last
dropped, itself among them. -/
theorem exists_hasRead_look {room : Nat} {files : Tree} {environment : Environment}
    (begins : (start room files environment).result = .ok session) (events : List Event) :
    ∃ older stretch, IsSinceDrop (.readSettings :: events) older stretch ∧
      ∀ event : Event, event.Looks → HasRead (environmentAfter environment older)
        (stretch ++ [event]) (session.after events).settings.toOption := by
  obtain ⟨isEnvironment, looked⟩ := perform_of_start begins
  have isBlank : session.dropSettings.environment = environment := isEnvironment
  have isAfter : session.dropSettings.after (.readSettings :: events) = session.after events := by
    rw [after, List.foldl_cons, looked, after]
  obtain ⟨older, stretch, isSinceDrop, hasRead⟩ :=
    @hasRead_after session.dropSettings rfl (.readSettings :: events)
  have isHere := (after_rest session.dropSettings (.readSettings :: events)).2.2
  rw [isAfter, isBlank] at hasRead
  rw [isAfter, isBlank, isSinceDrop.whole, environmentAfter_append] at isHere
  refine ⟨older, stretch, isSinceDrop, fun event looks => hasRead.look looks ?_⟩
  rw [settings_eq, isHere]

end

/-- How settings behave in a session that began in an environment and with a catalog. The beginning
is a look at the settings. -/
structure IsSnapshot (environment : Environment) (catalog : Catalog) (events : List Event)
    (here : Session) : Prop where
  /-- No event changes the catalog. -/
  catalog_eq : here.catalog = catalog
  environment_eq : here.environment = environmentAfter environment events
  /-- Every event is answered under the settings in force. -/
  answer : ∀ event, (here.perform event).2 = event.answer catalog here.settings
  /-- The settings have a part in the answer only where the event looks at them. -/
  unaware : ∀ event : Event, ¬event.Looks → ∀ others,
    event.answer catalog here.settings = event.answer catalog others
  /-- An event that neither looks at the settings nor drops them leaves what is kept. -/
  untouched : ∀ event : Event, ¬event.Looks → event ≠ .dropSettings →
    (here.perform event).1 =
      { here with environment := event.environmentAfter here.environment }
  /-- A look that succeeds finds what the first one found that succeeded since the settings were
  last dropped. -/
  first : ∀ event, event.Looks → ∀ found, here.settings = .ok found →
    ∃ older stretch, IsSinceDrop (.readSettings :: events) older stretch ∧
      FirstRead (environmentAfter environment older) (stretch ++ [event]) found
  /-- Later looks find the same whatever becomes of the environment, until the settings are
  dropped. -/
  lasting : ∀ event, event.Looks → ∀ found, here.settings = .ok found →
    ∀ later, .dropSettings ∉ later →
      ((here.perform event).1.after later).settings = .ok found
  /-- A look that fails answers with a fault and keeps nothing, and so did all since the settings
  were last dropped. -/
  failed : ∀ event, event.Looks → ∀ report, here.settings = .error report →
    (here.perform event).2.IsFailure ∧ (here.perform event).1 = here ∧
      ∃ older stretch, IsSinceDrop (.readSettings :: events) older stretch ∧
        NoneRead (environmentAfter environment older) (stretch ++ [event])
  /-- After a look that failed, the next finds the environment as it is by then. -/
  retried : ∀ event, event.Looks → ∀ report, here.settings = .error report →
    ∀ later, (∀ other ∈ later, ¬other.Looks) →
      ((here.perform event).1.after later).settings =
        Settings.read ((here.perform event).1.after later).environment
  /-- After the settings were dropped, the next look finds the environment as it is by then. -/
  dropped : ∀ later, (∀ event ∈ later, ¬event.Looks) →
    ((here.perform .dropSettings).1.after later).settings =
      Settings.read ((here.perform .dropSettings).1.after later).environment

/-- Settings are a snapshot: in every run of a session that has begun, a look that succeeds finds
what the environment said at the first successful look since the settings were last dropped, a look
that fails leaves no trace, and nothing changes the catalog. -/
theorem isSnapshot {room : Nat} {files : Tree} {environment : Environment} {session : Session}
    (begins : (start room files environment).result = .ok session) (events : List Event) :
    IsSnapshot environment session.catalog events (session.after events) := by
  obtain ⟨-, sameCatalog, sameEnvironment⟩ := after_rest session events
  obtain ⟨older, stretch, isSinceDrop, looksNow⟩ := exists_hasRead_look begins events
  exact {
    catalog_eq := sameCatalog
    environment_eq := by rw [sameEnvironment, (perform_of_start begins).1]
    answer := by
      intro event
      rw [perform_answer, sameCatalog]
    unaware := fun event unseen others => Event.answer_of_not_looks unseen _ others
    untouched := fun event unseen undropped => perform_of_not_looks unseen undropped
    first := by
      intro event looks found isFound
      have firstRead := looksNow event looks
      rw [isFound] at firstRead
      exact ⟨older, stretch, isSinceDrop, firstRead⟩
    lasting := by
      intro event looks found isFound later undropped
      have isKept : ((session.after events).perform event).1.kept = some found := by
        rw [perform_of_looks looks, keepSettings_eq, isFound, Except.toOption]
      rw [settings_eq, kept_after isKept undropped, Option.elim_some]
    failed := by
      intro event looks report isFault
      have noneRead := looksNow event looks
      rw [isFault] at noneRead
      refine ⟨?_, perform_of_failed looks isFault, older, stretch, isSinceDrop, noneRead⟩
      rw [perform_answer, isFault]
      exact Event.isFailure_answer looks report
    retried := by
      intro event looks report isFault later unseen
      rw [perform_of_failed looks isFault]
      exact settings_after_of_not_looks (kept_of_failed isFault) unseen
    dropped := fun later unseen => settings_after_of_not_looks rfl unseen }

/-- A session that began in an empty environment. -/
def begun : Session :=
  { files := .empty, environment := [], kept := some ⟨none, true⟩,
    catalog := .ofTable Table.packaged.sorted }

theorem start_begun (room : Nat) : (start room .empty []).result = .ok begun := by
  have isRead : Settings.read [] = .ok ⟨none, true⟩ := rfl
  simp only [start, Outcome.result_bind, Outcome.result_ofExcept, Outcome.result_pure, isRead,
    mapError_ok, ok_bind, Table.load?_packaged, Catalog.build_eq_ofTable]
  rfl

/-- Low lines are switched off, which is not seen before the settings are dropped; then the variable
says nothing that is understood, and a look fails; then they are switched off again. -/
def switched : List Event :=
  [.setVariable Settings.legacyVariable (some "no"), .readSettings, .dropSettings,
    .setVariable Settings.legacyVariable (some "maybe"), .readSettings,
    .setVariable Settings.legacyVariable (some "no")]

/-- What was found at the beginning lasts until it is dropped, and the look that fails leaves
nothing for the one after it. -/
theorem isSnapshot_switched :
    (∀ room, (start room .empty []).result = .ok begun) ∧
      IsSnapshot [] begun.catalog switched (begun.after switched) ∧
      (begun.after (switched.take 2)).settings = .ok ⟨none, true⟩ ∧
      (∃ report, (begun.after (switched.take 5)).settings = .error report) ∧
      (begun.after switched).settings = .ok ⟨none, false⟩ :=
  ⟨start_begun, isSnapshot (start_begun 0) switched, rfl, ⟨_, rfl⟩, rfl⟩

end Session
end ThreatMatrix
