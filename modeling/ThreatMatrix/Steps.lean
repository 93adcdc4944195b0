/-!
# Steps that may fail

Steps in a row end at the first that fails. The first lemmas open two steps in a row, and the next
ones a step that is taken for every item of a list. For loops,
`exists_run` shows that one runs to its end, and `run_keeps` says what a loop that ran to its end
has made of its items. The relation in both speaks of the items that were taken so far.
-/

namespace ThreatMatrix

variable {α β σ ε ε' : Type}

@[simp] theorem pure_eq_ok (value : α) : (pure value : Except ε α) = .ok value :=
  rfl

@[simp] theorem ok_bind (value : α) (next : α → Except ε β) : .ok value >>= next = next value :=
  rfl

@[simp] theorem error_bind (failure : ε) (next : α → Except ε β) :
    .error failure >>= next = .error failure :=
  rfl

@[simp] theorem mapError_ok (rename : ε → ε') (value : α) :
    (Except.ok value : Except ε α).mapError rename = .ok value :=
  rfl

@[simp] theorem mapError_error (rename : ε → ε') (failure : ε) :
    (Except.error failure : Except ε α).mapError rename = .error (rename failure) :=
  rfl

/-- Two steps in a row succeed exactly if both do. -/
theorem bind_eq_ok_iff {first : Except ε α} {next : α → Except ε β} {result : β} :
    first >>= next = .ok result ↔ ∃ value, first = .ok value ∧ next value = .ok result := by
  cases first with
  | error failure => simp
  | ok value => simp

/-- A result that is changed is a result exactly if there was one. -/
theorem map_eq_ok_iff {change : α → β} {step : Except ε α} {result : β} :
    change <$> step = .ok result ↔ ∃ value, step = .ok value ∧ change value = result := by
  rw [map_eq_pure_bind, bind_eq_ok_iff]
  simp

/-- Renaming failures changes no success. -/
theorem mapError_eq_ok_iff {rename : ε → ε'} {step : Except ε α} {value : α} :
    step.mapError rename = .ok value ↔ step = .ok value := by
  cases step with
  | error failure => simp
  | ok other => simp

/-- Two steps in a row fail exactly if the first does, or the second on the result of the first. -/
theorem bind_eq_error_iff {first : Except ε α} {next : α → Except ε β} {failure : ε} :
    first >>= next = .error failure ↔
      first = .error failure ∨ ∃ value, first = .ok value ∧ next value = .error failure := by
  cases first with
  | error other => simp
  | ok value => simp

/-- A failure is renamed exactly if there was one. -/
theorem mapError_eq_error_iff {rename : ε → ε'} {step : Except ε α} {failure : ε'} :
    step.mapError rename = .error failure ↔
      ∃ earlier, step = .error earlier ∧ rename earlier = failure := by
  cases step with
  | error other => simp
  | ok value => simp

/-- A step fails exactly if it has no result. -/
theorem exists_eq_error_iff {step : Except ε α} :
    (∃ failure, step = .error failure) ↔ ∀ value, step ≠ .ok value := by
  cases step with
  | error failure => simp
  | ok value => simp

/-- A step taken for every item succeeds exactly if it does for each. -/
theorem exists_mapM_eq_ok_iff {step : α → Except ε β} {items : List α} :
    (∃ results, items.mapM step = .ok results) ↔
      ∀ item ∈ items, ∃ result, step item = .ok result := by
  induction items with
  | nil => simp
  | cons item more inductionHypothesis =>
    rw [List.forall_mem_cons, ← inductionHypothesis, List.mapM_cons]
    cases step item with
    | error failure => simp
    | ok result => cases more.mapM step <;> simp

/-- A step taken for every item fails as it does for the first item for which it fails. -/
theorem mapM_eq_error_iff {step : α → Except ε β} {items : List α} {failure : ε} :
    items.mapM step = .error failure ↔ ∃ before item after, items = before ++ item :: after ∧
      (∀ earlier ∈ before, ∃ result, step earlier = .ok result) ∧ step item = .error failure := by
  induction items with
  | nil => simp
  | cons first more inductionHypothesis =>
    rw [List.mapM_cons, bind_eq_error_iff]
    constructor
    · rintro (failed | ⟨result, succeeded, rest⟩)
      · exact ⟨[], first, more, rfl, by simp, failed⟩
      · have failed : more.mapM step = .error failure := by
          simpa [bind_eq_error_iff] using rest
        obtain ⟨before, item, after, rfl, earlier, failed⟩ := inductionHypothesis.1 failed
        refine ⟨first :: before, item, after, rfl, ?_, failed⟩
        exact List.forall_mem_cons.2 ⟨⟨result, succeeded⟩, earlier⟩
    · rintro ⟨before, item, after, split, earlier, failed⟩
      cases before with
      | nil =>
        cases split
        exact .inl failed
      | cons other before =>
        cases split
        obtain ⟨⟨result, succeeded⟩, others⟩ := List.forall_mem_cons.1 earlier
        have rest := inductionHypothesis.2 ⟨before, item, after, rfl, others, failed⟩
        exact .inr ⟨result, succeeded, bind_eq_error_iff.2 (.inl rest)⟩

/-- A loop whose every step succeeds and carries a relation on runs to its end and has it there. -/
theorem exists_run (step : σ → α → Except ε σ) (relation : List α → σ → Prop) {start : σ}
    {items : List α} (initial : relation [] start)
    (advance : ∀ taken item later state, items = taken ++ item :: later → relation taken state →
      ∃ next, step state item = .ok next ∧ relation (taken ++ [item]) next) :
    ∃ final, items.foldlM step start = .ok final ∧ relation items final := by
  have fromHere : ∀ rest taken state, items = taken ++ rest → relation taken state →
      ∃ final, rest.foldlM step state = .ok final ∧ relation items final := by
    intro rest
    induction rest with
    | nil =>
      intro taken state split holds
      exact ⟨state, rfl, by simpa [split] using holds⟩
    | cons item later inductionHypothesis =>
      intro taken state split holds
      obtain ⟨next, stepped, holdsNext⟩ := advance taken item later state split holds
      obtain ⟨final, ran, holdsFinal⟩ :=
        inductionHypothesis (taken ++ [item]) next (by simpa using split) holdsNext
      refine ⟨final, ?_, holdsFinal⟩
      rw [List.foldlM_cons, stepped]
      exact ran
  exact fromHere items [] start rfl initial

/-- A relation that every successful step carries on holds at the end of a loop that ran to it. -/
theorem run_keeps {step : σ → α → Except ε σ} (relation : List α → σ → Prop) {start final : σ}
    {items : List α} (ran : items.foldlM step start = .ok final) (initial : relation [] start)
    (advance : ∀ taken item state next, relation taken state → step state item = .ok next →
      relation (taken ++ [item]) next) :
    relation items final := by
  have fromHere : ∀ rest taken state, relation taken state →
      rest.foldlM step state = .ok final → relation (taken ++ rest) final := by
    intro rest
    induction rest with
    | nil =>
      intro taken state holds ran
      cases ran
      simpa using holds
    | cons item later inductionHypothesis =>
      intro taken state holds ran
      rw [List.foldlM_cons] at ran
      cases stepped : step state item with
      | error problem =>
        rw [stepped] at ran
        cases ran
      | ok next =>
        rw [stepped] at ran
        have holdsNext := advance taken item state next holds stepped
        simpa using inductionHypothesis (taken ++ [item]) next holdsNext ran
  simpa using fromHere items [] start initial ran

end ThreatMatrix
