import ThreatMatrix.Proofs.Table.Description

/-!
# Rows judged

Rows make up a table if no identifier stands twice and the technique of every sub-technique has a
row, in whatever order the rows stand. Otherwise one fault is blamed: the first identifier that
stands in an earlier row, or else all sub-techniques whose technique is missing. The rows of a value
are judged only when every one of them is well formed, so `DescribesRows` says what that takes.
-/

namespace ThreatMatrix.Table

variable {rows : List Technique} {domain : Text} {version : Option Text} {fault : Inconsistency}

/-! ## Repeated identifiers -/

/-- The loop over identifiers stops at the first that stands among the earlier ones. -/
theorem firstRepeated?_eq_some_iff {earlier ids : List TechniqueId} {id : TechniqueId} :
    firstRepeated? earlier ids = some id ↔ ∃ before behind, ids = before ++ id :: behind ∧
      before.Nodup ∧ (∀ other ∈ before, other ∉ earlier) ∧ (id ∈ earlier ∨ id ∈ before) := by
  induction ids generalizing earlier with
  | nil => simp [firstRepeated?]
  | cons first more inductionHypothesis =>
    rw [firstRepeated?]
    split
    · next old =>
      constructor
      · intro isFirst
        cases isFirst
        exact ⟨[], more, rfl, List.nodup_nil, fun _ inNothing => absurd inNothing List.not_mem_nil,
          .inl old⟩
      · rintro ⟨before, behind, split, -, fresh, -⟩
        cases before with
        | nil =>
          cases split
          rfl
        | cons other rest =>
          cases split
          exact absurd old (fresh first List.mem_cons_self)
    · next new =>
      rw [inductionHypothesis]
      constructor
      · rintro ⟨before, behind, rfl, distinct, fresh, occurred⟩
        refine ⟨first :: before, behind, rfl, List.nodup_cons.2 ⟨fun again => ?_, distinct⟩, ?_, ?_⟩
        · exact fresh first again List.mem_cons_self
        · rw [List.forall_mem_cons]
          exact ⟨new, fun other member old => fresh other member (List.mem_cons_of_mem first old)⟩
        · rwa [List.mem_cons, or_assoc, or_left_comm, ← List.mem_cons] at occurred
      · rintro ⟨before, behind, split, distinct, fresh, occurred⟩
        cases before with
        | nil =>
          cases split
          exact absurd (occurred.resolve_right List.not_mem_nil) new
        | cons other rest =>
          cases split
          rw [List.nodup_cons] at distinct
          refine ⟨rest, behind, rfl, distinct.2, fun other member => ?_, ?_⟩
          · rw [List.mem_cons, not_or]
            refine ⟨?_, fresh other (List.mem_cons_of_mem first member)⟩
            rintro rfl
            exact distinct.1 member
          · rwa [List.mem_cons, or_left_comm, ← or_assoc, ← List.mem_cons] at occurred

/-- A repeated identifier is blamed before anything else is looked at. -/
theorem ofRows_of_repeated {id : TechniqueId}
    (isRepeated : firstRepeated? [] (rows.map (·.id)) = some id) :
    ofRows domain version rows = .error (.repeated id) := by
  unfold ofRows
  dsimp only
  split
  · next found =>
    rw [isRepeated] at found
    cases found
    rfl
  · next unrepeated =>
    rw [isRepeated] at unrepeated
    cases unrepeated

/-! ## Orphans -/

/-- A sub-technique whose technique has no row. -/
def IsOrphanAmong (rows : List Technique) (row : Technique) : Prop :=
  ∃ parent, row.id.parentText? = some parent ∧ parent ∉ rows.map (·.id.text)

/-- The filter for orphans finds them, wherever in the rows their technique would stand. -/
theorem isOrphan_iff {row : Technique} :
    isOrphan ((rows.map (·.id)).map (·.text)) row.id = true ↔ IsOrphanAmong rows row := by
  rw [IsOrphanAmong, isOrphan, List.map_map]
  cases row.id.parentText? with
  | none => simp
  | some parent => simp

/-- Some rows are the orphans, in their order. -/
structure AreOrphans (rows lost : List Technique) : Prop where
  members : ∀ row, row ∈ lost ↔ row ∈ rows ∧ IsOrphanAmong rows row
  ordered : lost.Sublist rows

/-- The rows that the filter for orphans keeps. -/
def orphanRows (rows : List Technique) : List Technique :=
  rows.filter fun row => isOrphan ((rows.map (·.id)).map (·.text)) row.id

theorem orphans_eq_map (rows : List Technique) :
    orphans (rows.map (·.id)) = (orphanRows rows).map (·.id) := by
  rw [orphans, List.filter_map]
  rfl

theorem areOrphans_orphanRows (rows : List Technique) : AreOrphans rows (orphanRows rows) where
  members row := by rw [orphanRows, List.mem_filter, isOrphan_iff]
  ordered := List.filter_sublist

/-- Among distinct rows there is one list of orphans. -/
theorem AreOrphans.eq_orphanRows {lost : List Technique} (areOrphans : AreOrphans rows lost)
    (distinct : rows.Nodup) : lost = orphanRows rows := by
  have found := areOrphans_orphanRows rows
  have same : ∀ row, row ∈ lost ↔ row ∈ orphanRows rows := fun row =>
    (areOrphans.members row).trans (found.members row).symm
  have permuted := (List.perm_ext_iff_of_nodup (distinct.sublist areOrphans.ordered)
    (distinct.sublist found.ordered)).2 same
  -- The filter keeps all of them, so they stand among the rows that it keeps.
  have within := areOrphans.ordered.filter
    fun row => isOrphan ((rows.map (·.id)).map (·.text)) row.id
  rw [List.filter_eq_self.2 fun row member => (List.mem_filter.1 ((same row).1 member)).2] at within
  exact within.eq_of_length permuted.length_eq

/-! ## Verdicts -/

/-- What rows are blamed for. -/
inductive Blames (rows : List Technique) : Inconsistency → Prop where
  /-- The first row whose identifier stands in an earlier row, whatever else is wrong. -/
  | repeated {before behind : List Technique} {row : Technique}
      (split : rows = before ++ row :: behind) (distinct : (before.map (·.id)).Nodup)
      (occurred : row.id ∈ before.map (·.id)) : Blames rows (.repeated row.id)
  /-- Every orphan, where no identifier is repeated. -/
  | orphans {lost : List Technique} (distinct : (rows.map (·.id)).Nodup)
      (areOrphans : AreOrphans rows lost) (something : lost ≠ []) :
      Blames rows (.orphans (lost.map (·.id)))

/-- Rows are refused for what they are to be blamed for. -/
theorem Blames.ofRows_eq (blames : Blames rows fault) (domain : Text) (version : Option Text) :
    ofRows domain version rows = .error fault := by
  cases blames with
  | @repeated before behind row split distinct occurred =>
    refine ofRows_of_repeated (firstRepeated?_eq_some_iff.2
      ⟨before.map (·.id), behind.map (·.id), ?_, distinct, nofun, .inr occurred⟩)
    rw [split, List.map_append, List.map_cons]
  | @orphans lost distinct areOrphans something =>
    have found := areOrphans.eq_orphanRows (List.Nodup.of_map _ distinct)
    rw [(ofRows_of_nodup distinct).2 ?_, orphans_eq_map, found]
    rw [orphans_eq_map, ← found]
    exact fun nothing => something (List.map_eq_nil_iff.1 nothing)

/-- Rows that are not consistent are to be blamed for something. -/
theorem exists_blames (inconsistent : ¬AreConsistent rows) : ∃ fault, Blames rows fault := by
  cases isRepeated : firstRepeated? [] (rows.map (·.id)) with
  | some id =>
    obtain ⟨before, behind, split, distinct, -, occurred⟩ := firstRepeated?_eq_some_iff.1 isRepeated
    obtain ⟨first, rest, isRows, rfl, isRest⟩ := List.map_eq_append_iff.1 split
    obtain ⟨row, last, rfl, rfl, rfl⟩ := List.map_eq_cons_iff.1 isRest
    exact ⟨_, .repeated isRows distinct (occurred.resolve_left List.not_mem_nil)⟩
  | none =>
    have distinct := (nodup_of_firstRepeated?_eq_none isRepeated).1
    refine ⟨_, .orphans distinct (areOrphans_orphanRows rows) fun nothing => inconsistent ?_⟩
    refine ⟨nodup_of_ids distinct (·.text) TechniqueId.eq_of_text, ?_⟩
    intro row member parent isParent
    refine Decidable.byContradiction fun absent => ?_
    exact List.filter_eq_nil_iff.1 nothing row member (isOrphan_iff.2 ⟨parent, isParent, absent⟩)

/-- Rows make up a table exactly if they are consistent. -/
theorem exists_ofRows_iff :
    (∃ table, ofRows domain version rows = .ok table) ↔ AreConsistent rows := by
  constructor
  · rintro ⟨table, isTable⟩
    obtain ⟨-, -, rfl⟩ := ofRows_eq_ok_iff.1 isTable
    exact table.areConsistent
  · intro consistent
    exact ⟨ofConsistent domain version consistent, ofRows_eq_ok_iff.2 ⟨rfl, rfl, rfl⟩⟩

/-- Rows are refused exactly for what they are to be blamed for. -/
theorem ofRows_eq_error_iff : ofRows domain version rows = .error fault ↔ Blames rows fault := by
  constructor
  · intro refused
    have inconsistent : ¬AreConsistent rows := fun consistent => by
      obtain ⟨table, isTable⟩ := exists_ofRows_iff.2 consistent
      rw [refused] at isTable
      cases isTable
    obtain ⟨other, blames⟩ := exists_blames inconsistent
    rw [blames.ofRows_eq] at refused
    cases refused
    exact blames
  · exact fun blames => blames.ofRows_eq domain version

/-- The order of rows has no part in whether they are consistent. -/
theorem AreConsistent.perm {other : List Technique} (consistent : AreConsistent rows)
    (permuted : rows.Perm other) : AreConsistent other where
  distinct := (permuted.map _).nodup_iff.1 consistent.distinct
  parented row member parent isParent :=
    (permuted.map _).mem_iff.1
      (consistent.parented row (permuted.mem_iff.2 member) parent isParent)

/-! ## Validation -/

/-- Fields of a record from which a domain, a version and well-formed rows are read. -/
structure DescribesRows (fields : List (Text × Value)) (domain : Text) (version : Option Text)
    (rows : List Technique) : Prop where
  domain : checkField fields "domain" (some defaultDomain)
    (fun field => atOnce field.checkText) = .ok domain
  version : checkField fields "attack_version" (some none)
    (fun field => atOnce (checkVersion field)) = .ok version
  rows : checkField fields "techniques" (some []) checkTechniques = .ok rows

/-- Any rows can be offered. -/
theorem describesRows_offered (rows : List Technique) :
    DescribesRows [("techniques", .list (rows.map fun row => .ofJson row.toJson))] defaultDomain
      none rows where
  domain := rfl
  version := rfl
  rows := by
    have passes : checkTechniques (.list (rows.map fun row => .ofJson row.toJson)) = .ok rows :=
      checkItems_map (fun row _ => row.check_toJson) 0
    exact (checkField_eq_ok_iff rfl).2 passes

/-- A record is validated as the rows that it describes are judged, and a fault is reported for the
record as a whole. -/
theorem ofValue_of_describesRows {fields : List (Text × Value)}
    (describes : DescribesRows fields domain version rows) : ofValue (.record fields) =
      (ofRows domain version rows).mapError
        fun fault => ⟨some .table, [⟨[], .inconsistent fault⟩]⟩ := by
  rw [ofValue, check, bothChecked_eq_ok_iff.2
    ⟨describes.domain, bothChecked_eq_ok_iff.2 ⟨describes.version, describes.rows⟩⟩, ok_bind]
  dsimp only
  cases ofRows domain version rows with
  | ok table => rfl
  | error fault => rfl

/-- How rows are judged, whatever domain and version they come with. -/
structure AreJudged (rows : List Technique) : Prop where
  accepted : ∀ domain version, (∃ table, ofRows domain version rows = .ok table) ↔ AreConsistent rows
  /-- Accepted rows are kept as they stand. -/
  kept : ∀ domain version table, ofRows domain version rows = .ok table →
    table.domain = domain ∧ table.version = version ∧ table.techniques = rows
  /-- The same rows in any other order are accepted or refused alike. -/
  anyOrder : ∀ other, rows.Perm other → ∀ domain version,
    (∃ table, ofRows domain version other = .ok table) ↔ AreConsistent rows
  blamed : ∀ domain version fault,
    ofRows domain version rows = .error fault ↔ Blames rows fault
  /-- There is one fault to be blamed for at most. -/
  alone : ∀ fault other, Blames rows fault → Blames rows other → fault = other
  offered : ∃ fields domain version, DescribesRows fields domain version rows
  validated : ∀ fields domain version, DescribesRows fields domain version rows →
    ofValue (.record fields) = (ofRows domain version rows).mapError
      fun fault => ⟨some .table, [⟨[], .inconsistent fault⟩]⟩
  namesRepeated : ∀ id, Complaint.message? (.inconsistent (.repeated id)) =
    some ("Value error, " ++ ("duplicate technique id " ++ id.text))
  namesOrphans : ∀ ids, Complaint.message? (.inconsistent (.orphans ids)) =
    some ("Value error, " ++
      ("sub-techniques without parent: " ++ Text.join ", " (ids.map (·.text))))

/-- All rows are judged so. -/
theorem areJudged (rows : List Technique) : AreJudged rows where
  accepted _ _ := exists_ofRows_iff
  kept _ _ _ isTable := ofRows_eq_ok_iff.1 isTable
  anyOrder other permuted _ _ := by
    rw [exists_ofRows_iff]
    exact ⟨fun consistent => consistent.perm permuted.symm,
      fun consistent => consistent.perm permuted⟩
  blamed _ _ _ := ofRows_eq_error_iff
  alone fault other blames others := by
    have refused := blames.ofRows_eq defaultDomain none
    rw [others.ofRows_eq] at refused
    exact (Except.error.inj refused).symm
  offered := ⟨_, _, _, describesRows_offered rows⟩
  validated _ _ _ := ofValue_of_describesRows
  namesRepeated _ := rfl
  namesOrphans _ := rfl

/-- An orphan in front takes no blame from an identifier that is repeated behind it. -/
example : ofRows defaultDomain none [⟨.ofNumbers 1110 1, "Password Guessing"⟩,
    ⟨.ofNumbers 1003 0, "OS Credential Dumping"⟩, ⟨.ofNumbers 1003 0, "Dumping"⟩] =
      .error (.repeated (.ofNumbers 1003 0)) :=
  ofRows_of_repeated (by decide)

end ThreatMatrix.Table
