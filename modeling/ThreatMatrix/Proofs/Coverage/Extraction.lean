import ThreatMatrix.Proofs.Coverage.Meaning
import ThreatMatrix.Proofs.Coverage.Union
import ThreatMatrix.Proofs.Coverage.Validation

/-!
# Coverages of tags

What the tags of a rule come to: every tag has its meaning, the members that are meant stand where
they are meant first, and a note is made of each tag that is not recognized. Taking rules together
and merging their coverages comes to the same, the notes included.
-/

namespace ThreatMatrix

namespace TagMeaning

/-- The tactic that is meant. -/
def tactic? : TagMeaning → Option Tactic
  | tactic found => some found
  | _ => none

/-- The technique that is meant. -/
def technique? : TagMeaning → Option Technique
  | technique found => some found
  | _ => none

/-- A tag means a tactic if its meaning is that tactic. -/
theorem means_tactic_iff {catalog : Catalog} {tag : Text} {found : Tactic} :
    Means catalog tag (.tactic found) ↔ (ofTag catalog tag).tactic? = some found := by
  rw [means_iff]
  cases ofTag catalog tag <;> simp [tactic?]

/-- A tag means a technique if its meaning is that technique. -/
theorem means_technique_iff {catalog : Catalog} {tag : Text} {found : Technique} :
    Means catalog tag (.technique found) ↔ (ofTag catalog tag).technique? = some found := by
  rw [means_iff]
  cases ofTag catalog tag <;> simp [technique?]

end TagMeaning

/-! ## The order of what is meant -/

/-- Items are gathered from sources if they are those that sources mean, each once, in the order of
the first sources that mean them. -/
structure AreGathered {α τ : Type} (means : τ → α → Prop) (found : List α) (sources : List τ) :
    Prop where
  distinct : found.Nodup
  complete : ∀ item, item ∈ found ↔ ∃ source ∈ sources, means source item
  /-- The item in front is meant by a source before any source means the other. -/
  ordered : found.Pairwise fun left right => ∃ before source behind,
    sources = before ++ source :: behind ∧ means source left ∧
      ∀ earlier ∈ before, ¬means earlier right

namespace AreGathered

variable {α τ : Type} {means : τ → α → Prop} {found : List α} {sources : List τ} {source : τ}

/-- One more source that means nothing new leaves what was gathered. -/
theorem concat_old (gathered : AreGathered means found sources)
    (old : ∀ item, means source item → item ∈ found) :
    AreGathered means found (sources ++ [source]) where
  distinct := gathered.distinct
  complete item := by
    rw [gathered.complete]
    constructor
    · rintro ⟨earlier, member, isMeant⟩
      exact ⟨earlier, List.mem_append_left _ member, isMeant⟩
    · rintro ⟨other, member, isMeant⟩
      rcases List.mem_append.1 member with earlier | last
      · exact ⟨other, earlier, isMeant⟩
      · rw [List.mem_singleton.1 last] at isMeant
        exact (gathered.complete item).1 (old item isMeant)
  ordered := gathered.ordered.imp fun {left right} earlier => by
    obtain ⟨before, first, behind, split, isMeant, notYet⟩ := earlier
    exact ⟨before, first, behind ++ [source], by simp [split], isMeant, notYet⟩

/-- One more source that means one new item puts it last. -/
theorem concat_new {item : α} (gathered : AreGathered means found sources)
    (isItem : ∀ other, means source other ↔ other = item) (fresh : item ∉ found) :
    AreGathered means (found ++ [item]) (sources ++ [source]) where
  distinct := by
    refine List.nodup_append.2 ⟨gathered.distinct, by simp, ?_⟩
    rintro old member new isNew rfl
    exact fresh (List.mem_singleton.1 isNew ▸ member)
  complete other := by
    simp only [List.mem_append, List.mem_singleton, gathered.complete]
    constructor
    · rintro (⟨earlier, member, isMeant⟩ | same)
      · exact ⟨earlier, .inl member, isMeant⟩
      · exact ⟨source, .inr rfl, (isItem other).2 same⟩
    · rintro ⟨earlier, member | rfl, isMeant⟩
      · exact .inl ⟨earlier, member, isMeant⟩
      · exact .inr ((isItem other).1 isMeant)
  ordered := by
    refine List.pairwise_append.2 ⟨?_, List.pairwise_singleton _ _, ?_⟩
    · refine gathered.ordered.imp fun {left right} earlier => ?_
      obtain ⟨before, first, behind, split, isMeant, notYet⟩ := earlier
      exact ⟨before, first, behind ++ [source], by simp [split], isMeant, notYet⟩
    · intro left member right isLast
      obtain ⟨first, firstMember, isMeant⟩ := (gathered.complete left).1 member
      obtain ⟨before, behind, split⟩ := List.append_of_mem firstMember
      refine ⟨before, first, behind ++ [source], by simp [split], isMeant, ?_⟩
      rintro earlier inBefore meansRight
      rw [List.mem_singleton.1 isLast] at meansRight
      have present : earlier ∈ sources := split ▸ List.mem_append_left _ inBefore
      exact fresh ((gathered.complete item).2 ⟨earlier, present, meansRight⟩)

/-- Dropping repetitions from what the sources mean one after the other gathers it. -/
theorem eraseDups_filterMap [DecidableEq α] (reading : τ → Option α)
    (reads : ∀ source item, means source item ↔ reading source = some item) (sources : List τ) :
    AreGathered means (sources.filterMap reading).eraseDups sources := by
  -- The order is told by the sources in front, so that one source after the other is added behind.
  induction sources using List.reverseRecOn with
  | nil => exact ⟨by simp, by simp, by simp⟩
  | append_singleton sources source inductionHypothesis =>
    rw [List.filterMap_append, List.filterMap_cons, List.filterMap_nil]
    cases isRead : reading source with
    | none =>
      rw [List.append_nil]
      refine inductionHypothesis.concat_old fun item isMeant => ?_
      rw [reads, isRead] at isMeant
      cases isMeant
    | some item =>
      have isItem : ∀ other, means source other ↔ other = item := fun other => by
        rw [reads, isRead, Option.some.injEq, eq_comm]
      rw [eraseDups_concat]
      split
      · next old =>
        refine inductionHypothesis.concat_old fun other isMeant => ?_
        rw [(isItem other).1 isMeant]
        exact List.mem_eraseDups.2 old
      · next fresh =>
        exact inductionHypothesis.concat_new isItem fun old => fresh (List.mem_eraseDups.1 old)

end AreGathered

/-! ## Tags taken together -/

namespace Coverage

variable {catalog : Catalog}

/-- The tactics that tags mean one after the other. -/
def tacticsOf (catalog : Catalog) (tags : List Text) : List Tactic :=
  tags.filterMap fun tag => (TagMeaning.ofTag catalog tag).tactic?

/-- The techniques that tags mean one after the other. -/
def techniquesOf (catalog : Catalog) (tags : List Text) : List Technique :=
  tags.filterMap fun tag => (TagMeaning.ofTag catalog tag).technique?

/-- A note of every tag that is not recognized. -/
def notesOf (catalog : Catalog) (tags : List Text) : List Note :=
  (tags.filter fun tag => TagMeaning.Means catalog tag .unrecognized).map .skippedTag

/-- Tags taken together mean what they mean apart. -/
theorem tacticsOf_append (left right : List Text) :
    tacticsOf catalog (left ++ right) = tacticsOf catalog left ++ tacticsOf catalog right :=
  List.filterMap_append

theorem techniquesOf_append (left right : List Text) :
    techniquesOf catalog (left ++ right) =
      techniquesOf catalog left ++ techniquesOf catalog right :=
  List.filterMap_append

theorem notesOf_append (left right : List Text) :
    notesOf catalog (left ++ right) = notesOf catalog left ++ notesOf catalog right := by
  rw [notesOf, List.filter_append, List.map_append, notesOf, notesOf]

/-- One more tag in front puts what it means in front, and is noted first if it is not recognized.
-/
theorem membersOfTags_cons {tag : Text} {more : List Value} {notes : List Note}
    {members : List Tactic × List Technique}
    (rest : membersOfTags catalog more = ⟨notes, .ok members⟩) :
    membersOfTags catalog (.text tag :: more) =
      ⟨if TagMeaning.Means catalog tag .unrecognized then .skippedTag tag :: notes else notes,
        .ok ((TagMeaning.ofTag catalog tag).add members)⟩ := by
  have isMeaning : TagMeaning.ofValue catalog (.text tag) = .ok (TagMeaning.ofTag catalog tag) := rfl
  rw [membersOfTags, isMeaning, mapError_ok, Outcome.ofExcept_ok_bind, rest]
  simp only [Outcome.bind_pure_of_ok, TagMeaning.means_iff]
  cases TagMeaning.ofTag catalog tag <;> rfl

/-- The loop over tags finds what they mean, one after the other. -/
theorem membersOfTags_texts (catalog : Catalog) (tags : List Text) :
    membersOfTags catalog (tags.map .text) =
      ⟨notesOf catalog tags, .ok (tacticsOf catalog tags, techniquesOf catalog tags)⟩ := by
  induction tags with
  | nil => rfl
  | cons tag more inductionHypothesis =>
    have notes : notesOf catalog (tag :: more) =
        if TagMeaning.Means catalog tag .unrecognized then .skippedTag tag :: notesOf catalog more
        else notesOf catalog more := by
      rw [notesOf, List.filter_cons]
      split
      · next isUnknown => rw [if_pos (of_decide_eq_true isUnknown), List.map_cons, notesOf]
      · next isKnown => rw [if_neg (by simpa using isKnown), notesOf]
    have members : (tacticsOf catalog (tag :: more), techniquesOf catalog (tag :: more)) =
        (TagMeaning.ofTag catalog tag).add (tacticsOf catalog more, techniquesOf catalog more) := by
      rw [tacticsOf, techniquesOf, List.filterMap_cons, List.filterMap_cons]
      cases TagMeaning.ofTag catalog tag <;> rfl
    rw [List.map_cons, membersOfTags_cons inductionHypothesis, notes, members]

/-- Tags mean the members that they mean one after the other, without repetitions. -/
theorem ofTags_eq (catalog : Catalog) (tags : List Text) :
    ofTags catalog tags =
      ⟨notesOf catalog tags, .ok (ofMembers (tacticsOf catalog tags) (techniquesOf catalog tags))⟩ := by
  have items : (Value.list (tags.map .text)).iterate = .ok (tags.map .text) := rfl
  rw [ofTags, ofTagValues, items, mapError_ok, Outcome.ofExcept_ok_bind, membersOfTags_texts]
  exact Outcome.bind_pure_of_ok (notesOf catalog tags)
    (tacticsOf catalog tags, techniquesOf catalog tags) fun members => ofMembers members.1 members.2

/-- What tags come to in a catalog: a coverage, and notes. -/
structure IsAccountOf (catalog : Catalog) (tags : List Text) (coverage : Coverage)
    (notes : List Note) : Prop where
  classified : ∀ tag ∈ tags, ∃! meaning, TagMeaning.Means catalog tag meaning
  tactics : AreGathered (fun tag tactic => TagMeaning.Means catalog tag (.tactic tactic))
    coverage.tactics tags
  techniques : AreGathered (fun tag technique => TagMeaning.Means catalog tag (.technique technique))
    coverage.techniques tags
  /-- Every tag that is not recognized is noted as it was given, in the order of the tags. -/
  noted : notes =
    (tags.filter fun tag => TagMeaning.Means catalog tag .unrecognized).map .skippedTag
  minor : ∀ note ∈ notes, note.level = "debug"
  /-- Validating the members that were found changes nothing. -/
  validated : ∀ session : Session,
    session.validateCoverage coverage.offeredMembers = (session, .ok coverage)

/-- Tags always come to a coverage, and it accounts for every one of them. -/
theorem ofTags_isAccountOf (catalog : Catalog) (tags : List Text) : ∃ coverage notes,
    ofTags catalog tags = ⟨notes, .ok coverage⟩ ∧ IsAccountOf catalog tags coverage notes := by
  refine ⟨_, _, ofTags_eq catalog tags, ?_⟩
  exact {
    classified := fun tag _ => TagMeaning.existsUnique_means catalog tag
    tactics := .eraseDups_filterMap (fun tag => (TagMeaning.ofTag catalog tag).tactic?)
      (fun _ _ => TagMeaning.means_tactic_iff) tags
    techniques := .eraseDups_filterMap (fun tag => (TagMeaning.ofTag catalog tag).technique?)
      (fun _ _ => TagMeaning.means_technique_iff) tags
    noted := rfl
    minor := fun note member => by
      obtain ⟨tag, -, rfl⟩ := List.mem_map.1 member
      rfl
    validated := fun session => validateCoverage_offeredMembers session _ }

/-! ## Rules taken together -/

/-- A coverage merged with those of further rules, one after the other. -/
def mergeRules (catalog : Catalog) (rules : List (List Text)) (start : Coverage) : Outcome Coverage :=
  rules.foldlM (fun merged tags => do return merged.merge (← ofTags catalog tags)) start

/-- Two rules taken together come to what their coverages come to when merged. -/
theorem ofTags_append (catalog : Catalog) (left right : List Text) :
    ofTags catalog (left ++ right) = do
      let first ← ofTags catalog left
      let second ← ofTags catalog right
      return first.merge second := by
  rw [ofTags_eq, ofTags_eq, ofTags_eq, notesOf_append, tacticsOf_append, techniquesOf_append,
    ← merge_ofMembers, Outcome.bind_of_ok, Outcome.bind_pure_of_ok]

/-- Rules taken together come to what their coverages come to when merged one after the other. -/
theorem ofTags_append_flatten (catalog : Catalog) (first : List Text) (rules : List (List Text)) :
    ofTags catalog (first ++ rules.flatten) = ofTags catalog first >>= mergeRules catalog rules := by
  induction rules generalizing first with
  | nil =>
    have nothing : mergeRules catalog [] = pure := rfl
    rw [List.flatten_nil, List.append_nil, nothing, bind_pure]
  | cons tags more inductionHypothesis =>
    -- The first two rules are merged, and the rest is merged with what they come to.
    have merges : mergeRules catalog (tags :: more) = fun start =>
        ofTags catalog tags >>= fun next => mergeRules catalog more (start.merge next) := by
      funext start
      simp only [mergeRules, List.foldlM_cons, bind_assoc, pure_bind]
    rw [List.flatten_cons, ← List.append_assoc, inductionHypothesis, ofTags_append, merges]
    simp only [bind_assoc, pure_bind]

/-- Taking rules together and merging their coverages comes to the same, in order and with the same
notes, and always to a coverage: for two rules, and for any number of rules after a first. -/
theorem ofTags_merges (catalog : Catalog) :
    (∀ tags, ∃ coverage, (ofTags catalog tags).result = .ok coverage) ∧
      (∀ left right, ofTags catalog (left ++ right) = do
        let first ← ofTags catalog left
        let second ← ofTags catalog right
        return first.merge second) ∧
      ∀ first rules, ofTags catalog (first ++ List.flatten rules) =
        ofTags catalog first >>= mergeRules catalog rules :=
  ⟨fun tags => ⟨_, congrArg Outcome.result (ofTags_eq catalog tags)⟩, ofTags_append catalog,
    ofTags_append_flatten catalog⟩

end Coverage
end ThreatMatrix
