import ThreatMatrix.Proofs.Bundle.Shape

/-!
# What has influence

What is gathered and which version is found depends on attack patterns and collections only. Of an
attack pattern a few fields matter, and its references up to the first to the publisher. Objects of
other types can be left out, as long as they are records.
-/

namespace ThreatMatrix.Bundle

/-- What stands for the version in the first collection among objects; null without one. -/
def firstVersion (objects : List Value) : Value :=
  match objects.find? (states · "type" collectionType) with
  | some collection => entry collection "x_mitre_version"
  | none => .null

/-- The fields of an object that are read, apart from the references. -/
def readNames : List Text :=
  ["type", "revoked", "x_mitre_deprecated", "name", "x_mitre_version"]

/-- Objects that say the same about tables: the fields that are read agree, and so do the references
up to the first to the publisher. -/
structure SaysSame (left right : Value) : Prop where
  fields : ∀ name ∈ readNames, left.field name = right.field name
  references : fieldItems left "external_references" = fieldItems right "external_references" ∨
    ∃ before reference more further, fieldIs reference "source_name" publisher = .ok true ∧
      fieldItems left "external_references" = .ok (before ++ reference :: more) ∧
      fieldItems right "external_references" = .ok (before ++ reference :: further)

/-- Whether an object is of account for a table at all. -/
def concerns (object : Value) : Bool :=
  isPattern object || states object "type" collectionType

section

variable {left right : Value} {objects others : List Value} {start : Harvest}

/-- What stands behind the first reference to the publisher is not looked at. -/
theorem firstReference_append {reference : Value}
    (found : fieldIs reference "source_name" publisher = .ok true)
    (before more further : List Value) :
    firstReference (before ++ reference :: more) =
      firstReference (before ++ reference :: further) := by
  induction before with
  | nil =>
    rw [List.nil_append, List.nil_append, firstReference, firstReference, found]
    rfl
  | cons first rest inductionHypothesis =>
    rw [List.cons_append, List.cons_append, firstReference, firstReference, inductionHypothesis]

theorem SaysSame.fieldIs_eq (same : SaysSame left right) {name : Text} (isRead : name ∈ readNames)
    (text : Text) : fieldIs left name text = fieldIs right name text := by
  rw [fieldIs, fieldIs, same.fields name isRead]

theorem SaysSame.externalId_eq (same : SaysSame left right) :
    externalId left = externalId right := by
  rw [externalId, externalId]
  rcases same.references with equal | ⟨before, reference, more, further, found, isLeft, isRight⟩
  · rw [equal]
  · rw [isLeft, isRight]
    exact firstReference_append found before more further

theorem SaysSame.technique?_eq (same : SaysSame left right) :
    technique? left = technique? right := by
  have withdrawn : isWithdrawn left = isWithdrawn right := by
    rw [isWithdrawn, isWithdrawn, same.fields "revoked" (by decide),
      same.fields "x_mitre_deprecated" (by decide)]
  have named : strippedName left = strippedName right := by
    rw [strippedName, strippedName, same.fields "name" (by decide)]
  rw [technique?, technique?, withdrawn, same.externalId_eq, named]

theorem SaysSame.gather_eq (same : SaysSame left right) (harvest : Harvest) :
    gather harvest left = gather harvest right := by
  rw [gather, gather, same.fieldIs_eq (by decide), same.technique?_eq]

/-- Objects that say the same are gathered to the same. -/
theorem gathered_of_saysSame (same : List.Forall₂ SaysSame objects others) :
    objects.foldlM gather start = others.foldlM gather start := by
  induction same generalizing start with
  | nil => rfl
  | cons first rest inductionHypothesis =>
    rw [List.foldlM_cons, List.foldlM_cons, first.gather_eq]
    exact bind_congr fun next => inductionHypothesis

theorem collectionVersion_of_saysSame (same : List.Forall₂ SaysSame objects others) :
    collectionVersion objects = collectionVersion others := by
  induction same with
  | nil => rfl
  | cons first rest inductionHypothesis =>
    rw [collectionVersion, collectionVersion, first.fieldIs_eq (by decide), inductionHypothesis,
      first.fields "x_mitre_version" (by decide)]

/-- Objects that are no attack patterns can be left out when gathering. -/
theorem gathered_filter {keep : Value → Bool} (records : ∀ object ∈ objects, IsRecord object)
    (patterns : ∀ object, isPattern object = true → keep object = true) :
    (objects.filter keep).foldlM gather start = objects.foldlM gather start := by
  induction objects generalizing start with
  | nil => rfl
  | cons first more inductionHypothesis =>
    have others := fun {next} => @inductionHypothesis next fun object member =>
      records object (List.mem_cons_of_mem first member)
    cases kept : keep first with
    | true =>
      rw [List.filter_cons_of_pos kept, List.foldlM_cons, List.foldlM_cons]
      exact bind_congr fun next => others
    | false =>
      have noPattern : states first "type" patternType = false := by
        rw [← Bool.not_eq_true]
        intro pattern
        rw [patterns first pattern] at kept
        cases kept
      rw [List.filter_cons_of_neg (by simp [kept]), List.foldlM_cons, others, gather,
        (records first List.mem_cons_self).fieldIs_eq, noPattern]
      rfl

/-- Objects that are no collections can be left out when the version is looked up. -/
theorem collectionVersion_filter (records : ∀ object ∈ objects, IsRecord object) :
    collectionVersion (objects.filter concerns) = collectionVersion objects := by
  induction objects with
  | nil => rfl
  | cons first more inductionHypothesis =>
    have others := inductionHypothesis fun object member =>
      records object (List.mem_cons_of_mem first member)
    cases kept : concerns first with
    | true =>
      rw [List.filter_cons_of_pos kept, collectionVersion, collectionVersion, others]
    | false =>
      have noCollection : states first "type" collectionType = false :=
        (Bool.or_eq_false_iff.1 kept).2
      rw [List.filter_cons_of_neg (by simp [kept]), others, collectionVersion,
        (records first List.mem_cons_self).fieldIs_eq, noCollection]
      rfl

/-- The version that was looked up is that of the first collection. -/
theorem collectionVersion_eq_ok {version : Value}
    (accessed : collectionVersion objects = .ok version) : version = firstVersion objects := by
  induction objects with
  | nil =>
    cases accessed
    rfl
  | cons first more inductionHypothesis =>
    obtain ⟨isCollection, found, rest⟩ := bind_eq_ok_iff.1 accessed
    rw [firstVersion, List.find?_cons, states_of_fieldIs found]
    cases isCollection with
    | true => exact (entry_of_field rest).symm
    | false => exact inductionHypothesis rest

/-- Only records can be gathered from. -/
theorem isRecord_of_gathered {harvest : Harvest}
    (gathered : objects.foldlM gather start = .ok harvest) :
    ∀ object ∈ objects, IsRecord object := by
  refine run_keeps (fun taken _ => ∀ object ∈ taken, IsRecord object) gathered
    (fun _ member => absurd member List.not_mem_nil) ?_
  intro taken object state next holds stepped other member
  rcases List.mem_append.1 member with earlier | isLast
  · exact holds other earlier
  · obtain rfl := List.mem_singleton.1 isLast
    obtain ⟨isPattern, asked, -⟩ := bind_eq_ok_iff.1 stepped
    obtain ⟨value, found, -⟩ := bind_eq_ok_iff.1 (mapError_eq_ok_iff.1 asked)
    obtain ⟨inside, isInside, -⟩ := bind_eq_ok_iff.1 found
    cases other with
    | record fields => exact ⟨fields, rfl⟩
    | _ => cases isInside

end

end ThreatMatrix.Bundle
