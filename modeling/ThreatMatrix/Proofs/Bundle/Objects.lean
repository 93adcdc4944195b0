import ThreatMatrix.Bundle
import ThreatMatrix.Proofs.Table.Validation

/-!
# What objects publish

What a bundle's objects say, told without the accesses that may fail: which objects are current
attack patterns, under which identifier the publisher describes an object, and what its name is.
Wherever an access succeeds it gives what is told here.
-/

namespace ThreatMatrix.Bundle

/-- What stands in a field of an object; null where nothing does. -/
def entry (object : Value) (name : Text) : Value :=
  match object.field name with
  | .ok found => found
  | .error _ => .null

/-- The items that stand in a field of an object. -/
def entries (object : Value) (name : Text) : List Value :=
  match fieldItems object name with
  | .ok items => items
  | .error _ => []

/-- Whether an object says a text in a field. -/
def states (object : Value) (name text : Text) : Bool :=
  (entry object name).asText? = some text

/-- An attack pattern that was neither revoked nor deprecated. -/
def isCurrent (object : Value) : Bool :=
  states object "type" patternType && !(entry object "revoked").isPresent &&
    !(entry object "x_mitre_deprecated").isPresent

/-- The text in the first reference to the publisher. -/
def publishedId? (object : Value) : Option Text :=
  match (entries object "external_references").find? (states · "source_name" publisher) with
  | some reference => (entry reference "external_id").asText?
  | none => none

/-- The name of an object without white space around it. An object without a text for a name has the
empty one. -/
def publishedName (object : Value) : Text :=
  match (entry object "name").strip with
  | .ok (.text name) => name
  | .ok (.bytes octets) =>
    match Utf8.decode octets with
    | .ok name => name
    | .error _ => []
  | _ => []

/-- Whether an object is a current attack pattern that the publisher describes under an identifier
in digits whose values are known. -/
def publishes (id : Text) (object : Value) : Bool :=
  isCurrent object && isTechniqueIdLine id && publishedId? object = some id

/-- The last object that publishes an identifier. -/
def latest? (objects : List Value) (id : Text) : Option Value :=
  objects.reverse.find? (publishes id)

section

variable {object value : Value} {name text : Text}

theorem entry_of_field (accessed : object.field name = .ok value) : entry object name = value := by
  rw [entry, accessed]

theorem entries_of_fieldItems {items : List Value}
    (accessed : fieldItems object name = .ok items) : entries object name = items := by
  rw [entries, accessed]

theorem states_of_fieldIs {truth : Bool} (accessed : fieldIs object name text = .ok truth) :
    states object name text = truth := by
  obtain ⟨value, found, isTruth⟩ := bind_eq_ok_iff.1 accessed
  cases isTruth
  rw [states, entry_of_field found]

/-- An object is withdrawn if it is revoked or deprecated. -/
theorem isWithdrawn_eq_ok {truth : Bool} (accessed : isWithdrawn object = .ok truth) :
    ((entry object "revoked").isPresent || (entry object "x_mitre_deprecated").isPresent) =
      truth := by
  obtain ⟨revoked, found, rest⟩ := bind_eq_ok_iff.1 accessed
  rw [entry_of_field found]
  cases present : revoked.isPresent with
  | true =>
    rw [if_pos present] at rest
    cases rest
    rfl
  | false =>
    rw [if_neg (by simp [present])] at rest
    obtain ⟨deprecated, found, isTruth⟩ := bind_eq_ok_iff.1 rest
    cases isTruth
    rw [entry_of_field found, Bool.false_or]

/-- The first reference to the publisher is looked for from the front. -/
theorem firstReference_eq_ok {references : List Value}
    (accessed : firstReference references = .ok value) :
    value.asText? = match references.find? (states · "source_name" publisher) with
      | some reference => (entry reference "external_id").asText?
      | none => none := by
  induction references with
  | nil =>
    cases accessed
    rfl
  | cons first more inductionHypothesis =>
    obtain ⟨isPublisher, found, rest⟩ := bind_eq_ok_iff.1 accessed
    rw [List.find?_cons, states_of_fieldIs found]
    cases isPublisher with
    | true =>
      dsimp only
      rw [entry_of_field rest]
    | false => exact inductionHypothesis rest

/-- The identifier of an object is the text in its first reference to the publisher. -/
theorem externalId_eq_ok (accessed : externalId object = .ok value) :
    publishedId? object = value.asText? := by
  obtain ⟨references, found, rest⟩ := bind_eq_ok_iff.1 accessed
  rw [publishedId?, entries_of_fieldItems found, firstReference_eq_ok rest]

/-- What holds an identifier is a text and such a line. -/
theorem asText?_of_isIdLine (isLine : isIdLine value = .ok true) :
    ∃ text, value.asText? = some text ∧ isTechniqueIdLine text = true := by
  unfold isIdLine at isLine
  split at isLine
  · cases isLine
  split at isLine
  · cases isLine
  split at isLine
  · next text isText => exact ⟨text, isText, Except.ok.inj isLine⟩
  · cases isLine

/-- A value that is an identifier whose digits have values is a line that holds one. -/
theorem isIdLine_of_asText? {id : TechniqueId} (isText : value.asText? = some id.text)
    (valued : id.HasValues) : isIdLine value = .ok true := by
  obtain ⟨rest, isCons, -⟩ := id.text_eq_cons
  have present : value.isPresent = true := by
    cases value with
    | text text =>
      cases isText
      rw [Value.isPresent, isCons]
      rfl
    | member member => rfl
    | _ => cases isText
  have line := TechniqueId.isTechniqueIdLine_text.2 valued
  unfold isIdLine
  rw [if_neg (by simp [present])]
  split
  · cases isText
  · rw [isText]
    exact congrArg Except.ok line

/-- A value that is checked to be an identifier and is a text is that text. -/
theorem text_of_checkTechniqueId {id : TechniqueId} (valid : value.checkTechniqueId = .ok id)
    (isText : value.asText? = some text) : id.text = text := by
  obtain ⟨checked, isChecked, rest⟩ := bind_eq_ok_iff.1 valid
  split at rest
  · cases rest
  split at rest
  · next isId =>
    cases rest
    rw [← TechniqueId.ofText?_eq_some_iff.1 isId]
    unfold Value.checkText at isChecked
    split at isChecked
    · cases isText
    · rw [isText] at isChecked
      cases isChecked
      rfl
  · cases rest

/-- A value without content has no text to strip, or the empty one. -/
theorem strip_of_absent (absent : value.isPresent = false) :
    value.strip = .ok (.text []) ∨ value.strip = .ok (.bytes []) ∨
      ∃ problem, value.strip = .error problem := by
  cases value with
  | text text =>
    rw [Value.isPresent, Bool.not_eq_false', List.isEmpty_iff] at absent
    subst absent
    exact .inl rfl
  | bytes octets =>
    rw [Value.isPresent, Bool.not_eq_false', List.isEmpty_iff] at absent
    subst absent
    exact .inr (.inl rfl)
  | member member => cases absent
  | _ => exact .inr (.inr ⟨_, rfl⟩)

/-- What was stripped is a text or octets. -/
theorem strip_eq_ok {given : Value} (stripped : given.strip = .ok value) :
    (∃ text, value = .text text) ∨ ∃ octets, value = .bytes octets := by
  unfold Value.strip at stripped
  split at stripped
  · cases stripped
    exact .inr ⟨_, rfl⟩
  split at stripped
  · cases stripped
    exact .inl ⟨_, rfl⟩
  · cases stripped

/-- The name of a technique is that of the object. -/
theorem strippedName_eq_ok (accessed : strippedName object = .ok value) {found : Text}
    (valid : value.checkText = .ok found) : publishedName object = found := by
  obtain ⟨given, isGiven, rest⟩ := bind_eq_ok_iff.1 accessed
  rw [publishedName, entry_of_field isGiven]
  cases present : given.isPresent with
  | true =>
    rw [if_pos present] at rest
    rw [rest]
    rcases strip_eq_ok rest with ⟨text, rfl⟩ | ⟨octets, rfl⟩
    · cases valid
      rfl
    · dsimp only
      rw [mapError_eq_ok_iff.1 valid]
  | false =>
    rw [if_neg (by simp [present])] at rest
    cases rest
    cases valid
    rcases strip_of_absent present with stripped | stripped | ⟨problem, stripped⟩
    · rw [stripped]
    · rw [stripped]
      rfl
    · rw [stripped]

end

end ThreatMatrix.Bundle
