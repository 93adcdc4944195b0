import Mathlib.Logic.ExistsUnique
import ThreatMatrix.Coverage.Tags

/-!
# What tags mean

A tag of the namespace names something, and what it names settles what it means. `Means` says so
without a way to find the meaning out, and `means_iff` says that the meaning is found. The names of
tactics and of techniques are apart: the second code point of a technique's name is a digit, and
that of a tactic's name is none.
-/

namespace ThreatMatrix

/-- A text whose second code point is a digit. -/
def Text.isNumbered : Text → Bool
  | _ :: c :: _ => c.isDigit
  | _ => false

/-- Exchanging marks that are no digits for such marks leaves digits where they are. -/
theorem Text.isNumbered_exchange {old new : CodePoint} (oldMark : old.isDigit = false)
    (newMark : new.isDigit = false) (text : Text) :
    (text.exchange old new).isNumbered = text.isNumbered := by
  match text with
  | [] => rfl
  | [_] => rfl
  | _ :: c :: _ =>
    by_cases same : c = old
    · simp [exchange, isNumbered, same, oldMark, newMark]
    · simp [exchange, isNumbered, same]

/-! ## Names apart -/

/-- Behind the letter of an identifier stands a digit. -/
theorem TechniqueId.isNumbered_lower_text (id : TechniqueId) : id.text.lower.isNumbered = true := by
  obtain ⟨base, rest, numeral, isText⟩ : ∃ base rest, Text.IsNumeral 4 base ∧
      id.text = ('T' : CodePoint) :: (base ++ rest) := by
    cases isSub : id.isSub with
    | false =>
      obtain ⟨base, numeral, isText⟩ := text_of_not_isSub isSub
      exact ⟨base, [], numeral, by rw [isText, List.append_nil]⟩
    | true =>
      obtain ⟨base, sub, numeral, -, isText⟩ := text_of_isSub isSub
      exact ⟨base, _, numeral, isText⟩
  cases base with
  | nil => cases numeral.1
  | cons digit more =>
    rw [lower_text, isText]
    exact numeral.2 digit List.mem_cons_self

/-- No identifier of a tactic has a digit there, nor has the alias. -/
theorem Tactic.isNumbered_of_mem_vocabulary :
    ∀ entry ∈ vocabulary, entry.1.isNumbered = false := by
  decide +kernel

/-- No shortname has a digit there. -/
theorem Tactic.isNumbered_shortname (tactic : Tactic) : tactic.shortname.isNumbered = false := by
  cases tactic <;> decide

/-- A name with a digit behind its first letter stands for no tactic. -/
theorem Tactic.ofTagName?_of_isNumbered {name : Text} (numbered : name.lower.isNumbered = true) :
    ofTagName? name = none := by
  have noId : parse? name = none := by
    refine List.lookup_eq_none_iff.2 fun entry member => ?_
    have apart : name.lower ≠ entry.1 := by
      intro same
      rw [same, isNumbered_of_mem_vocabulary entry member] at numbered
      cases numbered
    simpa using apart
  have noShortname : ofShortname? .enterprise name = none := by
    -- The name is compared with its low lines exchanged, and no digit is exchanged.
    refine List.find?_eq_none.2 fun tactic _ isNamed => ?_
    have same := (of_decide_eq_true isNamed).2
    have kept := @Text.isNumbered_exchange '_' '-' (by decide) (by decide) name.lower
    rw [← shortnameKey, ← same, isNumbered_shortname, numbered] at kept
    cases kept
  rw [ofTagName?, noId, noShortname]
  rfl

/-- A name without a digit behind its first letter stands for no technique. -/
theorem Catalog.parse?_of_not_isNumbered (catalog : Catalog) {name : Text}
    (unnumbered : name.lower.isNumbered = false) : catalog.parse? name = none := by
  cases isRead : catalog.parse? name with
  | none => rfl
  | some technique =>
    have spelled := (parse?_eq_some_iff.1 isRead).2
    rw [← spelled, technique.id.isNumbered_lower_text] at unnumbered
    cases unnumbered

/-! ## Meanings -/

namespace TagMeaning

/-- A tag names what follows its first point, if the namespace stands before that point. White space
around the tag does not count. -/
def Names (tag name : Text) : Prop :=
  ∃ space, tag.strip = space ++ ('.' : CodePoint) :: name ∧ ('.' : CodePoint) ∉ space ∧
    space.lower = tagSpace ∧ name ≠ []

/-- What a tag means in a catalog. -/
inductive Means (catalog : Catalog) (tag : Text) : TagMeaning → Prop where
  /-- A tag that names nothing is passed over. -/
  | foreign (nameless : ∀ name, ¬Names tag name) : Means catalog tag .foreign
  | tactic {name : Text} {found : Tactic} (named : Names tag name)
    (isTactic : Tactic.ofTagName? name = some found) : Means catalog tag (.tactic found)
  /-- Only what is no tactic can be a technique. -/
  | technique {name : Text} {found : Technique} (named : Names tag name)
    (noTactic : Tactic.ofTagName? name = none) (isTechnique : catalog.parse? name = some found) :
    Means catalog tag (.technique found)
  | unrecognized {name : Text} (named : Names tag name) (noTactic : Tactic.ofTagName? name = none)
    (noTechnique : catalog.parse? name = none) : Means catalog tag .unrecognized

section

variable {catalog : Catalog} {tag name : Text} {meaning : TagMeaning}

/-- A tag that names something means what the name stands for. -/
theorem ofTag_of_names (named : Names tag name) : ofTag catalog tag = ofName catalog name := by
  obtain ⟨space, isTag, noPoint, isSpace, something⟩ := named
  rw [ofTag, ofStripped, isTag, Text.partition_append noPoint]
  exact if_neg (by simp [isSpace, something])

/-- A tag that names nothing is passed over. -/
theorem ofTag_of_nameless (nameless : ∀ name, ¬Names tag name) :
    ofTag catalog tag = .foreign := by
  rw [ofTag, ofStripped]
  by_cases pointed : ('.' : CodePoint) ∈ tag.strip
  · obtain ⟨space, name, isTag, noPoint⟩ := List.eq_append_cons_of_mem pointed
    have noName : Text.lower space = tagSpace → name = [] := fun isSpace =>
      Decidable.byContradiction fun something =>
        nameless name ⟨space, isTag, noPoint, isSpace, something⟩
    rw [isTag, Text.partition_append noPoint]
    exact if_pos (Decidable.imp_iff_not_or.1 noName)
  · rw [Text.partition_of_not_mem pointed]
    exact if_pos (.inr rfl)

/-- The meaning of a tag is the one that is found. -/
theorem means_iff : Means catalog tag meaning ↔ ofTag catalog tag = meaning := by
  constructor
  · intro means
    cases means with
    | foreign nameless => exact ofTag_of_nameless nameless
    | tactic named isTactic => rw [ofTag_of_names named, ofName, isTactic]
    | technique named noTactic isTechnique =>
      rw [ofTag_of_names named, ofName, noTactic, isTechnique]
    | unrecognized named noTactic noTechnique =>
      rw [ofTag_of_names named, ofName, noTactic, noTechnique]
  · rintro rfl
    by_cases something : ∃ name, Names tag name
    · obtain ⟨name, named⟩ := something
      rw [ofTag_of_names named, ofName]
      split
      · next isTactic => exact .tactic named isTactic
      · next noTactic =>
        split
        · next isTechnique => exact .technique named noTactic isTechnique
        · next noTechnique => exact .unrecognized named noTactic noTechnique
    · rw [not_exists] at something
      rw [ofTag_of_nameless something]
      exact .foreign something

instance : Decidable (Means catalog tag meaning) :=
  decidable_of_iff (ofTag catalog tag = meaning) means_iff.symm

/-- Every tag has one meaning. -/
theorem existsUnique_means (catalog : Catalog) (tag : Text) : ∃! meaning, Means catalog tag meaning :=
  ⟨ofTag catalog tag, means_iff.2 rfl, fun _ means => (means_iff.1 means).symm⟩

end

end TagMeaning
end ThreatMatrix
