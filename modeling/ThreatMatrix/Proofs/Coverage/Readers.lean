import Mathlib.Data.List.Pairwise
import ThreatMatrix.Command.Lookup
import ThreatMatrix.Proofs.Catalog.Vocabulary

/-!
# Readers in any order

A name in a tag is read as an identifier of a tactic, then as a shortname, then as an identifier of
a technique; an argument of a lookup is read as a tactic and then as a technique. The first reader
that recognizes a text settles what it is. No text means different things to different readers, so
every order of the readers comes to the same, and no tactic hides a technique.
-/

namespace ThreatMatrix

/-! ## Readers one after the other -/

section

variable {α : Type} {readers order : List (Text → Option α)} {text : Text} {item : α}

/-- What the first reader that recognizes a text reads it as. -/
def firstOf (readers : List (Text → Option α)) (text : Text) : Option α :=
  readers.findSome? fun reader => reader text

/-- Two readers that never read one text as different things. -/
def Agree (left right : Text → Option α) : Prop :=
  ∀ text first second, left text = some first → right text = some second → first = second

theorem Agree.refl (reader : Text → Option α) : Agree reader reader := by
  intro text first second isFirst isSecond
  rw [isFirst] at isSecond
  exact Option.some.inj isSecond

theorem Agree.symm {left right : Text → Option α} (agree : Agree left right) : Agree right left :=
  fun text first second isFirst isSecond => (agree text second first isSecond isFirst).symm

/-- Readers that recognize no text in common agree. -/
theorem Agree.of_apart {left right : Text → Option α}
    (apart : ∀ text, left text = none ∨ right text = none) : Agree left right := by
  intro text first second isFirst isSecond
  rcases apart text with nothing | nothing
  · rw [isFirst] at nothing
    cases nothing
  · rw [isSecond] at nothing
    cases nothing

/-- Readers that agree read a text as what any of them reads it as. -/
theorem firstOf_eq_some_iff (agree : readers.Pairwise Agree) :
    firstOf readers text = some item ↔ ∃ reader ∈ readers, reader text = some item := by
  constructor
  · exact List.exists_of_findSome?_eq_some
  · rintro ⟨reader, member, isRead⟩
    cases found : firstOf readers text with
    | none =>
      rw [List.findSome?_eq_none_iff.1 found reader member] at isRead
      cases isRead
    | some other =>
      obtain ⟨first, firstMember, isFirst⟩ := List.exists_of_findSome?_eq_some found
      have symmetric : Std.Symm (Agree (α := α)) := ⟨fun _ _ => Agree.symm⟩
      have same := agree.forall_of_forall (fun reader _ => Agree.refl reader) firstMember member
      rw [same text other item isFirst isRead]

/-- Readers that agree may be tried in any order. -/
theorem firstOf_of_perm (permuted : order.Perm readers) (agree : readers.Pairwise Agree) :
    firstOf order = firstOf readers := by
  have agreeToo : order.Pairwise Agree := agree.perm permuted.symm Agree.symm
  funext text
  refine Option.ext fun item => ?_
  rw [firstOf_eq_some_iff agreeToo, firstOf_eq_some_iff agree]
  exact exists_congr fun reader => and_congr_left fun _ => permuted.mem_iff

end

/-! ## Texts that two readers recognize -/

section

variable {catalog : Catalog} {text : Text}

/-- An identifier or alias that is a shortname of the enterprise matrix as well names one tactic. -/
theorem Tactic.eq_of_parse?_of_ofShortname? {byId byShortname : Tactic}
    (isId : parse? text = some byId)
    (isShortname : ofShortname? .enterprise text = some byShortname) : byId = byShortname := by
  -- Both readers look at the small form of the text only, and it stands in the vocabulary.
  have same : ∀ entry ∈ vocabulary, ∀ tactic ∈ all, tactic.matrix = .enterprise →
      tactic.shortname = entry.1.exchange '_' '-' → entry.2 = tactic := by
    decide +kernel
  obtain ⟨before, behind, split, -⟩ := List.lookup_eq_some_iff.1 isId
  have listed : (text.lower, byId) ∈ vocabulary := by rw [split]; simp
  obtain ⟨isEnterprise, isNamed⟩ := of_ofShortname? isShortname
  exact same _ listed byShortname (mem_all byShortname) isEnterprise isNamed

/-- No text is the name of a tactic and of a technique. -/
theorem Catalog.ofTagName?_or_parse? (catalog : Catalog) (text : Text) :
    Tactic.ofTagName? text = none ∨ catalog.parse? text = none := by
  cases numbered : text.lower.isNumbered with
  | true => exact .inl (Tactic.ofTagName?_of_isNumbered numbered)
  | false => exact .inr (catalog.parse?_of_not_isNumbered numbered)

/-- A text that is read as a technique names no tactic in a tag. -/
theorem Catalog.ofTagName?_of_parse? {technique : Technique}
    (isTechnique : catalog.parse? text = some technique) : Tactic.ofTagName? text = none := by
  rcases catalog.ofTagName?_or_parse? text with noTactic | noTechnique
  · exact noTactic
  · rw [isTechnique] at noTechnique
    cases noTechnique

/-- A text that names no tactic in a tag is no identifier and no shortname. -/
theorem Tactic.ofTagName?_eq_none_iff :
    ofTagName? text = none ↔ parse? text = none ∧ ofShortname? .enterprise text = none := by
  rw [ofTagName?, Option.orElse_eq_orElse, Option.orElse_eq_or]
  exact Option.or_eq_none_iff

end

/-! ## Names in tags -/

namespace TagMeaning

/-- The readers of names in tags, in the order in which they are tried. -/
def readers (catalog : Catalog) : List (Text → Option TagMeaning) :=
  [fun name => (Tactic.parse? name).map .tactic,
    fun name => (Tactic.ofShortname? .enterprise name).map .tactic,
    fun name => (catalog.parse? name).map .technique]

/-- The meaning of a tag where names are read in some way. -/
def ofTagBy (read : Text → Option TagMeaning) (tag : Text) : TagMeaning :=
  let (space, name) := Text.partition '.' tag.strip
  if space.lower ≠ tagSpace ∨ name = [] then .foreign else (read name).getD .unrecognized

/-- The readers of names in tags agree. -/
theorem agree_readers (catalog : Catalog) : (readers catalog).Pairwise Agree := by
  have tactics : Agree (fun name => (Tactic.parse? name).map tactic)
      (fun name => (Tactic.ofShortname? .enterprise name).map tactic) := by
    intro text first second isFirst isSecond
    obtain ⟨byId, isId, rfl⟩ := Option.map_eq_some_iff.1 isFirst
    obtain ⟨byShortname, isShortname, rfl⟩ := Option.map_eq_some_iff.1 isSecond
    rw [Tactic.eq_of_parse?_of_ofShortname? isId isShortname]
  have idOrTechnique : Agree (fun name => (Tactic.parse? name).map tactic)
      (fun name => (catalog.parse? name).map technique) := .of_apart fun text => by
    simpa using (catalog.ofTagName?_or_parse? text).imp_left
      fun noTactic => (Tactic.ofTagName?_eq_none_iff.1 noTactic).1
  have shortnameOrTechnique : Agree (fun name => (Tactic.ofShortname? .enterprise name).map tactic)
      (fun name => (catalog.parse? name).map technique) := .of_apart fun text => by
    simpa using (catalog.ofTagName?_or_parse? text).imp_left
      fun noTactic => (Tactic.ofTagName?_eq_none_iff.1 noTactic).2
  simp [readers, tactics, idOrTechnique, shortnameOrTechnique]

/-- Trying the readers in their order is how names in tags are read. -/
theorem firstOf_readers (catalog : Catalog) (name : Text) :
    (firstOf (readers catalog) name).getD .unrecognized = ofName catalog name := by
  unfold ofName
  cases isId : Tactic.parse? name with
  | some found => simp [firstOf, readers, Tactic.ofTagName?, isId]
  | none =>
    cases isShortname : Tactic.ofShortname? .enterprise name with
    | some found => simp [firstOf, readers, Tactic.ofTagName?, isId, isShortname]
    | none =>
      cases isTechnique : catalog.parse? name with
      | some found => simp [firstOf, readers, Tactic.ofTagName?, isId, isShortname, isTechnique]
      | none => simp [firstOf, readers, Tactic.ofTagName?, isId, isShortname, isTechnique]

/-- Every order of the readers gives a tag its meaning. -/
theorem ofTagBy_of_perm {catalog : Catalog} {order : List (Text → Option TagMeaning)}
    (permuted : order.Perm (readers catalog)) (tag : Text) :
    ofTagBy (firstOf order) tag = ofTag catalog tag := by
  rw [firstOf_of_perm permuted (agree_readers catalog), ofTagBy, ofTag, ofStripped]
  simp only [firstOf_readers]

end TagMeaning

namespace Coverage

/-- The members that tags mean where names are read in some way, and notes of tags that are not
recognized. -/
def membersOfTagsBy (read : Text → Option TagMeaning) :
    List Text → Outcome (List Tactic × List Technique)
  | [] => pure ([], [])
  | tag :: more => do
    let meaning := TagMeaning.ofTagBy read tag
    match meaning with
    | .unrecognized => .note (.skippedTag tag)
    | _ => pure ()
    let members ← membersOfTagsBy read more
    return meaning.add members

/-- The coverage that tags mean where names are read in some way. -/
def ofTagsBy (read : Text → Option TagMeaning) (tags : List Text) : Outcome Coverage := do
  let (tactics, techniques) ← membersOfTagsBy read tags
  return ofMembers tactics techniques

/-- Every order of the readers finds the same members and makes the same notes. -/
theorem membersOfTagsBy_of_perm {catalog : Catalog} {order : List (Text → Option TagMeaning)}
    (permuted : order.Perm (TagMeaning.readers catalog)) (tags : List Text) :
    membersOfTagsBy (firstOf order) tags = membersOfTags catalog (tags.map .text) := by
  induction tags with
  | nil => rfl
  | cons tag more inductionHypothesis =>
    have isMeaning : TagMeaning.ofValue catalog (.text tag) = .ok (TagMeaning.ofTag catalog tag) := rfl
    rw [List.map_cons, membersOfTags, isMeaning, mapError_ok, Outcome.ofExcept_ok_bind,
      membersOfTagsBy, inductionHypothesis, TagMeaning.ofTagBy_of_perm permuted]
    rfl

/-- Every order of the readers comes to the same coverage and the same notes. -/
theorem ofTagsBy_of_perm {catalog : Catalog} {order : List (Text → Option TagMeaning)}
    (permuted : order.Perm (TagMeaning.readers catalog)) (tags : List Text) :
    ofTagsBy (firstOf order) tags = ofTags catalog tags := by
  have items : (Value.list (tags.map .text)).iterate = .ok (tags.map .text) := rfl
  rw [ofTags, ofTagValues, items, mapError_ok, Outcome.ofExcept_ok_bind, ofTagsBy,
    membersOfTagsBy_of_perm permuted]

end Coverage

/-! ## Arguments of a lookup -/

namespace Entry

/-- The readers of arguments, in the order in which they are tried. -/
def readers (catalog : Catalog) : List (Text → Option Entry) :=
  [fun input => (Tactic.parse? input).map (ofTactic input),
    fun input => (catalog.parse? input).map (ofTechnique catalog input)]

/-- The readers of arguments agree. -/
theorem agree_readers (catalog : Catalog) : (readers catalog).Pairwise Agree := by
  have apart : Agree (fun input => (Tactic.parse? input).map (ofTactic input))
      (fun input => (catalog.parse? input).map (ofTechnique catalog input)) :=
    .of_apart fun text => by
      simpa using (catalog.ofTagName?_or_parse? text).imp_left
        fun noTactic => (Tactic.ofTagName?_eq_none_iff.1 noTactic).1
  simp [readers, apart]

/-- Every order of the readers gives an argument its entry. -/
theorem firstOf_eq_ofText? {catalog : Catalog} {order : List (Text → Option Entry)}
    (permuted : order.Perm (readers catalog)) : firstOf order = ofText? catalog := by
  rw [firstOf_of_perm permuted (agree_readers catalog)]
  funext input
  unfold ofText?
  cases isTactic : Tactic.parse? input with
  | some found => simp [firstOf, readers, isTactic]
  | none => simp [firstOf, readers, isTactic]

end Entry

namespace Command

/-- Resolves identifiers that are read in some way. -/
def runLookupBy (read : Text → Option Entry) (identifiers : List Text) (asJson : Bool) : Ending :=
  let invalid := identifiers.filter fun identifier => (read identifier).isNone
  let displays := lookupDisplays asJson (identifiers.filterMap read) invalid
  if invalid.isEmpty then .success displays else .failure displays

/-- Every order of the readers resolves identifiers alike. -/
theorem runLookupBy_of_perm {catalog : Catalog} {order : List (Text → Option Entry)}
    (permuted : order.Perm (Entry.readers catalog)) :
    runLookupBy (firstOf order) = runLookup catalog := by
  rw [Entry.firstOf_eq_ofText? permuted]
  rfl

end Command

/-! ## No text means two things -/

namespace Catalog

/-- A catalog is free of clashes if the order in which its readers are tried never shows. -/
structure IsFreeOfClashes (catalog : Catalog) : Prop where
  /-- A text that is an identifier or alias of a tactic and a shortname names one tactic. -/
  tactics : ∀ text byId byShortname, Tactic.parse? text = some byId →
    Tactic.ofShortname? .enterprise text = some byShortname → byId = byShortname
  /-- No text names a tactic in a tag and is the identifier of a technique. -/
  apart : ∀ text, Tactic.ofTagName? text = none ∨ catalog.parse? text = none
  /-- Tags come to the same coverage and the same notes in every order of the readers. -/
  tags : ∀ order, order.Perm (TagMeaning.readers catalog) → ∀ tags,
    Coverage.ofTagsBy (firstOf order) tags = Coverage.ofTags catalog tags
  /-- Arguments of a lookup come to the same in every order of the readers. -/
  lookups : ∀ order, order.Perm (Entry.readers catalog) →
    Command.runLookupBy (firstOf order) = Command.runLookup catalog
  /-- Every technique of the catalog is found by its identifier in any letter case, in tags and by
  lookups. -/
  shown : ∀ technique ∈ catalog.techniques, ∀ text, text.lower = technique.id.text.lower →
    TagMeaning.ofName catalog text = .technique technique ∧
      Entry.ofText? catalog text = some (.ofTechnique catalog text technique)

/-- Every catalog is free of clashes, whatever digits its identifiers have. -/
theorem isFreeOfClashes (catalog : Catalog) : catalog.IsFreeOfClashes where
  tactics _ _ _ isId isShortname := Tactic.eq_of_parse?_of_ofShortname? isId isShortname
  apart := catalog.ofTagName?_or_parse?
  tags _ permuted tags := Coverage.ofTagsBy_of_perm permuted tags
  lookups _ permuted := Command.runLookupBy_of_perm permuted
  shown := by
    intro technique member text spelled
    have isTechnique := parse?_eq_some_iff.2 ⟨member, spelled.symm⟩
    have noTactic := ofTagName?_of_parse? isTechnique
    have noId := (Tactic.ofTagName?_eq_none_iff.1 noTactic).1
    constructor
    · rw [TagMeaning.ofName, noTactic, isTechnique]
    · rw [Entry.ofText?, noId, isTechnique]
      rfl

end Catalog
end ThreatMatrix
