import Mathlib.Data.List.Basic
import ThreatMatrix.Proofs.Coverage.Extraction

/-!
# Tags of coverages

The tags that a coverage is written as, taken together again. A technique's tag names its identifier
and means that technique. A tactic's tag names its shortname only, and shortnames in tags are those
of the enterprise matrix: a tactic of the other matrix comes back as its counterpart, or not at all.
-/

namespace ThreatMatrix

/-- Digits are no white space. -/
theorem CodePoint.isBlank_of_isDigit {c : CodePoint} (digit : c.isDigit = true) :
    c.isBlank = false := by
  have free : ∀ range ∈ blankRanges, isFreeOfDigits range.1 range.2 = true := by decide
  rw [isBlank, List.any_eq_false]
  intro range member blank
  rw [Bool.and_eq_true, decide_eq_true_eq, decide_eq_true_eq] at blank
  exact not_isDigit_of_range (free range member) digit blank

/-- A text without white space has none at its ends. -/
theorem Text.strip_of_solid {text : Text} (solid : text.any CodePoint.isBlank = false) :
    text.strip = text := by
  have kept : ∀ items : Text, items.any CodePoint.isBlank = false →
      items.dropWhile CodePoint.isBlank = items := by
    intro items solid
    cases items with
    | nil => rfl
    | cons first more =>
      rw [List.any_cons, Bool.or_eq_false_iff] at solid
      exact List.dropWhile_cons_of_neg (by simp [solid.1])
  rw [strip, trimBoth, kept text solid, kept text.reverse (by rwa [List.any_reverse]),
    List.reverse_reverse]

/-- No white space occurs in the small spelling of an identifier. -/
theorem TechniqueId.any_isBlank_lower (id : TechniqueId) :
    id.text.lower.any CodePoint.isBlank = false := by
  obtain ⟨rest, isText, marks⟩ := id.text_eq_cons
  rw [lower_text, isText, List.tail_cons, List.any_eq_false]
  intro c member
  rw [Bool.not_eq_true]
  rcases List.mem_cons.1 member with rfl | behind
  · decide
  · rcases marks c behind with rfl | digit
    · decide
    · exact CodePoint.isBlank_of_isDigit digit

/-! ## Counterparts -/

namespace Tactic

/-- The tactic of the enterprise matrix that has the shortname of a tactic. -/
def counterpart? (tactic : Tactic) : Option Tactic :=
  (ofMatrix .enterprise).find? (·.shortname = tactic.shortname)

/-- Shortnames are unique within a matrix. -/
theorem eq_of_shortname {left right : Tactic} (matrices : left.matrix = right.matrix)
    (shortnames : left.shortname = right.shortname) : left = right := by
  have unique : ∀ left ∈ all, ∀ right ∈ all, left.matrix = right.matrix →
      left.shortname = right.shortname → left = right := by
    decide +kernel
  exact unique left (mem_all left) right (mem_all right) matrices shortnames

/-- The counterpart of a tactic is what its definition says it is. -/
theorem counterpart?_eq_some_iff {tactic found : Tactic} :
    tactic.counterpart? = some found ↔
      found.matrix = .enterprise ∧ found.shortname = tactic.shortname := by
  constructor
  · intro isFound
    have member := mem_ofMatrix.1 (List.mem_of_find?_eq_some isFound)
    exact ⟨member, by simpa using List.find?_some isFound⟩
  · rintro ⟨isEnterprise, isNamed⟩
    cases isFound : tactic.counterpart? with
    | none =>
      have noOther := List.find?_eq_none.1 isFound found (mem_ofMatrix.2 isEnterprise)
      simp [isNamed] at noOther
    | some other =>
      have otherMember := mem_ofMatrix.1 (List.mem_of_find?_eq_some isFound)
      have otherNamed : other.shortname = tactic.shortname := by simpa using List.find?_some isFound
      rw [eq_of_shortname (otherMember.trans isEnterprise.symm) (otherNamed.trans isNamed.symm)]

/-- A tactic of the enterprise matrix is its own counterpart. -/
theorem counterpart?_of_enterprise {tactic : Tactic} (isEnterprise : tactic.matrix = .enterprise) :
    tactic.counterpart? = some tactic :=
  counterpart?_eq_some_iff.2 ⟨isEnterprise, rfl⟩

/-- Two tactics of the mobile matrix have no counterpart. -/
theorem counterpart?_eq_none_iff (tactic : Tactic) :
    tactic.counterpart? = none ↔ tactic.id = "TA0038" ∨ tactic.id = "TA0039" := by
  cases tactic <;> decide

/-- The tag that a tactic is written as. -/
def tag (tactic : Tactic) : Text :=
  TagMeaning.tagSpace ++ "." ++ tactic.shortname.exchange '-' '_'

/-- The name in the tag of a tactic stands for its counterpart. -/
theorem ofTagName?_exchange (tactic : Tactic) :
    ofTagName? (tactic.shortname.exchange '-' '_') = tactic.counterpart? := by
  -- No shortname with low lines is an identifier or an alias, which are tried first.
  have named : ∀ tactic ∈ all,
      ofTagName? (tactic.shortname.exchange '-' '_') = tactic.counterpart? := by
    decide +kernel
  exact named tactic (mem_all tactic)

end Tactic

/-- The tag that a technique is written as. -/
def Technique.tag (technique : Technique) : Text :=
  TagMeaning.tagSpace ++ "." ++ technique.id.text.lower

/-! ## Tags read back -/

namespace TagMeaning

variable {catalog : Catalog}

/-- A tag that is made of the namespace and a name without white space names that name. -/
theorem names_append {name : Text} (something : name ≠ [])
    (solid : name.any CodePoint.isBlank = false) : Names (tagSpace ++ "." ++ name) name := by
  have solidSpace : (tagSpace ++ (("." : String) : Text)).any CodePoint.isBlank = false := by decide
  have whole : (tagSpace ++ (("." : String) : Text) ++ name).any CodePoint.isBlank = false := by
    rw [List.any_append, solidSpace, solid, Bool.or_false]
  refine ⟨tagSpace, ?_, by decide, by decide, something⟩
  rw [Text.strip_of_solid whole, List.append_assoc]
  rfl

/-- The tag of a tactic means its counterpart, and is not recognized where there is none. -/
theorem ofTag_tactic (tactic : Tactic) :
    ofTag catalog tactic.tag = (tactic.counterpart?.map .tactic).getD .unrecognized := by
  have forms : ∀ tactic ∈ Tactic.all, tactic.shortname.exchange '-' '_' ≠ [] ∧
      (tactic.shortname.exchange '-' '_').any CodePoint.isBlank = false ∧
        (tactic.shortname.exchange '-' '_').lower.isNumbered = false := by
    decide +kernel
  obtain ⟨something, solid, unnumbered⟩ := forms tactic tactic.mem_all
  rw [Tactic.tag, ofTag_of_names (names_append something solid), ofName, tactic.ofTagName?_exchange,
    catalog.parse?_of_not_isNumbered unnumbered]
  cases tactic.counterpart? <;> rfl

/-- The tag of a member of the catalog means that member. -/
theorem ofTag_technique {technique : Technique} (member : technique ∈ catalog.techniques) :
    ofTag catalog technique.tag = .technique technique := by
  have something : technique.id.text.lower ≠ [] := by simp [TechniqueId.lower_text]
  have numbered : technique.id.text.lower.lower.isNumbered = true := by
    rw [TechniqueId.lower_lower_text, TechniqueId.isNumbered_lower_text]
  have isTechnique := Catalog.parse?_eq_some_iff.2 ⟨member, technique.id.lower_lower_text.symm⟩
  rw [Technique.tag, ofTag_of_names (names_append something technique.id.any_isBlank_lower), ofName,
    Tactic.ofTagName?_of_isNumbered numbered, isTechnique]

end TagMeaning

namespace Coverage

variable {catalog : Catalog} {coverage : Coverage}

/-- A coverage is written as the tags of its tactics and then those of its techniques. -/
theorem toTags_eq (coverage : Coverage) :
    coverage.toTags = coverage.tactics.map Tactic.tag ++ coverage.techniques.map Technique.tag :=
  rfl

/-- The tags of tactics mean counterparts and nothing else. -/
theorem parts_map_tacticTag (tactics : List Tactic) :
    tacticsOf catalog (tactics.map Tactic.tag) = tactics.filterMap (·.counterpart?) ∧
      techniquesOf catalog (tactics.map Tactic.tag) = [] ∧
      notesOf catalog (tactics.map Tactic.tag) =
        (tactics.filter (·.counterpart?.isNone)).map fun tactic => .skippedTag tactic.tag := by
  refine ⟨?_, ?_, ?_⟩
  · rw [tacticsOf, List.filterMap_map]
    refine List.filterMap_congr fun tactic _ => ?_
    rw [Function.comp_apply, TagMeaning.ofTag_tactic]
    cases tactic.counterpart? <;> rfl
  · rw [techniquesOf, List.filterMap_map, List.filterMap_eq_nil_iff]
    intro tactic _
    rw [Function.comp_apply, TagMeaning.ofTag_tactic]
    cases tactic.counterpart? <;> rfl
  · rw [notesOf, List.filter_map, List.map_map]
    refine congrArg (List.map _) (List.filter_congr fun tactic _ => ?_)
    simp only [Function.comp_apply, TagMeaning.means_iff, TagMeaning.ofTag_tactic]
    cases tactic.counterpart? <;> rfl

/-- The tags of members of the catalog mean those members and nothing else. -/
theorem parts_map_techniqueTag {techniques : List Technique}
    (listed : ∀ technique ∈ techniques, technique ∈ catalog.techniques) :
    tacticsOf catalog (techniques.map Technique.tag) = [] ∧
      techniquesOf catalog (techniques.map Technique.tag) = techniques ∧
      notesOf catalog (techniques.map Technique.tag) = [] := by
  have means := fun technique member => TagMeaning.ofTag_technique (listed technique member)
  refine ⟨?_, ?_, ?_⟩
  · rw [tacticsOf, List.filterMap_map, List.filterMap_eq_nil_iff]
    intro technique member
    rw [Function.comp_apply, means technique member]
    rfl
  · rw [techniquesOf, List.filterMap_map]
    refine (List.filterMap_congr fun technique member => ?_).trans List.filterMap_some
    rw [Function.comp_apply, means technique member]
    rfl
  · rw [notesOf, List.map_eq_nil_iff, List.filter_eq_nil_iff]
    intro tag member
    obtain ⟨technique, inList, rfl⟩ := List.mem_map.1 member
    simp [TagMeaning.means_iff, means technique inList]

/-- Counterparts without repetitions are the tactics themselves only if these are tactics of the
enterprise matrix without repetitions. -/
theorem eraseDups_counterparts_iff {tactics : List Tactic} :
    (tactics.filterMap (·.counterpart?)).eraseDups = tactics ↔
      tactics.Nodup ∧ ∀ tactic ∈ tactics, tactic.matrix = .enterprise := by
  constructor
  · intro same
    refine ⟨same ▸ nodup_eraseDups _, fun tactic member => ?_⟩
    rw [← same, List.mem_eraseDups, List.mem_filterMap] at member
    obtain ⟨source, -, isCounterpart⟩ := member
    exact (Tactic.counterpart?_eq_some_iff.1 isCounterpart).1
  · rintro ⟨distinct, isEnterprise⟩
    have kept : tactics.filterMap (·.counterpart?) = tactics :=
      (List.filterMap_congr fun tactic member =>
        Tactic.counterpart?_of_enterprise (isEnterprise tactic member)).trans List.filterMap_some
    rw [kept, eraseDups_of_nodup distinct]

/-- The tags of a coverage come to its techniques and to the counterparts of its tactics, each where
it occurs first, and to a note for every tactic without a counterpart. They come to the coverage
itself exactly if it repeats nothing and its tactics are those of the enterprise matrix. -/
theorem ofTags_toTags (listed : coverage.IsListedIn catalog) :
    ofTags catalog coverage.toTags =
        ⟨(coverage.tactics.filter (·.counterpart?.isNone)).map fun tactic => .skippedTag tactic.tag,
          .ok ⟨(coverage.tactics.filterMap (·.counterpart?)).eraseDups,
            coverage.techniques.eraseDups⟩⟩ ∧
      (∀ tactic : Tactic,
        tactic.counterpart? = none ↔ tactic.id = "TA0038" ∨ tactic.id = "TA0039") ∧
      ((ofTags catalog coverage.toTags).result = .ok coverage ↔
        coverage.tactics.Nodup ∧ coverage.techniques.Nodup ∧
          ∀ tactic ∈ coverage.tactics, tactic.matrix = .enterprise) := by
  -- The tactics' tags come first and give no techniques, the techniques' tags give nothing else.
  obtain ⟨tactics, noTechniques, notes⟩ := @parts_map_tacticTag catalog coverage.tactics
  obtain ⟨noTactics, techniques, noNotes⟩ := parts_map_techniqueTag listed
  have rendered : ofTags catalog coverage.toTags =
      ⟨(coverage.tactics.filter (·.counterpart?.isNone)).map fun tactic => .skippedTag tactic.tag,
        .ok ⟨(coverage.tactics.filterMap (·.counterpart?)).eraseDups,
          coverage.techniques.eraseDups⟩⟩ := by
    rw [ofTags_eq, toTags_eq, tacticsOf_append, techniquesOf_append, notesOf_append, tactics,
      noTechniques, notes, noTactics, techniques, noNotes, List.append_nil, List.append_nil,
      List.nil_append, ofMembers]
  refine ⟨rendered, Tactic.counterpart?_eq_none_iff, ?_⟩
  have parts : (⟨(coverage.tactics.filterMap (·.counterpart?)).eraseDups,
      coverage.techniques.eraseDups⟩ : Coverage) = coverage ↔
        (coverage.tactics.filterMap (·.counterpart?)).eraseDups = coverage.tactics ∧
          coverage.techniques.eraseDups = coverage.techniques := by
    cases coverage
    rw [Coverage.mk.injEq]
  rw [rendered, Except.ok.injEq, parts, eraseDups_counterparts_iff, eraseDups_eq_self_iff, and_assoc,
    and_comm (b := coverage.techniques.Nodup)]

/-- The tags of a coverage that repeats members and holds tactics of both matrices. -/
theorem ofTags_toTags_repetitive :
    repetitive.IsListedIn Session.packagedCatalog ∧
      ofTags Session.packagedCatalog repetitive.toTags =
        ⟨[.skippedTag "attack.network_effects", .skippedTag "attack.network_effects"],
          .ok ⟨[.commandAndControl, .execution], [⟨.ofNumbers 1003 6, "DCSync"⟩,
            ⟨.ofNumbers 1003 0, "OS Credential Dumping"⟩]⟩⟩ ∧
      (ofTags Session.packagedCatalog repetitive.toTags).result ≠ .ok repetitive := by
  obtain ⟨rendered, -, same⟩ := ofTags_toTags isListedIn_repetitive
  have notes : (repetitive.tactics.filter (·.counterpart?.isNone)).map
      (fun tactic => Note.skippedTag tactic.tag) =
        [.skippedTag "attack.network_effects", .skippedTag "attack.network_effects"] := by
    decide +kernel
  have tactics : (repetitive.tactics.filterMap (·.counterpart?)).eraseDups =
      [.commandAndControl, .execution] := by
    decide +kernel
  have techniques : repetitive.techniques.eraseDups = [⟨.ofNumbers 1003 6, "DCSync"⟩,
      ⟨.ofNumbers 1003 0, "OS Credential Dumping"⟩] := by
    decide +kernel
  refine ⟨isListedIn_repetitive, by rw [rendered, notes, tactics, techniques], ?_⟩
  rw [Ne, same]
  decide

end Coverage
end ThreatMatrix
