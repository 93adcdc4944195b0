import ThreatMatrix.Proofs.Coverage.Readers
import ThreatMatrix.Proofs.Text.Respelling

/-!
# Respelled tags

What a tag means does not depend on how it is spelled. All readers of names come to what the name's
key says: its small form with hyphens for low lines. Identifiers hold neither mark, and the alias,
which is listed with low lines only, is the shortname of its tactic when it is spelled with hyphens.
The key of a name is that of its level spelling, and so is the point that parts the namespace from
the name.
-/

namespace ThreatMatrix

/-- Exchanging a mark for another makes a text that holds neither out of that text only. -/
theorem Text.exchange_eq_iff {old new : CodePoint} {text key : Text} (noOld : old ∉ key)
    (noNew : new ∉ key) : text.exchange old new = key ↔ text = key := by
  constructor
  · rintro rfl
    have absent : old ∉ text := fun present => noNew (mem_exchange present)
    rw [exchange_of_not_mem absent]
  · rintro rfl
    exact exchange_of_not_mem noOld

/-! ## Readers and keys -/

namespace Tactic

variable {text : Text} {tactic : Tactic}

/-- The key of a text is made of those of its code points. -/
theorem shortnameKey_eq_flatMap (text : Text) :
    shortnameKey text = text.flatMap fun c => c.lower.exchange '_' '-' :=
  List.map_flatMap

/-- The key of a text is that of its level spelling. -/
theorem shortnameKey_map_level (text : Text) :
    shortnameKey (text.map CodePoint.level) = shortnameKey text := by
  have alike : ∀ c : CodePoint, c.level.lower.exchange '_' '-' = c.lower.exchange '_' '-' := by
    intro c
    unfold CodePoint.level
    split
    · next lowLine =>
      rw [lowLine]
      decide
    · rw [CodePoint.lower_lowerBasic]
  rw [shortnameKey_eq_flatMap, shortnameKey_eq_flatMap, List.flatMap_map]
  simp only [alike]

/-- A name in a tag stands for the tactic whose identifier or, in the enterprise matrix, whose
shortname its key is. -/
theorem ofTagName?_eq_some_iff : ofTagName? text = some tactic ↔
    shortnameKey text = tactic.id.lower ∨
      tactic.matrix = .enterprise ∧ shortnameKey text = tactic.shortname := by
  have unmarked : ∀ tactic ∈ all,
      ('_' : CodePoint) ∉ tactic.id.lower ∧ ('-' : CodePoint) ∉ tactic.id.lower := by
    decide +kernel
  obtain ⟨noLowLine, noHyphen⟩ := unmarked tactic (mem_all tactic)
  have isId : shortnameKey text = tactic.id.lower ↔ text.lower = tactic.id.lower :=
    Text.exchange_eq_iff noLowLine noHyphen
  have isShortname := @ofShortname?_eq_some_iff_key text tactic .enterprise
  rw [eq_comm (a := tactic.shortname)] at isShortname
  rw [isId, ← isShortname, ofTagName?, Option.orElse_eq_orElse, Option.orElse_eq_or,
    Option.or_eq_some_iff, parse?_eq_some_iff_lower]
  constructor
  · rintro ((named | ⟨rfl, isAlias⟩) | ⟨-, named⟩)
    · exact .inl named
    · -- The key of the alias is the shortname of its tactic.
      refine .inr (isShortname.2 ⟨rfl, ?_⟩)
      rw [shortnameKey, isAlias]
      decide
    · exact .inr named
  · rintro (named | named)
    · exact .inl (.inl named)
    · cases parsed : parse? text with
      | none => exact .inr ⟨rfl, named⟩
      | some other =>
        obtain rfl := eq_of_parse?_of_ofShortname? parsed named
        exact .inl (parse?_eq_some_iff_lower.1 parsed)

end Tactic

/-- A text is read as the technique whose small identifier its key is. -/
theorem Catalog.parse?_eq_some_iff_key {catalog : Catalog} {text : Text} {technique : Technique} :
    catalog.parse? text = some technique ↔
      technique ∈ catalog.techniques ∧ Tactic.shortnameKey text = technique.id.text.lower := by
  have noLowLine : ('_' : CodePoint) ∉ technique.id.text.lower := by
    rw [Text.mem_lower (by decide)]
    exact technique.id.lowLine_not_mem
  have noHyphen : ('-' : CodePoint) ∉ technique.id.text.lower := by
    rw [Text.mem_lower (by decide)]
    exact technique.id.not_mem_text (by decide) (by decide) (by decide)
  rw [Tactic.shortnameKey, Text.exchange_eq_iff noLowLine noHyphen, parse?_eq_some_iff,
    eq_comm (a := technique.id.text.lower)]

/-! ## Meanings -/

namespace TagMeaning

variable {catalog : Catalog} {left right : Text}

/-- Names of one key mean the same. -/
theorem ofName_congr (sameKey : Tactic.shortnameKey left = Tactic.shortnameKey right) :
    ofName catalog left = ofName catalog right := by
  have tactics : Tactic.ofTagName? left = Tactic.ofTagName? right :=
    Option.ext fun tactic => by
      rw [Tactic.ofTagName?_eq_some_iff, Tactic.ofTagName?_eq_some_iff, sameKey]
  have techniques : catalog.parse? left = catalog.parse? right :=
    Option.ext fun technique => by
      rw [Catalog.parse?_eq_some_iff_key, Catalog.parse?_eq_some_iff_key, sameKey]
  rw [ofName, ofName, tactics, techniques]

/-- A level spelling is parted at the same point. -/
theorem partition_map_level (text : Text) : Text.partition '.' (text.map CodePoint.level) =
    ((Text.partition '.' text).1.map CodePoint.level,
      (Text.partition '.' text).2.map CodePoint.level) := by
  have alike : ((· != ('.' : CodePoint)) ∘ CodePoint.level) = (· != ('.' : CodePoint)) := by
    funext c
    rw [Function.comp_apply, Bool.eq_iff_iff, bne_iff_ne, bne_iff_ne, Ne,
      CodePoint.level_eq_point_iff]
  rw [Text.partition, List.takeWhile_map, List.dropWhile_map, alike, ← List.map_tail, Text.partition]

/-- A tag without white space around it means what its level spelling means. -/
theorem ofStripped_map_level (tag : Text) :
    ofStripped catalog (tag.map CodePoint.level) = ofStripped catalog tag := by
  have isSpace : ∀ space : Text,
      Text.lower (space.map CodePoint.level) = tagSpace ↔ space.lower = tagSpace := by
    intro space
    have byKey : ∀ text : Text, Tactic.shortnameKey text = tagSpace ↔ text.lower = tagSpace :=
      fun text => Text.exchange_eq_iff (by decide) (by decide)
    rw [← byKey, ← byKey, Tactic.shortnameKey_map_level]
  unfold ofStripped
  rw [partition_map_level]
  simp only [ne_eq, isSpace, List.map_eq_nil_iff, ofName_congr (Tactic.shortnameKey_map_level _)]

/-- The meaning of a tag can be read off its level spelling. -/
theorem ofTag_eq_ofStripped_level (tag : Text) : ofTag catalog tag = ofStripped catalog tag.level :=
  (ofStripped_map_level tag.strip).symm

/-- Respelled tags mean the same. -/
theorem ofTag_of_respells (respells : left.Respells right) :
    ofTag catalog left = ofTag catalog right := by
  rw [ofTag_eq_ofStripped_level, ofTag_eq_ofStripped_level, Text.respells_iff.1 respells]

end TagMeaning

/-! ## Coverages -/

namespace Coverage

variable {catalog : Catalog} {left right : List Text}

/-- Tags that are respelled one by one mean the same one by one. -/
theorem map_ofTag_of_respelled (respelled : List.Forall₂ Text.Respells left right) :
    left.map (TagMeaning.ofTag catalog) = right.map (TagMeaning.ofTag catalog) := by
  induction respelled with
  | nil => rfl
  | cons respells _ inductionHypothesis =>
    rw [List.map_cons, List.map_cons, TagMeaning.ofTag_of_respells respells, inductionHypothesis]

/-- Tags that mean the same one by one mean the same tactics and techniques. -/
theorem parts_of_map_ofTag
    (alike : left.map (TagMeaning.ofTag catalog) = right.map (TagMeaning.ofTag catalog)) :
    tacticsOf catalog left = tacticsOf catalog right ∧
      techniquesOf catalog left = techniquesOf catalog right := by
  have tactics : ∀ tags, tacticsOf catalog tags =
      (tags.map (TagMeaning.ofTag catalog)).filterMap TagMeaning.tactic? := by
    intro tags
    rw [List.filterMap_map]
    rfl
  have techniques : ∀ tags, techniquesOf catalog tags =
      (tags.map (TagMeaning.ofTag catalog)).filterMap TagMeaning.technique? := by
    intro tags
    rw [List.filterMap_map]
    rfl
  rw [tactics, tactics, techniques, techniques, alike]
  exact ⟨rfl, rfl⟩

/-- Tags that are respelled one by one mean the same one by one, and come to the same coverage. -/
theorem ofTags_respelled (respelled : List.Forall₂ Text.Respells left right) :
    left.map (TagMeaning.ofTag catalog) = right.map (TagMeaning.ofTag catalog) ∧
      ∃ coverage, (ofTags catalog left).result = .ok coverage ∧
        (ofTags catalog right).result = .ok coverage := by
  have alike := @map_ofTag_of_respelled catalog left right respelled
  obtain ⟨tactics, techniques⟩ := parts_of_map_ofTag alike
  refine ⟨alike, ofMembers (tacticsOf catalog left) (techniquesOf catalog left), ?_, ?_⟩
  · rw [ofTags_eq]
  · rw [ofTags_eq, tactics, techniques]

/-- A coverage of one tactic and one technique. -/
def modest : Coverage :=
  ⟨[.commandAndControl], [⟨.ofNumbers 1003 6, "DCSync"⟩]⟩

/-- The tags of that coverage with other letters, marks and white space come to that coverage. -/
theorem ofTags_respelled_shouted :
    List.Forall₂ Text.Respells modest.toTags
        [" ATTACK.Command-And_Control", "Attack.T1003.006\t\n"] ∧
      (ofTags Session.packagedCatalog
        [" ATTACK.Command-And_Control", "Attack.T1003.006\t\n"]).result = .ok modest := by
  have respelled : List.Forall₂ Text.Respells modest.toTags
      [" ATTACK.Command-And_Control", "Attack.T1003.006\t\n"] :=
    .cons (by decide) (.cons (by decide) .nil)
  have listed : ∀ technique ∈ modest.techniques, technique ∈ Session.packagedCatalog.techniques := by
    intro technique member
    rw [List.mem_singleton.1 member]
    exact isListedIn_repetitive _ List.mem_cons_self
  obtain ⟨tactics, noTechniques, -⟩ :=
    @parts_map_tacticTag Session.packagedCatalog modest.tactics
  obtain ⟨noTactics, techniques, -⟩ := parts_map_techniqueTag listed
  obtain ⟨-, coverage, asWritten, asRespelled⟩ :=
    @ofTags_respelled Session.packagedCatalog _ _ respelled
  refine ⟨respelled, ?_⟩
  rw [asRespelled, ← asWritten, ofTags_eq, toTags_eq, tacticsOf_append, techniquesOf_append, tactics,
    noTechniques, noTactics, techniques]
  exact congrArg Except.ok (by decide)

end Coverage
end ThreatMatrix
