import ThreatMatrix.Proofs.Catalog.Extension
import ThreatMatrix.Proofs.Coverage.Blame
import ThreatMatrix.Proofs.Coverage.Extraction

/-!
# Coverages under extended catalogs

Rules and documents that were written while a table had fewer rows keep what they say when it has
more. What was accepted as a technique is accepted as that technique, tags mean it, and it is shown
as before. New rows add to coverages and to families, and take nothing away.
-/

namespace ThreatMatrix

open Catalog (Extends)

section

variable {larger smaller : Catalog} {technique : Technique} {value : Value} {tag : Text}
  {tags : List Text}

/-! ## Fields -/

namespace Coverage

variable {left right : Except Report Settings}

/-- A field looks one value up at most, and which one it is does not depend on the catalog. -/
theorem checkTechnique_lookup (settings : Except Report Settings) (value : Value) :
    (∃ offered, ∀ catalog, checkTechnique catalog settings value =
        identified (Catalog.ofValue catalog offered)) ∨
      ∃ result, ∀ catalog, checkTechnique catalog settings value = result := by
  unfold checkTechnique
  split
  · exact .inr ⟨_, fun _ => rfl⟩
  · split
    · exact .inl ⟨_, fun _ => rfl⟩
    · split
      · exact .inr ⟨_, fun _ => rfl⟩
      · split
        · exact .inl ⟨_, fun _ => rfl⟩
        · exact .inl ⟨_, fun _ => rfl⟩

/-- Of the settings a field looks at nothing but whether low lines are accepted. -/
theorem checkTechnique_of_alike
    (alike : left.map Settings.acceptLegacyTags = right.map Settings.acceptLegacyTags) :
    checkTechnique smaller left value = checkTechnique smaller right value := by
  cases left with
  | error report =>
    cases right with
    | error other =>
      cases alike
      rfl
    | ok settings => cases alike
  | ok settings =>
    cases right with
    | error report => cases alike
    | ok others =>
      have accepts : settings.acceptLegacyTags = others.acceptLegacyTags := Except.ok.inj alike
      unfold checkTechnique
      simp only [accepts]

/-- What a field accepts as a technique, it accepts as that technique under a larger catalog. -/
theorem checkTechnique_of_extends {settings : Except Report Settings}
    (extension : larger.Extends smaller)
    (passes : checkTechnique smaller settings value = .ok technique) :
    checkTechnique larger settings value = .ok technique := by
  rcases checkTechnique_lookup settings value with ⟨offered, looksUp⟩ | ⟨result, isResult⟩
  · rw [looksUp, identified, mapError_eq_ok_iff] at passes ⊢
    exact extension.ofValue passes
  · rw [isResult] at passes ⊢
    exact passes

end Coverage

/-! ## Tags -/

namespace TagMeaning

/-- A tag means the tactic that it means under a larger catalog, and the technique if that is a
member of the smaller one. -/
theorem ofTag_of_extends (extension : larger.Extends smaller) (tag : Text) :
    (ofTag smaller tag).tactic? = (ofTag larger tag).tactic? ∧
      (ofTag smaller tag).technique? =
        (ofTag larger tag).technique?.filter (· ∈ smaller.techniques) := by
  by_cases something : ∃ name, Names tag name
  · obtain ⟨name, named⟩ := something
    rw [ofTag_of_names named, ofTag_of_names named, ofName, ofName]
    cases Tactic.ofTagName? name with
    | some found => exact ⟨rfl, rfl⟩
    | none =>
      rw [extension.parse?_eq_filter]
      cases larger.parse? name with
      | none => exact ⟨rfl, rfl⟩
      | some found =>
        by_cases member : found ∈ smaller.techniques
        · simp [member, tactic?, technique?, Option.filter_some]
        · simp [member, tactic?, technique?, Option.filter_some]
  · rw [not_exists] at something
    rw [ofTag_of_nameless something, ofTag_of_nameless something]
    exact ⟨rfl, rfl⟩

/-- A tag that means a technique means it under a larger catalog. -/
theorem means_of_extends (extension : larger.Extends smaller)
    (means : Means smaller tag (.technique technique)) : Means larger tag (.technique technique) := by
  rw [means_technique_iff] at means ⊢
  rw [(ofTag_of_extends extension tag).2, Option.filter_eq_some_iff] at means
  exact means.1

end TagMeaning

namespace Coverage

/-- Tags mean the same tactics under a larger catalog. -/
theorem tacticsOf_of_extends (extension : larger.Extends smaller) :
    tacticsOf smaller tags = tacticsOf larger tags :=
  List.filterMap_congr fun tag _ => (TagMeaning.ofTag_of_extends extension tag).1

/-- The techniques that tags mean are those of a larger catalog that are members. -/
theorem techniquesOf_of_extends (extension : larger.Extends smaller) :
    techniquesOf smaller tags = (techniquesOf larger tags).filter (· ∈ smaller.techniques) := by
  rw [techniquesOf, techniquesOf, List.filter_filterMap]
  exact List.filterMap_congr fun tag _ => (TagMeaning.ofTag_of_extends extension tag).2

/-- Tags come to the coverage that they come to under a larger catalog, without the techniques that
are no members. -/
theorem ofTags_of_extends (extension : larger.Extends smaller) (tags : List Text) :
    ∃ wider, (ofTags larger tags).result = .ok wider ∧ (ofTags smaller tags).result =
      .ok ⟨wider.tactics, wider.techniques.filter (· ∈ smaller.techniques)⟩ := by
  refine ⟨ofMembers (tacticsOf larger tags) (techniquesOf larger tags), ?_, ?_⟩
  · rw [ofTags_eq]
  · rw [ofTags_eq, tacticsOf_of_extends extension, techniquesOf_of_extends extension]
    simp only [ofMembers, eraseDups_filter]

end Coverage
end

/-! ## Sessions -/

namespace Session

/-- A session upholds what an earlier one says, if nothing that the earlier one recognizes is
anything else in it. -/
structure Upholds (later earlier : Session) : Prop where
  /-- What is read as a technique is read as the same technique. -/
  read : ∀ value technique, earlier.catalog.ofValue value = .ok technique →
    later.catalog.ofValue value = .ok technique
  field : ∀ value technique, (earlier.validateTechnique value).2 = .ok technique →
    (later.validateTechnique value).2 = .ok technique
  tag : ∀ tag technique, TagMeaning.Means earlier.catalog tag (.technique technique) →
    TagMeaning.Means later.catalog tag (.technique technique)
  /-- Tags come to the same tactics, and to the same techniques in the same order, with perhaps some
  techniques between them that the earlier session does not know. -/
  tags : ∀ tags, ∃ wider, (Coverage.ofTags later.catalog tags).result = .ok wider ∧
    (Coverage.ofTags earlier.catalog tags).result =
      .ok ⟨wider.tactics, wider.techniques.filter (· ∈ earlier.catalog.techniques)⟩
  /-- A technique is a member still, belongs to the same technique and has the same names. -/
  kept : ∀ technique ∈ earlier.catalog.techniques, technique ∈ later.catalog.techniques ∧
    later.catalog.parent technique = earlier.catalog.parent technique ∧
    later.catalog.fullName technique = earlier.catalog.fullName technique
  /-- Of the techniques that were known before, every family has those that it had. -/
  families : ∀ technique child, child ∈ earlier.catalog.children technique ↔
    child ∈ later.catalog.children technique ∧ child ∈ earlier.catalog.techniques
  /-- What was written as a document is validated as the coverage that was written. -/
  documents : ∀ coverage : Coverage, coverage.IsListedIn earlier.catalog →
    later.validateCoverageText coverage.jsonText = (later, .ok coverage) ∧
      later.validateCoverage (.ofJson coverage.toJson) = (later, .ok coverage)

/-- A session that has all rows of another and accepts low lines if the other does upholds what the
other says. -/
theorem upholds_of_extends {later earlier : Session}
    (extension : ∀ row ∈ earlier.catalog.table.techniques, row ∈ later.catalog.table.techniques)
    (alike : later.settings.map Settings.acceptLegacyTags =
      earlier.settings.map Settings.acceptLegacyTags) : later.Upholds earlier := by
  have extended : later.catalog.Extends earlier.catalog := extension
  exact {
    read := fun _ _ => extended.ofValue
    field := fun value technique passes => by
      rw [validateTechnique, Coverage.checkTechnique_of_alike alike]
      exact Coverage.checkTechnique_of_extends extended passes
    tag := fun _ _ => TagMeaning.means_of_extends extended
    tags := Coverage.ofTags_of_extends extended
    kept := fun _ member =>
      ⟨extended.mem member, extended.parent_eq member, extended.fullName_eq member⟩
    families := fun _ _ => extended.mem_children_iff
    documents := fun coverage listed => by
      have listedLater : coverage.IsListedIn later.catalog := fun technique member =>
        extended.mem (listed technique member)
      exact ⟨Coverage.validateCoverageText_jsonText listedLater,
        Coverage.validateCoverage_toJson listedLater⟩ }

/-- A sub-technique of a local site. -/
def siteProcedure : Technique :=
  ⟨.ofNumbers 1003 999, "Site Procedure"⟩

/-- The packaged table with a local row in front. -/
def siteTable : Table where
  domain := "enterprise-attack"
  version := none
  techniques := siteProcedure :: Table.packaged.techniques
  distinct := by
    rw [List.map_cons, List.nodup_cons]
    refine ⟨?_, Table.packaged.distinct⟩
    rw [List.mem_map]
    rintro ⟨technique, member, same⟩
    rw [← techniques_packagedCatalog] at member
    exact Coverage.packaged_lacks technique member same
  parented := by
    intro technique member parent isParent
    rw [List.map_cons]
    refine List.mem_cons_of_mem _ ?_
    rcases List.mem_cons.1 member with rfl | old
    · have listed := Coverage.isListedIn_repetitive ⟨.ofNumbers 1003 0, "OS Credential Dumping"⟩
        (by decide)
      rw [techniques_packagedCatalog] at listed
      rw [(TechniqueId.parentText?_ofNumbers isParent).2]
      exact List.mem_map_of_mem listed
    · exact Table.packaged.parented technique old parent isParent

/-- A session whose settings name a file with that table. -/
def site : Session where
  files := .empty
  environment := [("ATTACK_TAXONOMY_TECHNIQUES_FILE", "site.json")]
  kept := none
  catalog := .ofTable siteTable

/-- The local session upholds what the packaged one says, and has one technique more. -/
theorem upholds_of_extends_site :
    (∀ row ∈ (packaged .empty []).catalog.table.techniques, row ∈ site.catalog.table.techniques) ∧
      site.settings.map Settings.acceptLegacyTags =
        (packaged .empty []).settings.map Settings.acceptLegacyTags ∧
      siteProcedure ∈ site.catalog.techniques ∧
      siteProcedure ∉ (packaged .empty []).catalog.techniques ∧
      site.Upholds (packaged .empty []) := by
  have isSite : site.catalog = .ofTable siteTable := by rw [site]
  have siteRows : site.catalog.techniques = siteProcedure :: Table.packaged.techniques := by
    rw [isSite, Catalog.techniques_ofTable, siteTable]
  have packagedRows : (packaged .empty []).catalog.techniques = Table.packaged.techniques := by
    rw [catalog_packaged, techniques_packagedCatalog]
  have extension : ∀ row ∈ (packaged .empty []).catalog.table.techniques,
      row ∈ site.catalog.table.techniques := by
    rw [← Catalog.techniques_eq, ← Catalog.techniques_eq, siteRows, packagedRows]
    exact fun row member => List.mem_cons_of_mem _ member
  have alike : site.settings.map Settings.acceptLegacyTags =
      (packaged .empty []).settings.map Settings.acceptLegacyTags := rfl
  refine ⟨extension, alike, ?_, ?_, upholds_of_extends extension alike⟩
  · rw [siteRows]
    exact List.mem_cons_self
  · rw [catalog_packaged]
    exact fun member => Coverage.packaged_lacks siteProcedure member (by rw [siteProcedure])

end Session
end ThreatMatrix
