import ThreatMatrix.Proofs.Catalog.Families
import ThreatMatrix.Proofs.Catalog.Vocabulary

/-!
# Extended catalogs

A catalog extends another if its table has every row of the other's table and perhaps more. What it
reads, restricted to the rows of the other, is what the other reads: a row that was added has a
spelling of its own, so it hides none of the rows that were there. Nor does it part a sub-technique
from the technique that it belongs to.
-/

namespace ThreatMatrix.Catalog

/-- A catalog has the rows of another. -/
def Extends (larger smaller : Catalog) : Prop :=
  ∀ row ∈ smaller.table.techniques, row ∈ larger.table.techniques

section

variable {larger smaller : Catalog} {technique child : Technique} {value : Value}

/-- The members of a catalog are members of one that extends it. -/
theorem Extends.mem (extension : larger.Extends smaller) (member : technique ∈ smaller.techniques) :
    technique ∈ larger.techniques := by
  rw [techniques_eq] at member ⊢
  exact extension technique member

/-- A catalog reads a text as the member that a larger catalog reads, if that is a member of its
own. -/
theorem Extends.parse?_eq_filter (extension : larger.Extends smaller) (text : Text) :
    smaller.parse? text = (larger.parse? text).filter (· ∈ smaller.techniques) := by
  refine Option.ext fun technique => ?_
  rw [Option.filter_eq_some_iff, decide_eq_true_eq, parse?_eq_some_iff, parse?_eq_some_iff]
  constructor
  · rintro ⟨member, spelled⟩
    exact ⟨⟨extension.mem member, spelled⟩, member⟩
  · rintro ⟨⟨-, spelled⟩, member⟩
    exact ⟨member, spelled⟩

/-- What a catalog reads as a technique, a larger one reads as the same technique. -/
theorem Extends.ofValue (extension : larger.Extends smaller)
    (isRead : smaller.ofValue value = .ok technique) : larger.ofValue value = .ok technique := by
  obtain ⟨text, isText, isParsed⟩ := ofValue_eq_ok_iff_parse?.1 isRead
  rw [extension.parse?_eq_filter, Option.filter_eq_some_iff] at isParsed
  exact ofValue_eq_ok_iff_parse?.2 ⟨text, isText, isParsed.1⟩

/-- A member belongs to the same technique in a larger catalog. -/
theorem Extends.parent_eq (extension : larger.Extends smaller)
    (member : technique ∈ smaller.techniques) :
    larger.parent technique = smaller.parent technique := by
  cases isSub : technique.id.isSub with
  | false => rw [parent_of_not_isSub isSub, parent_of_not_isSub isSub]
  | true =>
    obtain ⟨parent, parentMember, belongs⟩ := exists_parent member isSub
    have isStem := (parent_eq_some_iff.1 belongs).2
    rw [belongs, parent_eq_some_iff]
    exact ⟨extension.mem parentMember, isStem⟩

/-- A member has the same full name in a larger catalog. -/
theorem Extends.fullName_eq (extension : larger.Extends smaller)
    (member : technique ∈ smaller.techniques) :
    larger.fullName technique = smaller.fullName technique := by
  rw [fullName, fullName, parent?, parent?, extension.parent_eq member]

/-- A family has the members of the catalog that it has in a larger one. -/
theorem Extends.mem_children_iff (extension : larger.Extends smaller) :
    child ∈ smaller.children technique ↔
      child ∈ larger.children technique ∧ child ∈ smaller.techniques := by
  rw [children_eq_filter, children_eq_filter, List.mem_filter, List.mem_filter]
  constructor
  · rintro ⟨member, isStem⟩
    exact ⟨⟨extension.mem member, isStem⟩, member⟩
  · rintro ⟨⟨-, isStem⟩, member⟩
    exact ⟨member, isStem⟩

end

end ThreatMatrix.Catalog
