import ThreatMatrix.Proofs.Table.Loading

/-!
# Families

The sub-techniques of a catalog fall into families: each belongs to one technique of the catalog,
stands once in the family of that technique and in no other, and families stand in the order of
their numbers. Most of this holds for every catalog; the order of the numbers needs a table that was
loaded, because loading puts the rows in order.
-/

namespace ThreatMatrix.Catalog

variable {catalog : Catalog} {technique parent child : Technique}

/-- A technique that is no sub-technique belongs to none. -/
theorem parent_of_not_isSub (plain : technique.id.isSub = false) :
    catalog.parent technique = .ok none := by
  have noStem : technique.id.stem? = none := by simp [TechniqueId.stem?, plain]
  simp [Catalog.parent, Roster.parent, noStem]

/-- A sub-technique of a catalog belongs to a technique of the catalog. -/
theorem exists_parent (member : technique ∈ catalog.techniques) (isSub : technique.id.isSub = true) :
    ∃ parent ∈ catalog.techniques, catalog.parent technique = .ok (some parent) := by
  have isStem : technique.id.parentText? = some (technique.id.text.take 5) := by
    rw [TechniqueId.parentText?_eq_stem?]
    exact TechniqueId.stem?_eq_some_iff.2 ⟨isSub, rfl⟩
  rw [techniques_eq] at member
  have present := catalog.table.parented technique member _ isStem
  obtain ⟨parent, parentMember, isText⟩ := List.mem_map.1 present
  rw [← techniques_eq] at parentMember
  refine ⟨parent, parentMember, parent_eq_some_iff.2 ⟨parentMember, ?_⟩⟩
  rw [← TechniqueId.parentText?_eq_stem?, isStem, isText]

/-- The technique that a sub-technique belongs to is none itself, and has the same number. -/
theorem parent_form (belongs : catalog.parent child = .ok (some parent)) :
    parent.id.isSub = false ∧ parent.id.base = child.id.base := by
  have isStem := (parent_eq_some_iff.1 belongs).2
  exact ⟨TechniqueId.isSub_of_stem? isStem, TechniqueId.base_of_stem? isStem⟩

/-- A family consists of the members that belong to its technique. -/
theorem mem_children_iff (member : parent ∈ catalog.techniques) :
    child ∈ catalog.children parent ↔
      child ∈ catalog.techniques ∧ catalog.parent child = .ok (some parent) := by
  simp [children_eq_filter, parent_eq_some_iff, member]

/-- Only sub-techniques stand in families. -/
theorem isSub_of_mem_children (inFamily : child ∈ catalog.children parent) :
    child.id.isSub = true := by
  rw [children_eq_filter, List.mem_filter, decide_eq_true_eq] at inFamily
  rw [← TechniqueId.stem?_isSome, inFamily.2, Option.isSome_some]

/-- Sub-techniques have no family. -/
theorem children_of_isSub (isSub : technique.id.isSub = true) : catalog.children technique = [] := by
  rw [children_eq_filter, List.filter_eq_nil_iff]
  intro child _ belongs
  rw [decide_eq_true_eq] at belongs
  rw [TechniqueId.isSub_of_stem? belongs] at isSub
  cases isSub

/-- A family stands in the order of the catalog. -/
theorem children_sublist (catalog : Catalog) (technique : Technique) :
    (catalog.children technique).Sublist catalog.techniques := by
  rw [children_eq_filter]
  exact List.filter_sublist

/-- No technique occurs twice in a catalog. -/
theorem techniques_nodup (catalog : Catalog) : catalog.techniques.Nodup :=
  List.Pairwise.of_map (·.id) (fun _ _ apart same => apart (congrArg _ same)) catalog.distinct

/-- The families together hold every sub-technique of the catalog once. -/
theorem flatMap_children_perm (catalog : Catalog) :
    (catalog.techniques.flatMap catalog.children).Perm
      (catalog.techniques.filter (·.id.isSub)) := by
  have eachOnce : (catalog.techniques.flatMap catalog.children).Nodup := by
    rw [List.Nodup, List.pairwise_flatMap]
    refine ⟨fun technique _ => (catalog.children_sublist technique).nodup catalog.techniques_nodup, ?_⟩
    refine List.Pairwise.imp_of_mem ?_ catalog.techniques_nodup
    rintro left right leftMember rightMember apart child inLeft other inRight rfl
    have ofLeft := ((mem_children_iff leftMember).1 inLeft).2
    have ofRight := ((mem_children_iff rightMember).1 inRight).2
    rw [ofLeft] at ofRight
    cases ofRight
    exact apart rfl
  refine (List.perm_ext_iff_of_nodup eachOnce (catalog.techniques_nodup.filter _)).2 fun child => ?_
  rw [List.mem_flatMap, List.mem_filter]
  constructor
  · rintro ⟨technique, -, inFamily⟩
    exact ⟨(catalog.children_sublist technique).subset inFamily, isSub_of_mem_children inFamily⟩
  · rintro ⟨member, isSub⟩
    obtain ⟨parent, parentMember, belongs⟩ := exists_parent member isSub
    exact ⟨parent, parentMember, (mem_children_iff parentMember).2 ⟨member, belongs⟩⟩

/-- The sub-techniques of a family have numbers, and the numbers of a loaded table's families do not
fall. -/
theorem children_ordered
    (ordered : catalog.techniques.Pairwise fun left right => Table.precedes left right = true)
    (valued : ∀ technique ∈ catalog.techniques, technique.id.HasValues) (technique : Technique) :
    (catalog.children technique).Pairwise fun left right =>
      ∃ leftNumber rightNumber, left.id.sub? = some leftNumber ∧
        right.id.sub? = some rightNumber ∧ leftNumber ≤ rightNumber := by
  have inOrder := ordered.sublist (catalog.children_sublist technique)
  refine List.Pairwise.imp_of_mem ?_ inOrder
  intro left right inLeft inRight earlier
  have member := (catalog.children_sublist technique).subset
  obtain ⟨leftNumber, isLeft⟩ :=
    TechniqueId.sub?_of_isSub (isSub_of_mem_children inLeft) (valued left (member inLeft))
  obtain ⟨rightNumber, isRight⟩ :=
    TechniqueId.sub?_of_isSub (isSub_of_mem_children inRight) (valued right (member inRight))
  refine ⟨leftNumber, rightNumber, isLeft, isRight, ?_⟩
  rw [children_eq_filter, List.mem_filter, decide_eq_true_eq] at inLeft inRight
  have sameBase : left.id.base = right.id.base := by
    rw [← TechniqueId.base_of_stem? inLeft.2, TechniqueId.base_of_stem? inRight.2]
  rw [Table.precedes_iff, TechniqueId.key_eq, TechniqueId.key_eq, isLeft, isRight, sameBase] at earlier
  simpa using earlier

/-- A catalog is arranged in families if its sub-techniques are parted among its techniques, in
order. -/
structure IsArranged (catalog : Catalog) : Prop where
  /-- All numbers can be read. -/
  numbered : ∀ technique ∈ catalog.techniques, technique.id.readBase = .ok technique.id.base ∧
    technique.id.readSub = .ok technique.id.sub?
  /-- A technique that is no sub-technique belongs to none. -/
  alone : ∀ technique ∈ catalog.techniques, technique.id.isSub = false →
    catalog.parent technique = .ok none
  /-- A sub-technique belongs to a technique of its number, and stands once in its family and in no
  other. -/
  placed : ∀ technique ∈ catalog.techniques, technique.id.isSub = true →
    ∃ parent ∈ catalog.techniques, catalog.parent technique = .ok (some parent) ∧
      parent.id.isSub = false ∧ parent.id.base = technique.id.base ∧
      (catalog.children parent).count technique = 1 ∧
      ∀ other ∈ catalog.techniques, other ≠ parent → technique ∉ catalog.children other
  /-- Whatever stands in a family belongs to its technique. -/
  belonging : ∀ technique ∈ catalog.techniques, ∀ child ∈ catalog.children technique,
    catalog.parent child = .ok (some technique)
  /-- Sub-techniques have no family. -/
  childless : ∀ technique ∈ catalog.techniques, technique.id.isSub = true →
    catalog.children technique = []
  /-- A family stands in the order of the catalog. -/
  inOrder : ∀ technique ∈ catalog.techniques,
    (catalog.children technique).Sublist catalog.techniques
  /-- The sub-technique numbers of a family do not fall. -/
  byNumber : ∀ technique ∈ catalog.techniques,
    (catalog.children technique).Pairwise fun left right =>
      ∃ leftNumber rightNumber, left.id.sub? = some leftNumber ∧
        right.id.sub? = some rightNumber ∧ leftNumber ≤ rightNumber
  /-- The families part the sub-techniques among them. -/
  parted : (catalog.techniques.flatMap catalog.children).Perm
    (catalog.techniques.filter (·.id.isSub))

/-- The digits of the techniques of a loaded table have values. -/
theorem hasValues_loaded {room : Nat} {files : Tree} {path : Option Path} {required : Value}
    {table : Table} {catalog : Catalog}
    (loaded : (Table.load? room files path required).result = .ok table)
    (built : build table = .ok catalog) :
    ∀ technique ∈ catalog.techniques, technique.id.HasValues := by
  obtain ⟨rows, -, -, valued, rfl⟩ := Table.load?_eq_ok_iff.1 loaded
  rw [techniques_eq, table_of_build built]
  exact Table.hasValues_sorted.2 valued

/-- The catalog of a loaded table is arranged in families. -/
theorem isArranged_loaded {room : Nat} {files : Tree} {path : Option Path} {table : Table}
    {catalog : Catalog}
    (loaded : (Table.load? room files path Session.requiredIds).result = .ok table)
    (built : build table = .ok catalog) : catalog.IsArranged where
  numbered technique member :=
    have valued := hasValues_loaded loaded built technique member
    ⟨TechniqueId.readBase_of_hasValues valued, TechniqueId.readSub_of_hasValues valued⟩
  alone _ _ plain := parent_of_not_isSub plain
  placed technique member isSub := by
    obtain ⟨parent, parentMember, belongs⟩ := exists_parent member isSub
    obtain ⟨parentPlain, sameBase⟩ := parent_form belongs
    have inFamily := (mem_children_iff parentMember).2 ⟨member, belongs⟩
    have eachOnce := (catalog.children_sublist parent).nodup catalog.techniques_nodup
    refine ⟨parent, parentMember, belongs, parentPlain, sameBase, ?_, ?_⟩
    · rw [eachOnce.count, if_pos inFamily]
    · intro other otherMember apart inOther
      have ofOther := ((mem_children_iff otherMember).1 inOther).2
      rw [belongs] at ofOther
      cases ofOther
      exact apart rfl
  belonging _ member _ inFamily := ((mem_children_iff member).1 inFamily).2
  childless _ _ isSub := children_of_isSub isSub
  inOrder technique _ := catalog.children_sublist technique
  byNumber technique _ := by
    obtain ⟨rows, -, -, -, isSorted⟩ := Table.load?_eq_ok_iff.1 loaded
    refine children_ordered ?_ (hasValues_loaded loaded built) technique
    rw [techniques_eq, table_of_build built, ← isSorted]
    exact rows.pairwise_sorted
  parted := catalog.flatMap_children_perm

/-- The catalog of the packaged table is arranged in families. -/
theorem isArranged_packaged :
    (Table.load? 0 .empty none Session.requiredIds).result = .ok Table.packaged.sorted ∧
      ∃ catalog, build Table.packaged.sorted = .ok catalog ∧ catalog.IsArranged := by
  obtain ⟨catalog, built⟩ := exists_build Table.packaged.sorted
  have loaded := Table.load?_packaged 0 .empty
  exact ⟨loaded, catalog, built, isArranged_loaded loaded built⟩

end ThreatMatrix.Catalog
