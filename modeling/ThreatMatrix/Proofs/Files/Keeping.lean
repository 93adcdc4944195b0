import ThreatMatrix.Proofs.Files.Writing

/-!
# What writing keeps

Making directories takes nothing away, also where it fails halfway. Writing a file changes what
stands at one place, so that every other file is read as before.
-/

namespace ThreatMatrix.Tree

/-- Whatever stands in a tree stands at the same place of another tree, and their working directory
is the same. -/
structure IsKept (before after : Tree) : Prop where
  home : after.home = before.home
  nodes : ∀ location node, before.node? location = some node → after.node? location = some node

/-- Whatever stands in a tree stands at the same place of another tree, with one place left out at
which no directory stands, and their working directory is the same. -/
structure IsKeptBut (before after : Tree) (place : Location) : Prop where
  home : after.home = before.home
  elsewhere : ∀ location node, location ≠ place → before.node? location = some node →
    after.node? location = some node
  noDirectory : before.node? place ≠ some .directory

variable {tree before after : Tree} {path : Path} {place : Location} {node : Node}

theorem IsKept.refl (tree : Tree) : tree.IsKept tree :=
  ⟨rfl, fun _ _ stands => stands⟩

theorem IsKept.trans {between : Tree} (first : before.IsKept between)
    (second : between.IsKept after) : before.IsKept after where
  home := second.home.trans first.home
  nodes location node stands := second.nodes location node (first.nodes location node stands)

/-- What is put where nothing stands takes nothing away. -/
theorem isKept_put (free : tree.node? place = none) : tree.IsKept (tree.put place node) := by
  refine ⟨rfl, fun location other stands => ?_⟩
  have apart : location ≠ place := by
    rintro rfl
    rw [free] at stands
    cases stands
  rw [node?_put (by simp [free]), if_neg apart, stands]

/-- Making a directory takes nothing away. -/
theorem isKept_of_makeDirectory {made : Tree} (makes : tree.makeDirectory path = .ok made) :
    tree.IsKept made := by
  obtain ⟨-, -, makes⟩ := report_eq_ok_iff.1 makes
  obtain ⟨place, -, makes⟩ := bind_eq_ok_iff.1 makes
  split at makes
  · cases makes
  · next free =>
    cases makes
    exact isKept_put free

theorem settle_fst (tree : Tree) (path : Path) (fault : FileFault) :
    (tree.settle path fault).1 = tree := by
  unfold settle
  split
  · rfl
  · rfl

/-- Making a directory and those above it takes nothing away, whether it succeeds or fails. -/
theorem isKept_ensureNames (slashes : Nat) (tree : Tree) (names : List Text) :
    tree.IsKept (ensureNames slashes tree names).1 := by
  induction names generalizing tree with
  | nil =>
    unfold ensureNames
    dsimp only
    split
    · next makes => exact isKept_of_makeDirectory makes
    · rw [settle_fst]
      exact .refl tree
  | cons name names inductionHypothesis =>
    unfold ensureNames
    dsimp only
    split
    · next makes => exact isKept_of_makeDirectory makes
    split
    · have above := inductionHypothesis tree
      split
      · next failed =>
        rwa [failed] at above
      · next made =>
        rw [made] at above
        split
        · next makes => exact above.trans (isKept_of_makeDirectory makes)
        split
        · exact above
        · rwa [settle_fst]
    · rw [settle_fst]
      exact .refl tree

theorem isKept_ensureDirectory (tree : Tree) (path : Path) :
    tree.IsKept (tree.ensureDirectory path).1 :=
  isKept_ensureNames path.slashes tree path.parts.reverse

/-- Writing a file keeps whatever stands elsewhere, and the path leads to the file afterwards. -/
theorem isKeptBut_of_writeText {text : Text} {written : Tree} (kept : before.IsKept tree)
    (wrote : tree.writeText path text = (written, .ok ())) :
    ∃ place, written.walk path = .ok place ∧ before.IsKeptBut written place := by
  obtain ⟨octets, -, writes⟩ := writeText_eq_ok_iff.1 wrote
  obtain ⟨-, -, place, walked, apart, rfl⟩ := write_eq_ok_iff.1 writes
  refine ⟨place, walk_put apart walked, kept.home, fun location node elsewhere stands => ?_,
    fun directory => apart (kept.nodes _ _ directory)⟩
  rw [node?_put apart, if_neg elsewhere, kept.nodes location node stands]

/-- A path leads where it led before. -/
theorem IsKeptBut.walk_eq (kept : before.IsKeptBut after place) {location : Location}
    (walked : before.walk path = .ok location) : after.walk path = .ok location :=
  walk_of_directories kept.home (fun location directory => kept.elsewhere location .directory
    (fun same => kept.noDirectory (same ▸ directory)) directory) walked

/-- A file that is kept is read as before. -/
theorem IsKeptBut.read_eq {octets : List Byte} (kept : before.IsKeptBut after place)
    (elsewhere : before.walk path ≠ .ok place) (isRead : before.read path = .ok octets) :
    after.read path = .ok octets := by
  obtain ⟨paired, noZero, found⟩ := report_eq_ok_iff.1 isRead
  obtain ⟨location, walked, found⟩ := bind_eq_ok_iff.1 found
  have apart : location ≠ place := fun same => elsewhere (same ▸ walked)
  obtain ⟨node, isNode, found⟩ := bind_eq_ok_iff.1 found
  have stands : before.node? location = some node := by
    unfold nodeAt at isNode
    split at isNode
    · next stands =>
      cases isNode
      exact stands
    · cases isNode
  have sameNode : after.nodeAt location = .ok node := by
    rw [nodeAt, kept.elsewhere location node apart stands]
  refine report_eq_ok_iff.2 ⟨paired, noZero, ?_⟩
  rw [kept.walk_eq walked, ok_bind, sameNode]
  exact found

end ThreatMatrix.Tree
