import ThreatMatrix.Command.Run
import ThreatMatrix.Proofs.Catalog.Families
import ThreatMatrix.Proofs.Catalog.Vocabulary

/-!
# Listed families

The list of techniques can be narrowed to the family of one technique. `ListsFamily` says how a
command line that names a technique should end: with the family of what was named, or with a
failure. It does end so for every name but the empty one, which counts as none and lists all
techniques.
-/

namespace ThreatMatrix

namespace Session

/-- A command line ends in some way in a session, whatever room documents have, without a note and
without a change of files. -/
def Ends (session : Session) (line : List Text) (ending : Ending) : Prop :=
  ∀ room, (Invocation.ofArguments line).map (·.carryOut room session) =
    .ok (session.files, pure ending)

end Session

/-! ## Families -/

namespace Catalog

variable {catalog : Catalog} {technique child : Technique} {name : Text}

/-- A list holds the sub-techniques that belong to a technique, each once and in the order of the
catalog. -/
structure IsFamily (catalog : Catalog) (technique : Technique) (family : List Technique) : Prop where
  isChildren : catalog.children technique = family
  members : ∀ child, child ∈ family ↔
    child ∈ catalog.techniques ∧ catalog.parent child = .ok (some technique)
  distinct : family.Nodup
  ordered : family.Sublist catalog.techniques

/-- The children of a member are its family. -/
theorem isFamily_children (member : technique ∈ catalog.techniques) :
    catalog.IsFamily technique (catalog.children technique) where
  isChildren := rfl
  members _ := mem_children_iff member
  distinct := (catalog.children_sublist technique).nodup catalog.techniques_nodup
  ordered := catalog.children_sublist technique

/-- No technique is read from nothing. -/
theorem parse?_nil (catalog : Catalog) : catalog.parse? [] = none := by
  refine Option.eq_none_iff_forall_ne_some.2 fun technique isRead => ?_
  have spelled := (parse?_eq_some_iff.1 isRead).2
  rw [TechniqueId.lower_text] at spelled
  cases spelled

/-- A name is looked up as it was given. -/
theorem ofValue_of_parse? (isRead : catalog.parse? name = some technique) :
    catalog.ofValue (.text name) = .ok technique :=
  ofValue_eq_ok_iff_parse?.2 ⟨name, rfl, isRead⟩

/-- A name that is not read is the fault itself. -/
theorem ofValue_of_unread (unread : catalog.parse? name = none) :
    catalog.ofValue (.text name) = .error ⟨.technique, .text name⟩ := by
  refine ofValue_of_refused fun technique isRead => ?_
  obtain ⟨text, isText, isParsed⟩ := ofValue_eq_ok_iff_parse?.1 isRead
  cases isText
  rw [unread] at isParsed
  cases isParsed

end Catalog

/-! ## Lists of families -/

namespace Command

variable {catalog : Catalog} {technique child : Technique} {name : Text} {ending : Ending}

/-- How a list of the sub-techniques of a named technique ends. -/
inductive ListsFamily (catalog : Catalog) (name : Text) : Ending → Prop where
  /-- A name from which no technique is read is shown in one line of error. -/
  | unread (unread : catalog.parse? name = none) : ListsFamily catalog name
      (.failure [errorLine ("invalid technique identifier: " ++ Text.quoted name)])
  | ofSub {technique : Technique} (isRead : catalog.parse? name = some technique)
      (isSub : technique.id.isSub = true) : ListsFamily catalog name
      (.failure [errorLine (technique.id.text ++ " is already a sub-technique")])
  | childless {technique : Technique} (isRead : catalog.parse? name = some technique)
      (plain : technique.id.isSub = false) (isFamily : catalog.IsFamily technique []) :
      ListsFamily catalog name (.success [.line "[yellow]No sub-techniques found[/yellow]"])
  /-- Every sub-technique is shown in a row of its own, behind the name of the technique, and they
  are counted in the title. -/
  | family {technique : Technique} {family : List Technique}
      (isRead : catalog.parse? name = some technique) (plain : technique.id.isSub = false)
      (isFamily : catalog.IsFamily technique family) (something : family ≠ []) :
      ListsFamily catalog name (.success [.table
        (some ("Sub-techniques of " ++ technique.id.text ++ " " ++ technique.name ++ " (" ++
          Text.decimal family.length ++ ")"))
        ["ID", "Name", "Sub-techniques"]
        (family.map fun child => [child.id.text, technique.name ++ ": " ++ child.name, []])])

/-- A sub-technique is shown behind the name of its technique, and has no number. -/
theorem techniqueRow_of_parent (belongs : catalog.parent child = .ok (some technique)) :
    techniqueRow catalog child = [child.id.text, technique.name ++ ": " ++ child.name, []] := by
  have isSub : child.id.isSub = true := by
    rw [← TechniqueId.stem?_isSome, (Catalog.parent_eq_some_iff.1 belongs).2, Option.isSome_some]
  have isFullName : catalog.fullName child = technique.name ++ ": " ++ child.name := by
    rw [Catalog.fullName, Catalog.parent?, belongs]
  rw [techniqueRow, Catalog.children_of_isSub isSub, isFullName]
  rfl

/-- Nothing is listed in a line. -/
theorem listed_nil (title : Text) :
    listed catalog title [] = .success [.line "[yellow]No sub-techniques found[/yellow]"] :=
  rfl

/-- Techniques are listed in a table whose title counts them. -/
theorem listed_of_ne_nil {techniques : List Technique} (something : techniques ≠ []) (title : Text) :
    listed catalog title techniques =
      .success [.table (some (countedTitle title techniques.length)) techniqueColumns
        (techniques.map (techniqueRow catalog))] := by
  rw [listed, List.isEmpty_eq_false_iff.2 something, if_neg Bool.false_ne_true]

/-- A technique that is named in its own right has its children listed. -/
theorem listChildren_of_plain (isRead : catalog.parse? name = some technique)
    (plain : technique.id.isSub = false) : listChildren catalog name =
      listed catalog ("Sub-techniques of " ++ technique.id.text ++ " " ++ technique.name)
        (catalog.children technique) := by
  rw [listChildren, Catalog.ofValue_of_parse? isRead]
  exact if_neg (Bool.eq_false_iff.1 plain)

/-- What is listed for a name is what should be listed. -/
theorem ListsFamily.listChildren_eq (lists : ListsFamily catalog name ending) :
    listChildren catalog name = ending := by
  cases lists with
  | unread unread =>
    rw [listChildren, Catalog.ofValue_of_unread unread]
    rfl
  | ofSub isRead isSub =>
    rw [listChildren, Catalog.ofValue_of_parse? isRead]
    exact if_pos isSub
  | childless isRead plain isFamily =>
    rw [listChildren_of_plain isRead plain, isFamily.isChildren, listed_nil]
  | @family technique family isRead plain isFamily something =>
    have rows : family.map (techniqueRow catalog) =
        family.map fun child => [child.id.text, technique.name ++ ": " ++ child.name, []] :=
      List.map_congr_left fun child inFamily =>
        techniqueRow_of_parent ((isFamily.members child).1 inFamily).2
    rw [listChildren_of_plain isRead plain, isFamily.isChildren, listed_of_ne_nil something, rows]
    rfl

/-- For every name something should be listed. -/
theorem exists_listsFamily (catalog : Catalog) (name : Text) :
    ∃ ending, ListsFamily catalog name ending := by
  cases isRead : catalog.parse? name with
  | none => exact ⟨_, .unread isRead⟩
  | some technique =>
    cases isSub : technique.id.isSub with
    | true => exact ⟨_, .ofSub isRead isSub⟩
    | false =>
      have isFamily := Catalog.isFamily_children (Catalog.parse?_eq_some_iff.1 isRead).1
      by_cases nothing : catalog.children technique = []
      · rw [nothing] at isFamily
        exact ⟨_, .childless isRead isSub isFamily⟩
      · exact ⟨_, .family isRead isSub isFamily nothing⟩

/-- The sub-techniques of a named technique are listed as they should be, and there is one way
only. -/
theorem listsFamily_iff : ListsFamily catalog name ending ↔ listChildren catalog name = ending := by
  constructor
  · exact ListsFamily.listChildren_eq
  · rintro rfl
    obtain ⟨ending, lists⟩ := exists_listsFamily catalog name
    rwa [lists.listChildren_eq]

/-! ## Command lines -/

/-- The command lines that name a technique whose sub-techniques are wanted: without the other
option, and with that option behind or in front. -/
def familyLines (name : Text) : List (List Text) := [
  ["catalog", "techniques", "--parent", name],
  ["catalog", "techniques", "--parent", name, "--subtechniques"],
  ["catalog", "techniques", "--subtechniques", "--parent", name]]

/-- Every such command line asks for the sub-techniques of what it names, whatever the name looks
like. -/
theorem exists_asks {line : List Text} (asks : line ∈ familyLines name) : ∃ withSubs,
    Invocation.ofArguments line = .ok (.run (.listTechniques (some name) withSubs)) := by
  simp only [familyLines, List.mem_cons, List.not_mem_nil, or_false] at asks
  rcases asks with rfl | rfl | rfl
  · exact ⟨false, rfl⟩
  · exact ⟨true, rfl⟩
  · exact ⟨true, rfl⟩

/-- A list of techniques ends as it is computed. -/
theorem ends_listTechniques {session : Session} {line : List Text} {parent : Option Text}
    {withSubs : Bool}
    (asks : Invocation.ofArguments line = .ok (.run (.listTechniques parent withSubs))) :
    session.Ends line (runListTechniques session.catalog parent withSubs) := by
  intro room
  rw [asks]
  rfl

/-- A list of all techniques is a success. -/
theorem code_listed (title : Text) (techniques : List Technique) :
    (listed catalog title techniques).code = 0 := by
  unfold listed
  split
  · rfl
  · rfl

/-- No technique is read from the empty name, and yet there is no failure. -/
theorem not_listsFamily_nil (catalog : Catalog) (withSubs : Bool) :
    ¬ListsFamily catalog [] (runListTechniques catalog (some []) withSubs) := by
  intro lists
  have fails := (ListsFamily.unread catalog.parse?_nil).listChildren_eq
  have succeeds : (runListTechniques catalog (some []) withSubs).code = 0 := code_listed _ _
  rw [← lists.listChildren_eq, fails] at succeeds
  cases succeeds

/-- A command line that names a technique lists its family, or fails where the name is that of none
or of a sub-technique: in every session and for every name except the empty one, for which it does
neither. -/
theorem ends_listsFamily_iff {session : Session} {line : List Text} (asks : line ∈ familyLines name) :
    ∃ ending, session.Ends line ending ∧ (ListsFamily session.catalog name ending ↔ name ≠ []) := by
  obtain ⟨withSubs, isAsked⟩ := exists_asks asks
  refine ⟨_, ends_listTechniques isAsked, ?_⟩
  cases name with
  | nil =>
    have isNot := not_listsFamily_nil session.catalog withSubs
    exact iff_of_false isNot fun something => something rfl
  | cons first more =>
    exact iff_of_true (listsFamily_iff.2 rfl) (List.cons_ne_nil first more)

/-- The packaged catalog lists the family of a technique that is named in small letters. -/
theorem ends_listsFamily_iff_packaged :
    (["catalog", "techniques", "--parent", "t1003"] : List Text) ∈ familyLines "t1003" ∧
      (Session.packaged .empty []).catalog.parse? "t1003" =
        some ⟨.ofNumbers 1003 0, "OS Credential Dumping"⟩ ∧
      ∃ ending,
        (Session.packaged .empty []).Ends ["catalog", "techniques", "--parent", "t1003"] ending ∧
          ListsFamily (Session.packaged .empty []).catalog "t1003" ending := by
  have asks : (["catalog", "techniques", "--parent", "t1003"] : List Text) ∈ familyLines "t1003" :=
    List.mem_cons_self
  have isRead : Session.packagedCatalog.parse? "t1003" =
      some ⟨.ofNumbers 1003 0, "OS Credential Dumping"⟩ :=
    Catalog.parse?_eq_some_iff.2 ⟨Coverage.isListedIn_repetitive _ (by decide), by decide⟩
  obtain ⟨ending, ends, isListed⟩ := @ends_listsFamily_iff "t1003" (.packaged .empty []) _ asks
  rw [← Session.catalog_packaged .empty []] at isRead
  exact ⟨asks, isRead, ending, ends, isListed.2 (by decide)⟩

/-- An empty name is treated as none: all techniques are listed, where a failure should be told. -/
theorem not_listsFamily_nameless :
    Session.packagedCatalog.parse? "" = none ∧
      (Session.packaged .empty []).Ends ["catalog", "techniques", "--parent", ""]
        (runListTechniques Session.packagedCatalog none false) ∧
      (runListTechniques Session.packagedCatalog none false).code = 0 ∧
      ¬ListsFamily Session.packagedCatalog ""
        (runListTechniques Session.packagedCatalog none false) := by
  have ends := @ends_listTechniques (.packaged .empty []) ["catalog", "techniques", "--parent", ""]
    (some []) false rfl
  rw [Session.catalog_packaged] at ends
  exact ⟨Session.packagedCatalog.parse?_nil, ends, code_listed _ _,
    not_listsFamily_nil Session.packagedCatalog false⟩

end Command
end ThreatMatrix
