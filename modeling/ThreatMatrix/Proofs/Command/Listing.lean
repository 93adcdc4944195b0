import Mathlib.Algebra.GroupWithZero.Nat
import ThreatMatrix.Proofs.Command.Families
import ThreatMatrix.Proofs.Text.Numerals

/-!
# Listed catalogs

The lists of techniques agree with each other. The whole catalog is listed with sub-techniques and
without them, in one order, and the number behind a technique is that of the rows in the list of its
family. Every sub-technique stands in one family, so the numbers together count the sub-techniques.
-/

namespace ThreatMatrix

/-! ## Counted rows -/

namespace Command

/-- Rows are shown in a table that counts them in its title, or a line says that there are none. -/
inductive ShowsRows (title : Text) : List (List Text) → Ending → Prop where
  | nothing : ShowsRows title [] (.success [.line "[yellow]No sub-techniques found[/yellow]"])
  | something {rows : List (List Text)} (something : rows ≠ []) : ShowsRows title rows
      (.success [.table (some (title ++ " (" ++ Text.decimal rows.length ++ ")"))
        ["ID", "Name", "Sub-techniques"] rows])

/-- The number in the third cell of a row; a blank cell stands for zero. -/
def countIn (row : List Text) : Nat :=
  (row[2]?.bind Text.number?).getD 0

/-- Techniques are listed in rows. -/
theorem showsRows_listed (catalog : Catalog) (title : Text) (techniques : List Technique) :
    ShowsRows title (techniques.map (techniqueRow catalog)) (listed catalog title techniques) := by
  by_cases nothing : techniques = []
  · rw [nothing, listed_nil]
    exact .nothing
  · have something : techniques.map (techniqueRow catalog) ≠ [] := fun noRows =>
      nothing (List.map_eq_nil_iff.1 noRows)
    rw [listed_of_ne_nil nothing, countedTitle, ← List.length_map (techniqueRow catalog)]
    exact .something something

/-- The number in the row of a technique is that of its children. -/
theorem countIn_techniqueRow (catalog : Catalog) (technique : Technique) :
    countIn (techniqueRow catalog technique) = (catalog.children technique).length := by
  have third : (techniqueRow catalog technique)[2]? =
      some (if (catalog.children technique).length = 0 then []
        else Text.decimal (catalog.children technique).length) := rfl
  rw [countIn, third, Option.bind_some]
  split
  · next none =>
    rw [none]
    rfl
  · rw [Text.number?_decimal, Option.getD_some]

end Command

/-! ## Families put together -/

namespace Catalog

/-- Techniques that are sub-techniques themselves add nothing to the families of a list. -/
theorem flatMap_children_filter (catalog : Catalog) (techniques : List Technique) :
    (techniques.filter fun technique => technique.id.isSub = false).flatMap catalog.children =
      techniques.flatMap catalog.children := by
  induction techniques with
  | nil => rfl
  | cons technique more inductionHypothesis =>
    rw [List.filter_cons, List.flatMap_cons, ← inductionHypothesis]
    cases isSub : technique.id.isSub with
    | true =>
      rw [children_of_isSub isSub, List.nil_append]
      rfl
    | false => rfl

/-- The families of the techniques that are no sub-techniques have as many members together as there
are sub-techniques. -/
theorem sum_length_children (catalog : Catalog) :
    ((catalog.select (some false)).map fun technique => (catalog.children technique).length).sum =
      (catalog.select (some true)).length := by
  calc ((catalog.select (some false)).map fun technique => (catalog.children technique).length).sum
      = ((catalog.select (some false)).flatMap catalog.children).length := List.length_flatMap.symm
    _ = (catalog.techniques.flatMap catalog.children).length := by
      rw [select, flatMap_children_filter]
    _ = (catalog.techniques.filter (·.id.isSub)).length := catalog.flatMap_children_perm.length_eq
    _ = (catalog.select (some true)).length := by simp [select]

/-- A catalog with any techniques has some that are no sub-techniques. -/
theorem select_ne_nil {catalog : Catalog} (something : catalog.techniques ≠ []) :
    catalog.select (some false) ≠ [] := by
  intro nothing
  have noBase := List.filter_eq_nil_iff.1 nothing
  obtain ⟨technique, member⟩ := List.exists_mem_of_ne_nil _ something
  cases isSub : technique.id.isSub with
  | false => exact noBase technique member (by simp [isSub])
  | true =>
    obtain ⟨parent, parentMember, belongs⟩ := exists_parent member isSub
    exact noBase parent parentMember (by simp [(parent_form belongs).1])

end Catalog

/-! ## Lists that agree -/

namespace Session

open Command (techniqueRow countIn ShowsRows)

/-- The list of techniques with some options ends with rows under a title. -/
def Lists (session : Session) (options : List Text) (title : Text) (rows : List (List Text)) : Prop :=
  ∃ ending, session.Ends ("catalog" :: "techniques" :: options) ending ∧ ShowsRows title rows ending

/-- The lists of techniques in a session are complete and agree with each other. -/
structure ListsConsistently (session : Session) : Prop where
  /-- With sub-techniques, every technique of the catalog has its row, in the order of the catalog.
  -/
  whole : session.Lists ["--subtechniques"] "ATT&CK Techniques"
    (session.catalog.techniques.map (techniqueRow session.catalog))
  base : session.Lists [] "ATT&CK Techniques"
    ((session.catalog.select (some false)).map (techniqueRow session.catalog))
  cells : ∀ technique, (techniqueRow session.catalog technique).take 2 =
    [technique.id.text, session.catalog.fullName technique]
  /-- No identifier stands in two rows. -/
  distinct : (session.catalog.techniques.map (·.id.text)).Nodup
  /-- Nothing is listed only where there is nothing. -/
  something : session.catalog.techniques ≠ [] → session.catalog.select (some false) ≠ []
  blank : ∀ technique ∈ session.catalog.select (some true),
    (techniqueRow session.catalog technique)[2]? = some []
  /-- The numbers in the rows without sub-techniques together are that of the other rows. -/
  total : (((session.catalog.select (some false)).map (techniqueRow session.catalog)).map
    countIn).sum = (session.catalog.select (some true)).length
  /-- The number in a row is that of the rows that are listed for its identifier. -/
  family : ∀ technique ∈ session.catalog.select (some false), ∃ title rows,
    session.Lists ["--parent", technique.id.text] title rows ∧
      countIn (techniqueRow session.catalog technique) = rows.length

variable {session : Session} {technique : Technique}

/-- All techniques are listed, or those that are no sub-techniques. -/
theorem lists_all (session : Session) :
    session.Lists ["--subtechniques"] "ATT&CK Techniques"
        (session.catalog.techniques.map (techniqueRow session.catalog)) ∧
      session.Lists [] "ATT&CK Techniques"
        ((session.catalog.select (some false)).map (techniqueRow session.catalog)) := by
  have all : session.catalog.techniques.filter (fun technique => true || !technique.id.isSub) =
      session.catalog.techniques := by simp
  have selected : session.catalog.techniques.filter (fun technique => false || !technique.id.isSub) =
      session.catalog.select (some false) :=
    List.filter_congr fun technique _ => by simp
  have asksAll : Invocation.ofArguments ["catalog", "techniques", "--subtechniques"] =
      .ok (.run (.listTechniques none true)) := rfl
  have asksBase : Invocation.ofArguments ["catalog", "techniques"] =
      .ok (.run (.listTechniques none false)) := rfl
  constructor
  · refine ⟨_, Command.ends_listTechniques asksAll, ?_⟩
    rw [Command.runListTechniques, all]
    · exact Command.showsRows_listed _ _ _
    · exact nofun
  · refine ⟨_, Command.ends_listTechniques asksBase, ?_⟩
    rw [Command.runListTechniques, selected]
    · exact Command.showsRows_listed _ _ _
    · exact nofun

/-- The children of a technique are listed for its identifier. -/
theorem lists_children (member : technique ∈ session.catalog.techniques)
    (plain : technique.id.isSub = false) :
    session.Lists ["--parent", technique.id.text]
      ("Sub-techniques of " ++ technique.id.text ++ " " ++ technique.name)
      ((session.catalog.children technique).map (techniqueRow session.catalog)) := by
  have isRead : session.catalog.parse? technique.id.text = some technique :=
    Catalog.parse?_eq_some_iff.2 ⟨member, rfl⟩
  have named : Command.runListTechniques session.catalog (some technique.id.text) false =
      Command.listChildren session.catalog technique.id.text := by
    obtain ⟨rest, isText, -⟩ := technique.id.text_eq_cons
    rw [isText]
    rfl
  have asks : Invocation.ofArguments ["catalog", "techniques", "--parent", technique.id.text] =
      .ok (.run (.listTechniques (some technique.id.text) false)) := rfl
  refine ⟨_, Command.ends_listTechniques asks, ?_⟩
  rw [named, Command.listChildren_of_plain isRead plain]
  exact Command.showsRows_listed _ _ _

/-- In every session the lists of techniques are complete and agree. -/
theorem listsConsistently (session : Session) : session.ListsConsistently where
  whole := session.lists_all.1
  base := session.lists_all.2
  cells _ := rfl
  distinct := nodup_of_ids session.catalog.distinct (·.text) TechniqueId.eq_of_text
  something := Catalog.select_ne_nil
  blank := by
    intro technique member
    have isSub : technique.id.isSub = true := of_decide_eq_true (List.mem_filter.1 member).2
    rw [techniqueRow, Catalog.children_of_isSub isSub]
    rfl
  total := by
    rw [List.map_map, ← session.catalog.sum_length_children]
    exact congrArg List.sum (List.map_congr_left fun technique _ =>
      Command.countIn_techniqueRow session.catalog technique)
  family := by
    intro technique member
    obtain ⟨isMember, plain⟩ := List.mem_filter.1 member
    refine ⟨_, _, lists_children isMember (of_decide_eq_true plain), ?_⟩
    rw [Command.countIn_techniqueRow, List.length_map]

end Session
end ThreatMatrix
