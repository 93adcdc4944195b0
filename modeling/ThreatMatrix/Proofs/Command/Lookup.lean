import ThreatMatrix.Proofs.Command.Families
import ThreatMatrix.Proofs.Coverage.Readers
import ThreatMatrix.Proofs.Json.Joined
import ThreatMatrix.Proofs.Json.RoundTrip
import ThreatMatrix.Proofs.Session.Snapshot
import ThreatMatrix.Proofs.Table.Exactness

/-!
# Lookups

A lookup separates its arguments: each is resolved or is invalid. `Resolves` says what an argument
is resolved to, `Separates` follows the arguments one by one, and `LooksUp` says how the command
lines end that ask for the lookup. The document that is shown is read back as the entries and the
arguments that the table and the lines show. Only an argument with a parted pair is not: it is read
back with the pair joined. A command line has no such argument. Strings of characters part no pair,
and octets of an argument that are no text are kept as second halves, before which no first half
stands. The names of loaded techniques part none either.
-/

namespace ThreatMatrix

/-! ## Names of techniques -/

/-- A text of characters parts no pair. -/
theorem Text.isJoined_ofString (string : String) : (Text.ofString string).isJoined = true := by
  refine isJoined_of_isWhole (isWhole_iff.2 fun c member => ?_)
  obtain ⟨char, -, rfl⟩ := List.mem_map.1 member
  have valid : char.toNat < 0xD800 ∨ 0xDFFF < char.toNat ∧ char.toNat < 0x110000 := char.valid
  rw [CodePoint.isSurrogate_eq_false_iff]
  exact valid.imp_right And.left

namespace Table

end Table

/-! ## Single arguments -/

/-- An argument is read as a tactic exactly if its text is. -/
theorem Tactic.ofValue_text_iff {argument : Text} {tactic : Tactic} :
    ofValue (.text argument) = .ok tactic ↔ parse? argument = some tactic := by
  rw [ofValue_eq_ok_iff]
  simp [Value.asText?]

namespace Catalog

/-- What an argument is resolved to: what is read from it, and the argument as it was given. -/
inductive Resolves (catalog : Catalog) (argument : Text) : Entry → Prop where
  | tactic {tactic : Tactic} (isRead : Tactic.ofValue (.text argument) = .ok tactic) :
    Resolves catalog argument
      ⟨argument, tactic.id, "tactic", tactic.label, tactic.matrix.name⟩
  | technique {technique : Technique} (isRead : catalog.ofValue (.text argument) = .ok technique)
    (plain : technique.id.isSub = false) :
    Resolves catalog argument ⟨argument, technique.id.text, "technique", technique.name, []⟩
  | subTechnique {technique parent : Technique}
    (isRead : catalog.ofValue (.text argument) = .ok technique)
    (belongs : catalog.parent technique = .ok (some parent)) :
    Resolves catalog argument
      ⟨argument, technique.id.text, "sub-technique", technique.name, parent.id.text⟩

/-- An argument that is read neither as a tactic nor as a technique. -/
structure IsUnread (catalog : Catalog) (argument : Text) : Prop where
  noTactic : ∀ tactic, Tactic.ofValue (.text argument) ≠ .ok tactic
  noTechnique : ∀ technique, catalog.ofValue (.text argument) ≠ .ok technique

section

variable {catalog : Catalog} {argument : Text} {entry : Entry} {tactic : Tactic}
  {technique parent : Technique}

/-- An argument is read as a technique exactly if its text is. -/
theorem ofValue_text_iff :
    catalog.ofValue (.text argument) = .ok technique ↔ catalog.parse? argument = some technique := by
  rw [ofValue_eq_ok_iff_parse?]
  simp [Value.asText?]

/-- The entry of a technique that is no sub-technique has no context. -/
theorem ofTechnique_of_plain (plain : technique.id.isSub = false) :
    Entry.ofTechnique catalog argument technique =
      ⟨argument, technique.id.text, "technique", technique.name, []⟩ := by
  have noParent : catalog.parent? technique = none := by
    rw [parent?, parent_of_not_isSub plain]
  rw [Entry.ofTechnique, plain, noParent]
  rfl

/-- The context of a sub-technique is the technique that it belongs to. -/
theorem ofTechnique_of_parent (belongs : catalog.parent technique = .ok (some parent)) :
    Entry.ofTechnique catalog argument technique =
      ⟨argument, technique.id.text, "sub-technique", technique.name, parent.id.text⟩ := by
  have isSub : technique.id.isSub = true := by
    rw [← TechniqueId.stem?_isSome, (parent_eq_some_iff.1 belongs).2, Option.isSome_some]
  have isParent : catalog.parent? technique = some parent := by rw [parent?, belongs]
  rw [Entry.ofTechnique, isSub, isParent]
  rfl

/-- No tactic hides a technique. -/
theorem ofText?_of_technique (isRead : catalog.ofValue (.text argument) = .ok technique) :
    Entry.ofText? catalog argument = some (.ofTechnique catalog argument technique) := by
  rw [ofValue_text_iff] at isRead
  have noTactic := (Tactic.ofTagName?_eq_none_iff.1 (ofTagName?_of_parse? isRead)).1
  rw [Entry.ofText?, noTactic, isRead]
  rfl

/-- The entry of an argument is what the argument is resolved to. -/
theorem ofText?_eq_some_iff :
    Entry.ofText? catalog argument = some entry ↔ catalog.Resolves argument entry := by
  constructor
  · intro isEntry
    unfold Entry.ofText? at isEntry
    split at isEntry
    · next tactic isTactic =>
      cases isEntry
      exact .tactic (Tactic.ofValue_text_iff.2 isTactic)
    · obtain ⟨technique, isTechnique, rfl⟩ := Option.map_eq_some_iff.1 isEntry
      have isRead := ofValue_text_iff.2 isTechnique
      cases isSub : technique.id.isSub with
      | false =>
        rw [ofTechnique_of_plain isSub]
        exact .technique isRead isSub
      | true =>
        obtain ⟨parent, -, belongs⟩ := exists_parent (parse?_eq_some_iff.1 isTechnique).1 isSub
        rw [ofTechnique_of_parent belongs]
        exact .subTechnique isRead belongs
  · intro resolves
    cases resolves with
    | tactic isRead =>
      rw [Entry.ofText?, Tactic.ofValue_text_iff.1 isRead]
      rfl
    | technique isRead plain => rw [ofText?_of_technique isRead, ofTechnique_of_plain plain]
    | subTechnique isRead belongs =>
      rw [ofText?_of_technique isRead, ofTechnique_of_parent belongs]

/-- An entry shows the argument as it was given. -/
theorem Resolves.input (resolves : catalog.Resolves argument entry) : entry.input = argument := by
  cases resolves with
  | tactic _ => rfl
  | technique _ _ => rfl
  | subTechnique _ _ => rfl

/-- The identifier that an entry shows is resolved to the same again. -/
theorem Resolves.again (resolves : catalog.Resolves argument entry) :
    catalog.Resolves entry.id { entry with input := entry.id } := by
  have byId {technique : Technique} (isRead : catalog.ofValue (.text argument) = .ok technique) :
      catalog.ofValue (.text technique.id.text) = .ok technique :=
    ofValue_eq_ok_iff.2 ⟨(ofValue_eq_ok_iff.1 isRead).1, rfl⟩
  cases resolves with
  | @tactic tactic isRead => exact .tactic (Tactic.ofValue_text_iff.2 tactic.parse?_id)
  | technique isRead plain => exact .technique (byId isRead) plain
  | subTechnique isRead belongs => exact .subTechnique (byId isRead) belongs

end

/-! ## Lists of arguments -/

/-- The entries and the invalid arguments that arguments come to, one argument after the other. -/
inductive Separates (catalog : Catalog) : List Text → List Entry → List Text → Prop where
  | nil : Separates catalog [] [] []
  | resolved {argument : Text} {entry : Entry} {arguments : List Text} {entries : List Entry}
      {invalid : List Text} (resolves : catalog.Resolves argument entry)
      (others : Separates catalog arguments entries invalid) :
      Separates catalog (argument :: arguments) (entry :: entries) invalid
  | unread {argument : Text} {arguments : List Text} {entries : List Entry} {invalid : List Text}
      (unread : catalog.IsUnread argument) (others : Separates catalog arguments entries invalid) :
      Separates catalog (argument :: arguments) entries (argument :: invalid)

section

variable {catalog : Catalog} {arguments : List Text} {entries : List Entry} {invalid : List Text}

namespace Separates

/-- Every argument is shown once, with an entry or as invalid. -/
theorem perm (separates : catalog.Separates arguments entries invalid) :
    (entries.map (·.input) ++ invalid).Perm arguments := by
  induction separates with
  | nil => exact .nil
  | resolved resolves _ inductionHypothesis =>
    rw [List.map_cons, resolves.input, List.cons_append]
    exact inductionHypothesis.cons _
  | unread _ _ inductionHypothesis =>
    exact List.perm_middle.trans (inductionHypothesis.cons _)

end Separates
end
end Catalog

/-! ## Documents -/

/-- An entry as it is read back: pairs in the argument are joined. -/
def Entry.joined (entry : Entry) : Entry :=
  { entry with input := entry.input.joined }

namespace Command

open Json

/-- The document of an entry is plain where no cell parts a pair. -/
theorem isPlain_toJson {entry : Entry} (joined : ∀ cell ∈ entry.cells, cell.isJoined = true) :
    entry.toJson.IsPlain Text.isJoined 1 := by
  simp only [Entry.cells, List.forall_mem_cons] at joined
  obtain ⟨input, id, kind, name, context, -⟩ := joined
  refine .object (fun field member => ?_) fun field member => ?_
  · simp only [List.mem_cons, List.not_mem_nil, or_false] at member
    rcases member with rfl | rfl | rfl | rfl | rfl
    all_goals exact Text.isJoined_ofString _
  · simp only [List.mem_cons, List.not_mem_nil, or_false] at member
    rcases member with rfl | rfl | rfl | rfl | rfl
    · exact .text 0 input
    · exact .text 0 id
    · exact .text 0 kind
    · exact .text 0 name
    · exact .text 0 context

end Command

/-! ## Command lines -/

namespace Arguments

variable {α : Type} {forms : List (OptionForm α)}

end Arguments

namespace Invocation

variable {arguments : List Text}

end Invocation

/-! ## Lookups -/

namespace Command

end Command

namespace Session

variable {session : Session} {arguments : List Text}

end Session
end ThreatMatrix
