import Mathlib.Data.List.Basic
import ThreatMatrix.Proofs.Catalog.Families

/-!
# The parts of an identifier

Tables part an identifier at its point and catalogs part it at fixed columns. The identifiers are the
texts that have parts, and each way of parting finds them, wherever it is used. The ways agree on
identifiers only: nothing but the form of an identifier puts the point behind the fifth column.

Both ways read the numerals that they find, and both read the same ones. They come to numbers
exactly if the digits of the identifier have values, which its form does not ask for.
-/

namespace ThreatMatrix

namespace Text

/-- The first piece of a text is what stands before its first separator. -/
theorem head?_pieces (separator : CodePoint) (text : Text) :
    (pieces separator text).head? = some (partition separator text).1 := by
  induction text with
  | nil => rfl
  | cons c rest inductionHypothesis =>
    rw [pieces]
    split
    · next isSeparator => simp [partition, isSeparator]
    · next noSeparator =>
      cases isPieces : pieces separator rest with
      | nil => simp [isPieces] at inductionHypothesis
      | cons piece more =>
        rw [isPieces, List.head?_cons, Option.some.injEq] at inductionHypothesis
        simp [partition, noSeparator, inductionHypothesis]

end Text

namespace TechniqueId

namespace HasParts

variable {text front : Text} {back : Option Text}

/-- What has the parts of an identifier has the form of one. -/
theorem wellFormed (parts : HasParts text front back) : isTechniqueId text = true := by
  cases parts with
  | technique numeral =>
    obtain ⟨long, digits⟩ := numeral
    obtain ⟨a, b, c, d, rfl⟩ := List.length_eq_four.1 long
    simpa [isTechniqueId, hasIdForm] using digits
  | subTechnique numeral backNumeral =>
    obtain ⟨long, digits⟩ := numeral
    obtain ⟨backLong, backDigits⟩ := backNumeral
    obtain ⟨a, b, c, d, rfl⟩ := List.length_eq_four.1 long
    obtain ⟨e, f, g, rfl⟩ := List.length_eq_three.1 backLong
    have both := And.intro digits backDigits
    simpa [isTechniqueId, hasIdForm, and_assoc] using both

/-- The first five columns have the parts of the technique itself. -/
theorem take_five (parts : HasParts text front back) : HasParts (text.take 5) front none := by
  cases parts with
  | technique numeral =>
    rw [List.take_of_length_le (by simp [numeral.1])]
    exact .technique numeral
  | @subTechnique _ more numeral _ =>
    have columns : (('T' : CodePoint) :: (front ++ ('.' : CodePoint) :: more)).take 5 =
        ('T' : CodePoint) :: front := by
      simp [numeral.1]
    rw [columns]
    exact .technique numeral

end HasParts

variable {id : TechniqueId}

/-- The identifiers are the texts that have parts. -/
theorem isTechniqueId_iff_hasParts {text : Text} :
    isTechniqueId text = true ↔ ∃ front back, HasParts text front back := by
  constructor
  · intro form
    exact exists_hasParts ⟨text, form⟩
  · rintro ⟨front, back, parts⟩
    exact parts.wellFormed

/-- In digits with values the identifiers with a point are those with a second number. -/
theorem isSub_eq_isSome (valued : id.HasValues) : id.isSub = id.sub?.isSome := by
  cases isSub : id.isSub with
  | false => simp [sub?, isSub]
  | true =>
    obtain ⟨number, isNumber⟩ := sub?_of_isSub isSub valued
    rw [isNumber, Option.isSome_some]

/-- What a sub-technique belongs to is the identifier of a technique, in which the same number is
read. -/
theorem exists_of_parentText? {parent : Text} (isParent : id.parentText? = some parent) :
    ∃ above : TechniqueId, above.text = parent ∧ above.isSub = false ∧
      above.readBase = id.readBase := by
  rw [parentText?_eq_stem?] at isParent
  have columns := (stem?_eq_some_iff.1 isParent).2
  obtain ⟨front, back, parts⟩ := exists_hasParts id
  have form : isTechniqueId parent = true := columns ▸ parts.take_five.wellFormed
  have partsAbove : HasParts parent front none := columns ▸ parts.take_five
  refine ⟨⟨parent, form⟩, rfl, isSub_of_stem? isParent, ?_⟩
  rw [parts.readBase_eq, @HasParts.readBase_eq ⟨parent, form⟩ front none partsAbove]

/-- What a sub-technique belongs to is written in digits of its own. -/
theorem hasValues_of_parentText? {above : TechniqueId} (valued : id.HasValues)
    (isParent : id.parentText? = some above.text) : above.HasValues := by
  rw [parentText?_eq_stem?] at isParent
  intro c member
  rw [← (stem?_eq_some_iff.1 isParent).2] at member
  exact valued c (List.mem_of_mem_take member)

end TechniqueId

/-! ## Members -/

namespace Catalog

/-- Every technique whose digits have values is a member of the catalog of some table that can be
put in order. -/
theorem exists_mem_techniques {technique : Technique} (valued : technique.id.HasValues) :
    ∃ table : Table, table.HasValues ∧ technique ∈ (ofTable table).techniques := by
  cases isParent : technique.id.parentText? with
  | none =>
    have distinct : ([technique].map (·.id)).Nodup := by simp
    refine ⟨⟨Table.defaultDomain, none, [technique], distinct, by simp [isParent]⟩, ?_, ?_⟩
    · exact List.forall_mem_singleton.2 valued
    · rw [techniques_ofTable]
      exact List.mem_singleton_self technique
  | some parent =>
    -- No table holds a sub-technique alone, so the technique above it gets a row.
    obtain ⟨above, rfl, plain, -⟩ := TechniqueId.exists_of_parentText? isParent
    have valuedAbove := TechniqueId.hasValues_of_parentText? valued isParent
    have noParent : above.parentText? = none := by simp [TechniqueId.parentText?, plain]
    have apart : above ≠ technique.id := by
      rintro rfl
      rw [noParent] at isParent
      cases isParent
    have distinct : ([⟨above, []⟩, technique].map Technique.id).Nodup := by simp [apart]
    refine ⟨⟨Table.defaultDomain, none, [⟨above, []⟩, technique], distinct,
      by simp [noParent, isParent]⟩, ?_, ?_⟩
    · exact List.forall_mem_cons.2 ⟨valuedAbove, List.forall_mem_singleton.2 valued⟩
    · rw [techniques_ofTable]
      exact List.mem_cons_of_mem _ (List.mem_singleton_self technique)

/-- A member belongs to the member whose identifier stands before its point, and to none if there is
no point. -/
theorem exists_parent_eq {catalog : Catalog} {technique : Technique}
    (member : technique ∈ catalog.techniques) :
    ∃ found, catalog.parent technique = .ok found ∧
      found.map (·.id.text) = technique.id.parentText? := by
  rw [TechniqueId.parentText?_eq_stem?]
  cases isSub : technique.id.isSub with
  | false => exact ⟨none, parent_of_not_isSub isSub, by simp [TechniqueId.stem?, isSub]⟩
  | true =>
    obtain ⟨parent, -, belongs⟩ := exists_parent member isSub
    exact ⟨some parent, belongs, (parent_eq_some_iff.1 belongs).2.symm⟩

end Catalog

/-! ## Agreement -/

namespace TechniqueId

/-- An identifier is parted alike if its point and its columns lead to the same parts, wherever one
of them is used. -/
structure IsPartedAlike (id : TechniqueId) : Prop where
  /-- The identifier consists of one numeral or two, and both ways read these: two if there is a
  point. At the point zero stands for a second one that is missing. -/
  parts : ∃ front back, HasParts id.text front back ∧ id.isSub = back.isSome ∧
    id.readBase = front.readNumber ∧ id.readSub = back.mapM Text.readNumber ∧
    id.numbers = (do
      let base ← front.readNumber
      let sub ← back.mapM Text.readNumber
      return (base, sub.getD 0))
  /-- The numbers that order tables are those in the columns, and zero without a second one; or both
  fail, at the same numeral. -/
  numbers : id.numbers = (do
    let base ← id.readBase
    let sub ← id.readSub
    return (base, sub.getD 0))
  /-- Every numeral beside the point is read exactly if the digits have values. -/
  atPoint : (∃ key, id.numbers = .ok key) ↔ id.HasValues
  /-- Every numeral in the columns is read exactly if the digits have values. -/
  inColumns : ((∃ base, id.readBase = .ok base) ∧ ∃ sub, id.readSub = .ok sub) ↔ id.HasValues
  /-- What is read then are the numbers of the identifier, two if there is a point. -/
  values : id.HasValues → id.readBase = .ok id.base ∧ id.readSub = .ok id.sub? ∧
    id.numbers = .ok (id.base, id.sub?.getD 0) ∧ id.isSub = id.sub?.isSome
  /-- What an identifier with a point belongs to is its first piece between points. -/
  firstPiece : id.parentText? = if id.isSub then (Text.pieces '.' id.text).head? else none
  /-- That piece fills the first five columns. -/
  firstColumns : id.parentText? = if id.isSub then some (id.text.take 5) else none
  /-- It is the identifier of a technique, in which the same number is read. -/
  above : ∀ parent, id.parentText? = some parent →
    ∃ above : TechniqueId, above.text = parent ∧ above.isSub = false ∧
      above.readBase = id.readBase
  /-- In every catalog the member with this identifier belongs to the member with that one, and to
  none if the identifier has no point. -/
  belonging : ∀ (catalog : Catalog), ∀ technique ∈ catalog.techniques, technique.id = id →
    ∃ found, catalog.parent technique = .ok found ∧
      found.map (·.id.text) = id.parentText?
  /-- There is such a catalog, of a table that can be put in order, if the digits have values. -/
  occurring : id.HasValues → ∃ table : Table, table.HasValues ∧
    ∃ technique ∈ (Catalog.ofTable table).techniques, technique.id = id
  /-- No other identifier has the same symbol. -/
  symbol : ∀ other : TechniqueId, other.symbol = id.symbol → other = id

/-- A text is an identifier exactly if it has parts, and an identifier is parted alike at its point
and at fixed columns. Its numbers can be read, both ways, exactly if its digits have values. -/
theorem isPartedAlike (text : Text) :
    (isTechniqueId text = true ↔ ∃ front back, HasParts text front back) ∧
      ∀ form : isTechniqueId text = true, IsPartedAlike ⟨text, form⟩ := by
  refine ⟨isTechniqueId_iff_hasParts, fun form => ?_⟩
  generalize (⟨text, form⟩ : TechniqueId) = id
  exact {
    parts := by
      obtain ⟨front, back, parts⟩ := exists_hasParts id
      exact ⟨front, back, parts, parts.contains_point, parts.readBase_eq, parts.readSub_eq,
        parts.numbers_eq⟩
    numbers := id.numbers_eq
    atPoint := exists_numbers_iff
    inColumns := exists_readBase_readSub_iff
    values := fun valued => ⟨readBase_of_hasValues valued, readSub_of_hasValues valued,
      numbers_eq_ok_iff.2 ⟨valued, id.key_eq.symm⟩, isSub_eq_isSome valued⟩
    firstPiece := by rw [Text.head?_pieces, parentText?]
    firstColumns := by rw [parentText?_eq_stem?, stem?]
    above := fun _ isParent => exists_of_parentText? isParent
    belonging := fun _ _ member same => same ▸ Catalog.exists_parent_eq member
    occurring := fun valued => by
      obtain ⟨table, canBeOrdered, member⟩ := @Catalog.exists_mem_techniques ⟨id, []⟩ valued
      exact ⟨table, canBeOrdered, _, member, rfl⟩
    symbol := fun _ same => symbol_injective same }

/-- The form of an identifier does not make its numbers readable: in the digits of a later run
neither way comes to a number. -/
theorem not_exists_numbers_later : isTechniqueId later.text = true ∧
    (¬∃ key, later.numbers = .ok key) ∧ ¬∃ base, later.readBase = .ok base := by
  have inColumns : later.readBase = .error (later.text.drop 1) := rfl
  refine ⟨later.wellFormed, ?_, ?_⟩
  · rintro ⟨key, isRead⟩
    rw [numbers_later] at isRead
    cases isRead
  · rintro ⟨base, isRead⟩
    rw [inColumns] at isRead
    cases isRead

/-- Digits of three scripts are read, in both ways. -/
example : ∃ id : TechniqueId, id.text = "T1\u0660\u09663.00\u0666" ∧ id.numbers = .ok (1003, 6) ∧
    id.readBase = .ok 1003 ∧ id.readSub = .ok (some 6) :=
  ⟨⟨"T1\u0660\u09663.00\u0666", by decide⟩, rfl, rfl, rfl, rfl⟩

end TechniqueId
end ThreatMatrix
