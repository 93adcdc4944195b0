import Mathlib.Data.List.Induction
import Mathlib.Logic.Relation
import ThreatMatrix.Proofs.Text.Marks

/-!
# Respelled texts

A text is respelled by writing basic letters in the other case, hyphens for low lines and low lines
for hyphens, and by putting white space around it or taking it away. Every text has a level
spelling: small basic letters, hyphens only, and no white space around it. Two texts are respellings
of one another exactly if they have the same level spelling, so that it can be decided whether they
are.
-/

namespace ThreatMatrix

namespace CodePoint

/-- A basic letter in its small form, and a hyphen for a low line. -/
def level (c : CodePoint) : CodePoint :=
  if c = '_' then '-' else c.lowerBasic

/-- What is printed of the basic code points is no white space. -/
theorem isBlank_of_basic {c : CodePoint} (printed : 0x21 ≤ c.val) (basic : c.val < 0x80) :
    c.isBlank = false := by
  have apart : ∀ range ∈ blankRanges, range.2 < 0x21 ∨ 0x80 ≤ range.1 := by decide
  rw [isBlank, List.any_eq_false]
  intro range member blank
  rw [Bool.and_eq_true, decide_eq_true_eq, decide_eq_true_eq] at blank
  have outside := apart range member
  omega

/-- Only a low line and the capital letters are written otherwise in a level spelling. -/
theorem level_cases (c : CodePoint) :
    c = '_' ∧ c.level = '-' ∨
      (0x41 ≤ c.val ∧ c.val ≤ 0x5A) ∧ c.level = ofNat (c.val + 0x20) ∨ c.level = c := by
  unfold level
  split
  · next lowLine => exact .inl ⟨lowLine, rfl⟩
  · unfold lowerBasic
    split
    · next capital => exact .inr (.inl ⟨capital, rfl⟩)
    · exact .inr (.inr rfl)

/-- White space is white space in a level spelling, and nothing else is. -/
theorem isBlank_level (c : CodePoint) : c.level.isBlank = c.isBlank := by
  rcases c.level_cases with ⟨rfl, -⟩ | ⟨capital, isSmall⟩ | same
  · decide
  · have bounded : (ofNat (c.val + 0x20)).val = c.val + 0x20 := val_ofNat (by omega)
    rw [isSmall, isBlank_of_basic (by omega) (by omega), isBlank_of_basic (by omega) (by omega)]
  · rw [same]

/-- The point is the point in a level spelling, and nothing else is. -/
theorem level_eq_point_iff (c : CodePoint) : c.level = '.' ↔ c = '.' := by
  rcases c.level_cases with ⟨rfl, -⟩ | ⟨capital, isSmall⟩ | same
  · decide
  · have bounded : (ofNat (c.val + 0x20)).val = c.val + 0x20 := val_ofNat (by omega)
    have point : (('.' : Char) : CodePoint).val = 0x2E := rfl
    rw [isSmall]
    constructor
    · intro isPoint
      rw [isPoint] at bounded
      omega
    · rintro rfl
      omega
  · rw [same]

/-- A level spelling is level already. -/
theorem level_level (c : CodePoint) : c.level.level = c.level := by
  rcases c.level_cases with ⟨-, isHyphen⟩ | ⟨capital, isSmall⟩ | same
  · rw [isHyphen]
    decide
  · have bounded : (ofNat (c.val + 0x20)).val = c.val + 0x20 := val_ofNat (by omega)
    rw [isSmall]
    rcases (ofNat (c.val + 0x20)).level_cases with ⟨lowLine, -⟩ | ⟨other, -⟩ | same
    · have isLowLine : (('_' : Char) : CodePoint).val = 0x5F := rfl
      rw [lowLine] at bounded
      omega
    · omega
    · exact same
  · rw [same, same]

/-- The small form of a basic letter is its own small form. -/
theorem lower_lowerBasic (c : CodePoint) : c.lowerBasic.lower = c.lower := by
  by_cases capital : 0x41 ≤ c.val ∧ c.val ≤ 0x5A
  · have small : c.lowerBasic = ofNat (c.val + 0x20) := if_pos capital
    have bounded : (ofNat (c.val + 0x20)).val = c.val + 0x20 := val_ofNat (by omega)
    have again : (ofNat (c.val + 0x20)).lowerBasic = ofNat (c.val + 0x20) :=
      if_neg (by omega)
    have isLower : c.lower = [c.lowerBasic] := if_pos (by omega)
    have isLowerAgain : (ofNat (c.val + 0x20)).lower = [(ofNat (c.val + 0x20)).lowerBasic] :=
      if_pos (by omega)
    rw [isLower, small, isLowerAgain, again]
  · have kept : c.lowerBasic = c := if_neg capital
    rw [kept]

end CodePoint

/-! ## White space around items -/

section

variable {α : Type} {test : α → Bool} {items : List α} {item : α}

/-- Items that are exchanged for others keep their ends where the test cannot tell them apart. -/
theorem trimBoth_map {exchange : α → α} (same : ∀ item, test (exchange item) = test item)
    (items : List α) : trimBoth test (items.map exchange) = (trimBoth test items).map exchange := by
  have alike : test ∘ exchange = test := funext same
  rw [trimBoth, List.dropWhile_map, alike, ← List.map_reverse, List.dropWhile_map, alike,
    ← List.map_reverse, trimBoth]

/-- One more item to be dropped makes no difference in front. -/
theorem trimBoth_cons (dropped : test item = true) :
    trimBoth test (item :: items) = trimBoth test items := by
  rw [trimBoth, List.dropWhile_cons_of_pos dropped, trimBoth]

/-- One more item to be dropped makes no difference behind. -/
theorem trimBoth_concat (dropped : test item = true) :
    trimBoth test (items ++ [item]) = trimBoth test items := by
  rw [trimBoth, trimBoth, List.dropWhile_append]
  split
  · next nothing =>
    rw [List.isEmpty_iff.1 nothing, List.dropWhile_cons_of_pos dropped, List.dropWhile_nil,
      List.reverse_nil, List.dropWhile_nil]
  · rw [List.reverse_append, List.reverse_singleton, List.singleton_append,
      List.dropWhile_cons_of_pos dropped]

end

namespace Text

/-! ## Changes of spelling -/

/-- One change of spelling. -/
inductive RespellsOnce : Text → Text → Prop where
  /-- A capital letter is written small. -/
  | letter (before after : Text) {c : CodePoint} (capital : 0x41 ≤ c.val ∧ c.val ≤ 0x5A) :
      RespellsOnce (before ++ c :: after) (before ++ CodePoint.ofNat (c.val + 0x20) :: after)
  /-- A low line is written as a hyphen. -/
  | mark (before after : Text) :
      RespellsOnce (before ++ ('_' : CodePoint) :: after) (before ++ ('-' : CodePoint) :: after)
  /-- White space is put in front. -/
  | front (text : Text) {c : CodePoint} (blank : c.isBlank = true) : RespellsOnce text (c :: text)
  /-- White space is put behind. -/
  | behind (text : Text) {c : CodePoint} (blank : c.isBlank = true) : RespellsOnce text (text ++ [c])

/-- A text is a respelling of another if changes of spelling, made and undone, lead from the one to
the other. -/
def Respells : Text → Text → Prop :=
  Relation.EqvGen RespellsOnce

/-- The text in small basic letters, with hyphens for low lines, without white space around it. -/
def level (text : Text) : Text :=
  text.strip.map CodePoint.level

variable {left right text : Text}

theorem level_eq_strip_map (text : Text) : text.level = strip (text.map CodePoint.level) :=
  (trimBoth_map CodePoint.isBlank_level text).symm

/-- A change of spelling keeps the level spelling. -/
theorem level_of_respellsOnce (change : RespellsOnce left right) : left.level = right.level := by
  cases change with
  | @letter before after c capital =>
    have small : c.level = CodePoint.ofNat (c.val + 0x20) := by
      have noLowLine : c ≠ '_' := by
        rintro rfl
        exact absurd capital (by decide)
      rw [CodePoint.level, if_neg noLowLine, CodePoint.lowerBasic, if_pos capital]
    rw [← small, level_eq_strip_map, level_eq_strip_map, List.map_append, List.map_append,
      List.map_cons, List.map_cons, CodePoint.level_level]
  | mark before after =>
    have lowLine : CodePoint.level '_' = CodePoint.level '-' := by decide
    rw [level_eq_strip_map, level_eq_strip_map, List.map_append, List.map_append, List.map_cons,
      List.map_cons, lowLine]
  | front _ blank => rw [level, level, strip, strip, trimBoth_cons blank]
  | behind _ blank => rw [level, level, strip, strip, trimBoth_concat blank]

/-! ## The way to the level spelling -/

theorem Respells.refl (text : Text) : Respells text text :=
  Relation.EqvGen.refl text

theorem Respells.symm (respells : Respells left right) : Respells right left :=
  Relation.EqvGen.symm left right respells

theorem Respells.trans {middle : Text} (first : Respells left middle)
    (second : Respells middle right) : Respells left right :=
  Relation.EqvGen.trans left middle right first second

theorem RespellsOnce.respells (change : RespellsOnce left right) : Respells left right :=
  Relation.EqvGen.rel left right change

/-- White space in front can be taken away. -/
theorem respells_dropWhile (text : Text) : Respells text (text.dropWhile CodePoint.isBlank) := by
  induction text with
  | nil => exact .refl []
  | cons c more inductionHypothesis =>
    rw [List.dropWhile_cons]
    split
    · next blank => exact (RespellsOnce.front more blank).respells.symm.trans inductionHypothesis
    · exact .refl (c :: more)

/-- White space behind can be taken away. -/
theorem respells_dropWhile_reverse (text : Text) :
    Respells text (text.reverse.dropWhile CodePoint.isBlank).reverse := by
  induction text using List.reverseRecOn with
  | nil => exact .refl []
  | append_singleton more c inductionHypothesis =>
    rw [List.reverse_append, List.reverse_singleton, List.singleton_append, List.dropWhile_cons]
    split
    · next blank => exact (RespellsOnce.behind more blank).respells.symm.trans inductionHypothesis
    · rw [List.reverse_cons, List.reverse_reverse]
      exact .refl (more ++ [c])

/-- Behind a beginning that is level already the rest is levelled one code point after the other. -/
theorem respells_append_map_level (before text : Text) :
    Respells (before ++ text) (before ++ text.map CodePoint.level) := by
  induction text generalizing before with
  | nil => exact .refl _
  | cons c more inductionHypothesis =>
    have here : Respells (before ++ c :: more) (before ++ c.level :: more) := by
      rcases c.level_cases with ⟨rfl, isHyphen⟩ | ⟨capital, isSmall⟩ | same
      · rw [isHyphen]
        exact (RespellsOnce.mark before more).respells
      · rw [isSmall]
        exact (RespellsOnce.letter before more capital).respells
      · rw [same]
        exact .refl _
    have rest := inductionHypothesis (before ++ [c.level])
    rw [List.append_assoc, List.append_assoc] at rest
    exact here.trans rest

/-- Changes of spelling lead from every text to its level spelling. -/
theorem respells_level (text : Text) : Respells text text.level :=
  (respells_dropWhile text).trans
    ((respells_dropWhile_reverse _).trans (respells_append_map_level [] text.strip))

/-- Two texts are respellings of one another if they have the same level spelling. -/
theorem respells_iff : Respells left right ↔ left.level = right.level := by
  constructor
  · intro respells
    induction respells with
    | rel _ _ change => exact level_of_respellsOnce change
    | refl _ => rfl
    | symm _ _ _ inductionHypothesis => exact inductionHypothesis.symm
    | trans _ _ _ _ _ first second => exact first.trans second
  · intro same
    exact (respells_level left).trans (same ▸ (respells_level right).symm)

instance : Decidable (Respells left right) :=
  decidable_of_iff (left.level = right.level) respells_iff.symm

/-- Letter case, marks and white space around a text do not count, and white space inside it does.
-/
example : Respells "attack.command_and_control" " Attack.Command-And_Control\t" ∧
    ¬Respells "attack.ta0011" "attack. ta0011" := by
  decide

end Text
end ThreatMatrix
