import ThreatMatrix.Steps
import ThreatMatrix.Technique.Id
import ThreatMatrix.Text.Lowercase

/-!
# The form of identifiers

What can be read off an identifier because it is well formed. `HasParts` names its parts without
looking for a point or counting columns; at its point and in fixed columns the same parts are found.
Neither its symbol nor its small spelling is shared with another identifier. All of this holds for
the digits of every script. Its numbers can be read exactly if its digits have values.
-/

namespace ThreatMatrix

theorem caseRuns_isFreeOfDigits :
    (caseRuns.all fun run => CodePoint.isFreeOfDigits run.first run.last) = true := by
  decide +kernel

/-- A digit is its own small form. -/
theorem CodePoint.lower_of_isDigit {c : CodePoint} (digit : c.isDigit = true) : c.lower = [c] := by
  unfold CodePoint.lower
  split
  · have noCapital := @not_isDigit_of_range 0x41 0x5A (by decide) c digit
    rw [lowerBasic, if_neg noCapital]
  · have noDottedCapital := @not_isDigit_of_range 0x130 0x130 (by decide) c digit
    rw [if_neg (by omega)]
    have uncovered : caseRuns.find? (·.covers c.val) = none := by
      rw [List.find?_eq_none]
      intro run member covered
      have free := List.all_eq_true.1 caseRuns_isFreeOfDigits run member
      simp only [CaseRun.covers, Bool.and_eq_true, decide_eq_true_eq] at covered
      exact not_isDigit_of_range free digit covered.1
    rw [uncovered]

namespace Text

/-- A text whose code points are their own small forms is its own small form. -/
theorem lower_of_fixed {text : Text} (fixed : ∀ c ∈ text, c.lower = [c]) : text.lower = text := by
  induction text with
  | nil => rfl
  | cons c more inductionHypothesis =>
    have rest := inductionHypothesis fun other member => fixed other (List.mem_cons_of_mem c member)
    rw [lower, List.flatMap_cons, fixed c List.mem_cons_self]
    exact congrArg _ rest

/-- The point is no digit. -/
theorem IsNumeral.point_not_mem {count : Nat} {text : Text} (numeral : IsNumeral count text) :
    ('.' : CodePoint) ∉ text := fun member =>
  CodePoint.ne_of_isDigit (numeral.2 _ member) (by decide) rfl

/-- A numeral is read exactly if its digits have values. -/
theorem IsNumeral.exists_readNumber_iff {count : Nat} {text : Text}
    (numeral : IsNumeral (count + 1) text) :
    (∃ n, readNumber text = .ok n) ↔ ∀ c ∈ text, c.isDigit = true → c.hasValue = true := by
  simp only [readNumber_eq_ok_iff, ← Option.isSome_iff_exists, number?_isSome_iff]
  constructor
  · exact fun valued c member _ => valued.2 c member
  · exact fun valued => ⟨List.ne_nil_of_length_eq_add_one numeral.1,
      fun c member => valued c member (numeral.2 c member)⟩

/-- A text with a point in it is parted at its first point. -/
theorem partition_append {separator : CodePoint} {before : Text} (apart : separator ∉ before)
    (after : Text) : partition separator (before ++ separator :: after) = (before, after) := by
  have passed : ∀ c ∈ before, (c != separator) = true := fun c member => by
    simpa using fun same : c = separator => apart (same ▸ member)
  simp [partition, List.takeWhile_append_of_pos passed, List.dropWhile_append_of_pos passed]

/-- A text without the separator is parted behind its end. -/
theorem partition_of_not_mem {separator : CodePoint} {text : Text} (apart : separator ∉ text) :
    partition separator text = (text, []) := by
  have passed : ∀ c ∈ text, (c != separator) = true := fun c member => by
    simpa using fun same : c = separator => apart (same ▸ member)
  have whole : text.takeWhile (· != separator) = text := by
    simpa using @List.takeWhile_append_of_pos _ _ text [] passed
  have nothing : text.dropWhile (· != separator) = [] := by
    simpa using @List.dropWhile_append_of_pos _ _ text [] passed
  rw [partition, whole, nothing, List.tail_nil]

end Text

namespace TechniqueId

/-! ## The parts -/

/-- A text consists of the letter and a numeral of four digits, and perhaps of the point and a
numeral of three. -/
inductive HasParts : Text → Text → Option Text → Prop
  | technique {front : Text} (numeral : Text.IsNumeral 4 front) :
      HasParts (('T' : CodePoint) :: front) front none
  | subTechnique {front back : Text} (numeral : Text.IsNumeral 4 front)
      (backNumeral : Text.IsNumeral 3 back) :
      HasParts (('T' : CodePoint) :: (front ++ ('.' : CodePoint) :: back)) front (some back)

namespace HasParts

variable {text front : Text} {back : Option Text}

/-- The first numeral fills the second to fifth column. -/
theorem columns_front (parts : HasParts text front back) : (text.drop 1).take 4 = front := by
  cases parts with
  | technique numeral => exact List.take_of_length_le (Nat.le_of_eq numeral.1)
  | subTechnique numeral _ => exact List.take_left' numeral.1

/-- A second numeral fills the columns from the seventh on. -/
theorem columns_back {more : Text} (parts : HasParts text front (some more)) :
    text.drop 6 = more := by
  cases parts with
  | subTechnique numeral _ => simp [List.drop_append, numeral.1]

/-- The point occurs exactly before a second numeral. -/
theorem contains_point (parts : HasParts text front back) : text.contains '.' = back.isSome := by
  have letter : ('.' : CodePoint) ≠ 'T' := by decide
  cases parts with
  | technique numeral => simp [letter, numeral.point_not_mem]
  | subTechnique _ _ => simp

/-- The numerals stand on the two sides of the point. -/
theorem partition_eq (parts : HasParts text front back) :
    Text.partition '.' (text.drop 1) = (front, back.getD []) := by
  cases parts with
  | technique numeral => exact Text.partition_of_not_mem numeral.point_not_mem
  | @subTechnique _ more numeral _ => exact Text.partition_append numeral.point_not_mem more

/-- A second numeral is not empty. -/
theorem back_ne_nil (parts : HasParts text front back) : back ≠ some [] := by
  rintro rfl
  cases parts with
  | subTechnique _ backNumeral => exact absurd backNumeral.1 (by decide)

/-- The digits of a text have values exactly if its numerals can be read. -/
theorem forall_hasValue_iff (parts : HasParts text front back) :
    (∀ c ∈ text, c.isDigit = true → c.hasValue = true) ↔
      (∃ n, front.readNumber = .ok n) ∧ ∃ n, back.mapM Text.readNumber = .ok n := by
  have letter : CodePoint.isDigit 'T' = false := by decide
  have point : CodePoint.isDigit '.' = false := by decide
  cases parts with
  | technique numeral =>
    rw [List.forall_mem_cons, numeral.exists_readNumber_iff]
    simp [letter]
  | @subTechnique _ more numeral backNumeral =>
    have back : (∃ n, (some more).mapM Text.readNumber = .ok n) ↔
        ∃ n, more.readNumber = .ok n := by
      simp only [Option.mapM_some, map_eq_ok_iff]
      rw [exists_comm]
      simp
    rw [List.forall_mem_cons, List.forall_mem_append, List.forall_mem_cons, back,
      numeral.exists_readNumber_iff, backNumeral.exists_readNumber_iff]
    simp [letter, point]

end HasParts

/-- An identifier has parts. -/
theorem exists_hasParts (id : TechniqueId) : ∃ front back, HasParts id.text front back := by
  obtain ⟨text, wellFormed⟩ := id
  unfold isTechniqueId hasIdForm at wellFormed
  split at wellFormed
  · next letter a b c d =>
    simp only [Bool.and_eq_true, beq_iff_eq, List.all_eq_true] at wellFormed
    obtain ⟨rfl, digits⟩ := wellFormed
    exact ⟨[a, b, c, d], none, .technique ⟨rfl, digits⟩⟩
  · next letter a b c d point e f g =>
    simp only [Bool.and_eq_true, beq_iff_eq, List.all_eq_true] at wellFormed
    obtain ⟨⟨⟨rfl, digits⟩, rfl⟩, backDigits⟩ := wellFormed
    exact ⟨[a, b, c, d], some [e, f, g], .subTechnique ⟨rfl, digits⟩ ⟨rfl, backDigits⟩⟩
  · cases wellFormed

/-- An identifier is determined by its text. -/
theorem eq_of_text {left right : TechniqueId} (texts : left.text = right.text) : left = right := by
  cases left
  cases right
  cases texts
  rfl

/-- The identifier that a text is has that text. -/
theorem ofText?_eq_some_iff {id : TechniqueId} {text : Text} :
    ofText? text = some id ↔ text = id.text := by
  unfold ofText?
  constructor
  · intro isId
    split at isId
    · cases isId
      rfl
    · cases isId
  · rintro rfl
    exact dif_pos id.wellFormed

/-- What has the form of an identifier in digits with values is an identifier whose digits have
values. -/
theorem hasIdForm_hasValue_iff {text : Text} : hasIdForm CodePoint.hasValue text = true ↔
    ∃ id : TechniqueId, id.text = text ∧ id.HasValues := by
  have noDigit : CodePoint.isDigit 'T' = false ∧ CodePoint.isDigit '.' = false := by decide
  have narrow : hasIdForm CodePoint.hasValue text = true ↔ isTechniqueId text = true ∧
      ∀ c ∈ text, c.isDigit = true → c.hasValue = true := by
    unfold isTechniqueId hasIdForm
    split
    · simp only [Bool.and_eq_true, beq_iff_eq, List.all_eq_true, List.forall_mem_cons]
      grind [CodePoint.isDigit_of_hasValue]
    · simp only [Bool.and_eq_true, beq_iff_eq, List.all_eq_true, List.forall_mem_cons]
      grind [CodePoint.isDigit_of_hasValue]
    · simp
  rw [narrow]
  constructor
  · rintro ⟨form, valued⟩
    exact ⟨⟨text, form⟩, rfl, valued⟩
  · rintro ⟨id, rfl, valued⟩
    exact ⟨id.wellFormed, valued⟩

private theorem letter_ne_point : ('T' : CodePoint) ≠ '.' := by decide

/-- The identifier of a technique itself is the letter and four digits. -/
theorem text_of_not_isSub {id : TechniqueId} (plain : id.isSub = false) :
    ∃ base, Text.IsNumeral 4 base ∧ id.text = ('T' : CodePoint) :: base := by
  obtain ⟨front, back, parts⟩ := exists_hasParts id
  rw [isSub, parts.contains_point] at plain
  generalize id.text = text at parts
  cases parts with
  | technique numeral => exact ⟨front, numeral, rfl⟩
  | subTechnique _ _ => cases plain

/-- The identifier of a sub-technique is the letter, four digits, the point and three digits. -/
theorem text_of_isSub {id : TechniqueId} (isSub : id.isSub = true) :
    ∃ base sub, Text.IsNumeral 4 base ∧ Text.IsNumeral 3 sub ∧
      id.text = ('T' : CodePoint) :: (base ++ ('.' : CodePoint) :: sub) := by
  obtain ⟨front, back, parts⟩ := exists_hasParts id
  rw [TechniqueId.isSub, parts.contains_point] at isSub
  generalize id.text = text at parts
  cases parts with
  | technique _ => cases isSub
  | @subTechnique _ more numeral backNumeral => exact ⟨front, more, numeral, backNumeral, rfl⟩

/-- Behind the letter of an identifier stand digits and points only. -/
theorem text_eq_cons (id : TechniqueId) :
    ∃ rest, id.text = ('T' : CodePoint) :: rest ∧ ∀ c ∈ rest, c = '.' ∨ c.isDigit = true := by
  obtain ⟨front, back, parts⟩ := exists_hasParts id
  generalize id.text = text at parts
  cases parts with
  | technique numeral => exact ⟨_, rfl, fun c member => .inr (numeral.2 c member)⟩
  | subTechnique numeral backNumeral =>
    refine ⟨_, rfl, fun c member => ?_⟩
    rcases List.mem_append.1 member with inFront | behind
    · exact .inr (numeral.2 c inFront)
    · rcases List.mem_cons.1 behind with isPoint | inBack
      · exact .inl isPoint
      · exact .inr (backNumeral.2 c inBack)

/-! ## The parent -/

/-- What stands before the point are the first five columns. -/
theorem parentText?_eq_stem? (id : TechniqueId) : id.parentText? = id.stem? := by
  cases isSub : id.isSub with
  | false => simp [parentText?, stem?, isSub]
  | true =>
    obtain ⟨base, sub, numeral, -, isText⟩ := text_of_isSub isSub
    have noPoint : ('.' : CodePoint) ∉ ('T' : CodePoint) :: base := by
      simp [letter_ne_point.symm, numeral.point_not_mem]
    have columns : (('T' : CodePoint) :: (base ++ ('.' : CodePoint) :: sub)).take 5 =
        ('T' : CodePoint) :: base := by
      simp [numeral.1]
    simp only [parentText?, stem?, isSub, if_true, isText, columns, Option.some.injEq]
    rw [← List.cons_append, Text.partition_append noPoint]

/-- A sub-technique belongs to what its first five columns say. -/
theorem stem?_eq_some_iff {id : TechniqueId} {text : Text} :
    id.stem? = some text ↔ id.isSub = true ∧ id.text.take 5 = text := by
  cases isSub : id.isSub with
  | false => simp [stem?, isSub]
  | true => simp [stem?, isSub]

/-- The identifier that a sub-technique belongs to is no sub-technique. -/
theorem isSub_of_stem? {id parent : TechniqueId} (isStem : id.stem? = some parent.text) :
    parent.isSub = false := by
  obtain ⟨isSub, columns⟩ := stem?_eq_some_iff.1 isStem
  obtain ⟨base, sub, numeral, -, isText⟩ := text_of_isSub isSub
  have isPlain : parent.text = ('T' : CodePoint) :: base := by
    simpa [isText, List.take_append, numeral.1] using columns.symm
  simp [TechniqueId.isSub, isPlain, letter_ne_point.symm, numeral.point_not_mem]

/-- A sub-technique has the number of the technique that it belongs to. -/
theorem base_of_stem? {id parent : TechniqueId} (isStem : id.stem? = some parent.text) :
    parent.base = id.base := by
  have columns := (stem?_eq_some_iff.1 isStem).2
  simp [base, ← columns, List.drop_take, List.take_take]

/-- Only a sub-technique belongs to a technique. -/
theorem stem?_isSome {id : TechniqueId} : id.stem?.isSome = id.isSub := by
  cases isSub : id.isSub with
  | false => simp [stem?, isSub]
  | true => simp [stem?, isSub]

/-! ## The numbers -/

namespace HasParts

variable {id : TechniqueId} {front : Text} {back : Option Text}

/-- In the columns the numerals are read. -/
theorem readBase_eq (parts : HasParts id.text front back) : id.readBase = front.readNumber :=
  congrArg Text.readNumber parts.columns_front

theorem readSub_eq (parts : HasParts id.text front back) :
    id.readSub = back.mapM Text.readNumber := by
  rw [readSub, isSub, parts.contains_point]
  cases back with
  | none => rfl
  | some more =>
    rw [Option.isSome_some, if_pos rfl, parts.columns_back]
    rfl

/-- At the point the same numerals are read, and zero where there is no second one. -/
theorem numbers_eq (parts : HasParts id.text front back) : id.numbers = (do
    let base ← front.readNumber
    let sub ← back.mapM Text.readNumber
    return (base, sub.getD 0)) := by
  have something := parts.back_ne_nil
  simp only [numbers, parts.partition_eq]
  refine congrArg _ (funext fun base => ?_)
  cases back with
  | none => rfl
  | some more =>
    have nonempty : more ≠ [] := fun nothing => something (congrArg some nothing)
    rw [Option.getD_some, Text.readNumberOrZero, if_neg nonempty, Option.mapM_some,
      map_eq_pure_bind, bind_assoc]
    rfl

/-- The numbers of an identifier are those of its numerals. -/
theorem base_eq (parts : HasParts id.text front back) :
    id.base = (Text.number? front).getD 0 := by
  rw [base, parts.columns_front]

theorem sub?_eq (parts : HasParts id.text front back) : id.sub? = back.bind Text.number? := by
  rw [sub?, isSub, parts.contains_point]
  cases back with
  | none => rfl
  | some more => rw [Option.isSome_some, if_pos rfl, parts.columns_back, Option.bind_some]

end HasParts

/-- The numbers beside the point of an identifier are those in its columns. Where there is no
sub-technique number the second is zero, and a numeral that denotes no number is the same one. -/
theorem numbers_eq (id : TechniqueId) : id.numbers = (do
    let base ← id.readBase
    let sub ← id.readSub
    return (base, sub.getD 0)) := by
  obtain ⟨front, back, parts⟩ := exists_hasParts id
  rw [parts.numbers_eq, parts.readBase_eq, parts.readSub_eq]

/-- The numbers in the columns can be read exactly if the digits of the identifier have values. -/
theorem exists_readBase_readSub_iff {id : TechniqueId} :
    ((∃ base, id.readBase = .ok base) ∧ ∃ sub, id.readSub = .ok sub) ↔ id.HasValues := by
  obtain ⟨front, back, parts⟩ := exists_hasParts id
  rw [parts.readBase_eq, parts.readSub_eq]
  exact parts.forall_hasValue_iff.symm

/-- The digits of an identifier have values exactly if its numbers can be read. -/
theorem exists_numbers_iff {id : TechniqueId} :
    (∃ key, id.numbers = .ok key) ↔ id.HasValues := by
  rw [← exists_readBase_readSub_iff, numbers_eq]
  cases id.readBase with
  | error numeral => simp
  | ok base =>
    cases id.readSub with
    | error numeral => simp
    | ok sub => simp

/-- A sub-technique whose digits have values has a sub-technique number. -/
theorem sub?_of_isSub {id : TechniqueId} (isSub : id.isSub = true) (valued : id.HasValues) :
    ∃ n, id.sub? = some n := by
  obtain ⟨front, back, parts⟩ := exists_hasParts id
  obtain ⟨-, number, isNumber⟩ := parts.forall_hasValue_iff.1 valued
  rw [TechniqueId.isSub, parts.contains_point] at isSub
  cases back with
  | none => cases isSub
  | some more =>
    obtain ⟨n, denoted, -⟩ := map_eq_ok_iff.1 isNumber
    exact ⟨n, parts.sub?_eq.trans (Text.readNumber_eq_ok_iff.1 denoted)⟩

/-- The numbers read at the point are those read at the columns. -/
theorem key_eq (id : TechniqueId) : id.key = (id.base, id.sub?.getD 0) := by
  obtain ⟨front, back, parts⟩ := exists_hasParts id
  rw [key, parts.partition_eq, parts.base_eq, parts.sub?_eq]
  cases back <;> rfl

/-- The numbers that are read are those by which identifiers are ordered. -/
theorem numbers_eq_ok_iff {id : TechniqueId} {key : Nat × Nat} :
    id.numbers = .ok key ↔ id.HasValues ∧ key = id.key := by
  have isKey : ∀ read, id.numbers = .ok read → read = id.key := by
    intro read isRead
    simp only [numbers, bind_eq_ok_iff, Text.readNumber_eq_ok_iff, pure_eq_ok, Except.ok.injEq]
      at isRead
    obtain ⟨base, isBase, sub, isSub, rfl⟩ := isRead
    simp only [TechniqueId.key, isBase, Option.getD_some, Prod.mk.injEq, true_and]
    unfold Text.readNumberOrZero at isSub
    split at isSub
    · next nothing =>
      cases isSub
      rw [nothing]
      rfl
    · rw [Text.readNumber_eq_ok_iff.1 isSub, Option.getD_some]
  constructor
  · exact fun isRead => ⟨exists_numbers_iff.1 ⟨key, isRead⟩, isKey key isRead⟩
  · rintro ⟨valued, rfl⟩
    obtain ⟨read, isRead⟩ := exists_numbers_iff.2 valued
    rw [isRead, isKey read isRead]

/-- A technique number that is read is the one by which identifiers are compared. -/
theorem readBase_of_hasValues {id : TechniqueId} (valued : id.HasValues) :
    id.readBase = .ok id.base := by
  obtain ⟨⟨n, isBase⟩, -⟩ := exists_readBase_readSub_iff.2 valued
  rw [isBase, base, Text.readNumber_eq_ok_iff.1 isBase, Option.getD_some]

/-- A sub-technique number that is read is the one by which identifiers are compared. -/
theorem readSub_of_hasValues {id : TechniqueId} (valued : id.HasValues) :
    id.readSub = .ok id.sub? := by
  cases isSub : id.isSub with
  | false => simp [readSub, sub?, isSub]
  | true =>
    obtain ⟨n, isNumber⟩ := sub?_of_isSub isSub valued
    have denoted := isNumber
    rw [sub?, if_pos isSub] at denoted
    rw [readSub, if_pos isSub, Text.readNumber_eq_ok_iff.2 denoted, isNumber]
    rfl

/-- An identifier in the digits of a later run. -/
def later : TechniqueId where
  text := ('T' : CodePoint) :: [0x11F50, 0x11F50, 0x11F50, 0x11F51].map CodePoint.ofNat
  wellFormed := by decide

/-- Its numeral denotes no number. -/
theorem numbers_later : later.numbers = .error (later.text.drop 1) := rfl

/-! ## The spellings -/

/-- Nothing but the letter, the point and digits occurs in an identifier. -/
theorem not_mem_text (id : TechniqueId) {mark : CodePoint} (letter : mark ≠ 'T')
    (point : mark ≠ '.') (free : CodePoint.isFreeOfDigits mark.val mark.val = true) :
    mark ∉ id.text := by
  obtain ⟨rest, isText, marks⟩ := id.text_eq_cons
  rw [isText, List.mem_cons, not_or]
  refine ⟨letter, fun behind => ?_⟩
  rcases marks mark behind with isPoint | digit
  · exact point isPoint
  · exact CodePoint.ne_of_isDigit digit free rfl

/-- No low line occurs in an identifier. -/
theorem lowLine_not_mem (id : TechniqueId) : ('_' : CodePoint) ∉ id.text :=
  id.not_mem_text (by decide) (by decide) (by decide)

/-! ## Lines -/

/-- No line end occurs in an identifier. -/
theorem lineEnd_not_mem (id : TechniqueId) : ('\n' : CodePoint) ∉ id.text :=
  id.not_mem_text (by decide) (by decide) (by decide)

/-- The line that holds an identifier and its line end. -/
def line (id : TechniqueId) : Text :=
  id.text ++ ("\n" : Text)

/-- The line of an identifier is none itself. -/
theorem isTechniqueId_line (id : TechniqueId) : isTechniqueId id.line = false := by
  rw [← Bool.not_eq_true]
  intro wellFormed
  exact lineEnd_not_mem ⟨id.line, wellFormed⟩ (List.mem_append_right id.text List.mem_cons_self)

/-- A line that holds an identifier is that identifier, with or without a line end, and its digits
have values. -/
theorem isTechniqueIdLine_iff {text : Text} : isTechniqueIdLine text = true ↔
    ∃ id : TechniqueId, id.HasValues ∧ (text = id.text ∨ text = id.line) := by
  rw [isTechniqueIdLine, Bool.or_eq_true, Bool.and_eq_true, beq_iff_eq, hasIdForm_hasValue_iff,
    hasIdForm_hasValue_iff]
  constructor
  · rintro (⟨id, rfl, valued⟩ | ⟨ended, id, isText, valued⟩)
    · exact ⟨id, valued, .inl rfl⟩
    · obtain ⟨before, rfl⟩ := List.getLast?_eq_some_iff.1 ended
      rw [List.dropLast_concat] at isText
      exact ⟨id, valued, .inr (by rw [line, isText]; rfl)⟩
  · rintro ⟨id, valued, rfl | rfl⟩
    · exact .inl ⟨id, rfl, valued⟩
    · have kept : id.line.dropLast = id.text := List.dropLast_concat
      exact .inr ⟨List.getLast?_concat, id, kept.symm, valued⟩

/-- An identifier is a line that holds one exactly if its digits have values. -/
theorem isTechniqueIdLine_text {id : TechniqueId} :
    isTechniqueIdLine id.text = true ↔ id.HasValues := by
  rw [isTechniqueIdLine_iff]
  constructor
  · rintro ⟨other, valued, isText | isLine⟩
    · rwa [eq_of_text isText]
    · have ended : ('\n' : CodePoint) ∈ id.text := by
        rw [isLine]
        exact List.mem_append_right other.text List.mem_cons_self
      exact absurd ended id.lineEnd_not_mem
  · exact fun valued => ⟨id, valued, .inl rfl⟩

/-! ## Symbols and letter case -/

/-- The point of a symbol can be put back. -/
theorem exchange_symbol (id : TechniqueId) : id.symbol.exchange '_' '.' = id.text := by
  unfold symbol Text.exchange
  rw [List.map_map]
  refine (List.map_congr_left fun c member => ?_).trans (List.map_id _)
  have noLowLine : c ≠ '_' := fun same => id.lowLine_not_mem (same ▸ member)
  by_cases isPoint : c = '.'
  · simp [isPoint]
  · simp [isPoint, noLowLine]

/-- Different identifiers have different symbols. -/
theorem symbol_injective {left right : TechniqueId} (same : left.symbol = right.symbol) :
    left = right :=
  eq_of_text (by rw [← exchange_symbol left, same, exchange_symbol right])

/-- Behind the letter of an identifier every code point is its own small form. -/
theorem lower_of_mem_tail (id : TechniqueId) {c : CodePoint} (member : c ∈ id.text.tail) :
    c.lower = [c] := by
  obtain ⟨rest, isText, marks⟩ := id.text_eq_cons
  rw [isText, List.tail_cons] at member
  rcases marks c member with rfl | digit
  · decide
  · exact CodePoint.lower_of_isDigit digit

/-- The small spelling of an identifier differs from it in the letter only. -/
theorem lower_text (id : TechniqueId) : id.text.lower = ('t' : CodePoint) :: id.text.tail := by
  obtain ⟨rest, isText, -⟩ := id.text_eq_cons
  have kept := Text.lower_of_fixed fun c => id.lower_of_mem_tail (c := c)
  have letter : CodePoint.lower 'T' = [('t' : CodePoint)] := by decide
  rw [isText, List.tail_cons] at kept
  rw [isText, List.tail_cons, Text.lower, List.flatMap_cons, letter]
  exact congrArg _ kept

/-- The small spelling of an identifier is its own small spelling. -/
theorem lower_lower_text (id : TechniqueId) : id.text.lower.lower = id.text.lower := by
  refine Text.lower_of_fixed fun c member => ?_
  rw [lower_text] at member
  rcases List.mem_cons.1 member with rfl | behind
  · decide
  · exact id.lower_of_mem_tail behind

/-- Different identifiers differ in more than letter case. -/
theorem lower_injective {left right : TechniqueId} (same : left.text.lower = right.text.lower) :
    left = right := by
  obtain ⟨leftRest, leftText, -⟩ := left.text_eq_cons
  obtain ⟨rightRest, rightText, -⟩ := right.text_eq_cons
  rw [lower_text, lower_text] at same
  have rests : leftRest = rightRest := by
    simpa [leftText, rightText] using (List.cons.inj same).2
  exact eq_of_text (by rw [leftText, rightText, rests])

end TechniqueId
end ThreatMatrix
