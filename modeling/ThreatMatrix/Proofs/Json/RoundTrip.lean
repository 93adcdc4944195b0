import ThreatMatrix.Proofs.Json.Numbers
import ThreatMatrix.Proofs.Json.Strings
import ThreatMatrix.Steps

/-!
# Documents read back

A document whose numbers are integers is read back as it was written. A layout may put white space
behind its commas and colons and around the items, and the reader passes over it. The reader's
bounds are met: the fuel of a container because every item is written with at least one code point,
the greatest depth and the greatest number of digits because the document keeps to them.
-/

namespace ThreatMatrix.Json

/-- A layout whose commas and colons are followed by nothing but white space. -/
structure Layout.IsSpaced (layout : Layout) : Prop where
  comma : ∃ blank, layout.comma = (',' : CodePoint) :: blank ∧ blank.all isSpace = true
  colon : ∃ blank, layout.colon = (':' : CodePoint) :: blank ∧ blank.all isSpace = true

theorem Layout.isSpaced_compact : Layout.compact.IsSpaced :=
  ⟨⟨[], by decide, by decide⟩, ⟨[], by decide, by decide⟩⟩

theorem Layout.isSpaced_lines : Layout.lines.IsSpaced :=
  ⟨⟨[], by decide, by decide⟩, ⟨[' '], by decide, by decide⟩⟩

/-- A document whose numbers are short integers, whose containers are nested to a depth at most and
whose texts pass a test. -/
inductive IsPlain (admits : Text → Bool) : Nat → Json → Prop where
  | null (depth : Nat) : IsPlain admits depth .null
  | bool (depth : Nat) (value : Bool) : IsPlain admits depth (.bool value)
  | int (depth : Nat) {value : Int} (short : IsShort value) : IsPlain admits depth (.int value)
  | text (depth : Nat) {value : Text} (admitted : admits value = true) :
    IsPlain admits depth (.text value)
  | array {depth : Nat} {items : List Json} (plain : ∀ item ∈ items, IsPlain admits depth item) :
    IsPlain admits (depth + 1) (.array items)
  | object {depth : Nat} {fields : List (Text × Json)}
    (named : ∀ field ∈ fields, admits field.1 = true)
    (plain : ∀ field ∈ fields, IsPlain admits depth field.2) :
    IsPlain admits (depth + 1) (.object fields)

/-- A weaker test and a greater depth leave a document plain. -/
theorem IsPlain.weaken {admits weaker : Text → Bool} (weakens : ∀ text, admits text → weaker text)
    {depth deeper : Nat} {document : Json} (plain : IsPlain admits depth document)
    (within : depth ≤ deeper) : IsPlain weaker deeper document := by
  induction plain generalizing deeper with
  | null _ => exact .null deeper
  | bool _ value => exact .bool deeper value
  | int _ short => exact .int deeper short
  | text _ admitted => exact .text deeper (weakens _ admitted)
  | array _ inductionHypothesis =>
    obtain ⟨deeper, rfl⟩ := Nat.exists_eq_add_one_of_ne_zero (Nat.ne_zero_of_lt within)
    exact .array fun item member => inductionHypothesis item member (Nat.le_of_succ_le_succ within)
  | object named _ inductionHypothesis =>
    obtain ⟨deeper, rfl⟩ := Nat.exists_eq_add_one_of_ne_zero (Nat.ne_zero_of_lt within)
    exact .object (fun field member => weakens _ (named field member))
      fun field member => inductionHypothesis field member (Nat.le_of_succ_le_succ within)

/-- White space in front of something else is skipped. -/
theorem skipSpace_append {blank : Text} (spaces : ∀ c ∈ blank, isSpace c = true) {c : CodePoint}
    (solid : isSpace c = false) (rest : Text) : skipSpace (blank ++ c :: rest) = c :: rest := by
  rw [skipSpace, List.dropWhile_append_of_pos spaces, List.dropWhile_cons_of_neg (by simp [solid])]

/-- Nothing is skipped where no white space stands in front. -/
theorem skipSpace_cons {c : CodePoint} (solid : isSpace c = false) (rest : Text) :
    skipSpace (c :: rest) = c :: rest :=
  List.dropWhile_cons_of_neg (by simp [solid])

/-- White space alone is skipped to the end. -/
theorem skipSpace_eq_nil {blank : Text} (spaces : ∀ c ∈ blank, isSpace c = true) :
    skipSpace blank = [] := by
  rw [skipSpace, ← List.append_nil blank, List.dropWhile_append_of_pos spaces, List.dropWhile_nil]

/-- Items are set apart by line feeds and spaces. -/
theorem mem_lineBreak {layout : Layout} {level : Nat} {c : CodePoint}
    (member : c ∈ layout.lineBreak level) : c = '\n' ∨ c = ' ' := by
  unfold Layout.lineBreak at member
  split at member
  · cases member
  · rcases List.mem_cons.1 member with rfl | member
    · exact .inl rfl
    · exact .inr (List.eq_of_mem_replicate member)

/-- Items are set apart by white space. -/
theorem isSpace_of_mem_lineBreak {layout : Layout} {level : Nat} {c : CodePoint}
    (member : c ∈ layout.lineBreak level) : isSpace c = true := by
  rcases mem_lineBreak member with rfl | rfl
  · decide
  · decide

/-- A written string begins with a quote. -/
theorem quote_eq_cons (escaped : Bool) (text : Text) :
    ∃ more, quote escaped text = ('"' : CodePoint) :: more :=
  ⟨_, rfl⟩

/-- What is written for a document begins neither with white space nor with a closing bracket, and
not with the mark that some put in front of texts. -/
theorem printAt_eq_cons {admits : Text → Bool} {depth : Nat} {document : Json}
    (plain : IsPlain admits depth document) (layout : Layout) (level : Nat) :
    ∃ c more, document.printAt layout level = c :: more ∧ isSpace c = false ∧ c ≠ ']' ∧
      c ≠ '\uFEFF' := by
  cases plain with
  | null => exact ⟨'n', _, rfl, by decide, by decide, by decide⟩
  | bool _ value =>
    cases value with
    | false => exact ⟨'f', _, rfl, by decide, by decide, by decide⟩
    | true => exact ⟨'t', _, rfl, by decide, by decide, by decide⟩
  | @int _ value =>
    obtain ⟨first, more, numeral, isText | isText⟩ := integer_eq_cons value
    · refine ⟨first, more, isText, ?_, ne_of_isNumeral numeral (by decide),
        ne_of_isNumeral numeral (by decide)⟩
      exact isSpace_of_isNumeral numeral
    · exact ⟨'-', _, isText, by decide, by decide, by decide⟩
  | text => exact ⟨'"', _, rfl, by decide, by decide, by decide⟩
  | @array _ items =>
    cases items with
    | nil => exact ⟨'[', _, rfl, by decide, by decide, by decide⟩
    | cons first more => exact ⟨'[', _, rfl, by decide, by decide, by decide⟩
  | @object _ fields =>
    cases fields with
    | nil => exact ⟨'{', _, rfl, by decide, by decide, by decide⟩
    | cons first more => exact ⟨'{', _, rfl, by decide, by decide, by decide⟩

/-- What follows the first items of a container, read from white space on, goes on with a comma or
ends with the closing mark. -/
theorem skipSpace_lineBreak (layout : Layout) (level : Nat) {c : CodePoint}
    (solid : isSpace c = false) (rest : Text) :
    skipSpace (layout.lineBreak level ++ c :: rest) = c :: rest :=
  skipSpace_append (fun _ member => isSpace_of_mem_lineBreak member) solid rest

/-- What follows a number in a container does not continue it. -/
theorem isApart_lineBreak (layout : Layout) (level : Nat) {c : CodePoint}
    (noNumeral : isNumeral c = false) (noMark : c ≠ '.' ∧ c ≠ 'e' ∧ c ≠ 'E') (rest : Text) :
    IsApart (layout.lineBreak level ++ c :: rest) := by
  cases isBreak : layout.lineBreak level with
  | nil => exact isApart_cons noNumeral noMark rest
  | cons first more =>
    rw [List.cons_append]
    exact isApart_of_isSpace (isSpace_of_mem_lineBreak (isBreak ▸ List.mem_cons_self)) _

/-- Items behind the first are written one like the other. -/
theorem printItems_eq_flatMap (layout : Layout) (level : Nat) (items : List Json) :
    printItems layout level items = items.flatMap fun item =>
      layout.comma ++ layout.lineBreak level ++ item.printAt layout level := by
  induction items with
  | nil => rfl
  | cons first more inductionHypothesis =>
    rw [printItems, inductionHypothesis, List.flatMap_cons]

/-- Fields behind the first are written one like the other. -/
theorem printFields_eq_flatMap (layout : Layout) (level : Nat) (fields : List (Text × Json)) :
    printFields layout level fields = fields.flatMap fun field =>
      layout.comma ++ layout.lineBreak level ++ quote layout.escaped field.1 ++ layout.colon ++
        field.2.printAt layout level := by
  induction fields with
  | nil => rfl
  | cons first more inductionHypothesis =>
    rw [printFields, inductionHypothesis, List.flatMap_cons]

private theorem length_le_flatMap {α β : Type} {write : α → List β}
    (solid : ∀ item, write item ≠ []) (items : List α) :
    items.length ≤ (items.flatMap write).length := by
  induction items with
  | nil => exact Nat.le_refl 0
  | cons first more inductionHypothesis =>
    have longer := List.length_pos_iff.2 (solid first)
    rw [List.flatMap_cons, List.length_append, List.length_cons]
    omega

private theorem length_le_of_mem_flatMap {α β : Type} {write : α → List β} {items : List α}
    {item : α} (member : item ∈ items) : (write item).length ≤ (items.flatMap write).length := by
  obtain ⟨before, behind, rfl⟩ := List.append_of_mem member
  rw [List.flatMap_append, List.flatMap_cons, List.length_append, List.length_append]
  omega

section

variable {layout : Layout} {level : Nat}

/-- The comma and the line break in front of an item, read from the comma on. -/
theorem comma_eq_cons (spaced : layout.IsSpaced) {c : CodePoint} (solid : isSpace c = false) :
    ∃ blank, layout.comma = (',' : CodePoint) :: blank ∧
      ∀ rest, skipSpace (blank ++ layout.lineBreak level ++ c :: rest) = c :: rest := by
  obtain ⟨blank, isComma, spaces⟩ := spaced.comma
  refine ⟨blank, isComma, fun rest => skipSpace_append (fun c member => ?_) solid rest⟩
  rcases List.mem_append.1 member with member | member
  · exact List.all_eq_true.1 spaces c member
  · exact isSpace_of_mem_lineBreak member

/-- Items that are read back one by one are read back as the items of an array. -/
theorem items_printItems (spaced : layout.IsSpaced) {item : Text → Except Stop (Json × Text)}
    {first : Json} {more : List Json} {depth : Nat}
    (plain : ∀ document ∈ first :: more, IsPlain (isReadableText layout.escaped) depth document)
    (reads : ∀ document ∈ first :: more, ∀ rest, IsApart rest →
      item (document.printAt layout level ++ rest) = .ok (document, rest))
    {fuel : Nat} (enough : more.length < fuel) (read : List Json) (closing : Nat) (rest : Text) :
    items item fuel read (first.printAt layout level ++ (printItems layout level more ++
        (layout.lineBreak closing ++ (']' : CodePoint) :: rest))) =
      .ok (read.reverse ++ first :: more, rest) := by
  induction more generalizing first fuel read with
  | nil =>
    obtain ⟨fuel, rfl⟩ := Nat.exists_eq_add_one_of_ne_zero (Nat.ne_zero_of_lt enough)
    have apart := isApart_lineBreak layout closing (by decide : isNumeral ']' = false) (by decide) rest
    rw [printItems, List.nil_append, items, reads first List.mem_cons_self _ apart, ok_bind]
    dsimp only
    rw [skipSpace_lineBreak layout closing (by decide)]
    dsimp only
    rw [if_pos rfl, List.reverse_cons]
  | cons second later inductionHypothesis =>
    obtain ⟨fuel, rfl⟩ := Nat.exists_eq_add_one_of_ne_zero (Nat.ne_zero_of_lt enough)
    obtain ⟨c, tail, isHead, solid, _⟩ := printAt_eq_cons
      (plain second (List.mem_cons_of_mem first List.mem_cons_self)) layout level
    obtain ⟨blank, isComma, skips⟩ := @comma_eq_cons layout level spaced c solid
    have later := inductionHypothesis
      (fun document member => plain document (List.mem_cons_of_mem first member))
      (fun document member => reads document (List.mem_cons_of_mem first member))
      (Nat.lt_of_succ_lt_succ enough) (first :: read)
    have apart := isApart_cons (by decide : isNumeral ',' = false) (by decide)
    rw [isHead, List.cons_append] at later
    rw [printItems, isComma, isHead, List.cons_append, List.cons_append, List.cons_append,
      List.cons_append, items, reads first List.mem_cons_self _ (apart _), ok_bind]
    dsimp only
    rw [skipSpace_cons (by decide)]
    dsimp only
    rw [if_neg (by decide), if_pos rfl, List.append_assoc, List.append_assoc, List.cons_append,
      skips, later, List.reverse_cons, List.append_assoc, List.singleton_append]

/-- A written name and the colon behind it are read up to the value. -/
theorem fieldName_quote (spaced : layout.IsSpaced) {field : Text × Json} {depth : Nat}
    (readable : isReadableText layout.escaped field.1 = true)
    (plain : IsPlain (isReadableText layout.escaped) depth field.2) (rest : Text) :
    fieldName (quote layout.escaped field.1 ++
        (layout.colon ++ (field.2.printAt layout level ++ rest))) =
      .ok (field.1, field.2.printAt layout level ++ rest) := by
  obtain ⟨c, tail, isHead, solid, _⟩ := printAt_eq_cons plain layout level
  obtain ⟨blank, isColon, spaces⟩ := spaced.colon
  rw [isHead, isColon, List.cons_append, List.cons_append]
  obtain ⟨body, isQuote, reads⟩ := @stringBody_quote
    (quote layout.escaped field.1 ++ (':' : CodePoint) :: (blank ++ c :: (tail ++ rest)))
    ((':' : CodePoint) :: (blank ++ c :: (tail ++ rest))) layout.escaped field.1 readable
  rw [isQuote] at reads ⊢
  rw [fieldName, if_pos rfl, reads, ok_bind]
  dsimp only
  rw [skipSpace_cons (by decide)]
  dsimp only
  rw [if_pos rfl, skipSpace_append (List.all_eq_true.1 spaces) solid]

/-- Fields whose values are read back one by one are read back as the fields of an object. -/
theorem members_printFields (spaced : layout.IsSpaced) {item : Text → Except Stop (Json × Text)}
    {first : Text × Json} {more : List (Text × Json)} {depth : Nat}
    (named : ∀ field ∈ first :: more, isReadableText layout.escaped field.1 = true)
    (plain : ∀ field ∈ first :: more, IsPlain (isReadableText layout.escaped) depth field.2)
    (reads : ∀ field ∈ first :: more, ∀ rest, IsApart rest →
      item (field.2.printAt layout level ++ rest) = .ok (field.2, rest))
    {fuel : Nat} (enough : more.length < fuel) (read : List (Text × Json)) (closing : Nat)
    (rest : Text) :
    members item fuel read (quote layout.escaped first.1 ++ (layout.colon ++
        (first.2.printAt layout level ++ (printFields layout level more ++
          (layout.lineBreak closing ++ ('}' : CodePoint) :: rest))))) =
      .ok (read.reverse ++ first :: more, rest) := by
  induction more generalizing first fuel read with
  | nil =>
    obtain ⟨fuel, rfl⟩ := Nat.exists_eq_add_one_of_ne_zero (Nat.ne_zero_of_lt enough)
    rw [members, fieldName_quote spaced (named first List.mem_cons_self)
      (plain first List.mem_cons_self), ok_bind]
    dsimp only
    have apart := isApart_lineBreak layout closing (by decide : isNumeral '}' = false) (by decide) rest
    rw [printFields, List.nil_append, reads first List.mem_cons_self _ apart, ok_bind]
    dsimp only
    rw [skipSpace_lineBreak layout closing (by decide)]
    dsimp only
    rw [if_pos rfl, List.reverse_cons]
  | cons second later inductionHypothesis =>
    obtain ⟨fuel, rfl⟩ := Nat.exists_eq_add_one_of_ne_zero (Nat.ne_zero_of_lt enough)
    obtain ⟨tail, isHead⟩ := quote_eq_cons layout.escaped second.1
    obtain ⟨blank, isComma, skips⟩ := @comma_eq_cons layout level spaced '"' (by decide)
    have later := inductionHypothesis
      (fun field member => named field (List.mem_cons_of_mem first member))
      (fun field member => plain field (List.mem_cons_of_mem first member))
      (fun field member => reads field (List.mem_cons_of_mem first member))
      (Nat.lt_of_succ_lt_succ enough) (first :: read)
    rw [isHead, List.cons_append] at later
    rw [members, fieldName_quote spaced (named first List.mem_cons_self)
      (plain first List.mem_cons_self), ok_bind]
    dsimp only
    obtain ⟨name, value⟩ := second
    rw [printFields, isComma, isHead]
    simp only [List.cons_append, List.append_assoc] at later skips ⊢
    have apart := isApart_cons (by decide : isNumeral ',' = false) (by decide)
    rw [reads first List.mem_cons_self _ (apart _), ok_bind]
    dsimp only
    rw [skipSpace_cons (by decide)]
    dsimp only
    rw [if_neg (by decide), if_pos rfl, skips, later,
      List.reverse_cons, List.append_assoc, List.singleton_append]

/-- Every item takes up at least the comma in front of it. -/
theorem length_le_printItems (spaced : layout.IsSpaced) (items : List Json) :
    items.length ≤ (printItems layout level items).length := by
  obtain ⟨blank, isComma, _⟩ := spaced.comma
  rw [printItems_eq_flatMap]
  apply length_le_flatMap
  intro item
  simp [isComma]

/-- Every field takes up at least the comma in front of it. -/
theorem length_le_printFields (spaced : layout.IsSpaced) (fields : List (Text × Json)) :
    fields.length ≤ (printFields layout level fields).length := by
  obtain ⟨blank, isComma, _⟩ := spaced.comma
  rw [printFields_eq_flatMap]
  apply length_le_flatMap
  intro field
  simp [isComma]

/-- An item is no longer than the items that it stands among. -/
theorem printAt_length_le_printItems {item : Json} {items : List Json} (member : item ∈ items) :
    (item.printAt layout level).length ≤ (printItems layout level items).length := by
  rw [printItems_eq_flatMap]
  refine Nat.le_trans ?_ (length_le_of_mem_flatMap member)
  simp only [List.length_append]
  omega

/-- The value of a field is no longer than the fields that it stands among. -/
theorem printAt_length_le_printFields {field : Text × Json} {fields : List (Text × Json)}
    (member : field ∈ fields) :
    (field.2.printAt layout level).length ≤ (printFields layout level fields).length := by
  rw [printFields_eq_flatMap]
  refine Nat.le_trans ?_ (length_le_of_mem_flatMap member)
  simp only [List.length_append]
  omega

/-- Whatever opens neither a string nor a container is read as a word or a number. -/
theorem value_eq_scalar {c : CodePoint} (noString : c ≠ '"') (noArray : c ≠ '[') (noObject : c ≠ '{')
    (fuel depth : Nat) (rest : Text) : value fuel depth (c :: rest) = scalar (c :: rest) := by
  cases depth with
  | zero => rw [value, if_neg noString, if_neg (not_or.2 ⟨noArray, noObject⟩)]
  | succ depth => rw [value, if_neg noString, if_neg noArray, if_neg noObject]

/-- A written string is read back at every depth. -/
theorem value_quote {escaped : Bool} {text : Text}
    (readable : isReadableText escaped text = true) (fuel depth : Nat) (rest : Text) :
    value fuel depth (quote escaped text ++ rest) = .ok (.text text, rest) := by
  obtain ⟨body, isQuote, reads⟩ := @stringBody_quote (quote escaped text ++ rest) rest _ _ readable
  rw [isQuote] at reads ⊢
  cases depth with
  | zero =>
    rw [value, if_pos rfl, reads, ok_bind]
    rfl
  | succ depth =>
    rw [value, if_pos rfl, reads, ok_bind]
    rfl

/-- The items of an array are shorter than the array. -/
theorem printAt_length_lt_array {item : Json} {items : List Json} (member : item ∈ items) :
    (item.printAt layout (level + 1)).length < ((array items).printAt layout level).length := by
  cases items with
  | nil => cases member
  | cons first more =>
    rw [printAt]
    simp only [List.length_append, List.length_cons]
    rcases List.mem_cons.1 member with rfl | later
    · omega
    · have bounded := @printAt_length_le_printItems layout (level + 1) item more later
      omega

/-- The values of an object's fields are shorter than the object. -/
theorem printAt_length_lt_object {field : Text × Json} {fields : List (Text × Json)}
    (member : field ∈ fields) :
    (field.2.printAt layout (level + 1)).length < ((object fields).printAt layout level).length := by
  cases fields with
  | nil => cases member
  | cons first more =>
    obtain ⟨name, value⟩ := first
    rw [printAt]
    simp only [List.length_append, List.length_cons]
    rcases List.mem_cons.1 member with rfl | later
    · dsimp only
      omega
    · have bounded := @printAt_length_le_printFields layout (level + 1) field more later
      omega

/-- An array whose items are read back one by one is read back behind its bracket. -/
theorem arrayBody_printAt (spaced : layout.IsSpaced) {item : Text → Except Stop (Json × Text)}
    {items : List Json} {depth : Nat}
    (plain : ∀ document ∈ items, IsPlain (isReadableText layout.escaped) depth document)
    (reads : ∀ document ∈ items, ∀ rest, IsApart rest →
      item (document.printAt layout (level + 1) ++ rest) = .ok (document, rest))
    {fuel : Nat} (enough : ((array items).printAt layout level).length ≤ fuel) (rest : Text) :
    ∃ body, (array items).printAt layout level ++ rest = ('[' : CodePoint) :: body ∧
      arrayBody item fuel body = .ok (.array items, rest) := by
  have bracket : (("]" : String) : Text) = [(']' : CodePoint)] := by decide
  cases items with
  | nil => exact ⟨_, rfl, rfl⟩
  | cons first more =>
    obtain ⟨c, tail, isHead, solid, goesOn, _⟩ := printAt_eq_cons
      (plain first List.mem_cons_self) layout (level + 1)
    have shorter := @length_le_printItems layout (level + 1) spaced more
    rw [printAt] at enough ⊢
    simp only [List.length_append, List.length_cons] at enough
    have all := items_printItems spaced plain reads (show more.length < fuel by omega) [] level rest
    rw [isHead, List.cons_append] at all
    refine ⟨_, by simp only [List.cons_append, List.append_assoc]; rfl, ?_⟩
    rw [arrayBody, bracket, isHead, List.singleton_append, List.cons_append,
      skipSpace_lineBreak layout _ solid]
    dsimp only
    rw [if_neg goesOn, all]
    rfl

/-- An object whose values are read back one by one is read back behind its brace. -/
theorem objectBody_printAt (spaced : layout.IsSpaced) {item : Text → Except Stop (Json × Text)}
    {fields : List (Text × Json)} {depth : Nat}
    (named : ∀ field ∈ fields, isReadableText layout.escaped field.1 = true)
    (plain : ∀ field ∈ fields, IsPlain (isReadableText layout.escaped) depth field.2)
    (reads : ∀ field ∈ fields, ∀ rest, IsApart rest →
      item (field.2.printAt layout (level + 1) ++ rest) = .ok (field.2, rest))
    {fuel : Nat} (enough : ((object fields).printAt layout level).length ≤ fuel) (rest : Text) :
    ∃ body, (object fields).printAt layout level ++ rest = ('{' : CodePoint) :: body ∧
      objectBody item fuel body = .ok (.object fields, rest) := by
  have brace : (("\x7d" : String) : Text) = [('}' : CodePoint)] := by decide
  cases fields with
  | nil => exact ⟨_, rfl, rfl⟩
  | cons first more =>
    obtain ⟨tail, isHead⟩ := quote_eq_cons layout.escaped first.1
    have shorter := @length_le_printFields layout (level + 1) spaced more
    have all := fun bounded => @members_printFields layout (level + 1) spaced item first more depth
      named plain reads fuel bounded [] level rest
    obtain ⟨name, value⟩ := first
    rw [printAt] at enough ⊢
    simp only [List.length_append, List.length_cons] at enough
    have all := all (by omega)
    rw [isHead, List.cons_append] at all
    refine ⟨_, by simp only [List.cons_append, List.append_assoc]; rfl, ?_⟩
    rw [objectBody, brace, isHead, List.singleton_append, List.cons_append,
      skipSpace_lineBreak layout _ (by decide)]
    dsimp only
    rw [if_neg (by decide), all]
    rfl

/-- A plain document is read back from what is written for it, up to its end. -/
theorem value_printAt (spaced : layout.IsSpaced) {document : Json} {depth : Nat}
    (plain : IsPlain (isReadableText layout.escaped) depth document) {fuel : Nat}
    (enough : (document.printAt layout level).length ≤ fuel) {rest : Text} (apart : IsApart rest) :
    value fuel depth (document.printAt layout level ++ rest) = .ok (document, rest) := by
  induction plain generalizing level rest with
  | null depth => exact value_eq_scalar (by decide) (by decide) (by decide) fuel depth _
  | bool depth truth =>
    cases truth with
    | false => exact value_eq_scalar (by decide) (by decide) (by decide) fuel depth _
    | true => exact value_eq_scalar (by decide) (by decide) (by decide) fuel depth _
  | @int depth number short =>
    have isRead := scalar_integer short apart
    have isScalar : value fuel depth (Text.integer number ++ rest) =
        scalar (Text.integer number ++ rest) := by
      obtain ⟨first, more, numeral, isText | isText⟩ := integer_eq_cons number
      · rw [isText]
        exact value_eq_scalar (ne_of_isNumeral numeral (by decide))
          (ne_of_isNumeral numeral (by decide)) (ne_of_isNumeral numeral (by decide)) fuel depth _
      · rw [isText]
        exact value_eq_scalar (by decide) (by decide) (by decide) fuel depth _
    rw [printAt, isScalar, isRead]
  | text depth readable =>
    rw [printAt]
    exact value_quote readable fuel depth rest
  | array plain inductionHypothesis =>
    obtain ⟨body, isArray, reads⟩ := arrayBody_printAt spaced plain
      (fun item member _ => inductionHypothesis item member
        (Nat.le_trans (Nat.le_of_lt (printAt_length_lt_array member)) enough)) enough rest
    rw [isArray, value, if_neg (by decide), if_pos rfl, reads]
  | object named plain inductionHypothesis =>
    obtain ⟨body, isObject, reads⟩ := objectBody_printAt spaced named plain
      (fun field member _ => inductionHypothesis field member
        (Nat.le_trans (Nat.le_of_lt (printAt_length_lt_object member)) enough)) enough rest
    rw [isObject, value, if_neg (by decide), if_neg (by decide), if_pos rfl, reads]

end

/-- White space alone does not continue a number. -/
theorem isApart_of_spaces {blank : Text} (spaces : ∀ c ∈ blank, isSpace c = true) :
    IsApart blank := by
  cases blank with
  | nil => exact isApart_nil
  | cons c more => exact isApart_of_isSpace (spaces c List.mem_cons_self) more

/-- A plain document is read back from its text wherever there is room for it, white space behind it
included. -/
theorem read_print {layout : Layout} (spaced : layout.IsSpaced) {document : Json}
    {room : Nat} (plain : IsPlain (isReadableText layout.escaped) room document) {blank : Text}
    (spaces : ∀ c ∈ blank, isSpace c = true) :
    read room (document.print layout ++ blank) = .ok document := by
  obtain ⟨c, tail, isHead, solid, _, noMark⟩ := printAt_eq_cons plain layout 0
  have reads := @value_printAt layout 0 spaced document room plain
    (document.print layout ++ blank).length
    (by rw [print, List.length_append]; exact Nat.le_add_right _ _) blank (isApart_of_spaces spaces)
  rw [print, isHead, List.cons_append] at reads ⊢
  rw [read, Json.document, List.head?_cons, if_neg (fun same => noMark (Option.some.inj same)),
    skipSpace_cons solid, reads, ok_bind]
  dsimp only
  rw [skipSpace_eq_nil spaces]

end ThreatMatrix.Json
