import ThreatMatrix.Proofs.Json.RoundTrip
import ThreatMatrix.Proofs.Text.Utf8

/-!
# What documents are written with

A written document holds line feeds and printable code points of ASCII, and otherwise only what the
texts of the document hold themselves.
-/

namespace ThreatMatrix.Json

/-- A line feed or a printable code point of ASCII. -/
def isMark (c : CodePoint) : Bool :=
  c == '\n' || (0x20 ≤ c.val && c.val < 0x7F)

/-- A mark, or a code point of a text that passes a test. Controls of texts are never written. -/
def IsWritten (admits : Text → Bool) (c : CodePoint) : Prop :=
  isMark c = true ∨ ∃ text, admits text = true ∧ c ∈ text ∧ ¬c.val < 0x20

/-- A layout whose commas and colons are marks. -/
def Layout.isMarked (layout : Layout) : Bool :=
  (layout.comma ++ layout.colon).all isMark

section

variable {layout : Layout} {level : Nat} {admits : Text → Bool} {c written : CodePoint}

/-- An escape of four digits is written with marks. -/
theorem isMark_of_mem_hexEscape {n : Nat} (bounded : n < 0x10000) (member : c ∈ hexEscape n) :
    isMark c = true := by
  have digits : ∀ digit : Fin 16, isMark (CodePoint.ofChar (Nat.digitChar digit.val)) = true := by
    decide
  rw [hexEscape_eq, Text.hex_four bounded] at member
  simp only [List.mem_cons, List.map_cons, List.map_nil, List.not_mem_nil, or_false] at member
  rcases member with rfl | rfl | rfl | rfl | rfl | rfl
  · decide
  · decide
  · exact digits ⟨n / 0x1000, by omega⟩
  · exact digits ⟨n / 0x100 % 16, by omega⟩
  · exact digits ⟨n / 16 % 16, by omega⟩
  · exact digits ⟨n % 16, by omega⟩

/-- A code point inside a string is written with marks, or as itself if it is no control. -/
theorem isMark_of_mem_quotePoint {escaped : Bool} (member : written ∈ quotePoint escaped c) :
    isMark written = true ∨ (written = c ∧ ¬c.val < 0x20) := by
  have bounded := c.isLt
  rcases quotePoint_cases escaped c with ⟨mark, isShort, -, isWritten⟩ | ⟨control, isWritten⟩ |
    ⟨-, -, isWritten⟩ | ⟨-, -, noControl, isWritten⟩
  · have marks : (("\"\\nrtbf" : String) : Text).all isMark = true := by decide
    rw [isWritten, List.mem_cons, List.mem_singleton] at member
    rcases member with rfl | rfl
    · exact .inl (by decide)
    · exact .inl (List.all_eq_true.1 marks written isShort)
  · rw [isWritten] at member
    exact .inl (isMark_of_mem_hexEscape (by omega) member)
  · rw [isWritten, wideEscape] at member
    split at member
    · next narrow => exact .inl (isMark_of_mem_hexEscape narrow member)
    · rcases List.mem_append.1 member with member | member
      · exact .inl (isMark_of_mem_hexEscape (by omega) member)
      · exact .inl (isMark_of_mem_hexEscape (by omega) member)
  · rw [isWritten, List.mem_singleton] at member
    exact .inr ⟨member, noControl⟩

/-- A string is written with marks and with what its text holds. -/
theorem isWritten_of_mem_quote {escaped : Bool} {text : Text} (admitted : admits text = true)
    (member : c ∈ quote escaped text) : IsWritten admits c := by
  have mark : (("\"" : String) : Text) = [('"' : CodePoint)] := by decide
  rw [quote, mark, List.mem_append, List.mem_cons, List.mem_flatMap, List.mem_singleton] at member
  rcases member with (rfl | ⟨source, inText, member⟩) | rfl
  · exact .inl (by decide)
  · rcases isMark_of_mem_quotePoint member with mark | ⟨rfl, noControl⟩
    · exact .inl mark
    · exact .inr ⟨text, admitted, inText, noControl⟩
  · exact .inl (by decide)

/-- Items are set apart by marks. -/
theorem isMark_of_mem_lineBreak (member : c ∈ layout.lineBreak level) : isMark c = true := by
  rcases mem_lineBreak member with rfl | rfl
  · decide
  · decide

/-- Integers are written with marks. -/
theorem isMark_of_mem_integer {value : Int} (member : c ∈ Text.integer value) :
    isMark c = true := by
  have digits : c ∈ Text.decimal value.natAbs → isMark c = true := by
    intro inDigits
    have numeral := isNumeral_of_mem_decimal inDigits
    rw [isNumeral, Bool.and_eq_true, decide_eq_true_eq, decide_eq_true_eq] at numeral
    simp only [isMark, Bool.or_eq_true, Bool.and_eq_true, decide_eq_true_eq]
    omega
  rw [integer_eq] at member
  split at member
  · rcases List.mem_cons.1 member with rfl | inDigits
    · decide
    · exact digits inDigits
  · exact digits member

/-- Behind the first item stand marks and the other items. -/
theorem mem_printItems (marked : layout.isMarked = true) {items : List Json}
    (member : c ∈ printItems layout level items) :
    isMark c = true ∨ ∃ item ∈ items, c ∈ item.printAt layout level := by
  rw [printItems_eq_flatMap, List.mem_flatMap] at member
  obtain ⟨item, inItems, member⟩ := member
  rw [List.mem_append, List.mem_append] at member
  rcases member with (inComma | inBreak) | inItem
  · exact .inl (List.all_eq_true.1 marked c (List.mem_append_left _ inComma))
  · exact .inl (isMark_of_mem_lineBreak inBreak)
  · exact .inr ⟨item, inItems, inItem⟩

/-- Behind the first field stand marks and the other fields. -/
theorem mem_printFields (marked : layout.isMarked = true) {fields : List (Text × Json)}
    (member : c ∈ printFields layout level fields) :
    isMark c = true ∨ ∃ field ∈ fields,
      c ∈ quote layout.escaped field.1 ∨ c ∈ field.2.printAt layout level := by
  rw [printFields_eq_flatMap, List.mem_flatMap] at member
  obtain ⟨field, inFields, member⟩ := member
  rw [List.mem_append, List.mem_append, List.mem_append, List.mem_append] at member
  rcases member with (((inComma | inBreak) | inName) | inColon) | inValue
  · exact .inl (List.all_eq_true.1 marked c (List.mem_append_left _ inComma))
  · exact .inl (isMark_of_mem_lineBreak inBreak)
  · exact .inr ⟨field, inFields, .inl inName⟩
  · exact .inl (List.all_eq_true.1 marked c (List.mem_append_right _ inColon))
  · exact .inr ⟨field, inFields, .inr inValue⟩

/-- A plain document is written with marks and with what its texts hold. -/
theorem isWritten_of_mem_printAt (marked : layout.isMarked = true) {document : Json} {depth : Nat}
    (plain : IsPlain admits depth document) (member : c ∈ document.printAt layout level) :
    IsWritten admits c := by
  have marks : ∀ word : Text, word.all isMark = true → c ∈ word → IsWritten admits c :=
    fun _ all inWord => .inl (List.all_eq_true.1 all c inWord)
  induction plain generalizing level with
  | null => exact marks "null" (by decide) member
  | bool _ truth =>
    cases truth with
    | false => exact marks "false" (by decide) member
    | true => exact marks "true" (by decide) member
  | int _ _ => exact .inl (isMark_of_mem_integer member)
  | text _ admitted => exact isWritten_of_mem_quote admitted member
  | @array _ items plain inductionHypothesis =>
    cases items with
    | nil => exact marks "[]" (by decide) member
    | cons first more =>
      rw [printAt] at member
      simp only [List.mem_append, List.mem_cons, List.cons_append] at member
      rcases member with rfl | (((inBreak | inFirst) | inMore) | inBreak) | inEnd
      · exact .inl (by decide)
      · exact .inl (isMark_of_mem_lineBreak inBreak)
      · exact inductionHypothesis first List.mem_cons_self inFirst
      · rcases mem_printItems marked inMore with mark | ⟨item, inItems, inItem⟩
        · exact .inl mark
        · exact inductionHypothesis item (List.mem_cons_of_mem first inItems) inItem
      · exact .inl (isMark_of_mem_lineBreak inBreak)
      · exact marks "]" (by decide) inEnd
  | @object _ fields named plain inductionHypothesis =>
    cases fields with
    | nil => exact marks "\x7b\x7d" (by decide) member
    | cons first more =>
      obtain ⟨name, value⟩ := first
      rw [printAt] at member
      simp only [List.mem_append, List.mem_cons, List.cons_append] at member
      rcases member with
        rfl | (((((inBreak | inName) | inColon) | inFirst) | inMore) | inBreak) | inEnd
      · exact .inl (by decide)
      · exact .inl (isMark_of_mem_lineBreak inBreak)
      · exact isWritten_of_mem_quote (named (name, value) List.mem_cons_self) inName
      · exact .inl (List.all_eq_true.1 marked c (List.mem_append_right _ inColon))
      · exact inductionHypothesis (name, value) List.mem_cons_self inFirst
      · rcases mem_printFields marked inMore with mark | ⟨field, inFields, inName | inValue⟩
        · exact .inl mark
        · exact isWritten_of_mem_quote (named field (List.mem_cons_of_mem _ inFields)) inName
        · exact inductionHypothesis field (List.mem_cons_of_mem _ inFields) inValue
      · exact .inl (isMark_of_mem_lineBreak inBreak)
      · exact marks "\x7d" (by decide) inEnd

/-- No document is written with a carriage return. -/
theorem not_mem_print (marked : layout.isMarked = true) {document : Json} {depth : Nat}
    (plain : IsPlain admits depth document) : ('\r' : CodePoint) ∉ document.print layout := by
  intro member
  rcases isWritten_of_mem_printAt marked plain member with mark | ⟨_, _, _, noControl⟩
  · exact absurd mark (by decide)
  · exact noControl (by decide)

/-- A document whose texts hold no halves is written without any. -/
theorem isWhole_print (marked : layout.isMarked = true) {document : Json} {depth : Nat}
    (plain : IsPlain Text.isWhole depth document) : (document.print layout).isWhole = true := by
  rw [Text.isWhole_iff]
  intro c member
  rcases isWritten_of_mem_printAt marked plain member with mark | ⟨text, whole, inText, -⟩
  · simp only [isMark, Bool.or_eq_true, beq_iff_eq, Bool.and_eq_true, decide_eq_true_eq] at mark
    rcases mark with rfl | ⟨_, below⟩
    · decide
    · exact CodePoint.isSurrogate_eq_false_iff.2 (.inl (by omega))
  · exact Text.isWhole_iff.1 whole c inText

end

/-- A text without halves is read back in every layout. -/
theorem isReadableText_of_isWhole (escaped : Bool) {text : Text} (whole : text.isWhole = true) :
    isReadableText escaped text = true := by
  rw [isReadableText, Text.isJoined_of_isWhole whole, Bool.or_true]

end ThreatMatrix.Json
