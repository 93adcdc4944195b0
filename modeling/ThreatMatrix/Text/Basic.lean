/-!
# Text

A text is a list of code points. Surrogate code points may stand alone in a text, because
identifiers reach the library from JSON escapes that can name one half of a pair; this is the
reason why texts are not `String`s.

White space is what separates words in any script, the information separators and the next-line
control included; zero-width marks are not white space.
-/

namespace ThreatMatrix

/-- One code point of Unicode, surrogates included. -/
abbrev CodePoint := Fin 0x110000

/-- A finite sequence of code points. -/
abbrev Text := List CodePoint

/-- One octet of a file. -/
abbrev Byte := UInt8

namespace CodePoint

/-- The code point of a character; every character is one. -/
def ofChar (c : Char) : CodePoint :=
  ⟨c.toNat, by
    have valid := c.valid
    simp only [UInt32.isValidChar, Nat.isValidChar] at valid
    show c.val.toNat < _
    omega⟩

instance : Coe Char CodePoint := ⟨ofChar⟩

/-- The code point of a small number; numbers above the last code point become code point zero. -/
def ofNat (n : Nat) : CodePoint :=
  if h : n < 0x110000 then ⟨n, h⟩ else ⟨0, by omega⟩

theorem val_ofNat {n : Nat} (bounded : n < 0x110000) : (ofNat n).val = n := by
  rw [ofNat, dif_pos bounded]

@[simp] theorem ofNat_val (c : CodePoint) : ofNat c.val = c := by
  rw [ofNat, dif_pos c.isLt]

/-- One half of a pair that stands for a code point above the basic plane. -/
def isSurrogate (c : CodePoint) : Bool :=
  0xD800 ≤ c.val && c.val ≤ 0xDFFF

theorem isSurrogate_eq_false_iff {c : CodePoint} :
    c.isSurrogate = false ↔ c.val < 0xD800 ∨ 0xDFFF < c.val := by
  rw [isSurrogate, Bool.and_eq_false_iff, decide_eq_false_iff_not, decide_eq_false_iff_not]
  omega

/-- A digit of a hexadecimal numeral, either letter case. -/
def hexValue? (c : CodePoint) : Option Nat :=
  if 0x30 ≤ c.val ∧ c.val ≤ 0x39 then some (c.val - 0x30)
  else if 0x61 ≤ c.val ∧ c.val ≤ 0x66 then some (c.val - 0x61 + 10)
  else if 0x41 ≤ c.val ∧ c.val ≤ 0x46 then some (c.val - 0x41 + 10)
  else none

end CodePoint

namespace Text

/-- The code points of a string, in order. -/
def ofString (s : String) : Text :=
  s.toList.map CodePoint.ofChar

instance : Coe String Text := ⟨ofString⟩

/-- The decimal numeral of a number, without leading zeros. -/
def decimal (n : Nat) : Text :=
  (Nat.toDigits 10 n).map CodePoint.ofChar

/-- The decimal numeral of an integer; negative numbers begin with a minus sign. -/
def integer : Int → Text
  | .ofNat n => decimal n
  | .negSucc n => '-' :: decimal (n + 1)

/-- The hexadecimal numeral of a number in small letters, filled with zeros to a width. -/
def hex (width n : Nat) : Text :=
  let digits := (Nat.toDigits 16 n).map CodePoint.ofChar
  List.replicate (width - digits.length) ('0' : CodePoint) ++ digits

/-- The part before the first separator and the part after it; without a separator the second
part is empty. -/
def partition (separator : CodePoint) (text : Text) : Text × Text :=
  (text.takeWhile (· != separator), (text.dropWhile (· != separator)).tail)

/-- The pieces between separators, empty pieces included. -/
def pieces (separator : CodePoint) : Text → List Text
  | [] => [[]]
  | c :: rest =>
    if c = separator then [] :: pieces separator rest
    else match pieces separator rest with
      | [] => [[c]]
      | piece :: more => (c :: piece) :: more

/-- The pieces joined with a separator between neighbours. -/
def join (separator : Text) (parts : List Text) : Text :=
  separator.intercalate parts

/-- The order of texts by their code points. -/
def precedes (left right : Text) : Bool :=
  !right.lex left

/-- Every occurrence of one code point exchanged for another. -/
def exchange (old new : CodePoint) (text : Text) : Text :=
  text.map fun c => if c = old then new else c

/-- The text as a string for a terminal; a lone surrogate shows as the replacement character. -/
def toTerminal (text : Text) : String :=
  String.ofList (text.map fun c => if c.isSurrogate then '\uFFFD' else Char.ofNat c.val)

end Text

/-! ## White space -/

/-- Ranges of white space, both ends included. -/
def blankRanges : List (Nat × Nat) := [
  (0x9, 0xD), (0x1C, 0x20), (0x85, 0x85), (0xA0, 0xA0), (0x1680, 0x1680), (0x2000, 0x200A),
  (0x2028, 0x2029), (0x202F, 0x202F), (0x205F, 0x205F), (0x3000, 0x3000)]

/-- A code point of white space. -/
def CodePoint.isBlank (c : CodePoint) : Bool :=
  blankRanges.any fun range => range.1 ≤ c.val && c.val ≤ range.2

/-- White space among octets: the space and the five layout controls. -/
def isBlankByte (b : Byte) : Bool :=
  b == 0x20 || (0x09 ≤ b && b ≤ 0x0D)

/-- A list without the members at either end that satisfy a test. -/
def trimBoth {α : Type} (test : α → Bool) (items : List α) : List α :=
  ((items.dropWhile test).reverse.dropWhile test).reverse

/-- A text without white space at either end. -/
def Text.strip (text : Text) : Text :=
  trimBoth CodePoint.isBlank text

end ThreatMatrix
