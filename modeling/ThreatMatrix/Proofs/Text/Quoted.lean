import ThreatMatrix.Proofs.Json.Strings
import ThreatMatrix.Proofs.Text.Numerals
import ThreatMatrix.Text.Quoted

/-!
# Quoted texts read back

What stands between quotes can be read from the front, one code point after the other: an escape
says by its mark how long it is, and nothing else begins with a backslash. So different texts are
shown differently, whichever quotes stand around them.
-/

namespace ThreatMatrix

/-! ## Hexadecimal numerals -/

namespace Text

/-- The number of a hexadecimal numeral. -/
def hexNumber? (digits : Text) : Option Nat :=
  digits.foldlM (fun number digit => digit.hexValue?.map (number * 16 + ·)) 0

/-- The numeral of a number without leading zeros is read as that number. -/
theorem hexNumber?_toDigits (n : Nat) :
    hexNumber? ((Nat.toDigits 16 n).map CodePoint.ofChar) = some n :=
  foldlM_toDigits (by decide) (fun number digit bounded => by
    rw [CodePoint.hexValue?_digitChar bounded, Option.map_some, Nat.mul_comm]) n

/-- Leading zeros add nothing. -/
theorem hexNumber?_replicate_append (count : Nat) (digits : Text) :
    hexNumber? (List.replicate count ('0' : CodePoint) ++ digits) = hexNumber? digits := by
  induction count with
  | zero => rfl
  | succ count inductionHypothesis =>
    rw [List.replicate_succ, List.cons_append, hexNumber?, List.foldlM_cons]
    exact inductionHypothesis

/-- The numeral of a number is read as that number. -/
theorem hexNumber?_hex (width n : Nat) : hexNumber? (hex width n) = some n := by
  rw [hex, hexNumber?_replicate_append, hexNumber?_toDigits]

/-- A numeral that is filled up has its width. -/
theorem length_hex {width n : Nat} (something : 0 < width) (bounded : n < Nat.pow 16 width) :
    (hex width n).length = width := by
  have short := (Nat.length_toDigits_le_iff (by decide) something).2 bounded
  rw [hex, List.length_append, List.length_replicate, List.length_map]
  omega

end Text

/-! ## Reading from the front -/

/-- The code point that a numeral of a width at the front names, and what follows it. -/
def hexPointAt? (width : Nat) (shown : Text) : Option (CodePoint × Text) :=
  (Text.hexNumber? (shown.take width)).map fun n => (CodePoint.ofNat n, shown.drop width)

/-- The code point that the mark behind a backslash introduces, and what follows it. -/
def escapedAt? (mark : CodePoint) (shown : Text) : Option (CodePoint × Text) :=
  if mark = 'n' then some ('\n', shown)
  else if mark = 'r' then some ('\r', shown)
  else if mark = 't' then some ('\t', shown)
  else if mark = 'x' then hexPointAt? 2 shown
  else if mark = 'u' then hexPointAt? 4 shown
  else if mark = 'U' then hexPointAt? 8 shown
  else some (mark, shown)

/-- The first code point that is shown between quotes, and what follows it. -/
def firstShown? : Text → Option (CodePoint × Text)
  | [] => none
  | c :: rest =>
    if c = '\\' then
      match rest with
      | [] => none
      | mark :: after => escapedAt? mark after
    else some (c, rest)

section

variable {quote c : CodePoint}

theorem hexPointAt?_hex {width : Nat} (something : 0 < width) (bounded : c.val < Nat.pow 16 width)
    (rest : Text) : hexPointAt? width (Text.hex width c.val ++ rest) = some (c, rest) := by
  have isWide := Text.length_hex something bounded
  rw [hexPointAt?, List.take_left' isWide, List.drop_left' isWide, Text.hexNumber?_hex,
    Option.map_some, CodePoint.ofNat_val]

/-- A code point that is shown between quotes can be read from the front. -/
theorem firstShown?_quoted (isQuote : quote = '\'' ∨ quote = '"') (rest : Text) :
    firstShown? (CodePoint.quoted quote c ++ rest) = some (c, rest) := by
  unfold CodePoint.quoted
  split
  · next marked =>
    -- A quote or a backslash stands behind a backslash and is no other mark.
    rcases marked with rfl | rfl
    · rcases isQuote with rfl | rfl
      · rfl
      · rfl
    · rfl
  split
  · next isLineFeed =>
    subst isLineFeed
    rfl
  split
  · next isReturn =>
    subst isReturn
    rfl
  split
  · next isTab =>
    subst isTab
    rfl
  split
  · next unmarked _ _ _ _ => exact if_neg fun isBackslash => unmarked (.inr isBackslash)
  split
  · next narrow => exact hexPointAt?_hex (by decide) narrow rest
  split
  · next narrow => exact hexPointAt?_hex (by decide) narrow rest
  · exact hexPointAt?_hex (by decide) (Nat.lt_trans c.isLt (by decide)) rest

/-- Different contents are shown differently between the same quotes. -/
theorem eq_of_flatMap_quoted (isQuote : quote = '\'' ∨ quote = '"') {left right : Text}
    (same : left.flatMap (CodePoint.quoted quote) = right.flatMap (CodePoint.quoted quote)) :
    left = right := by
  induction left generalizing right with
  | nil =>
    cases right with
    | nil => rfl
    | cons second others =>
      have shown :=
        @firstShown?_quoted quote second isQuote (others.flatMap (CodePoint.quoted quote))
      rw [← List.flatMap_cons, ← same] at shown
      cases shown
  | cons first more inductionHypothesis =>
    have shown := @firstShown?_quoted quote first isQuote (more.flatMap (CodePoint.quoted quote))
    rw [← List.flatMap_cons, same] at shown
    cases right with
    | nil => cases shown
    | cons second others =>
      rw [List.flatMap_cons, firstShown?_quoted isQuote, Option.some.injEq, Prod.mk.injEq] at shown
      obtain ⟨rfl, rest⟩ := shown
      rw [inductionHypothesis rest.symm]

theorem quoteFor_eq (holdsSingle holdsDouble : Bool) :
    quoteFor holdsSingle holdsDouble = '\'' ∨ quoteFor holdsSingle holdsDouble = '"' := by
  cases holdsSingle <;> cases holdsDouble <;> decide

/-- Different texts are shown differently. -/
theorem Text.quoted_injective : Function.Injective Text.quoted := by
  intro left right same
  obtain ⟨sameQuote, body⟩ := List.cons.inj same
  rw [← sameQuote] at body
  exact eq_of_flatMap_quoted (quoteFor_eq _ _) (List.append_cancel_right body)

end

end ThreatMatrix
