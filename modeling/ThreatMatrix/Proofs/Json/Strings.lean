import ThreatMatrix.Proofs.Json.Pairs

/-!
# Strings read back

A text written as a string is read back as it was, in every layout. Where every code point outside
ASCII is escaped, this asks that no two halves of a pair stand side by side in the text: they would
be read as one code point. A half that stands alone is read back, but it waits for its second until
the reader sees what follows.
-/

namespace ThreatMatrix

/-- The sixteen digits of hexadecimal numerals are read as their values. -/
theorem CodePoint.hexValue?_digitChar {n : Nat} (bounded : n < 16) :
    (CodePoint.ofChar n.digitChar).hexValue? = some n := by
  have digits : ∀ d : Fin 16, (CodePoint.ofChar (Nat.digitChar d)).hexValue? = some d.val := by
    decide
  exact digits ⟨n, bounded⟩

/-- A number below two to the power of sixteen has four hexadecimal digits, leading zeros
included. -/
theorem Text.hex_four {n : Nat} (bounded : n < 0x10000) :
    Text.hex 4 n = [n / 0x1000, n / 0x100 % 16, n / 16 % 16, n % 16].map fun digit =>
      CodePoint.ofChar digit.digitChar := by
  have base : 1 < 16 := by decide
  have zero : CodePoint.ofChar '0' = CodePoint.ofChar (Nat.digitChar 0) := rfl
  unfold Text.hex
  by_cases one : n < 16
  · rw [Nat.toDigits_eq_if base, if_pos one]
    have places : n / 0x1000 = 0 ∧ n / 0x100 % 16 = 0 ∧ n / 16 % 16 = 0 ∧ n % 16 = n := by omega
    simp [places, zero, List.replicate]
  · rw [Nat.toDigits_eq_if base, if_neg one]
    by_cases two : n / 16 < 16
    · rw [Nat.toDigits_eq_if base, if_pos two]
      have places : n / 0x1000 = 0 ∧ n / 0x100 % 16 = 0 ∧ n / 16 % 16 = n / 16 := by omega
      simp [places, zero, List.replicate]
    · rw [Nat.toDigits_eq_if base, if_neg two]
      by_cases three : n / 16 / 16 < 16
      · rw [Nat.toDigits_eq_if base, if_pos three]
        have places : n / 0x1000 = 0 ∧ n / 0x100 % 16 = n / 16 / 16 := by omega
        simp [places, zero]
      · rw [Nat.toDigits_eq_if base, if_neg three, Nat.toDigits_of_lt_base (by omega)]
        have places : n / 0x1000 = n / 16 / 16 / 16 ∧ n / 0x100 % 16 = n / 16 / 16 % 16 := by omega
        simp [places]

namespace Json

/-- An escape of four digits names its number. -/
theorem hexPoint?_digits {n : Nat} (bounded : n < 0x10000) :
    hexPoint? (CodePoint.ofChar (Nat.digitChar (n / 0x1000)))
      (CodePoint.ofChar (Nat.digitChar (n / 0x100 % 16)))
      (CodePoint.ofChar (Nat.digitChar (n / 16 % 16)))
      (CodePoint.ofChar (Nat.digitChar (n % 16))) = some (CodePoint.ofNat n) := by
  have digit := fun {m : Nat} (small : m < 16) => CodePoint.hexValue?_digitChar small
  have whole : (n / 0x1000 * 16 + n / 0x100 % 16) * 256 + (n / 16 % 16 * 16 + n % 16) = n := by
    omega
  simp only [hexPoint?, digit (show n / 0x1000 < 16 by omega), digit (Nat.mod_lt _ (by decide)),
    Option.bind_eq_bind, Option.bind_some, Option.pure_def, whole]

/-- An escape of four digits begins with a backslash and its letter. -/
theorem hexEscape_eq (n : Nat) : hexEscape n = ('\\' : CodePoint) :: 'u' :: Text.hex 4 n := by
  have mark : (("\\u" : String) : Text) = [('\\' : CodePoint), 'u'] := by decide
  rw [hexEscape, mark, List.cons_append, List.singleton_append]

section

variable {opening rest : Text} {c next : CodePoint}

/-- An escape of four digits is read as the code point it names. Something always follows it. -/
theorem stringBody_hexEscape {n : Nat} (bounded : n < 0x10000) (read : Partial) :
    stringBody opening read (hexEscape n ++ next :: rest) =
      stringBody opening (read.pushEscape (CodePoint.ofNat n)) (next :: rest) := by
  rw [hexEscape_eq, Text.hex_four bounded]
  simp only [List.map_cons, List.map_nil, List.cons_append, List.nil_append]
  rw [stringBody.eq_def]
  dsimp only
  rw [if_neg (by decide), if_pos rfl, if_pos rfl, hexPoint?_digits bounded]

/-- An escape of one letter is read as the code point that the letter stands for. -/
theorem stringBody_shortEscape {mark meant : CodePoint} (stands : shortEscape? mark = some meant)
    (noHex : mark ≠ 'u') (read : Partial) :
    stringBody opening read (('\\' : CodePoint) :: mark :: rest) =
      stringBody opening (read.push meant) rest := by
  rw [stringBody.eq_def]
  dsimp only
  rw [if_neg (by decide), if_pos rfl, if_neg noHex, stands]

/-- A code point that needs no escape is read as itself. -/
theorem stringBody_plain (noQuote : c ≠ '"') (noBackslash : c ≠ '\\') (noControl : ¬c.val < 0x20)
    (read : Partial) :
    stringBody opening read (c :: rest) = stringBody opening (read.push c) rest := by
  rw [stringBody.eq_def]
  dsimp only
  rw [if_neg noQuote, if_neg noBackslash, if_neg noControl]

/-- An escape that completes no pair is a code point of its own. It waits for another only if it is
a first half. -/
theorem finish_pushEscape {read : Partial} (apart : read.half.isSome = true → isLowHalf c = false) :
    (read.pushEscape c).finish = c :: read.finish ∧
      ((read.pushEscape c).half.isSome = true → isHighHalf c = true) := by
  have isStart : read.pushEscape c = Partial.pushEscape.start read c := by
    unfold Partial.pushEscape
    cases waits : read.half with
    | none => rfl
    | some high => exact if_neg (Bool.eq_false_iff.1 (apart (by rw [waits, Option.isSome_some])))
  rw [isStart, Partial.pushEscape.start]
  split
  · next isHigh => exact ⟨rfl, fun _ => isHigh⟩
  · exact ⟨rfl, Bool.noConfusion⟩

/-- A code point above the basic plane is the pair of its halves. -/
theorem joinHalves_halves (wide : 0x10000 ≤ c.val) :
    isHighHalf (CodePoint.ofNat (0xD800 + (c.val - 0x10000) / 0x400)) = true ∧
      isLowHalf (CodePoint.ofNat (0xDC00 + (c.val - 0x10000) % 0x400)) = true ∧
      joinHalves (CodePoint.ofNat (0xD800 + (c.val - 0x10000) / 0x400))
        (CodePoint.ofNat (0xDC00 + (c.val - 0x10000) % 0x400)) = c := by
  have bounded := c.isLt
  have whole : 0x10000 + (0xD800 + (c.val - 0x10000) / 0x400 - 0xD800) * 0x400 +
      (0xDC00 + (c.val - 0x10000) % 0x400 - 0xDC00) = c.val := by omega
  refine ⟨?_, ?_, ?_⟩
  · rw [isHighHalf, CodePoint.val_ofNat (by omega)]
    rw [Bool.and_eq_true, decide_eq_true_eq, decide_eq_true_eq]
    omega
  · rw [isLowHalf, CodePoint.val_ofNat (by omega)]
    rw [Bool.and_eq_true, decide_eq_true_eq, decide_eq_true_eq]
    omega
  · rw [joinHalves, CodePoint.val_ofNat (by omega), CodePoint.val_ofNat (by omega), whole,
      CodePoint.ofNat_val]

/-- Two escapes that name the halves of a pair are read as the code point that the pair stands
for. -/
theorem stringBody_hexEscape_pair {first second : Nat} (firstBounded : first < 0x10000)
    (secondBounded : second < 0x10000) (high : isHighHalf (CodePoint.ofNat first) = true)
    (low : isLowHalf (CodePoint.ofNat second) = true) (read : Partial) :
    stringBody opening read (hexEscape first ++ hexEscape second ++ next :: rest) =
      stringBody opening
        ⟨joinHalves (CodePoint.ofNat first) (CodePoint.ofNat second) :: read.finish, none⟩
        (next :: rest) := by
  have isStart : read.pushEscape (CodePoint.ofNat first) =
      ⟨read.finish, some (CodePoint.ofNat first)⟩ := by
    unfold Partial.pushEscape Partial.pushEscape.start
    cases read.half with
    | none => exact if_pos high
    | some earlier =>
      dsimp only
      rw [if_neg (Bool.eq_false_iff.1 (isLowHalf_of_isHighHalf high)), if_pos high]
  rw [List.append_assoc, hexEscape_eq second, List.cons_append, stringBody_hexEscape firstBounded,
    ← List.cons_append, ← hexEscape_eq, stringBody_hexEscape secondBounded, isStart]
  exact congrArg (stringBody opening · (next :: rest)) (if_pos low)

/-- The ways in which a code point is written in a string: by a letter that stands for it, by its
number if it is a control, by its number if a layout escapes it, or as itself. -/
theorem quotePoint_cases (escaped : Bool) (c : CodePoint) :
    (∃ mark ∈ (("\"\\nrtbf" : String) : Text), shortEscape? mark = some c ∧
        quotePoint escaped c = [('\\' : CodePoint), mark]) ∨
      (c.val < 0x20 ∧ quotePoint escaped c = hexEscape c.val) ∨
      (escaped = true ∧ 0x7F ≤ c.val ∧ quotePoint escaped c = wideEscape c) ∨
      (c ≠ '"' ∧ c ≠ '\\' ∧ ¬c.val < 0x20 ∧ quotePoint escaped c = [c]) := by
  unfold quotePoint
  split
  · next same => exact .inl ⟨'"', by decide, congrArg some same.symm, rfl⟩
  split
  · next same => exact .inl ⟨'\\', by decide, congrArg some same.symm, rfl⟩
  split
  · next same => exact .inl ⟨'n', by decide, congrArg some same.symm, rfl⟩
  split
  · next same => exact .inl ⟨'r', by decide, congrArg some same.symm, rfl⟩
  split
  · next same => exact .inl ⟨'t', by decide, congrArg some same.symm, rfl⟩
  split
  · next same => exact .inl ⟨'b', by decide, congrArg some same.symm, rfl⟩
  split
  · next same => exact .inl ⟨'f', by decide, congrArg some same.symm, rfl⟩
  split
  · next control => exact .inr (.inl ⟨control, rfl⟩)
  split
  · next wide =>
    rw [Bool.and_eq_true, decide_eq_true_eq] at wide
    exact .inr (.inr (.inl ⟨wide.1, wide.2, rfl⟩))
  · next noQuote noBackslash _ _ _ _ _ noControl _ =>
    exact .inr (.inr (.inr ⟨noQuote, noBackslash, noControl, rfl⟩))

/-- What a code point is written as in a string is read as that code point, unless it would complete
a pair. Only the escape of a first half leaves the reader waiting. -/
theorem stringBody_quotePoint (escaped : Bool) {read : Partial}
    (apart : read.half.isSome = true → isLowHalf c = false) :
    ∃ after : Partial,
      stringBody opening read (quotePoint escaped c ++ next :: rest) =
        stringBody opening after (next :: rest) ∧
      after.finish = c :: read.finish ∧
      (after.half.isSome = true → escaped = true ∧ isHighHalf c = true) := by
  rcases quotePoint_cases escaped c with ⟨mark, -, stands, written⟩ | ⟨control, written⟩ |
    ⟨isEscaped, wide, written⟩ | ⟨noQuote, noBackslash, noControl, written⟩
  · have noHex : mark ≠ 'u' := by
      rintro rfl
      cases stands
    refine ⟨read.push c, ?_, rfl, Bool.noConfusion⟩
    rw [written]
    exact stringBody_shortEscape stands noHex read
  · obtain ⟨isFinish, waits⟩ := finish_pushEscape apart
    refine ⟨read.pushEscape c, ?_, isFinish, fun isHalf => ?_⟩
    · rw [written, stringBody_hexEscape (by omega), CodePoint.ofNat_val]
    · have bounds := bounds_of_isHighHalf (waits isHalf)
      omega
  · rw [written, wideEscape]
    split
    · next narrow =>
      obtain ⟨isFinish, waits⟩ := finish_pushEscape apart
      refine ⟨read.pushEscape c, ?_, isFinish, fun isHalf => ⟨isEscaped, waits isHalf⟩⟩
      rw [stringBody_hexEscape narrow, CodePoint.ofNat_val]
    · next above =>
      obtain ⟨high, low, joined⟩ := joinHalves_halves (c := c) (by omega)
      have bounded := c.isLt
      refine ⟨⟨c :: read.finish, none⟩, ?_, rfl, Bool.noConfusion⟩
      dsimp only
      rw [stringBody_hexEscape_pair (by omega) (by omega) high low, joined]
  · refine ⟨read.push c, ?_, rfl, Bool.noConfusion⟩
    rw [written]
    exact stringBody_plain noQuote noBackslash noControl read

/-- Whether a layout writes a text so that it is read back: parted pairs must not be escaped. -/
def isReadableText (escaped : Bool) (text : Text) : Bool :=
  !escaped || text.isJoined

/-- What is written with escapes is read back where pairs are joined. -/
theorem isReadableText_eq_isJoined : isReadableText true = Text.isJoined :=
  rfl

/-- Behind the first code point a text is readable as well, and it completes no pair with it. -/
theorem isReadableText_cons {escaped : Bool} {more : Text}
    (readable : isReadableText escaped (c :: more) = true) :
    isReadableText escaped more = true ∧
      (escaped = true → isHighHalf c = true → more.beginsLow = false) := by
  cases escaped with
  | false => exact ⟨rfl, Bool.noConfusion⟩
  | true =>
    rw [isReadableText_eq_isJoined, Text.isJoined, Bool.and_eq_true] at readable
    refine ⟨readable.2, fun _ isHigh => ?_⟩
    simpa [isHigh] using readable.1

/-- The code points written between quotes are read as the text that they were written for, unless
the first would complete a pair. The induction is on the text and carries that no half waits for
what comes next. -/
theorem stringBody_flatMap {escaped : Bool} {text : Text}
    (readable : isReadableText escaped text = true) {read : Partial}
    (apart : read.half.isSome = true → text.beginsLow = false) :
    stringBody opening read (text.flatMap (quotePoint escaped) ++ ('"' : CodePoint) :: rest) =
      .ok (read.finish.reverse ++ text, rest) := by
  induction text generalizing read with
  | nil =>
    rw [List.flatMap_nil, List.nil_append, stringBody.eq_def]
    dsimp only
    rw [if_pos rfl, List.append_nil]
  | cons c more inductionHypothesis =>
    obtain ⟨moreReadable, noPair⟩ := isReadableText_cons readable
    obtain ⟨next, behind, isNext⟩ : ∃ next behind,
        more.flatMap (quotePoint escaped) ++ ('"' : CodePoint) :: rest = next :: behind := by
      cases more.flatMap (quotePoint escaped) with
      | nil => exact ⟨_, _, rfl⟩
      | cons next behind => exact ⟨next, _, rfl⟩
    obtain ⟨after, reads, isFinish, waits⟩ :=
      @stringBody_quotePoint opening behind c next escaped read apart
    have later := inductionHypothesis moreReadable fun isHalf =>
      noPair (waits isHalf).1 (waits isHalf).2
    rw [List.flatMap_cons, List.append_assoc, isNext, reads, ← isNext, later, isFinish,
      List.reverse_cons, List.append_assoc, List.singleton_append]

/-- A string is read as the text that was written, up to its closing quote. -/
theorem stringBody_quote {escaped : Bool} {text : Text}
    (readable : isReadableText escaped text = true) :
    ∃ body, quote escaped text ++ rest = ('"' : CodePoint) :: body ∧
      stringBody opening .empty body = .ok (text, rest) := by
  have mark : (("\"" : String) : Text) = [('"' : CodePoint)] := by decide
  refine ⟨text.flatMap (quotePoint escaped) ++ ('"' : CodePoint) :: rest, ?_,
    stringBody_flatMap readable Bool.noConfusion⟩
  rw [quote, mark, List.cons_append, List.cons_append, List.append_assoc, List.singleton_append]

end

end Json
end ThreatMatrix
