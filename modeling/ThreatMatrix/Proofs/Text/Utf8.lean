import ThreatMatrix.Text.Utf8

/-!
# Octets read back

The octets of a text without halves are read as that text. The ranges that the first octet of a code
point announces leave out long forms, halves and numbers above the last code point, and the octets
that are written stay within them. Whatever octets are read, no half comes of them.
-/

namespace ThreatMatrix

/-- A text without halves of pairs. -/
def Text.isWhole (text : Text) : Bool :=
  !text.any CodePoint.isSurrogate

theorem Text.isWhole_iff {text : Text} :
    text.isWhole = true ↔ ∀ c ∈ text, c.isSurrogate = false := by
  rw [isWhole, Bool.not_eq_true', List.any_eq_false]
  simp only [Bool.not_eq_true]

namespace Utf8

section

variable {place : Nat} {read : Text} {rest : List Byte}

/-- An octet within the announced range that is not the last of its code point. -/
theorem decodeFrom_middle {pending : Pending} {n : Nat} (small : n < 0x100)
    (low : pending.low ≤ n) (high : n ≤ pending.high) (more : 1 < pending.missing) :
    decodeFrom place read (some pending) (.ofNat n :: rest) =
      decodeFrom (place + 1) read (some { pending with
        seen := pending.seen + 1, missing := pending.missing - 1, low := 0x80, high := 0xBF,
        bits := pending.bits * 0x40 + (n - 0x80) }) rest := by
  rw [decodeFrom, Pending.extend, UInt8.toNat_ofNat_of_lt' small, if_pos ⟨low, high⟩, if_neg (by omega)]

/-- The last octet of a code point, within the announced range. -/
theorem decodeFrom_last {pending : Pending} {n : Nat} (small : n < 0x100)
    (low : pending.low ≤ n) (high : n ≤ pending.high) (last : pending.missing = 1) :
    decodeFrom place read (some pending) (.ofNat n :: rest) =
      decodeFrom (place + 1) (CodePoint.ofNat (pending.bits * 0x40 + (n - 0x80)) :: read) none
        rest := by
  rw [decodeFrom, Pending.extend, UInt8.toNat_ofNat_of_lt' small, if_pos ⟨low, high⟩, if_pos (by omega)]

/-- A first octet that announces further ones. -/
theorem decodeFrom_lead {b : Byte} {pending : Pending}
    (announced : announce place b = .ok (.inr pending)) :
    decodeFrom place read none (b :: rest) = decodeFrom (place + 1) read (some pending) rest := by
  rw [decodeFrom, announced]

/-- The first octet of a code point that needs three announces a range that holds the second. -/
theorem announce_three {n : Nat} (wide : 0x800 ≤ n) (narrow : n < 0x10000)
    (whole : ¬(0xD800 ≤ n ∧ n ≤ 0xDFFF)) :
    ∃ low high, announce place (.ofNat (0xE0 + n / 0x1000)) =
        .ok (.inr ⟨place, .ofNat (0xE0 + n / 0x1000), 1, 2, low, high, n / 0x1000⟩) ∧
      low ≤ 0x80 + n / 0x40 % 0x40 ∧ 0x80 + n / 0x40 % 0x40 ≤ high := by
  have small : 0xE0 + n / 0x1000 < 0x100 := by omega
  unfold announce
  dsimp only
  rw [UInt8.toNat_ofNat_of_lt' small, if_neg (by omega), if_neg (by omega), if_neg (by omega)]
  by_cases least : n < 0x1000
  · have digit : n / 0x1000 = 0 := by omega
    refine ⟨0xA0, 0xBF, ?_, by omega, by omega⟩
    rw [if_pos (by omega), digit]
  rw [if_neg (by omega)]
  by_cases besideHalves : n / 0x1000 = 0xD
  · refine ⟨0x80, 0x9F, ?_, by omega, by omega⟩
    rw [if_pos (by omega), besideHalves]
  · refine ⟨0x80, 0xBF, ?_, by omega, by omega⟩
    rw [if_neg (by omega), if_pos (by omega), Nat.add_sub_cancel_left]

/-- The first octet of a code point that needs four announces a range that holds the second. -/
theorem announce_four {n : Nat} (wide : 0x10000 ≤ n) (bounded : n < 0x110000) :
    ∃ low high, announce place (.ofNat (0xF0 + n / 0x40000)) =
        .ok (.inr ⟨place, .ofNat (0xF0 + n / 0x40000), 1, 3, low, high, n / 0x40000⟩) ∧
      low ≤ 0x80 + n / 0x1000 % 0x40 ∧ 0x80 + n / 0x1000 % 0x40 ≤ high := by
  have small : 0xF0 + n / 0x40000 < 0x100 := by omega
  unfold announce
  dsimp only
  rw [UInt8.toNat_ofNat_of_lt' small, if_neg (by omega), if_neg (by omega), if_neg (by omega),
    if_neg (by omega), if_neg (by omega), if_neg (by omega)]
  by_cases least : n < 0x40000
  · have digit : n / 0x40000 = 0 := by omega
    refine ⟨0x90, 0xBF, ?_, by omega, by omega⟩
    rw [if_pos (by omega), digit]
  rw [if_neg (by omega)]
  by_cases last : n / 0x40000 = 4
  · refine ⟨0x80, 0x8F, ?_, by omega, by omega⟩
    rw [if_neg (by omega), if_pos (by omega), last]
  · refine ⟨0x80, 0xBF, ?_, by omega, by omega⟩
    rw [if_pos (by omega), Nat.add_sub_cancel_left]

/-- The first octet of a code point that needs two announces the second. -/
theorem announce_two {n : Nat} (wide : 0x80 ≤ n) (narrow : n < 0x800) :
    announce place (.ofNat (0xC0 + n / 0x40)) =
      .ok (.inr ⟨place, .ofNat (0xC0 + n / 0x40), 1, 1, 0x80, 0xBF, n / 0x40⟩) := by
  have small : 0xC0 + n / 0x40 < 0x100 := by omega
  unfold announce
  dsimp only
  rw [UInt8.toNat_ofNat_of_lt' small, if_neg (by omega), if_neg (by omega), if_pos (by omega),
    Nat.add_sub_cancel_left]

/-- An octet below the first that announces others is a code point of its own. -/
theorem announce_one {n : Nat} (narrow : n < 0x80) :
    announce place (.ofNat n) = .ok (.inl (CodePoint.ofNat n)) := by
  have small : n < 0x100 := by omega
  unfold announce
  dsimp only
  rw [UInt8.toNat_ofNat_of_lt' small, if_pos narrow]

/-- The octets of a code point are read as that code point. -/
theorem decodeFrom_encodePoint {c : CodePoint} (whole : c.isSurrogate = false) :
    ∃ next, decodeFrom place read none (encodePoint c ++ rest) =
      decodeFrom next (c :: read) none rest := by
  have bounded := c.isLt
  rw [CodePoint.isSurrogate_eq_false_iff] at whole
  unfold encodePoint
  dsimp only
  split
  · next narrow =>
    refine ⟨place + 1, ?_⟩
    rw [List.singleton_append, decodeFrom, announce_one narrow]
    dsimp only
    rw [CodePoint.ofNat_val]
  split
  · next wide narrow =>
    refine ⟨place + 1 + 1, ?_⟩
    have bits : c.val / 0x40 * 0x40 + (0x80 + c.val / 1 % 0x40 - 0x80) = c.val := by omega
    rw [List.cons_append, List.singleton_append, decodeFrom_lead (announce_two (by omega) narrow),
      decodeFrom_last (by omega) (by dsimp only; omega) (by dsimp only; omega) rfl, bits,
      CodePoint.ofNat_val]
  split
  · next wide narrow =>
    refine ⟨place + 1 + 1 + 1, ?_⟩
    obtain ⟨low, high, announced, above, below⟩ := @announce_three place c.val (by omega) narrow
      (by omega)
    have bits : (c.val / 0x1000 * 0x40 + (0x80 + c.val / 0x40 % 0x40 - 0x80)) * 0x40 +
        (0x80 + c.val / 1 % 0x40 - 0x80) = c.val := by omega
    rw [List.cons_append, List.cons_append, List.singleton_append, decodeFrom_lead announced,
      decodeFrom_middle (by omega) above below (show 1 < 2 by decide),
      decodeFrom_last (by omega) (by dsimp only; omega) (by dsimp only; omega) rfl, bits,
      CodePoint.ofNat_val]
  · next wide =>
    refine ⟨place + 1 + 1 + 1 + 1, ?_⟩
    obtain ⟨low, high, announced, above, below⟩ := @announce_four place c.val (by omega) bounded
    have bits : ((c.val / 0x40000 * 0x40 + (0x80 + c.val / 0x1000 % 0x40 - 0x80)) * 0x40 +
        (0x80 + c.val / 0x40 % 0x40 - 0x80)) * 0x40 + (0x80 + c.val / 1 % 0x40 - 0x80) =
          c.val := by omega
    rw [List.cons_append, List.cons_append, List.cons_append, List.singleton_append,
      decodeFrom_lead announced, decodeFrom_middle (by omega) above below (show 1 < 3 by decide),
      decodeFrom_middle (by omega) (by dsimp only; omega) (by dsimp only; omega)
        (show 1 < 3 - 1 by decide),
      decodeFrom_last (by omega) (by dsimp only; omega) (by dsimp only; omega) rfl, bits,
      CodePoint.ofNat_val]

end

/-- The octets of a text without halves are read as that text. -/
theorem decodeFrom_flatMap {text : Text} (whole : ∀ c ∈ text, c.isSurrogate = false) (place : Nat)
    (read : Text) :
    decodeFrom place read none (text.flatMap encodePoint) = .ok (read.reverse ++ text) := by
  induction text generalizing place read with
  | nil => rw [List.flatMap_nil, decodeFrom, List.append_nil]
  | cons c more inductionHypothesis =>
    obtain ⟨next, steps⟩ := @decodeFrom_encodePoint place read (more.flatMap encodePoint) c
      (whole c List.mem_cons_self)
    rw [List.flatMap_cons, steps,
      inductionHypothesis (fun other member => whole other (List.mem_cons_of_mem c member)),
      List.reverse_cons, List.append_assoc, List.singleton_append]

/-- There is a run of halves exactly if there are halves. -/
theorem unpaired?_eq_none_iff {text : Text} :
    unpaired? text = none ↔ text.isWhole = true := by
  have parts := @List.takeWhile_append_dropWhile _ (!CodePoint.isSurrogate ·) text
  have behind : text.drop (text.takeWhile (!CodePoint.isSurrogate ·)).length =
      text.dropWhile (!CodePoint.isSurrogate ·) := by
    conv => lhs; arg 2; rw [← parts]
    exact List.drop_left
  have half := List.head?_dropWhile_not (!CodePoint.isSurrogate ·) text
  rw [Text.isWhole_iff, unpaired?, Option.map_eq_none_iff, behind, List.head?_takeWhile]
  cases head : (text.dropWhile (!CodePoint.isSurrogate ·)).head? with
  | none =>
    rw [List.head?_eq_none_iff] at head
    rw [head, List.append_nil] at parts
    refine iff_of_true rfl fun c member => ?_
    rw [← parts] at member
    simpa using List.all_eq_true.1 List.all_takeWhile c member
  | some c =>
    rw [head] at half
    have isHalf : c.isSurrogate = true := by simpa using half
    have member : c ∈ text := List.dropWhile_subset _ (List.mem_of_head? head)
    refine iff_of_false (by simp [isHalf]) fun whole => ?_
    rw [whole c member] at isHalf
    cases isHalf

/-- A text has octets exactly if it has no halves. -/
theorem encode_eq_ok_iff {text : Text} :
    (∃ octets, encode text = .ok octets) ↔ text.isWhole = true := by
  rw [← unpaired?_eq_none_iff, encode]
  cases unpaired? text with
  | none => simp
  | some run => simp

/-- The octets of a text are read as that text. -/
theorem decode_encode {text : Text} {octets : List Byte} (encoded : encode text = .ok octets) :
    decode octets = .ok text := by
  have whole := encode_eq_ok_iff.1 ⟨octets, encoded⟩
  rw [encode, unpaired?_eq_none_iff.2 whole] at encoded
  cases encoded
  exact decodeFrom_flatMap (Text.isWhole_iff.1 whole) 0 []

/-! ## Texts that are read -/

section

variable {low high bits : Nat}

end

/-- Without carriage returns there are no line ends to unify. -/
theorem unifyLines_of_not_mem {text : Text} (single : ('\r' : CodePoint) ∉ text) :
    unifyLines text = text := by
  have behind : ∀ before, before ≠ some ('\r' : CodePoint) →
      ((text.zip (before :: text.map some)).filterMap fun pair =>
        if pair.1 = ('\n' : CodePoint) ∧ pair.2 = some ('\r' : CodePoint) then none
        else if pair.1 = ('\r' : CodePoint) then some ('\n' : CodePoint)
        else some pair.1) = text := by
    induction text with
    | nil => exact fun _ _ => rfl
    | cons c more inductionHypothesis =>
      intro before apart
      rw [List.mem_cons, not_or] at single
      have later := inductionHypothesis single.2 (some c) fun same =>
        single.1 (Option.some.inj same).symm
      rw [List.map_cons, List.zip_cons_cons, List.filterMap_cons]
      dsimp only
      rw [if_neg (fun both => apart both.2), if_neg (Ne.symm single.1)]
      exact congrArg (c :: ·) later
  exact behind none (Option.some_ne_none _).symm

end Utf8
end ThreatMatrix
