import ThreatMatrix.Text.Digit

/-!
# Numerals read back

The digits of a number, added up from the front, come to that number. This holds in every base, and
for every way to add a digit up that knows the digits of the base.
-/

namespace ThreatMatrix

/-- The ten digits of decimal numerals are read as their values. -/
theorem CodePoint.digitValue?_digitChar {n : Nat} (bounded : n < 10) :
    (CodePoint.ofChar n.digitChar).digitValue? = some n := by
  have digits : ∀ d : Fin 10, (CodePoint.ofChar (Nat.digitChar d)).digitValue? = some d.val := by
    decide
  exact digits ⟨n, bounded⟩

namespace Text

/-- The digits of a number come to that number. -/
theorem foldlM_toDigits {base : Nat} (large : 1 < base) {add : Nat → CodePoint → Option Nat}
    (adds : ∀ value digit, digit < base →
      add value (CodePoint.ofChar digit.digitChar) = some (base * value + digit)) (n : Nat) :
    ((Nat.toDigits base n).map CodePoint.ofChar).foldlM add 0 = some n := by
  induction n using Nat.strongRecOn with
  | ind n inductionHypothesis =>
    rw [Nat.toDigits_eq_if large]
    split
    · next small =>
      have only := adds 0 n small
      rw [Nat.mul_zero, Nat.zero_add] at only
      rw [List.map_singleton, List.foldlM_cons, only]
      rfl
    · next notSmall =>
      have shorter := inductionHypothesis (n / base) (Nat.div_lt_self (by omega) large)
      have last := adds (n / base) (n % base) (Nat.mod_lt n (by omega))
      rw [Nat.div_add_mod] at last
      rw [List.map_append, List.map_singleton, List.foldlM_append, shorter]
      show [CodePoint.ofChar (n % base).digitChar].foldlM add (n / base) = some n
      rw [List.foldlM_cons, last]
      rfl

/-- The numeral of a number is read as that number. -/
theorem number?_decimal (n : Nat) : number? (decimal n) = some n := by
  have something : decimal n ≠ [] := by
    rw [decimal, Nat.toDigits_eq_if (by decide)]
    split
    · exact List.cons_ne_nil _ _
    · simp
  have isRead : (decimal n).foldlM (fun value c => c.digitValue?.map (10 * value + ·)) 0 = some n :=
    foldlM_toDigits (by decide) (fun value digit bounded => by
      rw [CodePoint.digitValue?_digitChar bounded, Option.map_some]) n
  rw [number?, isRead]
  exact something

end Text
end ThreatMatrix
