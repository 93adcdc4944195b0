import ThreatMatrix.Technique.Id

/-!
# Identifiers of numbers

The identifier that numbers have in plain digits. `TechniqueId.key_ofNumbers` says that the numbers
can be read off again, so different numbers have different identifiers.
-/

namespace ThreatMatrix

/-- The plain digit of the last decimal place of a number. -/
def plainDigit (n : Nat) : CodePoint :=
  CodePoint.ofNat (0x30 + n % 10)

theorem digitValue?_plainDigit (n : Nat) : (plainDigit n).digitValue? = some (n % 10) := by
  have digits : ∀ d : Fin 10, (CodePoint.ofNat (0x30 + d.val)).digitValue? = some d.val := by decide
  exact digits ⟨n % 10, Nat.mod_lt n (by decide)⟩

theorem hasValue_plainDigit (n : Nat) : (plainDigit n).hasValue = true := by
  rw [CodePoint.hasValue, digitValue?_plainDigit, Option.isSome_some]

theorem isDigit_plainDigit (n : Nat) : (plainDigit n).isDigit = true :=
  CodePoint.isDigit_of_hasValue (hasValue_plainDigit n)

theorem plainDigit_ne_point (n : Nat) : plainDigit n ≠ '.' := by
  have digits : ∀ d : Fin 10, CodePoint.ofNat (0x30 + d.val) ≠ '.' := by decide
  exact digits ⟨n % 10, Nat.mod_lt n (by decide)⟩

namespace TechniqueId

/-- The four digits of a technique number. -/
def baseDigits (base : Nat) : Text :=
  [plainDigit (base / 1000), plainDigit (base / 100), plainDigit (base / 10), plainDigit base]

/-- The three digits of a sub-technique number. -/
def subDigits (sub : Nat) : Text :=
  [plainDigit (sub / 100), plainDigit (sub / 10), plainDigit sub]

/-- The identifier of a technique number and a sub-technique number, which is zero for a technique
itself. -/
def ofNumbers (base sub : Nat) : TechniqueId :=
  if sub = 0 then
    ⟨('T' : CodePoint) :: baseDigits base, by
      simp [isTechniqueId, hasIdForm, baseDigits, isDigit_plainDigit]⟩
  else
    ⟨('T' : CodePoint) :: baseDigits base ++ ('.' : CodePoint) :: subDigits sub, by
      simp [isTechniqueId, hasIdForm, baseDigits, subDigits, isDigit_plainDigit]⟩

/-- The digits of an identifier of numbers have values. -/
theorem hasValues_ofNumbers (base sub : Nat) : (ofNumbers base sub).HasValues := by
  have plain : ∀ c ∈ (ofNumbers base sub).text,
      c = ('T' : CodePoint) ∨ c = ('.' : CodePoint) ∨ c.hasValue = true := by
    unfold ofNumbers
    split
    · simp [baseDigits, hasValue_plainDigit]
    · simp [baseDigits, subDigits, hasValue_plainDigit]
  intro c member digit
  rcases plain c member with rfl | rfl | valued
  · exact absurd digit (by decide)
  · exact absurd digit (by decide)
  · exact valued

theorem number?_baseDigits {base : Nat} (bounded : base < 10000) :
    Text.number? (baseDigits base) = some base := by
  simp only [baseDigits, Text.number?, List.foldlM_cons, List.foldlM_nil, digitValue?_plainDigit,
    Option.map_some, Option.bind_eq_bind, Option.bind_some, Option.pure_def, Option.some.injEq]
  omega

theorem number?_subDigits {sub : Nat} (bounded : sub < 1000) :
    Text.number? (subDigits sub) = some sub := by
  simp only [subDigits, Text.number?, List.foldlM_cons, List.foldlM_nil, digitValue?_plainDigit,
    Option.map_some, Option.bind_eq_bind, Option.bind_some, Option.pure_def, Option.some.injEq]
  omega

/-- The numbers of an identifier of numbers are those numbers. -/
theorem key_ofNumbers {base sub : Nat} (baseBounded : base < 10000) (subBounded : sub < 1000) :
    (ofNumbers base sub).key = (base, sub) := by
  have noPoint : ∀ n, (plainDigit n == '.') = false := fun n => by
    simpa using plainDigit_ne_point n
  unfold ofNumbers
  split
  · next zero =>
    subst zero
    have parted : Text.partition '.' (baseDigits base) = (baseDigits base, []) := by
      simp [Text.partition, baseDigits, noPoint, bne]
    have nothing : Text.number? [] = none := rfl
    simp [key, parted, number?_baseDigits baseBounded, nothing]
  · have parted : Text.partition '.' (baseDigits base ++ ('.' : CodePoint) :: subDigits sub) =
        (baseDigits base, subDigits sub) := by
      simp [Text.partition, baseDigits, noPoint, bne]
    simp [key, parted, number?_baseDigits baseBounded, number?_subDigits subBounded]

/-- The parent of a sub-technique of numbers is the technique of its first number. -/
theorem parentText?_ofNumbers {base sub : Nat} {parent : Text}
    (isParent : (ofNumbers base sub).parentText? = some parent) :
    sub ≠ 0 ∧ parent = (ofNumbers base 0).text := by
  have noPoint : ∀ n, (plainDigit n == '.') = false := fun n => by
    simpa using plainDigit_ne_point n
  have letter : ('T' : CodePoint) ≠ '.' := by decide
  by_cases zero : sub = 0
  · subst zero
    have plain : (ofNumbers base 0).isSub = false := by
      simp [ofNumbers, isSub, baseDigits, letter.symm, (plainDigit_ne_point _).symm]
    simp [parentText?, plain] at isParent
  · refine ⟨zero, ?_⟩
    have sub : (ofNumbers base sub).isSub = true := by
      simp [ofNumbers, isSub, zero, List.contains_eq_mem]
    simp only [parentText?, sub, if_true, Option.some.injEq] at isParent
    rw [← isParent]
    simp [ofNumbers, zero, Text.partition, baseDigits, noPoint, letter, bne]

end TechniqueId
end ThreatMatrix
