import ThreatMatrix.Proofs.Coverage.Spelling
import ThreatMatrix.Proofs.Table.Reordering

/-!
# When validation looks at the settings

Only a low line in the spelling of a technique makes validation look at the settings. Without one
the settings have no part in what validation comes to; with one, validation fails wherever the
settings cannot be read.
-/

namespace ThreatMatrix

/-- Items that two checks treat alike are checked alike. -/
theorem checkItems_congr {α β : Type} {left right : α → Except (List Issue) β} {items : List α}
    (alike : ∀ item ∈ items, left item = right item) (index : Nat) :
    checkItems left index items = checkItems right index items := by
  induction items generalizing index with
  | nil => rfl
  | cons item more inductionHypothesis =>
    have others := inductionHypothesis fun other member => alike other (List.mem_cons_of_mem _ member)
    rw [checkItems, checkItems, alike item List.mem_cons_self, others]

/-- Items that pass together pass one by one. -/
theorem passes_of_checkItems {α β : Type} {check : α → Except (List Issue) β} {index : Nat}
    {items : List α} {results : List β} (passes : checkItems check index items = .ok results)
    {item : α} (member : item ∈ items) : ∃ result, check item = .ok result := by
  have each := checkItems_eq_ok_iff.1 passes
  induction each with
  | nil => cases member
  | @cons first result more others isFirst rest inductionHypothesis =>
    rcases List.mem_cons.1 member with rfl | later
    · exact ⟨result, isFirst⟩
    · exact inductionHypothesis (checkItems_eq_ok_iff.2 rest) later

namespace Coverage

/-- A value that spells a technique with a low line. -/
def HasLowLine (value : Value) : Prop :=
  ∃ text, spelling? value = some text ∧ ('_' : CodePoint) ∈ text

/-- The items of a list. -/
def itemsOf : Value → List Value
  | .list items => items
  | .tuple items => items
  | _ => []

/-- A value that lists another among its techniques. -/
inductive ListsTechnique (item : Value) : Value → Prop where
  | listed {fields : List (Text × Value)} {value : Value}
      (found : fields.lookup ("techniques" : Text) = some value) (member : item ∈ itemsOf value) :
      ListsTechnique item (.record fields)

section

variable {α : Type} {check left right : Value → Except (List Issue) α} {value item : Value}
  {results : List α} {source : Source}

/-- Items that two checks treat alike make lists that they treat alike. -/
theorem checkList_congr (alike : ∀ item ∈ itemsOf value, left item = right item) :
    checkList source left value = checkList source right value := by
  unfold checkList
  split
  · exact checkItems_congr alike 0
  · exact checkItems_congr alike 0
  · rfl

/-- The items of a list that passes pass one by one. -/
theorem passes_of_checkList (passes : checkList source check value = .ok results)
    (member : item ∈ itemsOf value) : ∃ result, check item = .ok result := by
  unfold checkList at passes
  split at passes
  · exact passes_of_checkItems passes member
  · exact passes_of_checkItems passes member
  · cases passes

/-- Validation looks at the settings for a list that holds a low line. -/
theorem consultsFor_iff :
    consultsFor value = true ↔ ∃ item ∈ itemsOf value, (lowLine? item).isSome = true := by
  cases value with
  | list items => exact List.any_eq_true
  | tuple items => exact List.any_eq_true
  | _ => simp [consultsFor, itemsOf]

end

section

variable {catalog : Catalog} {settings : Except Report Settings} {report : Report}
  {value item : Value}

/-- A low line is looked for in spellings only. -/
theorem lowLine?_isSome_iff : (lowLine? value).isSome = true ↔ HasLowLine value := by
  cases spells : spelling? value with
  | none =>
    have noText : lowLine? value = none := by
      cases value with
      | member member =>
        cases member with
        | technique _ => rfl
        | _ => cases spells
      | text _ => cases spells
      | _ => rfl
    simp [HasLowLine, noText, spells]
  | some text => simp [HasLowLine, lowLine?_of_spelling spells, spells]

/-- Validation looks at the settings for a value that lists a low line. -/
theorem consultsSettings_iff :
    consultsSettings value = true ↔ ∃ item, ListsTechnique item value ∧ HasLowLine item := by
  constructor
  · intro consults
    unfold consultsSettings at consults
    split at consults
    · split at consults
      · next listed found =>
        obtain ⟨item, member, isLowLine⟩ := consultsFor_iff.1 consults
        exact ⟨item, .listed found member, lowLine?_isSome_iff.1 isLowLine⟩
      · cases consults
    · cases consults
  · rintro ⟨item, ⟨found, member⟩, lowLine⟩
    rw [consultsSettings, found]
    exact consultsFor_iff.2 ⟨item, member, lowLine?_isSome_iff.2 lowLine⟩

/-- Without a low line the settings have no part in checking a technique. -/
theorem checkTechnique_of_not_hasLowLine (noLowLine : ¬HasLowLine value)
    (left right : Except Report Settings) :
    checkTechnique catalog left value = checkTechnique catalog right value := by
  rw [← lowLine?_isSome_iff, Bool.not_eq_true, Option.isSome_eq_false_iff, Option.isNone_iff_eq_none]
    at noLowLine
  unfold checkTechnique
  split
  · rfl
  · rw [noLowLine]

/-- With a low line a technique is refused for what is wrong with the settings. -/
theorem checkTechnique_of_unreadable (lowLine : HasLowLine value) :
    checkTechnique catalog (.error report) value = .error report.issues := by
  obtain ⟨text, isLowLine⟩ := Option.isSome_iff_exists.1 (lowLine?_isSome_iff.2 lowLine)
  unfold checkTechnique
  split
  · cases isLowLine
  · rw [isLowLine]

/-- Where nothing with a low line is listed the settings have no part in checking a coverage. -/
theorem check_of_not_consultsSettings (noLowLine : consultsSettings value = false)
    (left right : Except Report Settings) (source : Source) :
    check catalog left source value = check catalog right source value := by
  have plain : ∀ item, ListsTechnique item value →
      checkTechnique catalog left item = checkTechnique catalog right item := by
    intro item lists
    apply checkTechnique_of_not_hasLowLine
    intro lowLine
    rw [consultsSettings_iff.2 ⟨item, lists, lowLine⟩] at noLowLine
    cases noLowLine
  unfold check
  split
  · next fields =>
    have techniques :
        checkListField source fields "techniques" (checkTechnique catalog left) =
          checkListField source fields "techniques" (checkTechnique catalog right) := by
      unfold checkListField
      split
      · rfl
      · next listed found =>
        rw [checkList_congr fun item member => plain item (.listed found member)]
    rw [techniques]
  · rfl

/-- Where something with a low line is listed and the settings cannot be read a coverage is refused.
-/
theorem exists_check_error (lowLine : consultsSettings value = true) (source : Source) :
    ∃ issues, check catalog (.error report) source value = .error issues := by
  obtain ⟨item, ⟨found, member⟩, hasLowLine⟩ := consultsSettings_iff.1 lowLine
  apply exists_eq_error_iff.2
  intro coverage passes
  obtain ⟨⟨tactics, techniques⟩, both, -⟩ := bind_eq_ok_iff.1 passes
  have techniquesPass := (bothChecked_eq_ok_iff.1 both).2
  rw [checkListField, found] at techniquesPass
  obtain ⟨technique, isPassed⟩ := passes_of_checkList (mapError_eq_ok_iff.1 techniquesPass) member
  rw [checkTechnique_of_unreadable hasLowLine] at isPassed
  cases isPassed

end

end Coverage
end ThreatMatrix
