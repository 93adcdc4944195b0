import ThreatMatrix.Proofs.Coverage.Validation
import ThreatMatrix.Proofs.Text.Marks

/-!
# Spellings of techniques

What is accepted as a technique where settings can be read. A text spells a technique by its
identifier, or by its symbol if low lines are accepted, both in any letter case. Validation
exchanges every low line of a text before it looks the text up; that this accepts nothing else rests
on the form of identifiers, in which a point occurs once at most.
-/

namespace ThreatMatrix

/-! ## Marks of identifiers -/

namespace Text

/-- How many points and low lines occur in a text. -/
def separators (text : Text) : Nat :=
  text.count ('.' : CodePoint) + text.count ('_' : CodePoint)

/-- A text has the separators of its small form. -/
theorem separators_lower (text : Text) : text.lower.separators = text.separators := by
  rw [separators, count_lower (by decide), count_lower (by decide), separators]

end Text

namespace TechniqueId

/-- Digits are no low lines. -/
theorem lowLine_not_mem_of_isNumeral {count : Nat} {digits : Text}
    (numeral : Text.IsNumeral count digits) : ('_' : CodePoint) ∉ digits := fun member =>
  CodePoint.ne_of_isDigit (numeral.2 _ member) (by decide) rfl

/-- The symbol of a technique itself is its identifier. -/
theorem symbol_of_not_isSub {id : TechniqueId} (plain : id.isSub = false) :
    id.symbol = id.text := by
  refine Text.exchange_of_not_mem ?_
  simpa [isSub] using plain

/-- The identifier and the symbol of a sub-technique differ in the separator. -/
theorem spellings_of_isSub {id : TechniqueId} (isSub : id.isSub = true) :
    ∃ before after : Text, ('.' : CodePoint) ∉ before ∧ ('.' : CodePoint) ∉ after ∧
      ('_' : CodePoint) ∉ before ∧ ('_' : CodePoint) ∉ after ∧
      id.text = before ++ ('.' : CodePoint) :: after ∧
      id.symbol = before ++ ('_' : CodePoint) :: after := by
  obtain ⟨base, sub, baseNumeral, subNumeral, isText⟩ := text_of_isSub isSub
  have noPoint : ('.' : CodePoint) ∉ ('T' : CodePoint) :: base := by
    rw [List.mem_cons, not_or]
    exact ⟨by decide, baseNumeral.point_not_mem⟩
  have noLowLine : ('_' : CodePoint) ∉ ('T' : CodePoint) :: base := by
    rw [List.mem_cons, not_or]
    exact ⟨by decide, lowLine_not_mem_of_isNumeral baseNumeral⟩
  refine ⟨('T' : CodePoint) :: base, sub, noPoint, subNumeral.point_not_mem, noLowLine,
    lowLine_not_mem_of_isNumeral subNumeral, isText, ?_⟩
  rw [symbol, isText, ← List.cons_append, Text.exchange_append, Text.exchange_of_not_mem noPoint,
    Text.exchange_cons, if_pos rfl, Text.exchange_of_not_mem subNumeral.point_not_mem]

/-- An identifier holds one separator at most, and so does its symbol. -/
theorem separators_le (id : TechniqueId) :
    id.text.separators ≤ 1 ∧ id.symbol.separators ≤ 1 := by
  cases isSub : id.isSub with
  | false =>
    have noPoint : ('.' : CodePoint) ∉ id.text := by simpa [TechniqueId.isSub] using isSub
    rw [symbol_of_not_isSub isSub, Text.separators, List.count_eq_zero_of_not_mem noPoint,
      List.count_eq_zero_of_not_mem id.lowLine_not_mem]
    exact ⟨Nat.zero_le 1, Nat.zero_le 1⟩
  | true =>
    obtain ⟨before, after, noPoint, noPointAfter, noLowLine, noLowLineAfter, isText, isSymbol⟩ :=
      spellings_of_isSub isSub
    have apart : ('.' : CodePoint) ≠ '_' := by decide
    rw [isText, isSymbol]
    simp [Text.separators, List.count_append, apart, apart.symm,
      List.count_eq_zero_of_not_mem noPoint, List.count_eq_zero_of_not_mem noPointAfter,
      List.count_eq_zero_of_not_mem noLowLine, List.count_eq_zero_of_not_mem noLowLineAfter]

/-- A small form with a low line becomes that of an identifier by exchanging its low lines exactly
if it is that of the symbol. -/
theorem lower_exchange_eq_iff {id : TechniqueId} {text : Text}
    (lowLine : ('_' : CodePoint) ∈ text) :
    (text.exchange '_' '.').lower = id.text.lower ↔ text.lower = id.symbol.lower := by
  have present : ('_' : CodePoint) ∈ text.lower := (Text.mem_lower (by decide)).2 lowLine
  rw [Text.lower_exchange (by decide) (by decide)]
  constructor
  · intro exchanged
    cases isSub : id.isSub with
    | false =>
      have point : ('.' : CodePoint) ∈ id.text.lower := exchanged ▸ Text.mem_exchange present
      rw [Text.mem_lower (by decide)] at point
      simp [TechniqueId.isSub, point] at isSub
    | true =>
      obtain ⟨before, after, noPoint, noPointAfter, -, -, isText, isSymbol⟩ :=
        spellings_of_isSub isSub
      have pointLower : CodePoint.lower '.' = [('.' : CodePoint)] := by decide
      have lowLineLower : CodePoint.lower '_' = [('_' : CodePoint)] := by decide
      have isLower : id.text.lower = before.lower ++ ('.' : CodePoint) :: after.lower := by
        rw [isText, Text.lower, List.flatMap_append, List.flatMap_cons, pointLower]
        rfl
      have isLowerSymbol : id.symbol.lower = before.lower ++ ('_' : CodePoint) :: after.lower := by
        rw [isSymbol, Text.lower, List.flatMap_append, List.flatMap_cons, lowLineLower]
        rfl
      rw [isLowerSymbol]
      refine Text.eq_of_exchange present ?_ ?_ (exchanged.trans isLower)
      · rwa [Text.mem_lower (by decide)]
      · rwa [Text.mem_lower (by decide)]
  · intro isSymbol
    rw [isSymbol, ← Text.lower_exchange (by decide) (by decide), exchange_symbol]

end TechniqueId

/-! ## What is accepted -/

/-- A text spells an identifier as it is written or, if low lines are accepted, as its symbol is
written, both in any letter case. -/
def TechniqueId.IsSpelledBy (id : TechniqueId) (lowLines : Bool) (text : Text) : Prop :=
  text.lower = id.text.lower ∨ lowLines = true ∧ text.lower = id.symbol.lower

namespace TechniqueId

variable {left right : TechniqueId} {lowLines : Bool} {text : Text}

/-- A text that spells an identifier holds one separator at most. -/
theorem separators_of_isSpelledBy (spelled : left.IsSpelledBy lowLines text) :
    text.separators ≤ 1 := by
  rw [← Text.separators_lower]
  rcases spelled with isIdentifier | ⟨-, isSymbol⟩
  · rw [isIdentifier, Text.separators_lower]
    exact left.separators_le.1
  · rw [isSymbol, Text.separators_lower]
    exact left.separators_le.2

/-- No identifier is written as the symbol of a sub-technique in any letter case. -/
theorem lower_ne_lower_symbol (isSub : left.isSub = true) :
    right.text.lower ≠ left.symbol.lower := by
  intro same
  have point : ('.' : CodePoint) ∈ left.text := by simpa [TechniqueId.isSub] using isSub
  have lowLine : ('_' : CodePoint) ∈ left.symbol.lower :=
    (Text.mem_lower (by decide)).2 (Text.mem_exchange point)
  rw [← same, Text.mem_lower (by decide)] at lowLine
  exact right.lowLine_not_mem lowLine

/-- With its low lines exchanged a spelling is that of the identifier. -/
theorem exchange_of_isSpelledBy (spelled : left.IsSpelledBy lowLines text) :
    text.lower.exchange '_' '.' = left.text.lower := by
  rcases spelled with isIdentifier | ⟨-, isSymbol⟩
  · have noLowLine : ('_' : CodePoint) ∉ left.text.lower := by
      rw [Text.mem_lower (by decide)]
      exact left.lowLine_not_mem
    rw [isIdentifier, Text.exchange_of_not_mem noLowLine]
  · rw [isSymbol, ← Text.lower_exchange (by decide) (by decide), exchange_symbol]

/-- A text spells one identifier at most. -/
theorem eq_of_isSpelledBy (spellsLeft : left.IsSpelledBy lowLines text)
    (spellsRight : right.IsSpelledBy lowLines text) : left = right :=
  lower_injective
    ((exchange_of_isSpelledBy spellsLeft).symm.trans (exchange_of_isSpelledBy spellsRight))

end TechniqueId

namespace Coverage

/-- The text by which a value spells a technique. A technique itself is not spelled. -/
def spelling? : Value → Option Text
  | .member (.technique _) => none
  | value => value.asText?

section

variable {catalog : Catalog} {settings : Settings} {technique : Technique} {value : Value}
  {text : Text}

theorem identified_eq_ok_iff {result : Except Unrecognized Technique} :
    identified result = .ok technique ↔ result = .ok technique :=
  mapError_eq_ok_iff

/-- A value that counts as a text is read as the member whose identifier the text is in some letter
case. -/
theorem ofValue_eq_ok_iff_of_asText? (isText : value.asText? = some text) :
    catalog.ofValue value = .ok technique ↔
      technique ∈ catalog.techniques ∧ text.lower = technique.id.text.lower := by
  rw [eq_comm (a := text.lower), ← Catalog.parse?_eq_some_iff, Catalog.ofValue, isText]
  simp only [Option.bind_some]
  cases catalog.parse? text with
  | none => simp
  | some found => simp

/-- A spelling is a text, or a member of another vocabulary that counts as one. -/
theorem eq_of_spelling (spells : spelling? value = some text) :
    value = .text text ∨ ∃ member, value = .member member ∧ member.text = text ∧
      ∀ technique, member ≠ .technique technique := by
  cases value with
  | text content =>
    cases spells
    exact .inl rfl
  | member member =>
    cases member with
    | technique _ => cases spells
    | _ =>
      cases spells
      exact .inr ⟨_, rfl, rfl, nofun⟩
  | _ => cases spells

/-- Settings are looked at for a spelling with a low line. -/
theorem lowLine?_of_spelling (spells : spelling? value = some text) :
    lowLine? value = if text.contains '_' then some text else none := by
  rcases eq_of_spelling spells with rfl | ⟨member, rfl, rfl, other⟩
  · rfl
  · cases member with
    | technique technique => exact absurd rfl (other technique)
    | _ => rfl

/-- How a spelling is looked up: low lines in it are exchanged if they are accepted. -/
theorem checkTechnique_of_spelling (spells : spelling? value = some text) :
    checkTechnique catalog (.ok settings) value =
      if text.contains '_' && settings.acceptLegacyTags then
        identified (catalog.ofValue (.text (text.exchange '_' '.')))
      else identified (catalog.ofValue value) := by
  unfold checkTechnique
  split
  · cases spells
  · rw [lowLine?_of_spelling spells]
    cases text.contains '_' with
    | true => rfl
    | false => rfl

/-- A spelling is accepted as the techniques that it spells. -/
theorem checkTechnique_eq_ok_iff (spells : spelling? value = some text) :
    checkTechnique catalog (.ok settings) value = .ok technique ↔
      technique ∈ catalog.techniques ∧
        technique.id.IsSpelledBy settings.acceptLegacyTags text := by
  have isText : value.asText? = some text := by
    rcases eq_of_spelling spells with rfl | ⟨member, rfl, rfl, -⟩
    · rfl
    · rfl
  rw [checkTechnique_of_spelling spells]
  split
  · next exchanged =>
    obtain ⟨contained, accepted⟩ := Bool.and_eq_true_iff.1 exchanged
    have lowLine : ('_' : CodePoint) ∈ text := List.contains_iff_mem.1 contained
    have noIdentifier : ¬text.lower = technique.id.text.lower := by
      intro same
      have present := (Text.mem_lower (by decide)).2 lowLine
      rw [same, Text.mem_lower (by decide)] at present
      exact technique.id.lowLine_not_mem present
    rw [identified_eq_ok_iff, ofValue_eq_ok_iff_of_asText? rfl,
      TechniqueId.lower_exchange_eq_iff lowLine]
    simp [TechniqueId.IsSpelledBy, accepted, noIdentifier]
  · next asIs =>
    rw [identified_eq_ok_iff, ofValue_eq_ok_iff_of_asText? isText]
    refine and_congr_right fun _ => ⟨Or.inl, ?_⟩
    rintro (same | ⟨accepted, isSymbol⟩)
    · exact same
    · -- Low lines are accepted and there is none, so the symbol is the identifier.
      have noLowLine : ('_' : CodePoint) ∉ technique.id.symbol := by
        rw [← Text.mem_lower (by decide), ← isSymbol, Text.mem_lower (by decide)]
        exact fun lowLine =>
          asIs (Bool.and_eq_true_iff.2 ⟨List.contains_iff_mem.2 lowLine, accepted⟩)
      have plain : ('.' : CodePoint) ∉ technique.id.text := fun point =>
        noLowLine (Text.mem_exchange point)
      rwa [TechniqueId.symbol, Text.exchange_of_not_mem plain] at isSymbol

/-- Accepting low lines changes nothing that was accepted before. -/
theorem checkTechnique_of_lenient {strict lenient : Settings}
    (accepted : lenient.acceptLegacyTags = true)
    (passes : checkTechnique catalog (.ok strict) value = .ok technique) :
    checkTechnique catalog (.ok lenient) value = .ok technique := by
  cases spells : spelling? value with
  | none =>
    cases value with
    | member member =>
      cases member with
      | technique _ => exact passes
      | _ => cases spells
    | text _ => cases spells
    | _ => cases passes
  | some text =>
    rw [checkTechnique_eq_ok_iff spells] at passes ⊢
    refine ⟨passes.1, ?_⟩
    rcases passes.2 with isIdentifier | ⟨-, isSymbol⟩
    · exact .inl isIdentifier
    · exact .inr ⟨accepted, isSymbol⟩

/-- Members of a catalog that a text spells are one member. -/
theorem eq_of_spelled {other : Technique} (isMember : technique ∈ catalog.techniques)
    (isOther : other ∈ catalog.techniques) (spells : technique.id.IsSpelledBy true text)
    (spellsOther : other.id.IsSpelledBy true text) : technique = other := by
  have same := TechniqueId.eq_of_isSpelledBy spells spellsOther
  have found := Catalog.ofId?_eq_some_iff.2 ⟨isMember, congrArg TechniqueId.text same⟩
  have foundOther := Catalog.ofId?_eq_some_iff.2 ⟨isOther, rfl⟩
  exact Option.some.inj (found.symm.trans foundOther)

/-- The symbol of a sub-technique is accepted exactly where low lines are. -/
theorem checkTechnique_symbol (isMember : technique ∈ catalog.techniques)
    (isSub : technique.id.isSub = true) :
    if settings.acceptLegacyTags then
      checkTechnique catalog (.ok settings) (.text technique.id.symbol) = .ok technique
    else
      ∃ issues, checkTechnique catalog (.ok settings) (.text technique.id.symbol) = .error issues := by
  have spells : spelling? (.text technique.id.symbol) = some technique.id.symbol := rfl
  split
  · next accepted =>
    exact (checkTechnique_eq_ok_iff spells).2 ⟨isMember, .inr ⟨accepted, rfl⟩⟩
  · next refused =>
    refine exists_eq_error_iff.2 fun other passes => ?_
    rcases ((checkTechnique_eq_ok_iff spells).1 passes).2 with isIdentifier | ⟨accepted, -⟩
    · exact TechniqueId.lower_ne_lower_symbol isSub isIdentifier.symm
    · exact refused accepted

end

/-- How validation accepts techniques of a catalog wherever settings can be read. -/
structure AcceptsSpellings (catalog : Catalog) : Prop where
  /-- A spelling is accepted as a member exactly if it is that of the member's identifier or, where
  low lines are accepted, of its symbol. -/
  spelled : ∀ settings value text technique, spelling? value = some text →
    (checkTechnique catalog (.ok settings) value = .ok technique ↔
      technique ∈ catalog.techniques ∧
        technique.id.IsSpelledBy settings.acceptLegacyTags text)
  /-- Accepting low lines takes no spelling away and changes the meaning of none. -/
  extended : ∀ strict lenient value technique, lenient.acceptLegacyTags = true →
    checkTechnique catalog (.ok strict) value = .ok technique →
      checkTechnique catalog (.ok lenient) value = .ok technique
  /-- No text spells two members. -/
  unambiguous : ∀ text, ∀ left ∈ catalog.techniques, ∀ right ∈ catalog.techniques,
    left.id.IsSpelledBy true text → right.id.IsSpelledBy true text → left = right
  /-- The symbol of a sub-technique is accepted as that sub-technique if low lines are accepted, and
  else refused. -/
  symbols : ∀ settings : Settings, ∀ technique ∈ catalog.techniques, technique.id.isSub = true →
    if settings.acceptLegacyTags then
      checkTechnique catalog (.ok settings) (.text technique.id.symbol) = .ok technique
    else ∃ issues, checkTechnique catalog (.ok settings) (.text technique.id.symbol) = .error issues
  /-- A spelling with two separators is refused, be they points or low lines. -/
  separated : ∀ settings value text, spelling? value = some text → 2 ≤ text.separators →
    ∃ issues, checkTechnique catalog (.ok settings) value = .error issues
  /-- What is neither a text nor a member is refused. -/
  others : ∀ settings value, value.asText? = none →
    ∃ issues, checkTechnique catalog (.ok settings) value = .error issues

/-- Every catalog accepts the spellings of its members and nothing else. -/
theorem acceptsSpellings (catalog : Catalog) : AcceptsSpellings catalog where
  spelled _ _ _ _ spells := checkTechnique_eq_ok_iff spells
  extended _ _ _ _ accepted passes := checkTechnique_of_lenient accepted passes
  unambiguous _ _ isLeft _ isRight spellsLeft spellsRight :=
    eq_of_spelled isLeft isRight spellsLeft spellsRight
  symbols _ _ member isSub := checkTechnique_symbol member isSub
  separated := by
    intro settings value text spells separators
    refine exists_eq_error_iff.2 fun technique passes => ?_
    have isSpelled := ((checkTechnique_eq_ok_iff spells).1 passes).2
    have alone := TechniqueId.separators_of_isSpelledBy isSpelled
    omega
  others := by
    intro settings value noText
    refine exists_eq_error_iff.2 fun technique passes => ?_
    cases value with
    | text _ => cases noText
    | member _ => cases noText
    | _ => cases passes

end Coverage
end ThreatMatrix
