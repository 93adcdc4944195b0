import ThreatMatrix.Identifier
import ThreatMatrix.Proofs.Coverage.Rendering
import ThreatMatrix.Proofs.Text.Small

/-!
# What is read as an identifier

Identifiers are looked up by their small forms. All vocabularies are plain, so what is accepted can
be told without small forms: a technique has two spellings, a tactic those that differ from its
identifier or the alias in the case of basic letters, and a shortname those in which low lines may
stand for hyphens and, besides the case of basic letters, the Kelvin sign for k. Whatever else is
offered is refused, and it is part of the fault.
-/

namespace ThreatMatrix

/-- What is found under a text depends on the keys that it is only. -/
theorem lookup_congr {α : Type} {entries : List (Text × α)} {left right : Text}
    (alike : ∀ entry ∈ entries, (left = entry.1 ↔ right = entry.1)) :
    entries.lookup left = entries.lookup right := by
  induction entries with
  | nil => rfl
  | cons entry more inductionHypothesis =>
    have rest := inductionHypothesis fun other member => alike other (List.mem_cons_of_mem _ member)
    have here : (left == entry.1) = (right == entry.1) := by
      rw [Bool.eq_iff_iff, beq_iff_eq, beq_iff_eq]
      exact alike entry List.mem_cons_self
    rw [List.lookup_cons, List.lookup_cons, here, rest]

/-- Texts that differ in the case of basic letters at most. -/
def Text.EqualUpToCase (left right : Text) : Prop :=
  left.map CodePoint.lowerBasic = right.map CodePoint.lowerBasic

/-- A text as long as another one, of plain code points that are no white space. -/
def Text.IsLike (text canonical : Text) : Prop :=
  text.length = canonical.length ∧ ∀ c ∈ text, c.isPlain = true ∧ c.isBlank = false

/-! ## Tactics -/

namespace Tactic

variable {text : Text} {tactic : Tactic} {matrix : Matrix}

/-- The small forms of the vocabulary are plain, without a k and without white space. -/
theorem isPlain_of_mem_vocabulary : ∀ entry ∈ vocabulary,
    (entry.1.all fun c => c.isPlain && !c.isBlank) = true ∧ ('k' : CodePoint) ∉ entry.1 := by
  decide +kernel

/-- The small form of an identifier differs from it in the case of basic letters only. -/
theorem lower_id (tactic : Tactic) : tactic.id.lower = tactic.id.map CodePoint.lowerBasic := by
  cases tactic <;> decide

/-- The small forms of the identifiers are keys of the vocabulary. -/
theorem mem_vocabulary (tactic : Tactic) : (tactic.id.lower, tactic) ∈ vocabulary :=
  List.mem_append_left _ (List.mem_map.2 ⟨tactic, mem_all tactic, rfl⟩)

/-- The small form of an identifier is plain and has no k. -/
theorem isPlain_lower_id (tactic : Tactic) :
    (∀ c ∈ tactic.id.lower, c.isPlain = true) ∧ ('k' : CodePoint) ∉ tactic.id.lower := by
  obtain ⟨plain, noK⟩ := isPlain_of_mem_vocabulary _ tactic.mem_vocabulary
  refine ⟨?_, noK⟩
  intro c member
  have both := List.all_eq_true.1 plain c member
  exact (Bool.and_eq_true_iff.1 both).1

/-- A tactic is read from its identifier, and one tactic from the alias, in any letter case. -/
theorem parse?_eq_some_iff_lower : parse? text = some tactic ↔
    text.lower = tactic.id.lower ∨ tactic = commandAndControl ∧ text.lower = byname := by
  have distinct : (all.map fun tactic => tactic.id.lower).Nodup := by decide +kernel
  have noId : ∀ tactic ∈ all, tactic.id.lower ≠ byname := by decide +kernel
  have byId : ∀ tactic, (all.map fun tactic => (tactic.id.lower, tactic)).lookup text.lower =
      some tactic ↔ text.lower = tactic.id.lower := by
    intro tactic
    rw [Keyed.lookup_map_eq_some_iff distinct, and_iff_right (mem_all tactic), eq_comm]
  rw [parse?, vocabulary, List.lookup_append, Option.or_eq_some_iff, byId]
  apply or_congr_right
  constructor
  · rintro ⟨-, isAlias⟩
    rw [List.lookup_cons] at isAlias
    split at isAlias
    · next same => exact ⟨(Option.some.inj isAlias).symm, eq_of_beq same⟩
    · cases isAlias
  · rintro ⟨rfl, isAlias⟩
    refine ⟨?_, by simp [isAlias]⟩
    rw [Option.eq_none_iff_forall_not_mem]
    intro other isOther
    exact noId other (mem_all other) (((byId other).1 isOther).symm.trans isAlias)

/-- A tactic is read from what differs from its identifier, or one tactic from what differs from the
alias, in the case of basic letters. -/
theorem parse?_eq_some_iff : parse? text = some tactic ↔
    text.EqualUpToCase tactic.id ∨ tactic = commandAndControl ∧ text.EqualUpToCase byname := by
  obtain ⟨plain, noK⟩ := tactic.isPlain_lower_id
  have plainAlias : ∀ c ∈ byname, c.isPlain = true := List.all_eq_true.1 (by decide)
  have smallAlias : byname.map CodePoint.lowerBasic = byname := by decide
  rw [parse?_eq_some_iff_lower, Text.lower_eq_iff_lowerBasic plain noK,
    Text.lower_eq_iff_lowerBasic plainAlias (by decide), lower_id, Text.EqualUpToCase,
    Text.EqualUpToCase, smallAlias]

/-! ## Shortnames -/

/-- Shortnames are plain, without low lines and without white space. -/
theorem isPlain_shortname (tactic : Tactic) :
    (tactic.shortname.all fun c => c.isPlain && !c.isBlank) = true := by
  cases tactic <;> decide

/-- What is found under a shortname has that shortname and is of that matrix. -/
theorem of_ofShortname? (isFound : ofShortname? matrix text = some tactic) :
    tactic.matrix = matrix ∧ tactic.shortname = shortnameKey text := by
  unfold ofShortname? at isFound
  simpa using List.find?_some isFound

/-- A tactic of a matrix is found under its shortname, in small letters and with hyphens. -/
theorem ofShortname?_eq_some_iff_key : ofShortname? matrix text = some tactic ↔
    tactic.matrix = matrix ∧ tactic.shortname = shortnameKey text := by
  constructor
  · exact of_ofShortname?
  · rintro ⟨isMatrix, isNamed⟩
    cases found : ofShortname? matrix text with
    | none =>
      have noOther := List.find?_eq_none.1 found tactic (mem_all tactic)
      exact absurd (decide_eq_true ⟨isMatrix, isNamed⟩) noOther
    | some other =>
      obtain ⟨otherMatrix, otherNamed⟩ := of_ofShortname? found
      rw [eq_of_shortname (otherMatrix.trans isMatrix.symm) (otherNamed.trans isNamed.symm)]

/-- A tactic of a matrix is read from what folds to its shortname, low lines taken for hyphens. -/
theorem ofShortname?_eq_some_iff : ofShortname? matrix text = some tactic ↔
    tactic.matrix = matrix ∧ (text.exchange '_' '-').map CodePoint.fold = tactic.shortname := by
  have plain : ∀ c ∈ tactic.shortname, c.isPlain = true := fun c member =>
    (Bool.and_eq_true_iff.1 (List.all_eq_true.1 tactic.isPlain_shortname c member)).1
  rw [ofShortname?_eq_some_iff_key, shortnameKey, ← Text.lower_exchange (by decide) (by decide),
    eq_comm (a := tactic.shortname), Text.lower_eq_iff_fold plain]

end Tactic

/-! ## Techniques -/

/-- The small t is the small form of two basic letters. -/
theorem CodePoint.eq_of_lowerBasic_eq_t {c : CodePoint} (isSmall : c.lowerBasic = 't') :
    c = 'T' ∨ c = 't' := by
  unfold lowerBasic at isSmall
  split at isSmall
  · left
    have small := congrArg Fin.val isSmall
    rw [val_ofNat (by omega)] at small
    exact Fin.ext (Nat.add_right_cancel small)
  · exact .inr isSmall

namespace TechniqueId

/-- The small spelling of an identifier is plain and has no k. -/
theorem isPlain_lower_text (id : TechniqueId) :
    (∀ c ∈ id.text.lower, c.isPlain = true) ∧ ('k' : CodePoint) ∉ id.text.lower := by
  obtain ⟨rest, isText, marks⟩ := id.text_eq_cons
  rw [lower_text, isText, List.tail_cons]
  constructor
  · intro c member
    rcases List.mem_cons.1 member with rfl | behind
    · decide
    · rcases marks c behind with rfl | digit
      · decide
      · exact CodePoint.isPlain_iff.2 (.inr digit)
  · rw [List.mem_cons, not_or]
    refine ⟨by decide, ?_⟩
    intro behind
    rcases marks _ behind with isPoint | digit
    · exact absurd isPoint (by decide)
    · exact absurd digit (by decide)

/-- Besides the identifier itself, only the one with a small letter in front has its small spelling.
-/
theorem lower_eq_lower_text_iff {id : TechniqueId} {text : Text} : text.lower = id.text.lower ↔
    text = id.text ∨ text = ('t' : CodePoint) :: id.text.tail := by
  obtain ⟨rest, isText, marks⟩ := id.text_eq_cons
  constructor
  · intro same
    obtain ⟨plain, noK⟩ := id.isPlain_lower_text
    rw [Text.lower_eq_iff_lowerBasic plain noK, lower_text, isText, List.tail_cons] at same
    obtain ⟨letter, behind, rfl, isLetter, isRest⟩ := List.map_eq_cons_iff.1 same
    have unchanged : behind.map CodePoint.lowerBasic = behind := by
      refine (List.map_congr_left fun c member => ?_).trans (List.map_id behind)
      apply CodePoint.lowerBasic_of_not_letter
      rcases marks c.lowerBasic (isRest ▸ List.mem_map_of_mem member) with isPoint | digit
      · rw [isPoint]
        decide
      · exact CodePoint.not_isDigit_of_range (by decide) digit
    rw [isText, List.tail_cons, ← isRest, unchanged]
    rcases CodePoint.eq_of_lowerBasic_eq_t isLetter with rfl | rfl
    · exact .inl rfl
    · exact .inr rfl
  · rintro (rfl | rfl)
    · rfl
    · rw [← lower_text, lower_lower_text]

end TechniqueId

/-! ## Accepted texts -/

/-- A code point is like its small form if that is no white space and plain. -/
theorem CodePoint.isPlain_of_lowerBasic {c : CodePoint} (plain : c.lowerBasic.isPlain = true)
    (solid : c.lowerBasic.isBlank = false) : c.isPlain = true ∧ c.isBlank = false := by
  by_cases capital : 0x41 ≤ c.val ∧ c.val ≤ 0x5A
  · have apart : ∀ range ∈ blankRanges, range.2 < 0x41 ∨ 0x5A < range.1 := by decide
    refine ⟨isPlain_iff.2 (.inl (by omega)), ?_⟩
    rw [isBlank, List.any_eq_false]
    intro range member blank
    have outside := apart range member
    rw [Bool.and_eq_true, decide_eq_true_eq, decide_eq_true_eq] at blank
    omega
  · rw [lowerBasic, if_neg capital] at plain solid
    exact ⟨plain, solid⟩

/-- A text that differs from a plain one in the case of basic letters is like it. -/
theorem Text.isLike_of_lowerBasic {text key canonical : Text}
    (key_plain : (key.all fun c => c.isPlain && !c.isBlank) = true)
    (same : text.map CodePoint.lowerBasic = key) (alike : key.length = canonical.length) :
    text.IsLike canonical := by
  subst same
  refine ⟨by rw [← alike, List.length_map], ?_⟩
  intro c member
  have both := List.all_eq_true.1 key_plain _ (List.mem_map_of_mem member)
  rw [Bool.and_eq_true, Bool.not_eq_true'] at both
  exact CodePoint.isPlain_of_lowerBasic both.1 both.2

/-- The text with every Kelvin sign written as a k. -/
def Text.withoutKelvin (text : Text) : Text :=
  text.exchange CodePoint.kelvin 'k'

/-- What is read as a technique is like its identifier. -/
theorem Catalog.isLike_of_parse? {catalog : Catalog} {text : Text} {technique : Technique}
    (isRead : catalog.parse? text = some technique) : text.IsLike technique.id.text := by
  obtain ⟨plain, noK⟩ := technique.id.isPlain_lower_text
  have solid := technique.id.any_isBlank_lower
  have plainKey : (technique.id.text.lower.all fun c => c.isPlain && !c.isBlank) = true := by
    rw [List.any_eq_false] at solid
    rw [List.all_eq_true]
    intro c member
    rw [Bool.and_eq_true, Bool.not_eq_true']
    exact ⟨plain c member, by simpa using solid c member⟩
  refine Text.isLike_of_lowerBasic plainKey ?_ ?_
  · exact (Text.lower_eq_iff_lowerBasic plain noK).1 (parse?_eq_some_iff.1 isRead).2.symm
  · obtain ⟨rest, isText, -⟩ := technique.id.text_eq_cons
    rw [technique.id.lower_text, isText]
    rfl

namespace Tactic

variable {text : Text} {tactic : Tactic} {matrix : Matrix}

/-- What is read as a tactic is like its identifier, or like the alias. -/
theorem isLike_of_parse? (isRead : parse? text = some tactic) :
    text.IsLike tactic.id ∨ text.IsLike byname := by
  rcases parse?_eq_some_iff.1 isRead with isId | ⟨-, isAlias⟩
  · left
    have listed := isPlain_of_mem_vocabulary _ tactic.mem_vocabulary
    rw [tactic.lower_id] at listed
    exact Text.isLike_of_lowerBasic listed.1 isId (List.length_map _)
  · right
    exact Text.isLike_of_lowerBasic (by decide) isAlias rfl

/-- What is read as a shortname is like it, except that a Kelvin sign may stand for a k. -/
theorem isLike_of_ofShortname? (isRead : ofShortname? matrix text = some tactic) :
    text.withoutKelvin.IsLike tactic.shortname := by
  have folded := (ofShortname?_eq_some_iff.1 isRead).2
  refine ⟨?_, ?_⟩
  · rw [← folded, List.length_map, Text.exchange, Text.withoutKelvin, Text.exchange,
      List.length_map, List.length_map]
  · intro d member
    obtain ⟨c, inText, rfl⟩ := List.mem_map.1 member
    by_cases lowLine : c = '_'
    · subst lowLine
      decide
    · have inShortname : c.fold ∈ tactic.shortname := by
        rw [← folded]
        refine List.mem_map_of_mem (List.mem_map.2 ⟨c, inText, if_neg lowLine⟩)
      have both := List.all_eq_true.1 tactic.isPlain_shortname _ inShortname
      rw [Bool.and_eq_true, Bool.not_eq_true'] at both
      have isFold : (if c = CodePoint.kelvin then ('k' : CodePoint) else c).lowerBasic = c.fold := by
        unfold CodePoint.fold
        split
        · decide
        · rfl
      rw [← isFold] at both
      exact CodePoint.isPlain_of_lowerBasic both.1 both.2

/-! ## Offered values -/

variable {value domain : Value}

/-- A value is read as a tactic if it counts as a text that is. -/
theorem ofValue_eq_ok_iff : ofValue value = .ok tactic ↔
    ∃ text, value.asText? = some text ∧ parse? text = some tactic := by
  rw [← Option.bind_eq_some_iff, ofValue]
  cases value.asText?.bind parse? with
  | none => simp
  | some found => simp

/-- A value that is no tactic is the fault itself. -/
theorem ofValue_of_refused (refused : ∀ tactic, ofValue value ≠ .ok tactic) :
    ofValue value = .error ⟨.tactic, value⟩ := by
  unfold ofValue at refused ⊢
  split at refused
  · next found _ => exact absurd rfl (refused found)
  · rfl

/-- A value that names a matrix can be looked up. -/
theorem lookable_of_asMatrix? (isMatrix : domain.asMatrix? = some matrix) :
    domain.lookable = .ok () := by
  obtain ⟨text, isText, -⟩ := Option.bind_eq_some_iff.1 isMatrix
  exact Value.lookable_of_asText? isText

/-- A value is read as a shortname if it counts as a text that is. -/
theorem ofShortnameValue_eq_ok_iff (isMatrix : domain.asMatrix? = some matrix) :
    ofShortnameValue domain value = .ok tactic ↔
      ∃ text, value.asText? = some text ∧ ofShortname? matrix text = some tactic := by
  unfold ofShortnameValue
  cases isText : value.asText? with
  | none => simp
  | some text =>
    simp only [lookable_of_asMatrix? isMatrix, isMatrix, mapError_ok, ok_bind, Option.bind_some]
    cases isNamed : ofShortname? matrix text with
    | none => simp [orProblem, isNamed]
    | some found => simp [orProblem, isNamed]

/-- A value that is no shortname is the fault itself. -/
theorem ofShortnameValue_of_refused (isMatrix : domain.asMatrix? = some matrix)
    (refused : ∀ tactic, ofShortnameValue domain value ≠ .ok tactic) :
    ofShortnameValue domain value = .error (.unrecognized ⟨.tactic, value⟩) := by
  unfold ofShortnameValue at refused ⊢
  cases isText : value.asText? with
  | none => rfl
  | some text =>
    simp only [isText, lookable_of_asMatrix? isMatrix, isMatrix, mapError_ok, ok_bind,
      Option.bind_some] at refused ⊢
    cases found : ofShortname? matrix text with
    | none => rfl
    | some tactic => exact absurd (by rw [found]; rfl) (refused tactic)

end Tactic

namespace Catalog

variable {catalog : Catalog} {technique : Technique} {value : Value} {text : Text}

/-- A technique is read from its identifier with a capital or a small letter in front. -/
theorem parse?_eq_some_iff_spelling : catalog.parse? text = some technique ↔
    technique ∈ catalog.techniques ∧
      (text = technique.id.text ∨ text = ('t' : CodePoint) :: technique.id.text.tail) := by
  rw [parse?_eq_some_iff, eq_comm, TechniqueId.lower_eq_lower_text_iff]

/-- A value is read as a technique if it counts as a text that is. -/
theorem ofValue_eq_ok_iff_parse? : catalog.ofValue value = .ok technique ↔
    ∃ text, value.asText? = some text ∧ catalog.parse? text = some technique := by
  rw [← Option.bind_eq_some_iff, ofValue]
  cases value.asText?.bind catalog.parse? with
  | none => simp
  | some found => simp

/-- A value that is no technique is the fault itself. -/
theorem ofValue_of_refused (refused : ∀ technique, catalog.ofValue value ≠ .ok technique) :
    catalog.ofValue value = .error ⟨.technique, value⟩ := by
  unfold ofValue at refused ⊢
  split at refused
  · next found _ => exact absurd rfl (refused found)
  · rfl

/-! ## Sigmas -/

/-- Under every rule for the sigma at the end of a word the same techniques are found. -/
theorem parse?_lowerBy (catalog : Catalog) (isFinal : Text → Text → Bool) (text : Text) :
    catalog.index.keys.lookup (text.lowerBy isFinal) = catalog.parse? text := by
  rw [parse?]
  apply lookup_congr
  intro entry listed
  rw [catalog.index_lists.keys] at listed
  obtain ⟨row, -, rfl⟩ := List.mem_map.1 listed
  exact Text.lowerBy_eq_iff isFinal row.id.isPlain_lower_text.1

end Catalog

/-- Under every rule for the sigma at the end of a word the same tactics are found. -/
theorem Tactic.parse?_lowerBy (isFinal : Text → Text → Bool) (text : Text) :
    vocabulary.lookup (text.lowerBy isFinal) = parse? text := by
  rw [parse?]
  apply lookup_congr
  intro entry listed
  apply Text.lowerBy_eq_iff
  intro c member
  have both := List.all_eq_true.1 (isPlain_of_mem_vocabulary entry listed).1 c member
  exact (Bool.and_eq_true_iff.1 both).1

/-- Under every rule for the sigma at the end of a word the same shortnames are found. -/
theorem Tactic.exchange_lowerBy_eq_iff (isFinal : Text → Text → Bool) (text : Text)
    (tactic : Tactic) : tactic.shortname = (text.lowerBy isFinal).exchange '_' '-' ↔
      tactic.shortname = shortnameKey text := by
  have plain : ∀ {small : Text}, tactic.shortname = small.exchange '_' '-' →
      ∀ c ∈ small, c.isPlain = true := by
    intro small isNamed c member
    by_cases lowLine : c = '_'
    · rw [lowLine]
      decide
    · have inShortname : c ∈ tactic.shortname := by
        rw [isNamed]
        exact List.mem_map.2 ⟨c, member, if_neg lowLine⟩
      exact (Bool.and_eq_true_iff.1 (List.all_eq_true.1 tactic.isPlain_shortname c inShortname)).1
  rw [shortnameKey]
  constructor
  · intro isNamed
    rw [isNamed, (Text.lowerBy_eq_iff isFinal (plain isNamed)).1 rfl]
  · intro isNamed
    rw [isNamed, (Text.lowerBy_eq_iff isFinal (plain isNamed)).2 rfl]

/-! ## Exactness -/

namespace Catalog

/-- How identifiers are read where the techniques are those of a catalog. -/
structure ReadsExactly (catalog : Catalog) : Prop where
  /-- A technique has two spellings: its identifier, and that with a small letter in front. -/
  techniques : ∀ value technique, catalog.ofValue value = .ok technique ↔
    technique ∈ catalog.techniques ∧ ∃ text, value.asText? = some text ∧
      (text = technique.id.text ∨ text = ('t' : CodePoint) :: technique.id.text.tail)
  /-- A tactic is spelled by its identifier, and one tactic by the alias, in any case of the basic
  letters. -/
  tactics : ∀ value tactic, Tactic.ofValue value = .ok tactic ↔
    ∃ text, value.asText? = some text ∧ (text.EqualUpToCase tactic.id ∨
      tactic = .commandAndControl ∧ text.EqualUpToCase Tactic.byname)
  /-- A tactic of a matrix is spelled by its shortname, with low lines for hyphens, in any case of
  the basic letters, and with the Kelvin sign for k. -/
  shortnames : ∀ domain matrix value tactic, domain.asMatrix? = some matrix →
    (Tactic.ofShortnameValue domain value = .ok tactic ↔ tactic.matrix = matrix ∧
      ∃ text, value.asText? = some text ∧
        (text.exchange '_' '-').map CodePoint.fold = tactic.shortname)
  /-- What is accepted is as long as the identifier, alias or shortname, and is made of basic code
  points and digits only, white space excepted. The Kelvin sign is the one exception. -/
  alike : ∀ text,
    (∀ technique, catalog.parse? text = some technique → text.IsLike technique.id.text) ∧
    (∀ tactic, Tactic.parse? text = some tactic →
      text.IsLike tactic.id ∨ text.IsLike Tactic.byname) ∧
    ∀ matrix tactic, Tactic.ofShortname? matrix text = some tactic →
      text.withoutKelvin.IsLike tactic.shortname
  /-- Whatever is not accepted, be it a text or not, is the fault itself. -/
  refused : ∀ value,
    ((∀ technique, catalog.ofValue value ≠ .ok technique) →
      catalog.ofValue value = .error ⟨.technique, value⟩) ∧
    ((∀ tactic, Tactic.ofValue value ≠ .ok tactic) →
      Tactic.ofValue value = .error ⟨.tactic, value⟩) ∧
    ∀ domain matrix, domain.asMatrix? = some matrix →
      (∀ tactic, Tactic.ofShortnameValue domain value ≠ .ok tactic) →
      Tactic.ofShortnameValue domain value = .error (.unrecognized ⟨.tactic, value⟩)
  /-- It does not matter which capital sigmas are taken to end a word. -/
  sigmas : ∀ isFinal text,
    catalog.index.keys.lookup (text.lowerBy isFinal) = catalog.parse? text ∧
    Tactic.vocabulary.lookup (text.lowerBy isFinal) = Tactic.parse? text ∧
    ∀ tactic : Tactic, tactic.shortname = (text.lowerBy isFinal).exchange '_' '-' ↔
      tactic.shortname = Tactic.shortnameKey text

/-- Identifiers are read exactly in every catalog, over all texts and all other values. -/
theorem readsExactly (catalog : Catalog) : catalog.ReadsExactly where
  techniques value technique := by
    simp only [ofValue_eq_ok_iff_parse?, parse?_eq_some_iff_spelling]
    grind
  tactics value tactic := by
    simp only [Tactic.ofValue_eq_ok_iff, Tactic.parse?_eq_some_iff]
  shortnames domain matrix value tactic isMatrix := by
    simp only [Tactic.ofShortnameValue_eq_ok_iff isMatrix, Tactic.ofShortname?_eq_some_iff]
    grind
  alike _ := ⟨fun _ => isLike_of_parse?, fun _ => Tactic.isLike_of_parse?,
    fun _ _ => Tactic.isLike_of_ofShortname?⟩
  refused _ := ⟨ofValue_of_refused, Tactic.ofValue_of_refused,
    fun _ _ => Tactic.ofShortnameValue_of_refused⟩
  sigmas isFinal text := ⟨catalog.parse?_lowerBy isFinal text, Tactic.parse?_lowerBy isFinal text,
    Tactic.exchange_lowerBy_eq_iff isFinal text⟩

end Catalog
end ThreatMatrix
