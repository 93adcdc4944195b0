import ThreatMatrix.Json.Reader
import ThreatMatrix.Steps

/-!
# Reading on

Every part of the reader reads on from one place of a text to a later one. What is wanted of the
values that are read follows for documents as soon as it is settled for what stands at one place of
the text. `Carries` says what has to be settled, and which limits may stop the reader on the way.
-/

namespace ThreatMatrix.Json

/-- What comes of reading a part of a text: something good and a later place of the text, a fault in
the text, or a stop that is allowed. -/
inductive ReadsOn {α : Type} (allowed : Stop → Prop) (good : α → Prop) (text : Text) :
    Except Stop (α × Text) → Prop where
  | reached {value : α} {rest : Text} (isGood : good value) (later : rest <:+ text) :
    ReadsOn allowed good text (.ok (value, rest))
  | fault (defect : Defect) (rest : Text) : ReadsOn allowed good text (.error (.malformed defect rest))
  | limit {stop : Stop} (isAllowed : allowed stop) : ReadsOn allowed good text (.error stop)

section

variable {α β : Type} {allowed : Stop → Prop} {good : α → Prop} {better : β → Prop}
  {text later : Text}

/-- What was read from a later place of a text was read from the text. -/
theorem ReadsOn.of_suffix {result : Except Stop (α × Text)}
    (reads : ReadsOn allowed good later result) (suffix : later <:+ text) :
    ReadsOn allowed good text result := by
  cases reads with
  | reached isGood further => exact .reached isGood (further.trans suffix)
  | fault defect rest => exact .fault defect rest
  | limit isAllowed => exact .limit isAllowed

/-- Reading on from where a part ended reads on. -/
theorem ReadsOn.bind {first : Except Stop (α × Text)} {next : α × Text → Except Stop (β × Text)}
    (reads : ReadsOn allowed good text first)
    (goesOn : ∀ value rest, good value → rest <:+ text →
      ReadsOn allowed better text (next (value, rest))) :
    ReadsOn allowed better text (first >>= next) := by
  cases reads with
  | reached isGood later => exact goesOn _ _ isGood later
  | fault defect rest => exact .fault defect rest
  | limit isAllowed => exact .limit isAllowed

/-- What is known of the values read makes them good. -/
theorem ReadsOn.of_result {any : α → Prop} {result : Except Stop (α × Text)}
    (reads : ReadsOn allowed any text result)
    (isGood : ∀ value rest, result = .ok (value, rest) → good value) :
    ReadsOn allowed good text result := by
  cases reads with
  | reached _ later => exact .reached (isGood _ _ rfl) later
  | fault defect rest => exact .fault defect rest
  | limit isAllowed => exact .limit isAllowed

theorem skipSpace_suffix (text : Text) : skipSpace text <:+ text :=
  List.dropWhile_suffix isSpace

end

/-! ## Strings and numbers -/

/-- A string is read on from, whatever was read of it. -/
theorem readsOn_stringBody {allowed : Stop → Prop} (opening : Text) (read : Partial) (text : Text) :
    ReadsOn allowed (fun _ => True) text (stringBody opening read text) := by
  fun_induction stringBody opening read text with
  | case1 read => exact .fault _ _
  | case2 read rest => exact .reached trivial (List.suffix_cons _ rest)
  | case4 read h₁ h₂ h₃ h₄ next after named _ _ inductionHypothesis =>
    exact inductionHypothesis.of_suffix ⟨['\\', 'u', h₁, h₂, h₃, h₄], rfl⟩
  | case7 read mark more _ meant _ _ inductionHypothesis =>
    exact inductionHypothesis.of_suffix ⟨['\\', mark], rfl⟩
  | case10 read c rest _ _ _ inductionHypothesis =>
    exact inductionHypothesis.of_suffix (List.suffix_cons c rest)
  | _ => exact .fault _ _

theorem splitSign_suffix (text : Text) : (Binary64.splitSign text).2 <:+ text := by
  cases text with
  | nil => exact List.suffix_refl _
  | cons c rest =>
    rw [Binary64.splitSign]
    split
    · exact List.suffix_cons c rest
    split
    · exact List.suffix_cons c rest
    · exact List.suffix_refl _

theorem digits_suffix (text : Text) : (digits text).2 <:+ text :=
  List.dropWhile_suffix isNumeral

/-- The whole part of a number are digits in front of the text. -/
theorem wholePart_append (text : Text) : (wholePart text).1 ++ (wholePart text).2 = text ∧
    ∀ c ∈ (wholePart text).1, isNumeral c = true := by
  cases text with
  | nil => exact ⟨rfl, nofun⟩
  | cons c rest =>
    rw [wholePart]
    split
    · next zero =>
      refine ⟨rfl, fun d member => ?_⟩
      rw [List.mem_singleton.1 member, zero]
      decide
    · refine ⟨List.takeWhile_append_dropWhile, fun d member => ?_⟩
      exact List.all_eq_true.1 List.all_takeWhile d member

theorem fractionPart_suffix (text : Text) : (fractionPart text).2 <:+ text := by
  cases text with
  | nil => exact List.suffix_refl _
  | cons c rest =>
    rw [fractionPart]
    dsimp only
    split
    · exact (digits_suffix rest).trans (List.suffix_cons c rest)
    · exact List.suffix_refl _

theorem exponentPart_suffix (text : Text) : (exponentPart text).2 <:+ text := by
  cases text with
  | nil => exact List.suffix_refl _
  | cons c rest =>
    rw [exponentPart]
    dsimp only
    split
    · exact ((digits_suffix _).trans (splitSign_suffix rest)).trans (List.suffix_cons c rest)
    · exact List.suffix_refl _

/-- A number is read on from and good, unless it has more digits than an integer may have. -/
theorem readsOn_number {allowed : Stop → Prop} {good : Json → Prop} {text : Text}
    (int : ∀ value, good (.int value)) (float : ∀ value, good (.float value))
    (long : ∀ run, run <:+: text → (∀ c ∈ run, isNumeral c = true) → integerDigits < run.length →
      allowed (.integerTooLong run.length)) :
    ReadsOn allowed good text (number text) := by
  unfold number
  split
  next negative unsigned signed =>
  have start : unsigned <:+ text := by
    cases text with
    | nil =>
      cases signed
      exact List.suffix_refl _
    | cons c rest =>
      dsimp only at signed
      split at signed
      · cases signed
        exact List.suffix_cons c _
      · cases signed
        exact List.suffix_refl _
  obtain ⟨parts, numerals⟩ := wholePart_append unsigned
  have later : (exponentPart (fractionPart (wholePart unsigned).2).2).2 <:+ text := by
    refine ((exponentPart_suffix _).trans (fractionPart_suffix _)).trans (.trans ?_ start)
    exact ⟨_, parts⟩
  dsimp only
  split
  · exact .fault _ _
  split
  · split
    · next tooLong =>
      refine .limit (long _ (.trans ?_ start.isInfix) numerals tooLong)
      exact ⟨[], _, parts⟩
    · exact .reached (int _) later
  · exact .reached (float _) later

/-! ## Containers -/

section

variable {allowed : Stop → Prop} {good : Json → Prop} {item : Text → Except Stop (Json × Text)}
  {text : Text}

/-- Behind an item a container ends, or goes on with a comma and what is read behind it. -/
theorem readsOn_behindItem {α : Type} {fits : α → Prop} {after : Text} (isLater : after <:+ text)
    (close : CodePoint) {result : α} (isGood : fits result) {more : Text → Except Stop (α × Text)}
    (goesOn : ∀ start, start <:+ text → ReadsOn allowed fits start (more start)) :
    ReadsOn allowed fits text (match skipSpace after with
      | [] => .error (.malformed .commaExpected (skipSpace after))
      | c :: rest =>
        if c = close then .ok (result, rest)
        else if c = ',' then more (skipSpace rest)
        else .error (.malformed .commaExpected (skipSpace after))) := by
  have front := (skipSpace_suffix after).trans isLater
  generalize skipSpace after = next at front
  cases next with
  | nil => exact .fault _ _
  | cons c rest =>
    have behind := (List.suffix_cons c rest).trans front
    dsimp only
    split
    · exact .reached isGood behind
    split
    · have start := (skipSpace_suffix rest).trans behind
      exact (goesOn _ start).of_suffix start
    · exact .fault _ _

/-- Items are read on from if each item is, and are good like those read before. The induction is on
the fuel, and every item stands later in the text. -/
theorem readsOn_items
    (each : ∀ later, later <:+ text → ReadsOn allowed good later (item later)) (fuel : Nat)
    {read : List Json} (before : ∀ item ∈ read, good item) :
    ReadsOn allowed (fun items => ∀ item ∈ items, good item) text (items item fuel read text) := by
  induction fuel generalizing read text with
  | zero => exact .fault _ _
  | succ fuel inductionHypothesis =>
    refine (each text (List.suffix_refl _)).bind fun value after isGood isLater => ?_
    have allGood := List.forall_mem_cons.2 ⟨isGood, before⟩
    refine readsOn_behindItem isLater ']' ?_ fun start isStart =>
      inductionHypothesis (fun later further => each later (further.trans isStart)) allGood
    exact fun item member => allGood item (List.mem_reverse.1 member)

/-- A name and its colon are read on from. -/
theorem readsOn_fieldName (text : Text) :
    ReadsOn allowed (fun _ => True) text (fieldName text) := by
  cases text with
  | nil => exact .fault _ _
  | cons quote body =>
    rw [fieldName]
    split
    · refine ((readsOn_stringBody _ _ body).of_suffix (List.suffix_cons quote body)).bind
        fun name after _ isLater => ?_
      have front := (skipSpace_suffix after).trans isLater
      dsimp only
      generalize skipSpace after = next at front
      cases next with
      | nil => exact .fault _ _
      | cons c rest =>
        dsimp only
        split
        · exact .reached trivial
            ((skipSpace_suffix rest).trans ((List.suffix_cons c rest).trans front))
        · exact .fault _ _
    · exact .fault _ _

/-- Fields are read on from if each of their values is, and their values are good like those read
before. -/
theorem readsOn_members
    (each : ∀ later, later <:+ text → ReadsOn allowed good later (item later)) (fuel : Nat)
    {read : List (Text × Json)} (before : ∀ field ∈ read, good field.2) :
    ReadsOn allowed (fun fields => ∀ field ∈ fields, good field.2) text
      (members item fuel read text) := by
  induction fuel generalizing read text with
  | zero => exact .fault _ _
  | succ fuel inductionHypothesis =>
    refine (readsOn_fieldName text).bind fun name start _ isStart => ?_
    refine ((each start isStart).of_suffix isStart).bind fun value after isGood isLater => ?_
    have allGood : ∀ field ∈ (name, value) :: read, good field.2 :=
      List.forall_mem_cons.2 ⟨isGood, before⟩
    refine readsOn_behindItem isLater '}' ?_ fun start isStart =>
      inductionHypothesis (fun later further => each later (further.trans isStart)) allGood
    exact fun field member => allGood field (List.mem_reverse.1 member)

/-- Behind its opening mark a container ends at once, or is read on from if its inside is. -/
theorem readsOn_inside {α : Type} {fits : α → Prop} (close : CodePoint) {nothing : Json}
    (empty : good nothing) {wrap : α → Json} (full : ∀ value, fits value → good (wrap value))
    (expected : Defect) {inside : Text → Except Stop (α × Text)}
    (goesOn : ∀ start, start <:+ text → ReadsOn allowed fits start (inside start)) :
    ReadsOn allowed good text (match skipSpace text with
      | [] => .error (.malformed expected [])
      | c :: rest =>
        if c = close then .ok (nothing, rest)
        else do
          let (read, after) ← inside (c :: rest)
          return (wrap read, after)) := by
  have front := skipSpace_suffix text
  generalize skipSpace text = next at front
  cases next with
  | nil => exact .fault _ _
  | cons c rest =>
    dsimp only
    split
    · exact .reached empty ((List.suffix_cons c rest).trans front)
    · exact ((goesOn _ front).of_suffix front).bind fun read after fits isLater =>
        .reached (full read fits) isLater

/-! ## Values and documents -/

/-- What holds of a place of a text and of the depth that is left there settles what is read: values
without items are good, containers of good items are, and it holds of the places inside of
containers again. Where a number is too long or no depth is left, the reader may stop. -/
structure Carries (allowed : Stop → Prop) (good : Json → Prop) (holds : Nat → Text → Prop) :
    Prop where
  string : ∀ depth c rest text after, holds depth (c :: rest) →
    stringBody (c :: rest) .empty rest = .ok (text, after) → good (.text text)
  word : ∀ word ∈ words, good word.2
  int : ∀ value, good (.int value)
  float : ∀ value, good (.float value)
  array : ∀ items, (∀ item ∈ items, good item) → good (.array items)
  object : ∀ fields, (∀ field ∈ fields, good field.2) → good (.object fields)
  inside : ∀ depth c rest, holds (depth + 1) (c :: rest) → c = '[' ∨ c = '{' →
    ∀ later, later <:+ rest → holds depth later
  long : ∀ depth text, holds depth text → ∀ run, run <:+: text → (∀ c ∈ run, isNumeral c = true) →
    integerDigits < run.length → allowed (.integerTooLong run.length)
  bottom : ∀ c rest, holds 0 (c :: rest) → c = '[' ∨ c = '{' → allowed .tooDeep

namespace Carries

variable {holds : Nat → Text → Prop} {depth : Nat}

/-- A string is read on from and good. -/
theorem readsOn_string (carries : Carries allowed good holds) {c : CodePoint} {rest : Text}
    (start : holds depth (c :: rest)) :
    ReadsOn allowed good (c :: rest) (do
      let (read, after) ← stringBody (c :: rest) .empty rest
      return (.text read, after)) := by
  have reads : ReadsOn allowed (fun text => good (.text text)) rest
      (stringBody (c :: rest) .empty rest) :=
    (readsOn_stringBody _ _ rest).of_result fun text after =>
      carries.string depth c rest text after start
  exact (reads.of_suffix (List.suffix_cons c rest)).bind fun text after isGood isLater =>
    .reached isGood isLater

/-- A word or a number is read on from and good. -/
theorem readsOn_scalar (carries : Carries allowed good holds) (start : holds depth text) :
    ReadsOn allowed good text (scalar text) := by
  unfold scalar
  split
  · next word value found =>
    exact .reached (carries.word _ (List.mem_of_find?_eq_some found)) (List.drop_suffix _ text)
  · exact readsOn_number carries.int carries.float (carries.long depth text start)

/-- A value is read on from and good. The induction is on the depth: inside of a container there is
one less left. -/
theorem readsOn_value (carries : Carries allowed good holds) (fuel : Nat) (start : holds depth text) :
    ReadsOn allowed good text (value fuel depth text) := by
  induction depth generalizing text with
  | zero =>
    cases text with
    | nil => exact .fault _ _
    | cons c rest =>
      rw [value]
      split
      · exact carries.readsOn_string start
      split
      · next opens => exact .limit (carries.bottom c rest start opens)
      · exact carries.readsOn_scalar start
  | succ depth inductionHypothesis =>
    cases text with
    | nil => exact .fault _ _
    | cons c rest =>
      have each : c = '[' ∨ c = '{' → ∀ later, later <:+ rest →
          ReadsOn allowed good later (value fuel depth later) := fun opens later isLater =>
        inductionHypothesis (carries.inside depth c rest start opens later isLater)
      rw [value]
      split
      · exact carries.readsOn_string start
      split
      · next isBracket =>
        refine .of_suffix ?_ (List.suffix_cons c rest)
        refine readsOn_inside ']' (carries.array [] (List.forall_mem_nil _)) carries.array
          .valueExpected fun start isStart => readsOn_items (fun later further => ?_) fuel
            (List.forall_mem_nil _)
        exact each (.inl isBracket) later (further.trans isStart)
      split
      · next isBrace =>
        refine .of_suffix ?_ (List.suffix_cons c rest)
        refine readsOn_inside '}' (carries.object [] (List.forall_mem_nil _)) carries.object
          .nameExpected fun start isStart => readsOn_members (fun later further => ?_) fuel
            (List.forall_mem_nil _)
        exact each (.inr isBrace) later (further.trans isStart)
      · exact carries.readsOn_scalar start

/-- What stops the reading of a document is allowed, or a fault. -/
theorem stop_of_document (carries : Carries allowed good holds)
    {room : Nat} (start : holds room (skipSpace text)) {stop : Stop}
    (stopped : document room text = .error stop) :
    allowed stop ∨ ∃ defect rest, stop = .malformed defect rest := by
  unfold document at stopped
  split at stopped
  · cases stopped
    exact .inr ⟨_, _, rfl⟩
  · have reads := carries.readsOn_value text.length start
    rcases bind_eq_error_iff.1 stopped with onTheWay | ⟨⟨read, after⟩, -, atTheEnd⟩
    · rw [onTheWay] at reads
      cases reads with
      | fault defect rest => exact .inr ⟨defect, rest, rfl⟩
      | limit isAllowed => exact .inl isAllowed
    · dsimp only at atTheEnd
      split at atTheEnd
      · cases atTheEnd
      · cases atTheEnd
        exact .inr ⟨_, _, rfl⟩

end Carries
end
end ThreatMatrix.Json
