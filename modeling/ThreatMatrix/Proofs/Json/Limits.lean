import ThreatMatrix.Proofs.Json.Reading

/-!
# The limits of the reader

A text whose runs of digits are short and that opens no more containers than there is room for is
never refused for a limit: the reader gives a document, or finds fault with the text. What it meets
at a later place of the text is no more than what the text holds.
-/

namespace ThreatMatrix.Json

/-- A mark that opens a container where a value is read. -/
def isOpening (c : CodePoint) : Bool :=
  c == '[' || c == '\x7b'

/-- The number of marks that may open containers, strings included. -/
def openings (text : Text) : Nat :=
  text.countP isOpening

/-- No run of digits is longer than an integer may be. -/
def HasShortNumbers (text : Text) : Prop :=
  ∀ run, run <:+: text → (∀ c ∈ run, isNumeral c = true) → run.length ≤ integerDigits

/-- A text that is a document or at fault, and not refused for a limit. -/
def IsWithinLimits (room : Nat) (text : Text) : Prop :=
  ∀ refusal, read room text = .error refusal → ∃ defect place, refusal = .malformed defect place

section

variable {text later : Text}

/-- Short numbers are short from every place of a text on. -/
theorem HasShortNumbers.of_suffix (short : HasShortNumbers text) (suffix : later <:+ text) :
    HasShortNumbers later := fun run within digits =>
  short run (within.trans suffix.isInfix) digits

theorem openings_le_of_suffix (suffix : later <:+ text) : openings later ≤ openings text :=
  suffix.sublist.countP_le

/-- Where containers open, there is one opening less behind the mark. -/
theorem openings_cons {c : CodePoint} {rest : Text} (opens : c = '[' ∨ c = '{') :
    openings (c :: rest) = openings rest + 1 := by
  refine List.countP_cons_of_pos ?_
  rcases opens with rfl | rfl
  · decide
  · decide

/-- Short numbers and no more openings than there is room for keep every limit away. -/
theorem carries_limits : Carries (fun _ => False) (fun _ => True)
    fun depth text => HasShortNumbers text ∧ openings text ≤ depth where
  string _ _ _ _ _ _ _ := trivial
  word _ _ := trivial
  int _ := trivial
  float _ := trivial
  array _ _ := trivial
  object _ _ := trivial
  inside depth c rest start opens later isLater := by
    refine ⟨start.1.of_suffix (isLater.trans (List.suffix_cons c rest)), ?_⟩
    have few := start.2
    rw [openings_cons opens] at few
    exact Nat.le_trans (openings_le_of_suffix isLater) (Nat.le_of_succ_le_succ few)
  long _ _ start run within digits tooLong :=
    absurd (start.1 run within digits) (Nat.not_le_of_gt tooLong)
  bottom c rest start opens := by
    have few := start.2
    rw [openings_cons opens] at few
    exact absurd few (Nat.not_succ_le_zero _)

/-- A text with short numbers and room for all its openings is a document or at fault. -/
theorem isWithinLimits {room : Nat} (short : HasShortNumbers text) (few : openings text ≤ room) :
    IsWithinLimits room text := by
  have isLater := skipSpace_suffix text
  have atFault : ∀ stop, document room text = .error stop →
      ∃ defect rest, stop = .malformed defect rest := fun stop stopped =>
    (carries_limits.stop_of_document
      ⟨short.of_suffix isLater, Nat.le_trans (openings_le_of_suffix isLater) few⟩ stopped).resolve_left
        id
  intro refusal refused
  unfold read at refused
  split at refused
  · cases refused
  · cases refused
    exact ⟨_, _, rfl⟩
  · next stopped =>
    obtain ⟨_, _, other⟩ := atFault _ stopped
    cases other
  · next stopped =>
    obtain ⟨_, _, other⟩ := atFault _ stopped
    cases other

end
end ThreatMatrix.Json
