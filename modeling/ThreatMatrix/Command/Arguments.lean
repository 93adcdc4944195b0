import ThreatMatrix.Text.Basic

/-!
# Arguments

Takes the arguments of a command line apart into options and positional arguments. An option is
named by a word behind two hyphens or by one letter behind one hyphen; letters of options without a
value may share a hyphen. A value stands behind an equals sign, directly behind its letter, or in
the next argument, whatever that looks like. Two hyphens alone end the options.
-/

namespace ThreatMatrix

/-- Why a command line is refused before anything is done. -/
inductive UsageFault where
  /-- A required argument is missing. -/
  | missingArgument
  /-- An option is unknown. -/
  | unknownOption
  /-- An option has a value that it cannot have. -/
  | badValue
  /-- An option lacks its value, or has one that it does not take. -/
  | misusedOption
  /-- The command is unknown or missing, or there is an argument too many. -/
  | unusable
  /-- Nothing at all was given. -/
  | nothingGiven
  deriving DecidableEq, Repr

/-- What is told of a command line that is refused. -/
def UsageFault.message : UsageFault → Text
  | .missingArgument => "Missing argument."
  | .unknownOption => "No such option."
  | .badValue => "Invalid value."
  | .misusedOption => "An option lacks its value, or has one that it does not take."
  | .unusable => "No such command, no command, or an unexpected argument."
  | .nothingGiven => "Commands: lookup, tags, generate, catalog tactics, catalog techniques."

/-- An option that a command knows. -/
structure OptionForm (α : Type) where
  key : α
  word : Text
  letter : Option CodePoint
  takesValue : Bool

/-- An option as it was given, with its value if it takes one. -/
structure Given (α : Type) where
  key : α
  value : Text

/-- The options and the positional arguments of a command line, in order. -/
structure Arguments (α : Type) where
  given : List (Given α)
  positional : List Text

namespace Arguments

variable {α : Type}

/-- Reads letters behind one hyphen. Gives the options read and, if the last letter wants its value
from the next argument, that option. -/
def letters (forms : List (OptionForm α)) :
    List (Given α) → Text → Except UsageFault (List (Given α) × Option α)
  | read, [] => .ok (read, none)
  | read, letter :: more =>
    match forms.find? (·.letter = some letter) with
    | none => .error .unknownOption
    | some form =>
      if !form.takesValue then letters forms (⟨form.key, []⟩ :: read) more
      else if more.isEmpty then .ok (read, some form.key)
      else .ok (⟨form.key, more⟩ :: read, none)

/-- Reads one argument that has the look of an option. -/
def option (forms : List (OptionForm α)) (argument : Text) :
    Except UsageFault (List (Given α) × Option α) :=
  let (word, value) := Text.partition '=' argument
  let hasValue := argument.contains '='
  match forms.find? (·.word = word) with
  | some form =>
    if form.takesValue then
      if hasValue then .ok ([⟨form.key, value⟩], none) else .ok ([], some form.key)
    else if hasValue then .error .misusedOption
    else .ok ([⟨form.key, []⟩], none)
  | none =>
    if List.isPrefixOf ("--" : Text) argument then .error .unknownOption
    else letters forms [] (argument.drop 1)

/-- Whether an argument has the look of an option. -/
def looksLikeOption (argument : Text) : Bool :=
  argument.head? = some ('-' : CodePoint) && argument.length > 1

/-- Reads arguments behind those already read, which are given last first. Unless options may stand
among positional arguments, the first positional argument ends them. -/
def scan (forms : List (OptionForm α)) (amongPositional : Bool) (given : List (Given α))
    (positional : List Text) : List Text → Except UsageFault (Arguments α)
  | [] => .ok ⟨given.reverse, positional.reverse⟩
  | argument :: rest =>
    if argument = ("--" : Text) then .ok ⟨given.reverse, positional.reverse ++ rest⟩
    else if looksLikeOption argument then
      match option forms argument with
      | .error fault => .error fault
      | .ok (read, none) => scan forms amongPositional (read ++ given) positional rest
      | .ok (read, some key) =>
        match rest with
        | [] => .error .misusedOption
        | value :: more =>
          scan forms amongPositional (⟨key, value⟩ :: read ++ given) positional more
    else if amongPositional then scan forms amongPositional given (argument :: positional) rest
    else .ok ⟨given.reverse, positional.reverse ++ argument :: rest⟩

/-- The options and positional arguments of a command that takes both in any order. -/
def mixed (forms : List (OptionForm α)) (arguments : List Text) :
    Except UsageFault (Arguments α) :=
  scan forms true [] [] arguments

/-- The options in front of the first positional argument, and everything from there on. -/
def leading (forms : List (OptionForm α)) (arguments : List Text) :
    Except UsageFault (Arguments α) :=
  scan forms false [] [] arguments

/-- The value of the last option of a key. -/
def last? [DecidableEq α] (arguments : Arguments α) (key : α) : Option Text :=
  (arguments.given.reverse.find? (·.key = key)).map (·.value)

/-- Whether an option was given. -/
def has [DecidableEq α] (arguments : Arguments α) (key : α) : Bool :=
  arguments.given.any (·.key = key)

end Arguments
end ThreatMatrix
