import ThreatMatrix.Command.Arguments
import ThreatMatrix.Files.Path
import ThreatMatrix.Matrix

/-!
# Invocations

The command lines of the program, and what each of them asks for. A request for help or for the
version goes before everything else that a well-formed command line says.
-/

namespace ThreatMatrix

/-- What the program can be asked to do. -/
inductive Command where
  /-- Resolve identifiers. -/
  | lookup (identifiers : List Text) (asJson : Bool)
  /-- Show what the tags of a rule cover. -/
  | tags (tags : List Text)
  /-- Build a table from a bundle. -/
  | generate (bundle output : Text) (domain : Text)
  /-- List tactics. -/
  | listTactics (matrix : Option Matrix)
  /-- List techniques. -/
  | listTechniques (parent : Option Text) (withSubs : Bool)
  deriving DecidableEq

/-- What a command line asks for. -/
inductive Invocation where
  | run (command : Command)
  | version
  | help
  deriving DecidableEq

namespace Invocation

/-- The options of all commands. -/
inductive Key where
  | help
  | version
  | verbose
  | json
  | output
  | domain
  | parent
  | subtechniques
  deriving DecidableEq

/-- The option that every command has. -/
def helpForm : OptionForm Key := ⟨.help, "--help", none, false⟩

/-- The options in front of the command. -/
def programForms : List (OptionForm Key) := [
  ⟨.version, "--version", some 'V', false⟩, ⟨.verbose, "--verbose", some 'v', false⟩, helpForm]

/-- The options in front of the name of a list. -/
def catalogForms : List (OptionForm Key) := [helpForm]

/-- The options of the command that resolves identifiers. -/
def lookupForms : List (OptionForm Key) := [⟨.json, "--json", none, false⟩, helpForm]

/-- The options of the command that shows coverage. -/
def tagsForms : List (OptionForm Key) := [helpForm]

/-- The options of the command that builds a table. -/
def generateForms : List (OptionForm Key) := [
  ⟨.output, "--output", some 'o', true⟩, ⟨.domain, "--domain", some 'd', true⟩, helpForm]

/-- The options of the list of tactics. -/
def tacticsForms : List (OptionForm Key) := [⟨.domain, "--domain", some 'd', true⟩, helpForm]

/-- The options of the list of techniques. -/
def techniquesForms : List (OptionForm Key) := [
  ⟨.parent, "--parent", some 'p', true⟩, ⟨.subtechniques, "--subtechniques", some 's', false⟩,
  helpForm]

/-- The first request for help or the version among options. -/
def early? (arguments : Arguments Key) : Option Invocation :=
  arguments.given.findSome? fun given =>
    match given.key with
    | .help => some .help
    | .version => some .version
    | _ => none

/-- Reads the arguments of a command and hands them on, unless they ask for help. -/
def command (forms : List (OptionForm Key)) (arguments : List Text)
    (next : Arguments Key → Except UsageFault Command) : Except UsageFault Invocation := do
  let read ← Arguments.mixed forms arguments
  match early? read with
  | some early => return early
  | none => return .run (← next read)

/-- Refuses positional arguments. -/
def noMore (positional : List Text) : Except UsageFault Unit :=
  if positional.isEmpty then .ok () else .error .unusable

/-- At least one positional argument. -/
def someOf (positional : List Text) : Except UsageFault (List Text) :=
  if positional.isEmpty then .error .missingArgument else .ok positional

/-- The command that resolves identifiers. -/
def lookup (arguments : List Text) : Except UsageFault Invocation :=
  command lookupForms arguments fun read =>
    return .lookup (← someOf read.positional) (read.has .json)

/-- The command that shows coverage. -/
def tags (arguments : List Text) : Except UsageFault Invocation :=
  command tagsForms arguments fun read => return .tags (← someOf read.positional)

/-- Where a table is written if nothing else is said. -/
def defaultOutput : Text := "enterprise-attack.json"

/-- The domain of a table if nothing else is said. -/
def defaultDomain : Text := "enterprise-attack"

/-- The command that builds a table. -/
def generate (arguments : List Text) : Except UsageFault Invocation :=
  command generateForms arguments fun read =>
    match read.positional with
    | [] => .error .missingArgument
    | bundle :: more => do
      noMore more
      return .generate bundle ((read.last? .output).getD defaultOutput)
        ((read.last? .domain).getD defaultDomain)

/-- The list of tactics. -/
def listTactics (arguments : List Text) : Except UsageFault Invocation :=
  command tacticsForms arguments fun read => do
    let matrix ← match read.last? .domain with
      | none => pure none
      | some name =>
        match Matrix.ofName? name with
        | some matrix => pure (some matrix)
        | none => .error .badValue
    noMore read.positional
    return .listTactics matrix

/-- The list of techniques. -/
def listTechniques (arguments : List Text) : Except UsageFault Invocation :=
  command techniquesForms arguments fun read => do
    noMore read.positional
    return .listTechniques (read.last? .parent) (read.has .subtechniques)

/-- Reads the options in front of a name and hands the rest to what the name stands for. An unknown
name is read once more as if it were an option; only then it is refused. -/
def choose (forms : List (OptionForm Key))
    (named : Text → Option (List Text → Except UsageFault Invocation)) (arguments : List Text) :
    Except UsageFault Invocation := do
  if arguments.isEmpty then .error .nothingGiven
  else
    let read ← Arguments.leading forms arguments
    match early? read, read.positional with
    | some early, _ => return early
    | none, [] => .error .unusable
    | none, name :: rest =>
      match named name with
      | some next => next rest
      | none =>
        match early? (← Arguments.leading forms (name :: rest)) with
        | some early => return early
        | none => .error .unusable

/-- The lists by their names. -/
def listNamed? (name : Text) : Option (List Text → Except UsageFault Invocation) :=
  if name = ("tactics" : Text) then some listTactics
  else if name = ("techniques" : Text) then some listTechniques
  else none

/-- The commands by their names. -/
def commandNamed? (name : Text) : Option (List Text → Except UsageFault Invocation) :=
  if name = ("lookup" : Text) then some lookup
  else if name = ("tags" : Text) then some tags
  else if name = ("generate" : Text) then some generate
  else if name = ("catalog" : Text) then some (choose catalogForms listNamed?)
  else none

/-- What a command line asks for. -/
def ofArguments (arguments : List Text) : Except UsageFault Invocation :=
  choose programForms commandNamed? arguments

end Invocation
end ThreatMatrix
