import ThreatMatrix.Value.Display

/-!
# Validation reports

Validation looks at all of an offered value and reports every place where it finds fault, in the
order of the fields and items. A report is never empty where validation fails.
-/

namespace ThreatMatrix

/-- The vocabularies that identifiers are read from. -/
inductive Vocabulary where
  | tactic
  | technique
  deriving DecidableEq, Repr

/-- The name of a vocabulary. -/
def Vocabulary.name : Vocabulary → Text
  | .tactic => "tactic"
  | .technique => "technique"

/-- A value that names no member of a vocabulary. -/
structure Unrecognized where
  vocabulary : Vocabulary
  offered : Value

/-- The text that shows the value which was not recognized. -/
def Unrecognized.message (fault : Unrecognized) : Text :=
  "invalid " ++ fault.vocabulary.name ++ " identifier: " ++ fault.offered.display

/-- Why rows do not make up a table. -/
inductive Inconsistency where
  /-- The first row whose identifier stands in an earlier row. -/
  | repeated (id : TechniqueId)
  /-- The rows of sub-techniques whose technique has no row. -/
  | orphans (ids : List TechniqueId)
  deriving DecidableEq

/-- The text that blames the rows. -/
def Inconsistency.message : Inconsistency → Text
  | .repeated id => "duplicate technique id " ++ id.text
  | .orphans ids => "sub-techniques without parent: " ++ Text.join ", " (ids.map (·.text))

/-- What a validated value is meant to be. -/
inductive Subject where
  | technique
  | table
  | coverage
  | settings
  deriving DecidableEq, Repr

/-- The name of a subject in reports. -/
def Subject.name : Subject → Text
  | .technique => "TechniqueRecord"
  | .table => "TechniqueTable"
  | .coverage => "MitreInfo"
  | .settings => "TaxonomySettings"

/-- Where a value comes from: data at hand, or a document that was read for it. -/
inductive Source where
  | data
  | document
  deriving DecidableEq, Repr

/-- What is wrong at one place of a value. -/
inductive Complaint where
  | missing
  | notText
  | notUnicode
  | notTechniqueId
  | notList (source : Source)
  | notRecord (source : Source) (expected : Subject)
  | notBoolean
  | notDocument
  | unrecognized (fault : Unrecognized)
  | inconsistent (fault : Inconsistency)
  | frozen

namespace Complaint

/-- The code of a complaint. -/
def code : Complaint → Text
  | missing => "missing"
  | notText => "string_type"
  | notUnicode => "string_unicode"
  | notTechniqueId => "string_pattern_mismatch"
  | notList _ => "list_type"
  | notRecord _ _ => "model_type"
  | notBoolean => "bool_parsing"
  | notDocument => "json_invalid"
  | unrecognized _ => "value_error"
  | inconsistent _ => "value_error"
  | frozen => "frozen_instance"

/-- The text of a complaint. A document that cannot be read has none of its own. -/
def message? : Complaint → Option Text
  | missing => some "Field required"
  | notText => some "Input should be a valid string"
  | notUnicode => some
    "Input should be a valid string, unable to parse raw data as a unicode string"
  | notTechniqueId => some "String should match pattern '^T\\d\x7b4\x7d(\\.\\d\x7b3\x7d)?$'"
  | notList .data => some "Input should be a valid list"
  | notList .document => some "Input should be a valid array"
  | notRecord .data expected => some
    ("Input should be a valid dictionary or instance of " ++ expected.name)
  | notRecord .document _ => some "Input should be an object"
  | notBoolean => some "Input should be a valid boolean, unable to interpret input"
  | notDocument => none
  | unrecognized fault => some ("Value error, " ++ fault.message)
  | inconsistent fault => some ("Value error, " ++ fault.message)
  | frozen => some "Instance is frozen"

end Complaint

/-- One step on the way from a value to a place inside it. -/
inductive Place where
  | field (name : Text)
  | item (index : Nat)
  deriving DecidableEq

/-- A complaint and the way to the place that it is about. -/
structure Issue where
  way : List Place
  complaint : Complaint

/-- The issue seen from a value that holds the place's value. -/
def Issue.within (place : Place) (issue : Issue) : Issue :=
  { issue with way := place :: issue.way }

/-- Everything that is wrong with an offered value. A value that was offered for a single field has
no subject. -/
structure Report where
  subject : Option Subject
  issues : List Issue

/-- Nothing can be assigned to a field of a validated value. Names that begin with a low line are no
fields, and what is assigned to them is passed over. -/
def Report.ofAssignment (subject : Subject) (name : Text) : Except Report Unit :=
  if name.head? = some ('_' : CodePoint) then .ok ()
  else .error ⟨some subject, [⟨[.field name], .frozen⟩]⟩

/-- Applies a check to every item and gives all results, or else all issues at their indices. -/
def checkItems {α β : Type} (check : α → Except (List Issue) β) :
    Nat → List α → Except (List Issue) (List β)
  | _, [] => .ok []
  | index, item :: more =>
    match check item, checkItems check (index + 1) more with
    | .ok first, .ok rest => .ok (first :: rest)
    | .ok _, .error issues => .error issues
    | .error issues, .ok _ => .error (issues.map (·.within (.item index)))
    | .error issues, .error further =>
      .error (issues.map (·.within (.item index)) ++ further)

/-- Two checked parts, or else the issues of both. -/
def bothChecked {α β : Type} (left : Except (List Issue) α) (right : Except (List Issue) β) :
    Except (List Issue) (α × β) :=
  match left, right with
  | .ok first, .ok second => .ok (first, second)
  | .ok _, .error issues => .error issues
  | .error issues, .ok _ => .error issues
  | .error issues, .error further => .error (issues ++ further)

end ThreatMatrix
