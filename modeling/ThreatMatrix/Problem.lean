import ThreatMatrix.Files.Tree
import ThreatMatrix.Json.Reader
import ThreatMatrix.Report
import ThreatMatrix.Value.Access

/-!
# Problems

Everything that can keep an operation of the library from its result, with the text that is shown
for it. Where one problem follows from another it carries its cause.
-/

namespace ThreatMatrix

/-- Why an operation has no result. -/
inductive Problem where
  /-- A value names no member of a vocabulary. -/
  | unrecognized (fault : Unrecognized)
  /-- A value is not the identifier of a member. -/
  | notMember (vocabulary : Vocabulary) (offered : Value)
  /-- A symbol stands for an earlier technique already. -/
  | symbolTaken (symbol : Text) (earlier : Technique)
  /-- Nothing is kept under a key. -/
  | unknownKey (key : Value)
  /-- No constant has a name. -/
  | unknownConstant (name : Text)
  /-- A value was used as something that it is not. -/
  | misuse (fault : Misuse)
  /-- A value was validated and found wanting. -/
  | invalid (report : Report)
  /-- A text that was read as a number denotes none. -/
  | notNumeral (numeral : Text)
  /-- A file operation failed. -/
  | file (fault : FileFault)
  /-- A file holds no UTF-8. -/
  | notText (fault : Utf8.Malformed)
  /-- A text with a lone surrogate was to be written. -/
  | notWritable (run : Utf8.Unpaired)
  /-- A text is no document, or one beyond the limits. -/
  | notDocument (refusal : Json.Refusal)
  /-- A table cannot be loaded. -/
  | tableUnreadable (source : Text) (cause : Problem)
  /-- A table lacks techniques that were required of it. -/
  | tableIncomplete (source : Text) (lacking : List Text)
  /-- A bundle cannot be read. -/
  | bundleUnreadable (source : Text) (cause : Problem)
  /-- A document is no bundle. -/
  | notBundle (source : Text)
  /-- The techniques of a bundle make up no table. -/
  | bundleInconsistent (cause : Problem)

namespace Problem

/-- The text of a problem. A report stands in other texts as a mark. -/
def message : Problem → Text
  | unrecognized fault => fault.message
  | notMember .tactic offered => offered.display ++ " is not a valid Tactic"
  | notMember .technique offered => offered.display ++ " is not a valid Technique"
  | symbolTaken symbol earlier =>
    symbol.quoted ++ " already defined as " ++
      (Value.tuple [.text earlier.id.text, .text earlier.name]).display
  | unknownKey key => key.display
  | unknownConstant name =>
    "module 'attack_taxonomy.catalog.constants' has no attribute '" ++ name ++ "'"
  | misuse fault => fault.message
  | invalid _ => "<ValidationError>"
  | notNumeral numeral => "invalid literal for int() with base 10: " ++ numeral.quoted
  | file fault => fault.message
  | notText fault => fault.message
  | notWritable run => run.message
  | notDocument refusal => refusal.message
  | tableUnreadable source cause =>
    "cannot load technique table " ++ source ++ ": " ++ cause.message
  | tableIncomplete source lacking =>
    "technique table " ++ source ++ " is missing required IDs: " ++ Text.join ", " lacking
  | bundleUnreadable source cause => "cannot read STIX bundle " ++ source ++ ": " ++ cause.message
  | notBundle source => source ++ " is not a STIX bundle"
  | bundleInconsistent cause => "bundle produced an invalid technique table: " ++ cause.message

/-- The problems that the loaders report as their own: a fault of the file system, a text that is no
document, and a value that validation refuses. -/
def isLoadFailure : Problem → Bool
  | file (.reported _ _) => true
  | notDocument (.malformed _ _) => true
  | invalid _ => true
  | _ => false

end Problem
end ThreatMatrix
