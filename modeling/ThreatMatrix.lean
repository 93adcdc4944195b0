import ThreatMatrix.Main
import ThreatMatrix.Proofs.Catalog.Access
import ThreatMatrix.Proofs.Catalog.Families
import ThreatMatrix.Proofs.Catalog.Vocabulary
import ThreatMatrix.Proofs.Json.Written
import ThreatMatrix.Proofs.Json.Limits
import ThreatMatrix.Proofs.Text.Utf8
import ThreatMatrix.Proofs.Text.Marks
import ThreatMatrix.Proofs.Text.Small
import ThreatMatrix.Proofs.Files.Writing
import ThreatMatrix.Proofs.Files.Legible
import ThreatMatrix.Proofs.Table.Validation
import ThreatMatrix.Proofs.Table.Writing
import ThreatMatrix.Proofs.Table.Arrangement
import ThreatMatrix.Proofs.Table.Reordering
import ThreatMatrix.Proofs.Bundle.Building
import ThreatMatrix.Proofs.Bundle.Shape
import ThreatMatrix.Proofs.Command.Generation
import ThreatMatrix.Proofs.Command.Refusal
import ThreatMatrix.Proofs.Coverage.Union
import ThreatMatrix.Proofs.Coverage.Meaning
import ThreatMatrix.Proofs.Json.Strict
import ThreatMatrix.Proofs.Coverage.Validation
import ThreatMatrix.Proofs.Coverage.Extraction
import ThreatMatrix.Proofs.Coverage.Rendering
import ThreatMatrix.Proofs.Coverage.Spelling
import ThreatMatrix.Proofs.Coverage.Readers
import ThreatMatrix.Proofs.Coverage.Consulting
import ThreatMatrix.Proofs.Session.Events
import ThreatMatrix.Proofs.Session.Snapshot
import ThreatMatrix.Proofs.Table.Description
import ThreatMatrix.Proofs.Table.Exactness
import ThreatMatrix.Proofs.Coverage.Merging
import ThreatMatrix.Proofs.Files.Keeping
import ThreatMatrix.Proofs.Command.AllOrNothing
import ThreatMatrix.Proofs.Bundle.Exactness
import ThreatMatrix.Proofs.Coverage.Blame
import ThreatMatrix.Proofs.Text.Numerals
import ThreatMatrix.Proofs.Text.Respelling
import ThreatMatrix.Proofs.Coverage.Respelling
import ThreatMatrix.Proofs.Catalog.Extension
import ThreatMatrix.Proofs.Coverage.Extension
import ThreatMatrix.Proofs.Command.Families
import ThreatMatrix.Proofs.Command.Listing
import ThreatMatrix.Proofs.Table.Judgement
import ThreatMatrix.Proofs.Session.Operations
import ThreatMatrix.Proofs.Coverage.Elements
import ThreatMatrix.Proofs.Json.Pairs
import ThreatMatrix.Proofs.Json.Reading
import ThreatMatrix.Proofs.Json.Joined
import ThreatMatrix.Proofs.Command.Lookup
import ThreatMatrix.Proofs.Technique.Parts
