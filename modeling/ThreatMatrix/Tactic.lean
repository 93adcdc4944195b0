import ThreatMatrix.Matrix
import ThreatMatrix.Text.Lowercase

/-!
# Tactics

The closed set of tactics of both matrices, and the two vocabularies that name them: identifiers,
which are unique, and shortnames, which are unique within a matrix.
-/

namespace ThreatMatrix

/-- A published tactic. A tactic of the mobile matrix says so in its name. -/
inductive Tactic where
  | initialAccess
  | execution
  | persistence
  | privilegeEscalation
  | defenseEvasion
  | credentialAccess
  | discovery
  | lateralMovement
  | collection
  | exfiltration
  | commandAndControl
  | impact
  | resourceDevelopment
  | reconnaissance
  | mobileInitialAccess
  | mobilePersistence
  | mobilePrivilegeEscalation
  | mobileDefenseEvasion
  | mobileCredentialAccess
  | mobileDiscovery
  | mobileLateralMovement
  | mobileImpact
  | mobileCollection
  | mobileExfiltration
  | mobileCommandAndControl
  | mobileNetworkEffects
  | mobileRemoteServiceEffects
  | mobileExecution
  deriving DecidableEq, Repr

namespace Tactic

/-- The tactics in the order of their declaration. -/
def all : List Tactic := [
  initialAccess, execution, persistence, privilegeEscalation, defenseEvasion, credentialAccess,
  discovery, lateralMovement, collection, exfiltration, commandAndControl, impact,
  resourceDevelopment, reconnaissance, mobileInitialAccess, mobilePersistence,
  mobilePrivilegeEscalation, mobileDefenseEvasion, mobileCredentialAccess, mobileDiscovery,
  mobileLateralMovement, mobileImpact, mobileCollection, mobileExfiltration,
  mobileCommandAndControl, mobileNetworkEffects, mobileRemoteServiceEffects, mobileExecution]

/-- Every tactic is listed. -/
theorem mem_all (tactic : Tactic) : tactic ∈ all := by
  cases tactic <;> decide

/-- What is published about a tactic. -/
structure Entry where
  /-- The canonical identifier. -/
  id : Text
  /-- The title shown to people. -/
  label : Text
  /-- The name of the phase in a kill chain. -/
  shortname : Text
  /-- The matrix that lists the tactic. -/
  matrix : Matrix

/-- The published entry of a tactic. -/
def entry : Tactic → Entry
  | initialAccess => ⟨"TA0001", "Initial Access", "initial-access", .enterprise⟩
  | execution => ⟨"TA0002", "Execution", "execution", .enterprise⟩
  | persistence => ⟨"TA0003", "Persistence", "persistence", .enterprise⟩
  | privilegeEscalation => ⟨"TA0004", "Privilege Escalation", "privilege-escalation", .enterprise⟩
  | defenseEvasion => ⟨"TA0005", "Defense Evasion", "defense-evasion", .enterprise⟩
  | credentialAccess => ⟨"TA0006", "Credential Access", "credential-access", .enterprise⟩
  | discovery => ⟨"TA0007", "Discovery", "discovery", .enterprise⟩
  | lateralMovement => ⟨"TA0008", "Lateral Movement", "lateral-movement", .enterprise⟩
  | collection => ⟨"TA0009", "Collection", "collection", .enterprise⟩
  | exfiltration => ⟨"TA0010", "Exfiltration", "exfiltration", .enterprise⟩
  | commandAndControl => ⟨"TA0011", "Command and Control", "command-and-control", .enterprise⟩
  | impact => ⟨"TA0040", "Impact", "impact", .enterprise⟩
  | resourceDevelopment => ⟨"TA0042", "Resource Development", "resource-development", .enterprise⟩
  | reconnaissance => ⟨"TA0043", "Reconnaissance", "reconnaissance", .enterprise⟩
  | mobileInitialAccess => ⟨"TA0027", "Initial Access", "initial-access", .mobile⟩
  | mobilePersistence => ⟨"TA0028", "Persistence", "persistence", .mobile⟩
  | mobilePrivilegeEscalation => ⟨"TA0029", "Privilege Escalation", "privilege-escalation", .mobile⟩
  | mobileDefenseEvasion => ⟨"TA0030", "Defense Evasion", "defense-evasion", .mobile⟩
  | mobileCredentialAccess => ⟨"TA0031", "Credential Access", "credential-access", .mobile⟩
  | mobileDiscovery => ⟨"TA0032", "Discovery", "discovery", .mobile⟩
  | mobileLateralMovement => ⟨"TA0033", "Lateral Movement", "lateral-movement", .mobile⟩
  | mobileImpact => ⟨"TA0034", "Impact", "impact", .mobile⟩
  | mobileCollection => ⟨"TA0035", "Collection", "collection", .mobile⟩
  | mobileExfiltration => ⟨"TA0036", "Exfiltration", "exfiltration", .mobile⟩
  | mobileCommandAndControl => ⟨"TA0037", "Command and Control", "command-and-control", .mobile⟩
  | mobileNetworkEffects => ⟨"TA0038", "Network Effects", "network-effects", .mobile⟩
  | mobileRemoteServiceEffects =>
    ⟨"TA0039", "Remote Service Effects", "remote-service-effects", .mobile⟩
  | mobileExecution => ⟨"TA0041", "Execution", "execution", .mobile⟩

/-- The canonical identifier. -/
def id (tactic : Tactic) : Text := tactic.entry.id

/-- The title shown to people. -/
def label (tactic : Tactic) : Text := tactic.entry.label

/-- The name of the phase in a kill chain. -/
def shortname (tactic : Tactic) : Text := tactic.entry.shortname

/-- The matrix that lists the tactic. -/
def matrix (tactic : Tactic) : Matrix := tactic.entry.matrix

/-- The tactics of a matrix in the order of their declaration. -/
def ofMatrix (matrix : Matrix) : List Tactic :=
  all.filter (·.matrix = matrix)

/-- The tactics of a matrix are those that it lists. -/
theorem mem_ofMatrix {matrix : Matrix} {tactic : Tactic} :
    tactic ∈ ofMatrix matrix ↔ tactic.matrix = matrix := by
  simp [ofMatrix, mem_all]

/-- The tactic with exactly this identifier. -/
def ofId? (text : Text) : Option Tactic :=
  all.find? (·.id = text)

/-- A canonical identifier is read as its tactic. -/
theorem ofId?_id (tactic : Tactic) : ofId? tactic.id = some tactic := by
  cases tactic <;> decide

/-- The one alias among the identifiers. -/
def byname : Text := "command_and_control"

/-- The small spellings of the identifiers and the alias, each with its tactic. -/
def vocabulary : List (Text × Tactic) :=
  all.map (fun tactic => (tactic.id.lower, tactic)) ++ [(byname, commandAndControl)]

/-- The tactic that an identifier names in any letter case. -/
def parse? (text : Text) : Option Tactic :=
  vocabulary.lookup text.lower

/-- The spelling under which a shortname is found: small letters and hyphens. -/
def shortnameKey (text : Text) : Text :=
  text.lower.exchange '_' '-'

/-- The tactic of a matrix that a shortname names, in any letter case and with low lines for
hyphens. -/
def ofShortname? (matrix : Matrix) (text : Text) : Option Tactic :=
  all.find? fun tactic => tactic.matrix = matrix ∧ tactic.shortname = shortnameKey text

/-- The tactic that the name in a tag stands for: an identifier, or else a shortname of the
enterprise matrix. -/
def ofTagName? (text : Text) : Option Tactic :=
  parse? text <|> ofShortname? .enterprise text

end Tactic
end ThreatMatrix
