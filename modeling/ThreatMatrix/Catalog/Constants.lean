import ThreatMatrix.Catalog.Basic
import ThreatMatrix.Tactic
import ThreatMatrix.Technique.Numbered

/-!
# Constants

Readable names for tactics and for techniques that are tagged often. Every catalog must hold the
techniques that have a name.
-/

namespace ThreatMatrix.Constants

/-- The names of tactics. -/
def tactics : List (Text × Tactic) := [
  ("ENTERPRISE_RECONNAISSANCE", .reconnaissance),
  ("ENTERPRISE_RESOURCE_DEVELOPMENT", .resourceDevelopment),
  ("ENTERPRISE_INITIAL_ACCESS", .initialAccess),
  ("ENTERPRISE_EXECUTION", .execution),
  ("ENTERPRISE_PERSISTENCE", .persistence),
  ("ENTERPRISE_PRIVILEGE_ESCALATION", .privilegeEscalation),
  ("ENTERPRISE_DEFENSE_EVASION", .defenseEvasion),
  ("ENTERPRISE_CREDENTIAL_ACCESS", .credentialAccess),
  ("ENTERPRISE_DISCOVERY", .discovery),
  ("ENTERPRISE_LATERAL_MOVEMENT", .lateralMovement),
  ("ENTERPRISE_COLLECTION", .collection),
  ("ENTERPRISE_COMMAND_AND_CONTROL", .commandAndControl),
  ("ENTERPRISE_EXFILTRATION", .exfiltration),
  ("ENTERPRISE_IMPACT", .impact),
  ("MOBILE_INITIAL_ACCESS", .mobileInitialAccess),
  ("MOBILE_EXECUTION", .mobileExecution),
  ("MOBILE_PERSISTENCE", .mobilePersistence),
  ("MOBILE_PRIVILEGE_ESCALATION", .mobilePrivilegeEscalation),
  ("MOBILE_DEFENSE_EVASION", .mobileDefenseEvasion),
  ("MOBILE_CREDENTIAL_ACCESS", .mobileCredentialAccess),
  ("MOBILE_DISCOVERY", .mobileDiscovery),
  ("MOBILE_LATERAL_MOVEMENT", .mobileLateralMovement),
  ("MOBILE_COLLECTION", .mobileCollection),
  ("MOBILE_COMMAND_AND_CONTROL", .mobileCommandAndControl),
  ("MOBILE_EXFILTRATION", .mobileExfiltration),
  ("MOBILE_IMPACT", .mobileImpact),
  ("MOBILE_NETWORK_EFFECTS", .mobileNetworkEffects),
  ("MOBILE_REMOTE_SERVICE_EFFECTS", .mobileRemoteServiceEffects)]

/-- The names of techniques. -/
def techniques : List (Text × TechniqueId) := [
  ("OS_CREDENTIAL_DUMPING", .ofNumbers 1003 0),
  ("LSASS_MEMORY", .ofNumbers 1003 1),
  ("DCSYNC", .ofNumbers 1003 6),
  ("SYSTEM_SERVICE_DISCOVERY", .ofNumbers 1007 0),
  ("EXFILTRATION_OVER_C2_CHANNEL", .ofNumbers 1041 0),
  ("SCHEDULED_TASK", .ofNumbers 1053 5),
  ("PROCESS_INJECTION", .ofNumbers 1055 0),
  ("PROCESS_HOLLOWING", .ofNumbers 1055 12),
  ("COMMAND_AND_SCRIPTING_INTERPRETER", .ofNumbers 1059 0),
  ("POWERSHELL", .ofNumbers 1059 1),
  ("WINDOWS_COMMAND_SHELL", .ofNumbers 1059 3),
  ("UNIX_SHELL", .ofNumbers 1059 4),
  ("APPLICATION_LAYER_PROTOCOL", .ofNumbers 1071 0),
  ("WEB_PROTOCOLS", .ofNumbers 1071 1),
  ("VALID_ACCOUNTS", .ofNumbers 1078 0),
  ("INGRESS_TOOL_TRANSFER", .ofNumbers 1105 0),
  ("BRUTE_FORCE", .ofNumbers 1110 0),
  ("EXPLOIT_PUBLIC_FACING_APPLICATION", .ofNumbers 1190 0),
  ("DATA_ENCRYPTED_FOR_IMPACT", .ofNumbers 1486 0),
  ("REGISTRY_RUN_KEYS", .ofNumbers 1547 1),
  ("SPEARPHISHING_ATTACHMENT", .ofNumbers 1566 1)]

/-- The identifiers that every catalog must hold, in the order in which they are required. -/
def required : List Text :=
  techniques.map (·.2.text)

/-- What a name stands for. -/
inductive Meaning where
  | tactic (tactic : Tactic)
  | technique (technique : Technique)

/-- What a name stands for in a catalog; a technique is found by its symbol. -/
def meaning? (catalog : Catalog) (name : Text) : Option Meaning :=
  match tactics.lookup name with
  | some tactic => some (.tactic tactic)
  | none => do
    let id ← techniques.lookup name
    return .technique (← catalog.ofSymbol? id.symbol)

/-- All names in alphabetical order, with the identifiers of what they stand for. -/
def all : List (Text × Text) :=
  let named := tactics.map (fun (name, tactic) => (name, tactic.id)) ++
    techniques.map fun (name, id) => (name, id.text)
  named.mergeSort fun left right => Text.precedes left.1 right.1

end ThreatMatrix.Constants
