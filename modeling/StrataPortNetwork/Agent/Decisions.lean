import StrataPortNetwork.Agent.Proposals
import StrataPortNetwork.Agent.Listing

/-! # Decisions of the brainstem

`decideCompanionCommunication` and `decideCompanionMemory` inspect an envelope, its receipt and
the identity of its sender, and state what they find as a decision. The two are one function of
the kind of proposal.
-/
namespace Agent.Brainstem
open Js Discovery

/-- The input of both functions; a `now` that is not finite is `none`. -/
structure Input where
  envelope : Json
  protocolReceipt : Json
  identity : Json
  now : Option ℚ

def Input.payload (input : Input) : Json := field input.envelope "payload"

/-- Wherein the two kinds of decisions differ. -/
structure Kind where
  contractVersion : String
  fields : List String
  /-- The label of the digest in the id of a decision. -/
  label : String
  invalid : String
  timestampInvalid : String
  defaultMessage : String
  defaultCorrelation : String
  /-- The reason of an approval. -/
  allowed : String
  validateProposal : Engine → Json → Outcome Unit
  routeValid : Json → Bool
  scopeValid : Json → Json → Bool
  /-- The references of an approved proposal that the decision shows. -/
  evidence : List String
  /-- The fields from `authority_component` to `evidence_refs`. -/
  terms : Json → Bool → List (String × Json)
  flagsValid : Json → Bool
  policyValid : Json → Outcome Unit

/-! ## Validation of decisions -/

/-- `/^brainstem-decision-[A-Za-z0-9_-]{20,48}$/` -/
def decisionIdPattern : Regex := .seq (.text "brainstem-decision-") (.run idClass 20 48)

def denialReasons : List String := ["proposal_contract_invalid", "admission_receipt_invalid", "route_invalid",
  "authority_scope_invalid", "principal_inactive", "policy_denied"]

def isApproved (decision : Json) : Bool := decision.get "decision" == some (.text "approved")

/-- `validateBrainstemCompanionDecision(value)` and `validateBrainstemMemoryDecision(value)`. -/
def validateDecision (engine : Engine) (kind : Kind) (decision : Json) : Outcome Unit := do
  require kind.invalid (hasExactKeys (some decision) kind.fields &&
    decision.get "contract_version" == some (.text kind.contractVersion))
  requireTest kind.invalid decisionIdPattern (decision.get "decision_id")
  requireTest kind.invalid messageIdPattern (decision.get "proposal_message_id")
  requireTest kind.invalid opaqueReferencePattern (decision.get "correlation_id")
  require kind.invalid (oneOf (decision.get "decision") ["approved", "denied"] &&
    decision.get "authority_component" == some (.text "brainstem") && kind.flagsValid decision)
  let evidence ← orThrow ((decision.get "evidence_refs").bind Json.items?) (reject kind.invalid)
  require kind.invalid (1 ≤ evidence.length && evidence.length ≤ 4 && Json.allDistinct evidence)
  ensureAll (fun reference => requireTest kind.invalid opaqueReferencePattern (some reference)) evidence
  require kind.invalid (parseDate engine.date (decision.get "decided_at")).isSome
  kind.policyValid decision

/-! ## Inspection -/

/-- `validateAdmissionReceipt(value, envelope, now)`. -/
def validateAdmissionReceipt (date : DateApi) (receipt envelope : Json) (now : ℚ) : Bool :=
  let acceptedAt := timeOf date receipt "accepted_at"
  (validateProtocolReceipt date receipt).isOk && receipt.get "message_id" == envelope.get "message_id" &&
    receipt.get "correlation_id" == envelope.get "correlation_id" && !(acceptedAt < timeOf date envelope "timestamp") &&
    acceptedAt < timeOf date envelope "expires_at" && !(now < acceptedAt)

/-- An array of one item, which is the given value. -/
def onlyItem (array v : Option Json) : Bool :=
  match items array with
  | [item] => some item == v
  | _ => false

/-- What an inspection finds: the envelope, if it is one with a proposal, and a reason. -/
structure Inspected where
  envelope : Option Json
  reason : String

/-- `inspect(input, now)`. -/
def inspect (engine : Engine) (kind : Kind) (input : Input) (now : ℚ) : Inspected :=
  let date := engine.date
  if !((validateEnvelope date input.envelope).isOk && (kind.validateProposal engine input.payload).isOk) then
    ⟨none, "proposal_contract_invalid"⟩
  else if !kind.routeValid input.envelope then ⟨some input.envelope, "route_invalid"⟩
  else if !validateAdmissionReceipt date input.protocolReceipt input.envelope now then
    ⟨some input.envelope, "admission_receipt_invalid"⟩
  else if !(validateAgentIdentity date input.identity).isOk then ⟨some input.envelope, "authority_scope_invalid"⟩
  else if !(input.identity.get "lifecycle_state" == some (.text "active")) then ⟨some input.envelope, "principal_inactive"⟩
  else if !kind.scopeValid input.identity input.envelope then ⟨some input.envelope, "authority_scope_invalid"⟩
  else ⟨some input.envelope, kind.allowed⟩

/-- The part of the route that both kinds check. -/
def routedAsProposal (envelope : Json) (capabilityId : String) : Bool :=
  envelope.get "message_type" == some (.text "proposal") && isAgent (field envelope "sender") &&
    isComponent (field envelope "recipient") "brainstem" && envelope.get "requested_capability" == some (.text capabilityId) &&
    envelope.get "data_classification" == some (.text "confidential")

/-- The part of the scope that both kinds check. -/
def scopedTo (identity envelope : Json) (capabilityId permission : String) : Bool :=
  let agentId := identity.get "agent_id"
  let authority := field identity "authority"
  identity.get "agent_class" == some (.text "living_companion") && agentId == (field envelope "sender").get "id" &&
    agentId == (field envelope "payload").get "companion_principal_id" &&
    authority.get "ceiling" == some (.text "user_delegated") &&
    onlyItem (authority.get "grant_refs") (envelope.get "authority_ref") &&
    includes (identity.get "permissions") (some (.text permission)) &&
    onlyItem (identity.get "capabilities") (some (.text capabilityId)) &&
    onlyItem ((field identity "execution_scope").get "allowed_capabilities") (some (.text capabilityId)) &&
    allEmpty [identity.get "budget_refs", (field identity "provider_scope").get "provider_refs"] &&
    isNull (identity.get "economic_mandate_ref")

/-! ## The decision -/

/-- A reference of the envelope where it passes its pattern, the default elsewhere; absent and null references are tested as
the empty text. -/
def fallback (pattern : Regex) (v : Option Json) (default : String) : Outcome Json := do
  let found := if v.all Json.isNull then .text "" else v.getD .null
  let passes ← orThrow (pattern.test (some found)) .typeError
  pure (if passes then found else .text default)

/-- The decision before its validation. -/
def decisionOf (kind : Kind) (payload messageId correlationId : Json) (decisionDigest : JsString) (reason : String)
    (approved : Bool) (evidence : List Json) (decidedAt : JsString) : Json :=
  .record ([("contract_version", .text kind.contractVersion),
      ("decision_id", .str (js "brainstem-decision-" ++ decisionDigest)), ("proposal_message_id", messageId),
      ("correlation_id", correlationId), ("decision", .text (if approved then "approved" else "denied")),
      ("reason_class", .text reason), ("authority_component", .text "brainstem")] ++ kind.terms payload approved ++
    [("evidence_refs", .arr evidence), ("decided_at", .str decidedAt)])

def evidenceOf (kind : Kind) (payload messageId : Json) (reason : String) (approved : Bool) : List Json :=
  messageId :: if approved then kind.evidence.map (field payload) else [.text ("brainstem-reason:" ++ reason)]

/-- `decideCompanionCommunication(input)` and `decideCompanionMemory(input)`. -/
def decide (engine : Engine) (kind : Kind) (input : Input) : Outcome Json := do
  let now ← orThrow input.now (reject kind.timestampInvalid)
  let inspected := inspect engine kind input now
  let message ← fallback messageIdPattern (input.envelope.get "message_id") kind.defaultMessage
  let correlation ← fallback opaqueReferencePattern (input.envelope.get "correlation_id") kind.defaultCorrelation
  let approved := inspected.reason == kind.allowed
  let messageId := (inspected.envelope.bind (·.get "message_id")).getD message
  let correlationId := (inspected.envelope.bind (·.get "correlation_id")).getD correlation
  let decisionDigest ← digest engine kind.label [messageId, correlationId, .text inspected.reason]
  let decidedAt ← orThrow (isoText engine.date now) .rangeError
  let decision := decisionOf kind input.payload messageId correlationId decisionDigest inspected.reason approved
    (evidenceOf kind input.payload messageId inspected.reason approved) decidedAt
  validateDecision engine kind decision
  pure decision

/-! ## The two kinds -/

def communication : Kind where
  contractVersion := "kindred.brainstem.companion-communication-decision.v1"
  fields := ["contract_version", "decision_id", "proposal_message_id", "correlation_id", "decision", "reason_class",
    "authority_component", "response_policy", "local_response_authorized", "provider_contact_authorized",
    "memory_write_authorized", "tool_execution_authorized", "settlement_authorized", "external_effects_authorized",
    "evidence_refs", "decided_at"]
  label := "brainstem-companion-decision"
  invalid := "decision_invalid"
  timestampInvalid := "decision_timestamp_invalid"
  defaultMessage := "kindred-message-BrainstemDenied00000001"
  defaultCorrelation := "brainstem-denied-correlation"
  allowed := "local_acknowledgement_allowed"
  validateProposal := validateCompanionCommunicationProposal
  routeValid envelope :=
    let payload := field envelope "payload"
    routedAsProposal envelope COMPANION_COMMUNICATION_CAPABILITY_ID &&
      envelope.get "correlation_id" == payload.get "client_message_id" &&
      envelope.get "causation_id" == payload.get "user_message_id" &&
      includes (envelope.get "evidence_refs") (payload.get "consent_receipt_ref")
  scopeValid identity envelope := scopedTo identity envelope COMPANION_COMMUNICATION_CAPABILITY_ID "companion.communicate"
  evidence := ["consent_receipt_ref"]
  terms _ approved := [
    ("response_policy", if approved then .text "deterministic_local_acknowledgement_only" else .null),
    ("local_response_authorized", .bool approved), ("provider_contact_authorized", .bool false),
    ("memory_write_authorized", .bool false), ("tool_execution_authorized", .bool false),
    ("settlement_authorized", .bool false), ("external_effects_authorized", .bool false)]
  flagsValid decision := allFalse decision ["provider_contact_authorized", "memory_write_authorized",
    "tool_execution_authorized", "settlement_authorized", "external_effects_authorized"]
  policyValid decision :=
    if isApproved decision then require "decision_policy_invalid"
      (decision.get "reason_class" == some (.text "local_acknowledgement_allowed") &&
        decision.get "response_policy" == some (.text "deterministic_local_acknowledgement_only") &&
        decision.get "local_response_authorized" == some (.bool true))
    else require "decision_policy_invalid" (oneOf (decision.get "reason_class") denialReasons &&
      isNull (decision.get "response_policy") && decision.get "local_response_authorized" == some (.bool false))

/-- `validateBrainstemMemoryDecision` on an approval. -/
def memoryApprovalValid (decision : Json) : Outcome Unit := do
  require "memory_decision_policy_invalid"
    (decision.get "reason_class" == some (.text "authoritative_local_memory_commit_allowed"))
  requireTest "memory_decision_policy_invalid" namespacePattern (decision.get "target_namespace_ref")
  let version ← orThrow ((decision.get "expected_memory_version").bind Json.safeInteger?)
    (reject "memory_decision_policy_invalid")
  require "memory_decision_policy_invalid" (1 ≤ version && decision.get "mutation" == some (.text "append_unverified") &&
    decision.get "commit_policy" == some (.text "brainstem_authoritative_local_commit") &&
    decision.get "memory_commit_authorized" == some (.bool true))

def memory : Kind where
  contractVersion := "kindred.brainstem.memory-commit-decision.v1"
  fields := ["contract_version", "decision_id", "proposal_message_id", "correlation_id", "decision", "reason_class",
    "authority_component", "target_namespace_ref", "expected_memory_version", "mutation", "commit_policy",
    "memory_commit_authorized", "provider_contact_authorized", "tool_execution_authorized", "settlement_authorized",
    "external_effects_authorized", "evidence_refs", "decided_at"]
  label := "brainstem-memory-decision"
  invalid := "memory_decision_invalid"
  timestampInvalid := "memory_decision_timestamp_invalid"
  defaultMessage := "kindred-message-MemoryDenied0000000001"
  defaultCorrelation := "memory-denied-correlation"
  allowed := "authoritative_local_memory_commit_allowed"
  validateProposal := validateCompanionMemoryProposal
  routeValid envelope :=
    let payload := field envelope "payload"
    routedAsProposal envelope COMPANION_MEMORY_PROPOSAL_CAPABILITY_ID &&
      envelope.get "correlation_id" == payload.get "client_request_id" &&
      envelope.get "causation_id" ==
        some (.str (js "memory-version:" ++ versionText (field payload "expected_memory_version"))) &&
      includes (envelope.get "evidence_refs") (payload.get "consent_receipt_ref") &&
      includes (envelope.get "evidence_refs") (payload.get "target_namespace_ref")
  scopeValid identity envelope :=
    let memoryScope := field identity "memory_scope"
    scopedTo identity envelope COMPANION_MEMORY_PROPOSAL_CAPABILITY_ID "companion.memory.propose" &&
      memoryScope.get "write_mode" == some (.text "proposal_only") &&
      onlyItem (memoryScope.get "namespace_refs") ((field envelope "payload").get "target_namespace_ref")
  evidence := ["consent_receipt_ref", "target_namespace_ref"]
  terms payload approved := [
    ("target_namespace_ref", if approved then field payload "target_namespace_ref" else .null),
    ("expected_memory_version", if approved then field payload "expected_memory_version" else .null),
    ("mutation", if approved then field payload "mutation" else .null),
    ("commit_policy", if approved then .text "brainstem_authoritative_local_commit" else .null),
    ("memory_commit_authorized", .bool approved), ("provider_contact_authorized", .bool false),
    ("tool_execution_authorized", .bool false), ("settlement_authorized", .bool false),
    ("external_effects_authorized", .bool false)]
  flagsValid decision := (decision.get "memory_commit_authorized").any Json.isBool && allFalse decision
    ["provider_contact_authorized", "tool_execution_authorized", "settlement_authorized", "external_effects_authorized"]
  policyValid decision :=
    if isApproved decision then memoryApprovalValid decision
    else require "memory_decision_policy_invalid" (oneOf (decision.get "reason_class") denialReasons &&
      isNull (decision.get "target_namespace_ref") && isNull (decision.get "expected_memory_version") &&
      isNull (decision.get "mutation") && isNull (decision.get "commit_policy") &&
      decision.get "memory_commit_authorized" == some (.bool false))

def decideCompanionCommunication (engine : Engine) (input : Input) : Outcome Json := decide engine communication input
def decideCompanionMemory (engine : Engine) (input : Input) : Outcome Json := decide engine memory input

end Agent.Brainstem
