import StrataPortNetwork.Agent.Discovery
import StrataPortNetwork.Js.Base64Url
import StrataPortNetwork.ProcessIntelligence.Observer

/-! # Proposals of a companion and their artifacts

The validators of communication and memory proposals, and what is created for a proposal or a
discovery request: a grant, the identity that declares it and the envelope, under ids that are
digests of the request. Errors of these modules carry a reason class as those of the protocol do.
-/
namespace Agent
open Js Discovery

/-- What is computed outside of the modules: SHA-256, the normal form NFKC, and `Date.parse` on texts that `toISOString` does
not write. -/
structure Engine where
  sha256 : Bytes → Bytes
  sha256_length : ∀ bytes, (sha256 bytes).length = 32
  nfkc : JsString → JsString
  otherDate : JsString → Option ℤ

def Engine.date (engine : Engine) : DateApi := engineDate engine.otherDate

/-! ## Digests -/

/-- What `join` writes of an item. -/
def elementText? (v : Json) : Option JsString := if v.isNull then some [] else v.toStr?

/-- `values.join(":")`; `none` is the TypeError of a coercion. -/
def joined? (values : List Json) : Option JsString := (values.mapM elementText?).map [58].intercalate

/-- `createHash("sha256").update(text).digest("base64url").slice(0, 32)`. -/
def Engine.digestOf (engine : Engine) (text : JsString) : JsString := (base64UrlEncode (engine.sha256 (utf8Encode text))).take 32

/-- `label + ":" + values.join(":")`. -/
def digestText (label : String) (values : List Json) : Outcome JsString := do
  let text ← orThrow (joined? values) .typeError
  pure (js label ++ 58 :: text)

/-- `digest(label, ...values)`. -/
def digest (engine : Engine) (label : String) (values : List Json) : Outcome JsString := do
  let text ← digestText label values
  pure (engine.digestOf text)

/-! ## Validators of proposals -/

def COMPANION_COMMUNICATION_CAPABILITY_ID : String := "kindred.capability.companion.communication-proposal.v1"
def COMPANION_MEMORY_PROPOSAL_CAPABILITY_ID : String := "kindred.capability.companion.memory-proposal.v1"
def COMPANION_COMMUNICATION_PROPOSAL_FIELDS : List String := ["contract_version", "purpose", "consent_receipt_ref",
  "companion_principal_id", "user_message_id", "client_message_id", "content", "response_mode",
  "provider_contact_requested", "memory_write_requested", "tool_execution_requested", "settlement_requested",
  "external_effects"]
def COMPANION_MEMORY_PROPOSAL_FIELDS : List String := ["contract_version", "purpose", "consent_receipt_ref",
  "companion_principal_id", "client_request_id", "target_namespace_ref", "expected_memory_version", "mutation", "category",
  "content", "source_kind", "source_reference", "retention", "companion_access", "verification", "commit_policy",
  "memory_mutated", "provider_contact_requested", "tool_execution_requested", "settlement_requested", "external_effects"]

def categories : List String := ["working", "episodic", "semantic", "relationship", "preference", "procedural",
  "safety_governance", "provenance"]
def retentions : List String := ["session", "until_revoked", "user_managed"]

/-- `/^consent-receipt-[A-Za-z0-9_-]{20,48}$/` -/
def consentReceiptPattern : Regex := .seq (.text "consent-receipt-") (.run idClass 20 48)
def companionPrincipalPattern : Regex := idPattern "kindred-agent-companion-"
def userMessagePattern : Regex := idPattern "chat-message-"
def namespacePattern : Regex := idPattern "companion:local-companion-"

/-- A unit that `unsafeContentPattern` matches: a control character other than tab, line feed and carriage return. -/
def isUnsafe (u : UInt16) : Bool := (u.toNat ≤ 31 && u ≠ 9 && u ≠ 10 && u ≠ 13) || u == 127

/-- The checks on the content of a proposal. -/
def contentValid (engine : Engine) (v : Option Json) : Bool :=
  match v with
  | some (.str s) => s ≠ [] && s.length ≤ 4096 && s == trim (engine.nfkc s) && !s.any isUnsafe
  | _ => false

/-- `validateCompanionCommunicationProposal(value)`. -/
def validateCompanionCommunicationProposal (engine : Engine) (proposal : Json) : Outcome Unit := do
  exactKeys (some proposal) COMPANION_COMMUNICATION_PROPOSAL_FIELDS "proposal_fields_invalid"
  require "proposal_invalid"
    (proposal.get "contract_version" == some (.text "kindred.agent.companion-communication-proposal.v1") &&
      proposal.get "purpose" == some (.text "companion_chat"))
  requireTest "proposal_invalid" consentReceiptPattern (proposal.get "consent_receipt_ref")
  requireTest "proposal_invalid" companionPrincipalPattern (proposal.get "companion_principal_id")
  requireTest "proposal_invalid" userMessagePattern (proposal.get "user_message_id")
  requireTest "proposal_invalid" opaqueReferencePattern (proposal.get "client_message_id")
  require "proposal_invalid" (contentValid engine (proposal.get "content") &&
    proposal.get "response_mode" == some (.text "brainstem_decision_required") && allFalse proposal
      ["provider_contact_requested", "memory_write_requested", "tool_execution_requested", "settlement_requested",
        "external_effects"])

/-- `validateCompanionMemoryProposal(value)`. -/
def validateCompanionMemoryProposal (engine : Engine) (proposal : Json) : Outcome Unit := do
  exactKeys (some proposal) COMPANION_MEMORY_PROPOSAL_FIELDS "memory_proposal_fields_invalid"
  require "memory_proposal_invalid"
    (proposal.get "contract_version" == some (.text "kindred.agent.companion-memory-proposal.v1") &&
      proposal.get "purpose" == some (.text "companion_memory"))
  requireTest "memory_proposal_invalid" consentReceiptPattern (proposal.get "consent_receipt_ref")
  requireTest "memory_proposal_invalid" companionPrincipalPattern (proposal.get "companion_principal_id")
  requireTest "memory_proposal_invalid" opaqueReferencePattern (proposal.get "client_request_id")
  requireTest "memory_proposal_invalid" namespacePattern (proposal.get "target_namespace_ref")
  let version ← orThrow ((proposal.get "expected_memory_version").bind Json.safeInteger?) (reject "memory_proposal_invalid")
  require "memory_proposal_invalid" (1 ≤ version && proposal.get "mutation" == some (.text "append_unverified") &&
    oneOf (proposal.get "category") categories && contentValid engine (proposal.get "content") &&
    proposal.get "source_kind" == some (.text "user_provided") && isNull (proposal.get "source_reference") &&
    oneOf (proposal.get "retention") retentions && (proposal.get "companion_access").any Json.isBool &&
    proposal.get "verification" == some (.text "unverified") &&
    proposal.get "commit_policy" == some (.text "brainstem_decision_required") && allFalse proposal ["memory_mutated",
      "provider_contact_requested", "tool_execution_requested", "settlement_requested", "external_effects"])
  -- `replace` is a method of strings only
  let companion ← orThrow ((proposal.get "companion_principal_id").bind Json.str?) .typeError
  require "memory_proposal_target_invalid" (proposal.get "target_namespace_ref" ==
    some (.str (js "companion:local-companion-" ++ companion.drop "kindred-agent-companion-".length)))

/-! ## Artifacts -/

/-- What is created for a proposal or a discovery request. -/
structure Artifacts where
  grant : Json
  identity : Json
  envelope : Json

/-- The parts in which the artifacts of the three kinds of requests differ. -/
structure Request where
  /-- The labels of the digests for the grant, the authentication reference, the message and the nonce. -/
  labels : String × String × String × String
  capabilityIds : List Json
  messageType : String
  permission : String
  correlationId : Json
  causationId : Json
  classification : String
  capability : Json
  evidenceRefs : List Json
  payload : Json

def grantOf (request : Request) (agentId : Json) (grantDigest authrefDigest issuedAt expiresAt : JsString) : Json :=
  .record [("contract_version", .text "kindred.agent.authority-grant.v1"),
    ("grant_id", .str (js "kindred-grant-" ++ grantDigest)), ("subject_agent_id", agentId),
    ("issuer_component", .text "brainstem"), ("issuer_id", .text "kindred-component-brainstem"),
    ("authentication_ref", .str (js "kindred-authref-" ++ authrefDigest)), ("authority_level", .text "user_delegated"),
    ("capability_ids", .arr request.capabilityIds), ("message_types", .arr [.text request.messageType]),
    ("permissions", .arr [.text request.permission]), ("budget_refs", .arr []), ("parent_grant_ref", .null),
    ("issued_at", .str issuedAt), ("expires_at", .str expiresAt), ("status", .text "active"), ("revoked_at", .null)]

def principal (type : String) (id : Json) : Json := .record [("principal_type", .text type), ("id", id)]

def envelopeOf (request : Request) (agentId grant : Json) (messageDigest nonce issuedAt expiresAt : JsString) : Json :=
  .record [("contract_version", .text "kindred.agent.message-envelope.v1"),
    ("message_id", .str (js "kindred-message-" ++ messageDigest)), ("message_type", .text request.messageType),
    ("sender", principal "agent" agentId), ("recipient", principal "runtime_component" (.text "brainstem")),
    ("authority_ref", field grant "grant_id"), ("correlation_id", request.correlationId),
    ("causation_id", request.causationId), ("nonce", .str nonce), ("timestamp", .str issuedAt),
    ("expires_at", .str expiresAt), ("data_classification", .text request.classification),
    ("requested_capability", request.capability), ("budget_ref", .null), ("evidence_refs", .arr request.evidenceRefs),
    ("authentication_ref", field grant "authentication_ref"), ("delegation_ref", .null), ("payload", request.payload)]

/-- The time a request is made at and the time it expires at, as texts. -/
structure Period where
  issuedAt : JsString
  expiresAt : JsString

/-- The three requests expire after two minutes. -/
def TTL_MS : ℚ := 2 * 60 * 1000

def periodOf (engine : Engine) (now : ℚ) : Outcome Period := do
  let issuedAt ← orThrow (isoText engine.date now) .rangeError
  let expiresAt ← orThrow (isoText engine.date (now + TTL_MS)) .rangeError
  pure ⟨issuedAt, expiresAt⟩

/-- The identity that declares the grant of a proposal and its capability. -/
def scopedIdentity (identity grant capabilityId : Json) : Json :=
  (((identity.set "contract_version" (.text "kindred.agent.identity.v1")).set "capabilities" (.arr [capabilityId])).set
    "authority" ((field identity "authority").set "grant_refs" (.arr [field grant "grant_id"]))).set
    "execution_scope" ((field identity "execution_scope").set "allowed_capabilities" (.arr [capabilityId]))

/-- The identity that declares the grant of a discovery request as well. -/
def discoveringIdentity (identity grant : Json) : Json :=
  identity.set "authority" ((field identity "authority").set "grant_refs"
    (.arr (items ((field identity "authority").get "grant_refs") ++ [field grant "grant_id"])))

/-- The grant, the identity and the envelope of a request, in the order they are made in. -/
def createArtifacts (engine : Engine) (request : Request) (agentId : Json) (seed : JsString) (period : Period)
    (declaring : Json → Json) : Outcome Artifacts := do
  let (grantLabel, authrefLabel, messageLabel, nonceLabel) := request.labels
  let grantDigest ← digest engine grantLabel [.str seed]
  let authrefDigest ← digest engine authrefLabel [.str seed]
  let grant := grantOf request agentId grantDigest authrefDigest period.issuedAt period.expiresAt
  validateAuthorityGrant engine.date grant
  let identity := declaring grant
  validateAgentIdentity engine.date identity
  let messageDigest ← digest engine messageLabel [.str seed]
  let nonce ← digest engine nonceLabel [.str seed]
  let envelope := envelopeOf request agentId grant messageDigest nonce period.issuedAt period.expiresAt
  validateEnvelope engine.date envelope
  pure ⟨grant, identity, envelope⟩

/-- No item in any of the arrays. -/
def allEmpty (arrays : List (Option Json)) : Bool := arrays.all fun array => (items array).length == 0

/-- A companion that asks for nothing yet. -/
def scopeEmpty (identity : Json) : Bool :=
  identity.get "agent_class" == some (.text "living_companion") && allEmpty [identity.get "capabilities",
    (field identity "authority").get "grant_refs", identity.get "budget_refs",
    (field identity "execution_scope").get "allowed_capabilities", (field identity "provider_scope").get "provider_refs"] &&
    isNull (identity.get "economic_mandate_ref")

/-! ### Communication -/

/-- The capability of a proposal; the two kinds differ in the values given here. -/
def proposalCapability (id owner action risk contract : String) : Json :=
  .record [("contract_version", .text "kindred.agent.capability.v1"), ("capability_id", .text id), ("version", .text "1.0.0"),
    ("owner_component", .text owner), ("action_type", .text action), ("allowed_agent_classes", .arr [.text "living_companion"]),
    ("required_authority", .text "user_delegated"), ("risk_ceiling", .text risk),
    ("data_classifications", .arr [.text "confidential"]), ("execution_mode", .text "proposal_only"),
    ("provider_contact", .text "mediated_only"), ("memory_commit", .text "brainstem_only"),
    ("settlement", .text "retrobank_mandate_only"), ("compensation_required", .bool false),
    ("input_contract_ref", .text contract), ("output_contract_ref", .text "contracts/agent/v1/protocol-receipt.schema.json")]

/-- `communicationCapability()`. -/
def communicationCapability : Json := proposalCapability COMPANION_COMMUNICATION_CAPABILITY_ID "emit_core" "communication" "low"
  "contracts/agent/v1/companion-communication-proposal.schema.json"

/-- `memoryProposalCapability()`. -/
def memoryProposalCapability : Json := proposalCapability COMPANION_MEMORY_PROPOSAL_CAPABILITY_ID "brainstem" "memory_proposal"
  "medium" "contracts/agent/v1/companion-memory-proposal.schema.json"

/-- The input of `createCompanionCommunicationArtifacts`; a `now` that is not finite is `none`. An absent field is refused
by the checks, as a value of another type is. -/
structure CommunicationInput where
  identity : Json
  consentReceiptRef : Json
  userMessageId : Json
  clientMessageId : Json
  content : Json
  now : Option ℚ

def communicationProposal (input : CommunicationInput) : Json :=
  .record [("contract_version", .text "kindred.agent.companion-communication-proposal.v1"), ("purpose", .text "companion_chat"),
    ("consent_receipt_ref", input.consentReceiptRef), ("companion_principal_id", field input.identity "agent_id"),
    ("user_message_id", input.userMessageId), ("client_message_id", input.clientMessageId), ("content", input.content),
    ("response_mode", .text "brainstem_decision_required"), ("provider_contact_requested", .bool false),
    ("memory_write_requested", .bool false), ("tool_execution_requested", .bool false),
    ("settlement_requested", .bool false), ("external_effects", .bool false)]

/-- The text whose digest is the seed of a communication proposal. -/
def communicationSeedText (input : CommunicationInput) : Outcome JsString :=
  digestText "companion-communication" [field input.identity "agent_id", input.consentReceiptRef, input.clientMessageId]

def communicationRequest (input : CommunicationInput) : Request where
  labels := ("grant", "authref", "message", "nonce")
  capabilityIds := [.text COMPANION_COMMUNICATION_CAPABILITY_ID]
  messageType := "proposal"
  permission := "companion.communicate"
  correlationId := input.clientMessageId
  causationId := input.userMessageId
  classification := "confidential"
  capability := .text COMPANION_COMMUNICATION_CAPABILITY_ID
  evidenceRefs := [input.consentReceiptRef]
  payload := communicationProposal input

/-- `createCompanionCommunicationArtifacts(input)`; the capability is returned beside the artifacts. -/
def createCompanionCommunicationArtifacts (engine : Engine) (input : CommunicationInput) : Outcome (Json × Artifacts) := do
  validateAgentIdentity engine.date input.identity
  require "companion_scope_not_empty" (scopeEmpty input.identity)
  validateCompanionCommunicationProposal engine (communicationProposal input)
  let now ← orThrow input.now (reject "proposal_timestamp_invalid")
  let period ← periodOf engine now
  let seedText ← communicationSeedText input
  validateCapability communicationCapability
  let artifacts ← createArtifacts engine (communicationRequest input) (field input.identity "agent_id")
    (engine.digestOf seedText) period
    fun grant => scopedIdentity input.identity grant (.text COMPANION_COMMUNICATION_CAPABILITY_ID)
  pure (communicationCapability, artifacts)

/-! ### Memory -/

/-- The input of `createCompanionMemoryProposalArtifacts`. -/
structure MemoryInput where
  identity : Json
  consentReceiptRef : Json
  clientRequestId : Json
  targetNamespaceRef : Json
  expectedMemoryVersion : Json
  memory : Json
  now : Option ℚ

def memoryProposal (input : MemoryInput) : Json :=
  .record [("contract_version", .text "kindred.agent.companion-memory-proposal.v1"), ("purpose", .text "companion_memory"),
    ("consent_receipt_ref", input.consentReceiptRef), ("companion_principal_id", field input.identity "agent_id"),
    ("client_request_id", input.clientRequestId), ("target_namespace_ref", input.targetNamespaceRef),
    ("expected_memory_version", input.expectedMemoryVersion), ("mutation", .text "append_unverified"),
    ("category", field input.memory "category"), ("content", field input.memory "content"),
    ("source_kind", field (field input.memory "source") "kind"),
    ("source_reference", field (field input.memory "source") "reference"), ("retention", field input.memory "retention"),
    ("companion_access", field input.memory "companion_access"), ("verification", .text "unverified"),
    ("commit_policy", .text "brainstem_decision_required"), ("memory_mutated", .bool false),
    ("provider_contact_requested", .bool false), ("tool_execution_requested", .bool false),
    ("settlement_requested", .bool false), ("external_effects", .bool false)]

/-- `String(proposal.expected_memory_version)` of a number. -/
def versionText (v : Json) : JsString := (v.toStr?).getD []

/-- The text whose digest is the seed of a memory proposal. -/
def memorySeedText (input : MemoryInput) : Outcome JsString :=
  digestText "companion-memory-proposal" [field input.identity "agent_id", input.consentReceiptRef, input.clientRequestId,
    .str (versionText input.expectedMemoryVersion), field input.memory "content"]

def memoryRequest (input : MemoryInput) : Request where
  labels := ("grant", "authref", "message", "nonce")
  capabilityIds := [.text COMPANION_MEMORY_PROPOSAL_CAPABILITY_ID]
  messageType := "proposal"
  permission := "companion.memory.propose"
  correlationId := input.clientRequestId
  causationId := .str (js "memory-version:" ++ versionText input.expectedMemoryVersion)
  classification := "confidential"
  capability := .text COMPANION_MEMORY_PROPOSAL_CAPABILITY_ID
  evidenceRefs := [input.consentReceiptRef, input.targetNamespaceRef]
  payload := memoryProposal input

/-- The identity may make this memory proposal. -/
def memoryScopeValid (input : MemoryInput) : Bool :=
  scopeEmpty input.identity && input.identity.get "lifecycle_state" == some (.text "active") &&
    (match items ((field input.identity "memory_scope").get "namespace_refs") with
      | [namespaceRef] => namespaceRef == input.targetNamespaceRef
      | _ => false) &&
    includes (input.identity.get "permissions") (some (.text "companion.memory.propose"))

/-- `createCompanionMemoryProposalArtifacts(input)`. -/
def createCompanionMemoryProposalArtifacts (engine : Engine) (input : MemoryInput) : Outcome (Json × Artifacts) := do
  validateAgentIdentity engine.date input.identity
  require "companion_memory_scope_invalid" (memoryScopeValid input)
  validateCompanionMemoryProposal engine (memoryProposal input)
  let now ← orThrow input.now (reject "memory_proposal_timestamp_invalid")
  let period ← periodOf engine now
  let seedText ← memorySeedText input
  validateCapability memoryProposalCapability
  let artifacts ← createArtifacts engine (memoryRequest input) (field input.identity "agent_id")
    (engine.digestOf seedText) period
    fun grant => scopedIdentity input.identity grant (.text COMPANION_MEMORY_PROPOSAL_CAPABILITY_ID)
  pure (memoryProposalCapability, artifacts)

/-! ### Discovery -/

/-- The input of `createCapabilityDiscoveryArtifacts`; an absent field is `null`, which is replaced as well. -/
structure DiscoveryInput where
  identity : Json
  correlationId : Json
  actionTypes : Json
  dataClassification : Json
  riskCeiling : Json
  resultLimit : Json
  now : Option ℚ

/-- `value ?? default`. -/
def orDefault (v default : Json) : Json := if v.isNull then default else v

def discoveryQuery (input : DiscoveryInput) : Json :=
  .record [("contract_version", .text "kindred.agent.capability-discovery-query.v1"),
    ("requester_agent_id", field input.identity "agent_id"), ("action_types", orDefault input.actionTypes (.arr [])),
    ("data_classification", orDefault input.dataClassification (.text "internal")),
    ("risk_ceiling", orDefault input.riskCeiling (.text "low")), ("result_limit", orDefault input.resultLimit (.int 16)),
    ("include_unavailable", .bool false), ("authority_requested", .bool false), ("provider_contact_requested", .bool false),
    ("memory_write_requested", .bool false), ("tool_execution_requested", .bool false), ("settlement_requested", .bool false),
    ("external_effects", .bool false)]

/-- The text whose digest is the seed of a discovery request. -/
def discoverySeedText (input : DiscoveryInput) : Outcome JsString :=
  digestText "capability-discovery" [field input.identity "agent_id", input.correlationId]

def discoveryRequest (input : DiscoveryInput) : Request where
  labels := ("discovery-grant", "discovery-authref", "discovery-message", "discovery-nonce")
  capabilityIds := []
  messageType := "discovery"
  permission := "capability.discover"
  correlationId := input.correlationId
  causationId := .null
  classification := "internal"
  capability := .null
  evidenceRefs := []
  payload := discoveryQuery input

/-- `createCapabilityDiscoveryArtifacts(input)`. -/
def createCapabilityDiscoveryArtifacts (engine : Engine) (input : DiscoveryInput) : DiscoveryOutcome Artifacts := do
  ofProtocol (validateAgentIdentity engine.date input.identity)
  demand "discovery_principal_inactive" (input.identity.get "lifecycle_state" == some (.text "active"))
  demand "discovery_authority_ceiling_invalid"
    (oneOf ((field input.identity "authority").get "ceiling") ["user_delegated", "governance_delegated", "founder_delegated"])
  let now ← orThrow input.now (.rejected "discovery_timestamp_invalid")
  demandTest "discovery_correlation_invalid" opaqueReferencePattern (some (orDefault input.correlationId (.text "")))
  validateCapabilityDiscoveryQuery (discoveryQuery input)
  let seedText ← ofProtocol (discoverySeedText input)
  let period ← ofProtocol (periodOf engine now)
  ofProtocol (createArtifacts engine (discoveryRequest input) (field input.identity "agent_id") (engine.digestOf seedText) period
    (discoveringIdentity input.identity))

end Agent
