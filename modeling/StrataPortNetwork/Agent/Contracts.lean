import StrataPortNetwork.Js.JsonText
import StrataPortNetwork.Js.Check
import StrataPortNetwork.Js.OwnOrder

/-! # Contracts of the agent protocol

The validators of identities, capabilities, authority grants, envelopes, revocation
notices and receipts. `Date.parse` and `toISOString` are parameters: the parser's reading
of other than ISO texts is the engine's own.
-/
namespace Agent
open Js

/-- What the gateway throws. -/
inductive Failure
  | rejected (reasonClass : String) (retryable : Bool)
  | typeError
  | rangeError
  deriving DecidableEq, Repr

abbrev Outcome := Except Failure

/-- `reject(reasonClass)`. -/
def reject (reasonClass : String) : Failure := .rejected reasonClass false

/-- The part of `Date` in use; `none` is the `NaN` of `parse` and the RangeError of
`toISOString`. -/
structure DateApi where
  parse : JsString → Option ℤ
  toISOString : ℤ → Option JsString

def RUNTIME_COMPONENTS : List String := ["brainstem", "kindred_cloud", "emit_core", "retrobank"]
def AGENT_CLASSES : List String := ["living_companion", "founder_intelligence", "worker", "service"]
def AUTHORITY_LEVELS : List String := ["none", "user_delegated", "governance_delegated", "founder_delegated"]
def MESSAGE_TYPES : List String := ["discovery", "request", "response", "proposal", "negotiation", "agreement",
  "task", "delegation", "proof_request", "proof_result", "execution_request", "execution_receipt",
  "settlement_request", "dispute", "cancellation", "compensation", "health", "status", "revocation"]
def DATA_CLASSIFICATIONS : List String := ["public", "internal", "confidential", "restricted"]

def IDENTITY_FIELDS : List String := ["contract_version", "agent_id", "tenant_id", "agent_class", "owner_id",
  "creator_id", "version", "lineage", "purpose", "capabilities", "prohibited_capabilities", "permissions",
  "authority", "budget_refs", "lifecycle_state", "health", "evidence_refs", "memory_scope", "execution_scope",
  "provider_scope", "economic_mandate_ref", "replacement_agent_id", "created_at", "revoked_at"]
def CAPABILITY_FIELDS : List String := ["contract_version", "capability_id", "version", "owner_component",
  "action_type", "allowed_agent_classes", "required_authority", "risk_ceiling", "data_classifications",
  "execution_mode", "provider_contact", "memory_commit", "settlement", "compensation_required",
  "input_contract_ref", "output_contract_ref"]
def AUTHORITY_GRANT_FIELDS : List String := ["contract_version", "grant_id", "subject_agent_id",
  "issuer_component", "issuer_id", "authentication_ref", "authority_level", "capability_ids", "message_types",
  "permissions", "budget_refs", "parent_grant_ref", "issued_at", "expires_at", "status", "revoked_at"]
def ENVELOPE_FIELDS : List String := ["contract_version", "message_id", "message_type", "sender", "recipient",
  "authority_ref", "correlation_id", "causation_id", "nonce", "timestamp", "expires_at", "data_classification",
  "requested_capability", "budget_ref", "evidence_refs", "authentication_ref", "delegation_ref", "payload"]
def PROTOCOL_RECEIPT_FIELDS : List String := ["contract_version", "message_id", "correlation_id", "status",
  "accepted_at", "replay_consumed"]
def REVOCATION_NOTICE_FIELDS : List String := ["contract_version", "revocation_id", "target_type", "target_id",
  "reason_class", "effective_at", "authority_component", "cascade_dependents", "evidence_refs",
  "provider_contact_requested", "memory_mutation_requested", "tool_execution_requested",
  "settlement_requested", "external_effects"]
def REVOCATION_RECEIPT_FIELDS : List String := ["contract_version", "revocation_id", "message_id",
  "correlation_id", "target_type", "target_id", "reason_class", "status", "effective_at",
  "identity_state_changed", "grants_revoked", "replay_consumed", "history_preserved", "provider_contacted",
  "memory_mutated", "tool_executed", "settlement_executed", "external_effects", "evidence_refs", "recorded_at"]

/-! ## Patterns -/

/-- `[A-Za-z0-9_-]` -/
def idClass : CharClass := [(65, 90), (97, 122), (48, 57), (95, 95), (45, 45)]

/-- `/^<head>[A-Za-z0-9_-]{8,96}$/` -/
def idPattern (head : String) : Regex := .seq (.text head) (.run idClass 8 96)

def agentIdPattern : Regex := idPattern "kindred-agent-"
def tenantIdPattern : Regex := idPattern "kindred-tenant-"
def grantIdPattern : Regex := idPattern "kindred-grant-"
def messageIdPattern : Regex := idPattern "kindred-message-"
def revocationIdPattern : Regex := idPattern "kindred-revocation-"
def authenticationReferencePattern : Regex := idPattern "kindred-authref-"

/-- `/^kindred\.capability\.[a-z0-9_.\-]{3,96}\.v[0-9]+$/` -/
def capabilityIdPattern : Regex := .seq (.text "kindred.capability.")
  (.seq (.run (Regex.lower ++ Regex.digits ++ [(95, 95), (46, 46), (45, 45)]) 3 96)
    (.seq (.text ".v") (.plus Regex.digits)))

/-- `/^[A-Za-z0-9][A-Za-z0-9._:\-]{7,127}$/` -/
def opaqueReferencePattern : Regex := .seq (.run (Regex.upper ++ Regex.lower ++ Regex.digits) 1 1)
  (.run (Regex.upper ++ Regex.lower ++ Regex.digits ++ [(46, 46), (95, 95), (58, 58), (45, 45)]) 7 127)

/-- `/^[A-Za-z0-9_-]{16,128}$/` -/
def noncePattern : Regex := .run idClass 16 128

/-- `/^[0-9]+\.[0-9]+\.[0-9]+$/` -/
def versionPattern : Regex :=
  .seq (.plus Regex.digits) (.seq (.text ".") (.seq (.plus Regex.digits) (.seq (.text ".") (.plus Regex.digits))))

/-! ## Small checks -/

/-- One disjunct of a rejection, negated. -/
def require (reasonClass : String) (condition : Bool) : Outcome Unit := ensure condition (reject reasonClass)

def requireTest (reasonClass : String) (pattern : Regex) (v : Option Json) : Outcome Unit :=
  ensureTest pattern v (reject reasonClass) .typeError

/-- `set.has(value)` for a set of strings. -/
def oneOf (v : Option Json) (set : List String) : Bool := set.any fun s => v == some (.text s)

/-- `exactKeys(value, fields, reasonClass)`. -/
def exactKeys (v : Option Json) (fields : List String) (reasonClass : String) : Outcome Unit :=
  require reasonClass (match v with
    | some (.obj own) => Json.sortKeys (own.map Prod.fst) == Json.sortKeys (fields.map js)
    | _ => false)

/-- `boundedString(value, minimum, maximum)`. -/
def boundedString (v : Option Json) (least most : ℕ) : Bool :=
  match v with
  | some (.str s) => least ≤ s.length && s.length ≤ most && !s.any fun u => u.toNat ≤ 31 || u.toNat == 127
  | _ => false

/-- `Date.parse(value)` on a property. -/
def parseDate (date : DateApi) (v : Option Json) : Option ℤ := (v.bind Json.str?).bind date.parse

/-- `timestamp(value, reasonClass)`. -/
def timestamp (date : DateApi) (v : Option Json) (reasonClass : String) : Outcome ℤ :=
  orThrow (parseDate date v) (reject reasonClass)

/-- `uniqueStrings(value, maximum, minimum)`. -/
def uniqueStrings (v : Option Json) (most least : ℕ) : Bool :=
  match v with
  | some (.arr items) => least ≤ items.length && items.length ≤ most && Json.allDistinct items &&
      items.all fun item => boundedString (some item) 3 128
  | _ => false

/-- An array of distinct members of an enumeration. -/
def membersOf (v : Option Json) (set : List String) : Bool :=
  match v with
  | some (.arr items) => items.length ≠ 0 && items.length ≤ set.length && Json.allDistinct items &&
      items.all fun item => oneOf (some item) set
  | _ => false

def isNull (v : Option Json) : Bool := v.any Json.isNull

/-- `validateNullableReference(value, pattern)`. A bounded string cannot fail to coerce. -/
def nullableReference (v : Option Json) (pattern : Option Regex) : Bool :=
  isNull v || (boundedString v 3 128 && pattern.all fun p => (p.test v).getD false)

/-- The items of an array, none of another value. -/
def items (v : Option Json) : List Json := (v.bind Json.items?).getD []

/-- `array.includes(value)`. -/
def includes (array : Option Json) (v : Option Json) : Bool := v.any (items array).contains

/-- Every item of the one array is an item of the other. -/
def subset (array array' : Option Json) : Bool := (items array).all (items array').contains

/-- `authorityOrder.get(level)`. -/
def authorityOrder (v : Option Json) : Option ℕ := AUTHORITY_LEVELS.findIdx? fun s => v == some (.text s)

/-- `authorityOrder.get(level) > authorityOrder.get(other)`. -/
def levelAbove (level other : Option Json) : Bool :=
  (authorityOrder level).any fun n => (authorityOrder other).any fun m => m < n

/-! ## Payloads -/

def forbiddenPayloadKeys : List String := ["access_token", "authorization_code", "client_secret", "cookie",
  "password", "pkce_verifier", "private_key", "refresh_token", "seed_phrase"]

/-- `key.toLowerCase()`, exact on the units whose lower case is an ASCII text; no other
unit can make a forbidden key. -/
def toLowerCase (s : JsString) : JsString :=
  s.map fun u => if 65 ≤ u.toNat ∧ u.toNat ≤ 90 then u + 32 else if u.toNat = 0x212A then 107 else u

mutual

/-- `validatePayload(value, depth)`. -/
def validatePayload : Json → ℕ → Outcome Unit
  | v, depth => do
    require "payload_depth_exceeded" (depth ≤ 8)
    match v with
    | .null => pure ()
    | .bool _ => pure ()
    | .num _ => pure ()
    | .str s => require "payload_invalid" (boundedString (some (.str s)) 0 4096)
    | .arr items => do
      require "payload_capacity_exceeded" (items.length ≤ 128)
      validateItems items (depth + 1)
    | .obj fields => do
      require "payload_invalid" (fields.length ≤ 128)
      validateFields fields (depth + 1)

def validateItems : List Json → ℕ → Outcome Unit
  | [], _ => pure ()
  | v :: rest, depth => do
    validatePayload v depth
    validateItems rest depth

def validateFields : Fields → ℕ → Outcome Unit
  | [], _ => pure ()
  | f :: rest, depth => do
    require "sensitive_payload_forbidden"
      (boundedString (some (.str f.1)) 1 128 && !(forbiddenPayloadKeys.map js).contains (toLowerCase f.1))
    validatePayload f.2 depth
    validateFields rest depth

end

/-! ## Validators -/

section
variable (date : DateApi)

/-- `validatePrincipal(value)`. -/
def validatePrincipal (v : Option Json) : Outcome Unit := do
  exactKeys v ["principal_type", "id"] "principal_invalid"
  let principal := v.getD .null
  require "principal_invalid" (oneOf (principal.get "principal_type") ["agent", "runtime_component"])
  if principal.get "principal_type" == some (.text "agent") then
    requireTest "principal_invalid" agentIdPattern (principal.get "id")
  else require "runtime_component_unknown" (oneOf (principal.get "id") RUNTIME_COMPONENTS)

/-- `text.startsWith(head)`, throwing on what is no string. -/
def startsWith (v : Option Json) (head : String) : Outcome Bool := do
  let s ← orThrow (v.bind Json.str?) .typeError
  pure ((js head).isPrefixOf s)

/-- The bound on what a living companion may be. -/
def companionBoundary (identity : Json) : Outcome Unit :=
  if identity.get "agent_class" == some (.text "living_companion") then do
    require "companion_authority_boundary_violation"
      (!(((identity.get "authority").bind (·.get "ceiling")) == some (.text "founder_delegated")) &&
        !includes (identity.get "permissions") (some (.text "founder_authority")))
    let owned ← startsWith (identity.get "owner_id") "kindred-account-"
    require "companion_authority_boundary_violation" owned
    let named ← startsWith (identity.get "agent_id") "kindred-agent-companion-"
    require "companion_authority_boundary_violation" named
  else pure ()

/-- `validateAgentIdentity(value)`. -/
def validateAgentIdentity (identity : Json) : Outcome Unit := do
  exactKeys (some identity) IDENTITY_FIELDS "identity_fields_invalid"
  require "identity_invalid" (identity.get "contract_version" == some (.text "kindred.agent.identity.v1"))
  requireTest "identity_invalid" agentIdPattern (identity.get "agent_id")
  requireTest "identity_invalid" tenantIdPattern (identity.get "tenant_id")
  require "identity_invalid" (oneOf (identity.get "agent_class") AGENT_CLASSES &&
    boundedString (identity.get "owner_id") 8 128 && boundedString (identity.get "creator_id") 8 128)
  requireTest "identity_invalid" versionPattern (identity.get "version")
  require "identity_invalid" (boundedString (identity.get "purpose") 1 512 &&
    uniqueStrings (identity.get "capabilities") 64 0 && uniqueStrings (identity.get "prohibited_capabilities") 64 0 &&
    uniqueStrings (identity.get "permissions") 64 0 && uniqueStrings (identity.get "budget_refs") 64 0 &&
    oneOf (identity.get "lifecycle_state") ["registered", "active", "suspended", "revoked", "retired", "replaced"] &&
    oneOf (identity.get "health") ["healthy", "degraded", "unavailable", "unknown"] &&
    uniqueStrings (identity.get "evidence_refs") 64 0)
  require "identity_capability_conflict"
    (!(items (identity.get "capabilities")).any fun c => includes (identity.get "prohibited_capabilities") (some c))
  exactKeys (identity.get "lineage") ["parent_agent_id", "replaces_agent_id"] "identity_lineage_invalid"
  let lineage := (identity.get "lineage").getD .null
  require "identity_lineage_invalid" (nullableReference (lineage.get "parent_agent_id") (some agentIdPattern) &&
    nullableReference (lineage.get "replaces_agent_id") (some agentIdPattern) &&
    !(lineage.get "parent_agent_id" == identity.get "agent_id") &&
    !(lineage.get "replaces_agent_id" == identity.get "agent_id"))
  exactKeys (identity.get "authority") ["issuer_component", "grant_refs", "ceiling"] "identity_authority_invalid"
  let authority := (identity.get "authority").getD .null
  require "identity_authority_invalid" (authority.get "issuer_component" == some (.text "brainstem") &&
    uniqueStrings (authority.get "grant_refs") 64 0 && oneOf (authority.get "ceiling") AUTHORITY_LEVELS)
  exactKeys (identity.get "memory_scope") ["namespace_refs", "write_mode"] "identity_memory_scope_invalid"
  let memory := (identity.get "memory_scope").getD .null
  require "identity_memory_scope_invalid" (uniqueStrings (memory.get "namespace_refs") 64 0 &&
    memory.get "write_mode" == some (.text "proposal_only"))
  exactKeys (identity.get "execution_scope") ["mode", "allowed_capabilities"] "identity_execution_scope_invalid"
  let execution := (identity.get "execution_scope").getD .null
  require "identity_execution_scope_invalid" (execution.get "mode" == some (.text "proposal_only") &&
    uniqueStrings (execution.get "allowed_capabilities") 64 0 &&
    subset (execution.get "allowed_capabilities") (identity.get "capabilities"))
  exactKeys (identity.get "provider_scope") ["mode", "provider_refs"] "identity_provider_scope_invalid"
  let provider := (identity.get "provider_scope").getD .null
  require "identity_provider_scope_invalid" (provider.get "mode" == some (.text "mediated_only") &&
    uniqueStrings (provider.get "provider_refs") 64 0)
  require "identity_reference_invalid" (nullableReference (identity.get "economic_mandate_ref") none &&
    nullableReference (identity.get "replacement_agent_id") (some agentIdPattern))
  let _ ← timestamp date (identity.get "created_at") "identity_timestamp_invalid"
  if isNull (identity.get "revoked_at") then pure ()
  else do
    let _ ← timestamp date (identity.get "revoked_at") "identity_timestamp_invalid"
  require "identity_lifecycle_invalid"
    ((identity.get "lifecycle_state" == some (.text "revoked")) == !isNull (identity.get "revoked_at") &&
      (identity.get "lifecycle_state" == some (.text "replaced")) == !isNull (identity.get "replacement_agent_id"))
  companionBoundary identity

/-- `validateCapability(value)`. -/
def validateCapability (capability : Json) : Outcome Unit := do
  exactKeys (some capability) CAPABILITY_FIELDS "capability_fields_invalid"
  require "capability_invalid" (capability.get "contract_version" == some (.text "kindred.agent.capability.v1"))
  requireTest "capability_invalid" capabilityIdPattern (capability.get "capability_id")
  requireTest "capability_invalid" versionPattern (capability.get "version")
  require "capability_invalid" (oneOf (capability.get "owner_component") RUNTIME_COMPONENTS &&
    oneOf (capability.get "action_type") ["communication", "reasoning", "memory_proposal", "tool", "settlement"] &&
    membersOf (capability.get "allowed_agent_classes") AGENT_CLASSES &&
    oneOf (capability.get "required_authority") AUTHORITY_LEVELS &&
    oneOf (capability.get "risk_ceiling") ["low", "medium", "high", "critical"] &&
    membersOf (capability.get "data_classifications") DATA_CLASSIFICATIONS &&
    oneOf (capability.get "execution_mode") ["proposal_only", "governed_local_reversible", "governed_external"] &&
    capability.get "provider_contact" == some (.text "mediated_only") &&
    capability.get "memory_commit" == some (.text "brainstem_only") &&
    capability.get "settlement" == some (.text "retrobank_mandate_only") &&
    (capability.get "compensation_required").any Json.isBool &&
    boundedString (capability.get "input_contract_ref") 3 256 &&
    boundedString (capability.get "output_contract_ref") 3 256)

/-- `validateAuthorityGrant(value)`. -/
def validateAuthorityGrant (grant : Json) : Outcome Unit := do
  exactKeys (some grant) AUTHORITY_GRANT_FIELDS "authority_grant_fields_invalid"
  require "authority_grant_invalid" (grant.get "contract_version" == some (.text "kindred.agent.authority-grant.v1"))
  requireTest "authority_grant_invalid" grantIdPattern (grant.get "grant_id")
  requireTest "authority_grant_invalid" agentIdPattern (grant.get "subject_agent_id")
  require "authority_grant_invalid" (grant.get "issuer_component" == some (.text "brainstem") &&
    boundedString (grant.get "issuer_id") 8 128)
  requireTest "authority_grant_invalid" authenticationReferencePattern (grant.get "authentication_ref")
  require "authority_grant_invalid" (oneOf (grant.get "authority_level") AUTHORITY_LEVELS &&
    uniqueStrings (grant.get "capability_ids") 64 0 && membersOf (grant.get "message_types") MESSAGE_TYPES &&
    uniqueStrings (grant.get "permissions") 64 0 && uniqueStrings (grant.get "budget_refs") 64 0 &&
    nullableReference (grant.get "parent_grant_ref") (some grantIdPattern) &&
    oneOf (grant.get "status") ["active", "suspended", "revoked"])
  let issuedAt ← timestamp date (grant.get "issued_at") "authority_grant_timestamp_invalid"
  let expiresAt ← timestamp date (grant.get "expires_at") "authority_grant_timestamp_invalid"
  require "authority_grant_timestamp_invalid" (issuedAt < expiresAt)
  if isNull (grant.get "revoked_at") then pure ()
  else do
    let _ ← timestamp date (grant.get "revoked_at") "authority_grant_timestamp_invalid"
  require "authority_grant_status_invalid"
    ((grant.get "status" == some (.text "revoked")) == !isNull (grant.get "revoked_at"))

def MAX_ENVELOPE_TTL_MS : ℤ := 15 * 60 * 1000
def MAX_FUTURE_SKEW_MS : ℤ := 5 * 60 * 1000
def MAX_PAYLOAD_BYTES : ℕ := 32 * 1024

/-- `validateEnvelope(value)`. -/
def validateEnvelope (envelope : Json) : Outcome Unit := do
  exactKeys (some envelope) ENVELOPE_FIELDS "envelope_fields_invalid"
  require "envelope_invalid" (envelope.get "contract_version" == some (.text "kindred.agent.message-envelope.v1"))
  requireTest "envelope_invalid" messageIdPattern (envelope.get "message_id")
  require "envelope_invalid" (oneOf (envelope.get "message_type") MESSAGE_TYPES &&
    nullableReference (envelope.get "authority_ref") (some grantIdPattern))
  requireTest "envelope_invalid" opaqueReferencePattern (envelope.get "correlation_id")
  require "envelope_invalid" (nullableReference (envelope.get "causation_id") (some opaqueReferencePattern))
  requireTest "envelope_invalid" noncePattern (envelope.get "nonce")
  require "envelope_invalid" (oneOf (envelope.get "data_classification") DATA_CLASSIFICATIONS &&
    nullableReference (envelope.get "requested_capability") (some capabilityIdPattern) &&
    nullableReference (envelope.get "budget_ref") none && uniqueStrings (envelope.get "evidence_refs") 64 0 &&
    nullableReference (envelope.get "authentication_ref") (some authenticationReferencePattern) &&
    nullableReference (envelope.get "delegation_ref") (some grantIdPattern))
  validatePrincipal (envelope.get "sender")
  validatePrincipal (envelope.get "recipient")
  let sentAt ← timestamp date (envelope.get "timestamp") "envelope_timestamp_invalid"
  let expiresAt ← timestamp date (envelope.get "expires_at") "envelope_timestamp_invalid"
  require "envelope_expiration_invalid" (sentAt < expiresAt && expiresAt - sentAt ≤ MAX_ENVELOPE_TTL_MS)
  let payload := (envelope.get "payload").getD .null
  require "payload_invalid" payload.isRecord
  validatePayload payload 0
  require "payload_capacity_exceeded" ((utf8Encode (stringify payload)).length ≤ MAX_PAYLOAD_BYTES)

/-- `validateProtocolReceipt(value)`. -/
def validateProtocolReceipt (receipt : Json) : Outcome Unit := do
  exactKeys (some receipt) PROTOCOL_RECEIPT_FIELDS "protocol_receipt_fields_invalid"
  require "protocol_receipt_invalid"
    (receipt.get "contract_version" == some (.text "kindred.agent.protocol-receipt.v1"))
  requireTest "protocol_receipt_invalid" messageIdPattern (receipt.get "message_id")
  requireTest "protocol_receipt_invalid" opaqueReferencePattern (receipt.get "correlation_id")
  require "protocol_receipt_invalid" (receipt.get "status" == some (.text "accepted") &&
    receipt.get "replay_consumed" == some (.bool true))
  let _ ← timestamp date (receipt.get "accepted_at") "protocol_receipt_timestamp_invalid"
  pure ()

/-- `targetValid`: an agent or an authority grant, by the pattern of its id. -/
def targetValid (v : Json) : Outcome Bool :=
  if v.get "target_type" == some (.text "agent") then orThrow (agentIdPattern.test (v.get "target_id")) .typeError
  else if v.get "target_type" == some (.text "authority_grant") then
    orThrow (grantIdPattern.test (v.get "target_id")) .typeError
  else pure false

def revocationReasons : List String :=
  ["owner_request", "governance_policy", "security_response", "replacement", "retirement"]

/-- `validateRevocationNotice(value)`. -/
def validateRevocationNotice (notice : Json) : Outcome Unit := do
  exactKeys (some notice) REVOCATION_NOTICE_FIELDS "revocation_notice_fields_invalid"
  let target ← targetValid notice
  require "revocation_notice_invalid"
    (notice.get "contract_version" == some (.text "kindred.agent.revocation-notice.v1"))
  requireTest "revocation_notice_invalid" revocationIdPattern (notice.get "revocation_id")
  require "revocation_notice_invalid" (target && oneOf (notice.get "reason_class") revocationReasons &&
    notice.get "authority_component" == some (.text "brainstem") &&
    notice.get "cascade_dependents" == some (.bool true) && uniqueStrings (notice.get "evidence_refs") 16 1 &&
    notice.get "provider_contact_requested" == some (.bool false) &&
    notice.get "memory_mutation_requested" == some (.bool false) &&
    notice.get "tool_execution_requested" == some (.bool false) &&
    notice.get "settlement_requested" == some (.bool false) && notice.get "external_effects" == some (.bool false))
  let _ ← timestamp date (notice.get "effective_at") "revocation_notice_timestamp_invalid"
  pure ()

/-- `validateRevocationReceipt(value)`. -/
def validateRevocationReceipt (receipt : Json) : Outcome Unit := do
  exactKeys (some receipt) REVOCATION_RECEIPT_FIELDS "revocation_receipt_fields_invalid"
  let target ← targetValid receipt
  let effectiveAt ← timestamp date (receipt.get "effective_at") "revocation_receipt_timestamp_invalid"
  let recordedAt ← timestamp date (receipt.get "recorded_at") "revocation_receipt_timestamp_invalid"
  require "revocation_receipt_invalid"
    (receipt.get "contract_version" == some (.text "kindred.agent.revocation-receipt.v1"))
  requireTest "revocation_receipt_invalid" revocationIdPattern (receipt.get "revocation_id")
  requireTest "revocation_receipt_invalid" messageIdPattern (receipt.get "message_id")
  requireTest "revocation_receipt_invalid" opaqueReferencePattern (receipt.get "correlation_id")
  require "revocation_receipt_invalid" target
  let grantsRevoked ← orThrow ((receipt.get "grants_revoked").bind Json.safeInteger?)
    (reject "revocation_receipt_invalid")
  require "revocation_receipt_invalid" (oneOf (receipt.get "reason_class") revocationReasons &&
    receipt.get "status" == some (.text "applied") && (receipt.get "identity_state_changed").any Json.isBool &&
    0 ≤ grantsRevoked && grantsRevoked ≤ 4096 && receipt.get "replay_consumed" == some (.bool true) &&
    receipt.get "history_preserved" == some (.bool true) && receipt.get "provider_contacted" == some (.bool false) &&
    receipt.get "memory_mutated" == some (.bool false) && receipt.get "tool_executed" == some (.bool false) &&
    receipt.get "settlement_executed" == some (.bool false) && receipt.get "external_effects" == some (.bool false) &&
    uniqueStrings (receipt.get "evidence_refs") 16 1 && effectiveAt ≤ recordedAt &&
    some (.bool (receipt.get "target_type" == some (.text "agent"))) == receipt.get "identity_state_changed" &&
    (!(receipt.get "target_type" == some (.text "authority_grant")) || 1 ≤ grantsRevoked))

end

end Agent
