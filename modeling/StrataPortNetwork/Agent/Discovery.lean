import StrataPortNetwork.Agent.WellTyped
import StrataPortNetwork.Js.Date
import StrataPortNetwork.Js.Ties

/-! # Capability discovery

The catalog of capabilities, the calls that fill it, and `discover`, which lists the available
capabilities that a query admits. Identities and envelopes are read by the validators of the
agent protocol.
-/
namespace Agent
open Js Transition

/-- What discovery throws: an error of its own, or one of the agent protocol or the engine. -/
inductive DiscoveryFailure
  | rejected (reasonClass : String)
  | protocol (e : Failure)
  deriving DecidableEq, Repr

abbrev DiscoveryOutcome := Except DiscoveryFailure

namespace Discovery

def CAPABILITY_DISCOVERY_QUERY_FIELDS : List String := ["contract_version", "requester_agent_id", "action_types",
  "data_classification", "risk_ceiling", "result_limit", "include_unavailable", "authority_requested",
  "provider_contact_requested", "memory_write_requested", "tool_execution_requested", "settlement_requested",
  "external_effects"]
def CAPABILITY_DISCOVERY_RESULT_FIELDS : List String := ["contract_version", "query_message_id", "correlation_id",
  "catalog_component", "result_count", "truncated", "capabilities", "authority_granted", "execution_authorized",
  "provider_contact_authorized", "memory_write_authorized", "settlement_authorized", "external_effects_authorized",
  "evidence_refs", "generated_at"]
def CAPABILITY_DISCOVERY_PROJECTION_FIELDS : List String := ["capability_id", "version", "owner_component", "action_type",
  "required_authority", "risk_ceiling", "data_classifications", "execution_mode", "available", "input_contract_ref",
  "output_contract_ref"]

def actionTypes : List String := ["communication", "reasoning", "memory_proposal", "tool", "settlement"]
def riskLevels : List String := ["low", "medium", "high", "critical"]
def executionModes : List String := ["proposal_only", "governed_local_reversible", "governed_external"]

/-! ## Small checks -/

/-- One disjunct of a rejection, negated. -/
def demand (reasonClass : String) (condition : Bool) : DiscoveryOutcome Unit := ensure condition (.rejected reasonClass)

def demandTest (reasonClass : String) (pattern : Regex) (v : Option Json) : DiscoveryOutcome Unit :=
  ensureTest pattern v (.rejected reasonClass) (.protocol .typeError)

/-- `exactKeys(value, fields)`. -/
def hasExactKeys (v : Option Json) (fields : List String) : Bool :=
  match v with
  | some (.obj own) => Json.sortKeys (own.map Prod.fst) == Json.sortKeys (fields.map js)
  | _ => false

/-- `uniqueEnum(value, allowed, maximum)`. -/
def uniqueEnum (v : Option Json) (allowed : List String) (most : ℕ) : Bool :=
  match v with
  | some (.arr items) => items.length ≤ most && Json.allDistinct items && items.all fun item => oneOf (some item) allowed
  | _ => false

/-- A string of a length between the bounds. -/
def textOfLength (v : Option Json) (least most : ℕ) : Bool :=
  match v with
  | some (.str s) => least ≤ s.length && s.length ≤ most
  | _ => false

/-- `riskOrder.get(left) <= riskOrder.get(right)`. -/
def riskOrder (v : Option Json) : Option ℕ := riskLevels.findIdx? fun s => v == some (.text s)
def riskWithin (left right : Option Json) : Bool := (riskOrder left).any fun n => (riskOrder right).any fun m => n ≤ m

/-- Every flag of the list is `false`. -/
def allFalse (v : Json) (names : List String) : Bool := names.all fun name => v.get name == some (.bool false)

/-! ## Validators -/

/-- `validateCapabilityDiscoveryQuery(value)`. -/
def validateCapabilityDiscoveryQuery (query : Json) : DiscoveryOutcome Unit := do
  demand "discovery_query_invalid" (hasExactKeys (some query) CAPABILITY_DISCOVERY_QUERY_FIELDS &&
    query.get "contract_version" == some (.text "kindred.agent.capability-discovery-query.v1"))
  demandTest "discovery_query_invalid" agentIdPattern (query.get "requester_agent_id")
  demand "discovery_query_invalid" (uniqueEnum (query.get "action_types") actionTypes actionTypes.length &&
    oneOf (query.get "data_classification") DATA_CLASSIFICATIONS && oneOf (query.get "risk_ceiling") riskLevels)
  let limit ← orThrow ((query.get "result_limit").bind Json.safeInteger?) (.rejected "discovery_query_invalid")
  demand "discovery_query_invalid" (1 ≤ limit && limit ≤ 64 && allFalse query ["include_unavailable", "authority_requested",
    "provider_contact_requested", "memory_write_requested", "tool_execution_requested", "settlement_requested",
    "external_effects"])

/-- `validateProjection(value)`. -/
def validateProjection (value : Json) : DiscoveryOutcome Unit := do
  demand "discovery_projection_invalid" (hasExactKeys (some value) CAPABILITY_DISCOVERY_PROJECTION_FIELDS)
  demandTest "discovery_projection_invalid" capabilityIdPattern (value.get "capability_id")
  demandTest "discovery_projection_invalid" versionPattern (value.get "version")
  demand "discovery_projection_invalid" (oneOf (value.get "owner_component") RUNTIME_COMPONENTS &&
    oneOf (value.get "action_type") actionTypes && oneOf (value.get "required_authority") AUTHORITY_LEVELS &&
    oneOf (value.get "risk_ceiling") riskLevels &&
    uniqueEnum (value.get "data_classifications") DATA_CLASSIFICATIONS DATA_CLASSIFICATIONS.length &&
    oneOf (value.get "execution_mode") executionModes && (value.get "available").any Json.isBool &&
    textOfLength (value.get "input_contract_ref") 3 256 && textOfLength (value.get "output_contract_ref") 3 256)

/-- The items of a property that is an array. -/
def itemsOrReject (v : Option Json) (reasonClass : String) : DiscoveryOutcome (List Json) :=
  orThrow (v.bind Json.items?) (.rejected reasonClass)

/-- `Date` of the engine, up to what `Date.parse` makes of texts that `toISOString` does not write. -/
def engineDate (other : JsString → Option ℤ) : DateApi := ⟨dateParse other, toISOString⟩

variable (date : DateApi)

/-- `validateCapabilityDiscoveryResult(value)`. -/
def validateCapabilityDiscoveryResult (value : Json) : DiscoveryOutcome Unit := do
  demand "discovery_result_invalid" (hasExactKeys (some value) CAPABILITY_DISCOVERY_RESULT_FIELDS &&
    value.get "contract_version" == some (.text "kindred.agent.capability-discovery-result.v1"))
  demandTest "discovery_result_invalid" messageIdPattern (value.get "query_message_id")
  demandTest "discovery_result_invalid" opaqueReferencePattern (value.get "correlation_id")
  demand "discovery_result_invalid" (value.get "catalog_component" == some (.text "brainstem"))
  let count ← orThrow ((value.get "result_count").bind Json.safeInteger?) (.rejected "discovery_result_invalid")
  demand "discovery_result_invalid" (0 ≤ count && count ≤ 64 && (value.get "truncated").any Json.isBool)
  let capabilities ← itemsOrReject (value.get "capabilities") "discovery_result_invalid"
  demand "discovery_result_invalid" ((capabilities.length : ℤ) = count && allFalse value ["authority_granted",
    "execution_authorized", "provider_contact_authorized", "memory_write_authorized", "settlement_authorized",
    "external_effects_authorized"])
  let evidence ← itemsOrReject (value.get "evidence_refs") "discovery_result_invalid"
  demand "discovery_result_invalid" (1 ≤ evidence.length && evidence.length ≤ 4 && Json.allDistinct evidence)
  ensureAll (fun reference => demandTest "discovery_result_invalid" opaqueReferencePattern (some reference)) evidence
  demand "discovery_result_invalid" (parseDate date (value.get "generated_at")).isSome
  ensureAll validateProjection capabilities
  demand "discovery_result_duplicate" (Json.allDistinct (capabilities.map fun capability => field capability "capability_id"))

/-! ## The catalog -/

structure CatalogEntry where
  capability : Capability
  available : Bool

def CatalogEntry.id (entry : CatalogEntry) : Json := entry.capability.capabilityId

structure CapabilityDiscoveryCatalog where
  maxCapabilities : ℤ
  entries : Registry Json CatalogEntry CatalogEntry.id

/-- What the calls of the agent protocol throw. -/
def ofProtocol {α : Type} (result : Outcome α) : DiscoveryOutcome α := result.mapError .protocol

namespace CapabilityDiscoveryCatalog

/-- `options.maxCapabilities ?? 1024`. -/
def capacity (maxCapabilities : Option Json) : DiscoveryOutcome ℤ :=
  if maxCapabilities.all Json.isNull then pure 1024
  else orThrow (maxCapabilities.bind Json.safeInteger?) (.protocol .typeError)

/-- `new CapabilityDiscoveryCatalog({ maxCapabilities })`. -/
def create (maxCapabilities : Option Json) : DiscoveryOutcome CapabilityDiscoveryCatalog := do
  let most ← capacity maxCapabilities
  ensure (1 ≤ most && most ≤ 4096) (.protocol .typeError)
  pure ⟨most, Registry.empty⟩

/-- A boolean, or the error of another value. -/
def availability (available : Option Json) : DiscoveryOutcome Bool :=
  match available with
  | some (.bool b) => pure b
  | _ => throw (.rejected "discovery_availability_invalid")

variable (catalog : CapabilityDiscoveryCatalog)

/-- `registerCapability(value, { available })`. -/
def registerCapability (value : Json) (available : Option Json) : DiscoveryOutcome (Json × CapabilityDiscoveryCatalog) := do
  let capability : Capability ← ofProtocol (validated validateCapability value)
  let available ← availability (if available.all Json.isNull then some (.bool true) else available)
  let existing := catalog.entries.get capability.capabilityId
  demand "discovery_capability_conflict"
    (Gateway.sameText (existing.map fun entry => entry.capability.1) capability.1)
  demand "discovery_catalog_capacity_reached" (existing.isSome || catalog.entries.map.size < catalog.maxCapabilities)
  pure (capability.1, { catalog with entries := catalog.entries.put ⟨capability, available⟩ })

/-- `setAvailability(capabilityId, available)`. -/
def setAvailability (capabilityId available : Option Json) : DiscoveryOutcome CapabilityDiscoveryCatalog := do
  let entry ← orThrow (capabilityId.bind catalog.entries.get) (.rejected "discovery_capability_unknown")
  let available ← availability available
  pure { catalog with entries := catalog.entries.put { entry with available := available } }

end CapabilityDiscoveryCatalog

/-- The calls that change the catalog. -/
inductive Call
  | registerCapability (value : Json) (available : Option Json)
  | setAvailability (capabilityId available : Option Json)

/-- The catalog after a call; a call that throws leaves it as it is. -/
def step (catalog : CapabilityDiscoveryCatalog) : Call → CapabilityDiscoveryCatalog
  | .registerCapability value available =>
    match catalog.registerCapability value available with
    | .ok (_, catalog) => catalog
    | .error _ => catalog
  | .setAvailability capabilityId available =>
    match catalog.setAvailability capabilityId available with
    | .ok catalog => catalog
    | .error _ => catalog

/-! ## Discovery -/

/-- The input of `discover`; a `now` that is not finite is `none`. -/
structure Input where
  envelope : Json
  protocolReceipt : Json
  identity : Json
  now : Option ℚ

def Input.query (input : Input) : Json := field input.envelope "payload"

/-- What is read of the envelope, the receipt and the identity, all of them valid. -/
def evidence (input : Input) : DiscoveryOutcome Unit := do
  ofProtocol (validateEnvelope date input.envelope)
  ofProtocol (validateProtocolReceipt date input.protocolReceipt)
  ofProtocol (validateAgentIdentity date input.identity)
  validateCapabilityDiscoveryQuery input.query

/-- The checks of `discover` on its input, with the time they are made at. -/
def checkInput (input : Input) : DiscoveryOutcome ℚ := do
  let now ← orThrow input.now (.rejected "discovery_timestamp_invalid")
  demand "discovery_evidence_invalid" (evidence date input).isOk
  let sender := field input.envelope "sender"
  let agentId := input.identity.get "agent_id"
  demand "discovery_route_invalid" (input.envelope.get "message_type" == some (.text "discovery") && isAgent sender &&
    isComponent (field input.envelope "recipient") "brainstem" && isNull (input.envelope.get "requested_capability") &&
    isNull (input.envelope.get "budget_ref") && input.envelope.get "data_classification" == some (.text "internal") &&
    sender.get "id" == agentId && input.query.get "requester_agent_id" == agentId)
  demand "discovery_principal_inactive" (input.identity.get "lifecycle_state" == some (.text "active"))
  let acceptedAt := timeOf date input.protocolReceipt "accepted_at"
  demand "discovery_receipt_invalid" (input.protocolReceipt.get "message_id" == input.envelope.get "message_id" &&
    input.protocolReceipt.get "correlation_id" == input.envelope.get "correlation_id" &&
    !(acceptedAt < timeOf date input.envelope "timestamp") && acceptedAt < timeOf date input.envelope "expires_at" &&
    !(now < acceptedAt))
  pure now

/-- The filter of `discover`. -/
def eligible (identity query : Json) (entry : CatalogEntry) : Bool :=
  let capability := entry.capability.1
  entry.available && includes (capability.get "allowed_agent_classes") (identity.get "agent_class") &&
    includes (capability.get "data_classifications") (query.get "data_classification") &&
    riskWithin (capability.get "risk_ceiling") (query.get "risk_ceiling") &&
    ((items (query.get "action_types")).length == 0 || includes (query.get "action_types") (capability.get "action_type"))

/-- The id that is compared. An id that is no string is compared as the engine happens to meet it, which is left out. -/
def CatalogEntry.idText (entry : CatalogEntry) : JsString := ((entry.capability.1.get "capability_id").bind Json.str?).getD []

/-- What is shown of a capability. -/
def project (entry : CatalogEntry) : Json :=
  let capability := entry.capability.1
  .record [("capability_id", field capability "capability_id"), ("version", field capability "version"),
    ("owner_component", field capability "owner_component"), ("action_type", field capability "action_type"),
    ("required_authority", field capability "required_authority"), ("risk_ceiling", field capability "risk_ceiling"),
    ("data_classifications", field capability "data_classifications"),
    ("execution_mode", field capability "execution_mode"), ("available", .bool true),
    ("input_contract_ref", field capability "input_contract_ref"),
    ("output_contract_ref", field capability "output_contract_ref")]

def resultLimit (query : Json) : ℕ := (((query.get "result_limit").bind Json.safeInteger?).getD 0).toNat

/-- `new Date(now).toISOString()` of a finite number; `none` is its RangeError. -/
def isoText (now : ℚ) : Option JsString :=
  if -(maxTime : ℚ) ≤ now ∧ now ≤ maxTime then date.toISOString (if 0 ≤ now then now.floor else now.ceil) else none

/-- The result before its validation. -/
def resultOf (input : Input) (eligible capabilities : ℕ) (projections : List Json) (generatedAt : JsString) : Json :=
  .record [("contract_version", .text "kindred.agent.capability-discovery-result.v1"),
    ("query_message_id", field input.envelope "message_id"), ("correlation_id", field input.envelope "correlation_id"),
    ("catalog_component", .text "brainstem"), ("result_count", .int capabilities),
    ("truncated", .bool (capabilities < eligible)), ("capabilities", .arr projections), ("authority_granted", .bool false),
    ("execution_authorized", .bool false), ("provider_contact_authorized", .bool false),
    ("memory_write_authorized", .bool false), ("settlement_authorized", .bool false),
    ("external_effects_authorized", .bool false), ("evidence_refs", .arr [field input.protocolReceipt "message_id"]),
    ("generated_at", .str generatedAt)]

/-- The entries that `discover` lists, in their order, before it cuts them off. -/
def matched (collation : Collation) (catalog : CapabilityDiscoveryCatalog) (input : Input) : List CatalogEntry :=
  collation.sortOn CatalogEntry.idText (catalog.entries.values.filter (eligible input.identity input.query))

/-- `discover({ envelope, protocolReceipt, identity, now })`. -/
def discover (collation : Collation) (catalog : CapabilityDiscoveryCatalog) (input : Input) : DiscoveryOutcome Json := do
  let now ← checkInput date input
  let eligible := matched collation catalog input
  let capabilities := (eligible.take (resultLimit input.query)).map project
  ensureAll validateProjection capabilities
  let generatedAt ← orThrow (isoText date now) (.protocol .rangeError)
  let result := resultOf input eligible.length capabilities.length capabilities generatedAt
  validateCapabilityDiscoveryResult date result
  pure result

end Discovery

end Agent
