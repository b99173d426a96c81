import StrataPortNetwork.Agent.Contracts
import StrataPortNetwork.Js.Map
import StrataPortNetwork.Forest

/-! # The agent protocol gateway

The registries of identities, capabilities and grants, the replay guard, and the calls
that fill and consult them. A call reads its clock once, the guard reads it again when it
consumes a nonce. A registry holds validated values only.
-/
namespace Agent
open Js

/-- A property of a value known to have it. -/
def field (v : Json) (name : String) : Json := (v.get name).getD .null

/-- A value that passed its validator. -/
def Validated (check : Json → Outcome Unit) : Type := {v : Json // check v = .ok ()}

def validated (check : Json → Outcome Unit) (v : Json) : Outcome (Validated check) :=
  match h : check v with
  | .ok () => .ok ⟨v, h⟩
  | .error e => .error e

/-! ## Replay guard -/

structure ReplayGuard where
  entries : JsMap JsString ℤ
  maxEntries : ℤ

/-- `a + ":" + b` of two properties; `none` is the TypeError of the coercion. -/
def joinKey (a b : Option Json) : Option JsString :=
  (a.elim (some (js "undefined")) Json.toStr?).bind fun s =>
    (b.elim (some (js "undefined")) Json.toStr?).map fun t => s ++ js ":" ++ t

/-- `sender.principal_type + ":" + sender.id + ":" + nonce` of an envelope. -/
def replayKeyOf (envelope : Json) : Option JsString :=
  (joinKey ((field envelope "sender").get "principal_type") ((field envelope "sender").get "id")).bind fun senderKey =>
    joinKey (some (.str senderKey)) (envelope.get "nonce")

namespace ReplayGuard

/-- `new ReplayGuard({ maxEntries })`. -/
def create (maxEntries : Option Json) : Outcome ReplayGuard := do
  let most ← if maxEntries.all Json.isNull then pure 4096 else orThrow (maxEntries.bind Json.safeInteger?) .typeError
  ensure (1 ≤ most) .typeError
  pure ⟨JsMap.empty, most⟩

def prune (guard : ReplayGuard) (now : ℤ) : ReplayGuard :=
  ⟨guard.entries.filter fun expiresAt => now < expiresAt, guard.maxEntries⟩

/-- `has(senderKey, nonce, now)` once pruned. -/
def has (guard : ReplayGuard) (key : JsString) : Bool := guard.entries.has key

/-- `consume(senderKey, nonce, expiresAt)`, the clock reading `now`. -/
def consume (guard : ReplayGuard) (key : JsString) (expiresAt now : ℤ) : Outcome Unit × ReplayGuard :=
  let guard := guard.prune now
  if guard.has key then (.error (reject "envelope_replay"), guard)
  else if guard.maxEntries ≤ guard.entries.size then (.error (.rejected "replay_capacity_reached" true), guard)
  else (.ok (), ⟨guard.entries.set key expiresAt, guard.maxEntries⟩)

end ReplayGuard

/-! ## Registered values -/

section
variable (date : DateApi)

abbrev Identity := Validated (validateAgentIdentity date)
abbrev Capability := Validated validateCapability
abbrev Envelope := Validated (validateEnvelope date)

/-- An authority grant under an id that is a string. -/
structure Grant where
  value : Json
  valid : validateAuthorityGrant date value = .ok ()
  grantId : JsString
  named : value.get "grant_id" = some (.str grantId)

/-- `Date.parse` of a property that is a timestamp. -/
def timeOf (v : Json) (name : String) : ℤ := (parseDate date (v.get name)).getD 0

variable {date}

def Identity.agentId (identity : Identity date) : Json := field identity.1 "agent_id"
def Capability.capabilityId (capability : Capability) : Json := field capability.1 "capability_id"

namespace Grant
variable (grant : Grant date)

def parentRef : Option JsString := (grant.value.get "parent_grant_ref").bind Json.str?
def subject : Json := field grant.value "subject_agent_id"
def hasStatus (status : String) : Bool := grant.value.get "status" == some (.text status)
def issuedAt : ℤ := timeOf date grant.value "issued_at"
def expiresAt : ℤ := timeOf date grant.value "expires_at"

end Grant

/-- `validateEnvelope(value)`. -/
def Envelope.read (value : Json) : Outcome (Envelope date) := validated (validateEnvelope date) value

namespace Envelope
variable (envelope : Envelope date)

def type : Option Json := envelope.1.get "message_type"
def hasType (messageType : String) : Bool := envelope.type == some (.text messageType)
def sender : Json := field envelope.1 "sender"
def recipient : Json := field envelope.1 "recipient"
def sentAt : ℤ := timeOf date envelope.1 "timestamp"
def expiresAt : ℤ := timeOf date envelope.1 "expires_at"

/-- A field that holds `null`. -/
def lacks (name : String) : Bool := isNull (envelope.1.get name)

def replayKey : Option JsString := replayKeyOf envelope.1

end Envelope

def isAgent (principal : Json) : Bool := principal.get "principal_type" == some (.text "agent")

/-- The principal is the given runtime component. -/
def isComponent (principal : Json) (component : String) : Bool :=
  principal.get "principal_type" == some (.text "runtime_component") && principal.get "id" == some (.text component)

variable (date)

structure Gateway where
  identities : Registry Json (Identity date) Identity.agentId
  capabilities : Registry Json Capability Capability.capabilityId
  grants : Registry JsString (Grant date) Grant.grantId
  revocations : JsMap Json Json
  componentAuthenticationRefs : JsMap JsString (List Json)
  replayGuard : ReplayGuard

variable {date}

def capabilityMessageTypes : List String :=
  MESSAGE_TYPES.filter fun messageType => !(["discovery", "health", "status", "revocation"].contains messageType)
def directAgentExecutionTypes : List String := ["execution_request", "execution_receipt", "settlement_request"]

namespace Gateway

/-! ## Construction and registration -/

/-- The references given for one component. -/
def checkReferences (componentId : JsString) (references : Json) : Outcome (List Json) := do
  ensure ((RUNTIME_COMPONENTS.map js).contains componentId) .typeError
  let items ← orThrow references.items? .typeError
  ensure (items.length ≠ 0 && Json.allDistinct items) .typeError
  ensureAll (fun reference => ensureTest authenticationReferencePattern (some reference) .typeError .typeError) items
  pure items

def referenceMap : Fields → JsMap JsString (List Json) → Outcome (JsMap JsString (List Json))
  | [], refs => pure refs
  | f :: rest, refs => do
    let items ← checkReferences f.1 f.2
    referenceMap rest (refs.set f.1 items)

variable (date) in
/-- A gateway with nothing registered. -/
def start (componentAuthenticationRefs : JsMap JsString (List Json)) (replayGuard : ReplayGuard) : Gateway date :=
  ⟨Registry.empty, Registry.empty, Registry.empty, JsMap.empty, componentAuthenticationRefs, replayGuard⟩

variable (date) in
/-- `new AgentProtocolGateway({ componentAuthenticationRefs, maxReplayEntries })`. -/
def create (componentAuthenticationRefs : Fields) (maxReplayEntries : Option Json) : Outcome (Gateway date) := do
  let refs ← referenceMap componentAuthenticationRefs JsMap.empty
  let replayGuard ← ReplayGuard.create maxReplayEntries
  pure (start date refs replayGuard)

/-- No value under the key, or one of the same JSON text. -/
def sameText (existing : Option Json) (v : Json) : Bool := existing.all fun w => stringify w == stringify v

variable (g : Gateway date)

def registerIdentity (value : Json) : Outcome (Json × Gateway date) := do
  let identity : Identity date ← validated (validateAgentIdentity date) value
  require "identity_conflict" (sameText ((g.identities.get identity.agentId).map Subtype.val) identity.1)
  pure (identity.1, { g with identities := g.identities.put identity })

def registerCapability (value : Json) : Outcome (Json × Gateway date) := do
  let capability : Capability ← validated validateCapability value
  require "capability_conflict" (sameText ((g.capabilities.get capability.capabilityId).map Subtype.val) capability.1)
  pure (capability.1, { g with capabilities := g.capabilities.put capability })

/-- `identity.authority.grant_refs.includes(grant.grant_id)`; the references are strings. -/
def declared (identity : Identity date) (grant : Validated (validateAuthorityGrant date)) : Outcome (Grant date) :=
  match h : grant.1.get "grant_id" with
  | some (.str id) =>
    if includes ((field identity.1 "authority").get "grant_refs") (some (.str id)) then .ok ⟨grant.1, grant.2, id, h⟩
    else .error (reject "grant_not_declared_by_identity")
  | _ => .error (reject "grant_not_declared_by_identity")

/-- A delegated grant stays within its active parent. -/
def checkDelegation (grant : Grant date) : Outcome Unit :=
  match grant.parentRef with
  | none => pure ()
  | some ref => do
    let parent ← orThrow (g.grants.get ref) (reject "parent_grant_inactive")
    require "parent_grant_inactive" (parent.hasStatus "active")
    require "delegation_scope_escalation"
      (!levelAbove (grant.value.get "authority_level") (parent.value.get "authority_level") &&
        subset (grant.value.get "capability_ids") (parent.value.get "capability_ids") &&
        subset (grant.value.get "message_types") (parent.value.get "message_types") &&
        subset (grant.value.get "budget_refs") (parent.value.get "budget_refs"))

/-- The registration of a grant that is valid in itself. -/
def admitGrant (v : Validated (validateAuthorityGrant date)) : Outcome (Json × Gateway date) := do
  let identity ← orThrow (g.identities.get (field v.1 "subject_agent_id")) (reject "grant_subject_unknown")
  let grant ← declared identity v
  require "authority_escalation_forbidden"
    (!levelAbove (v.1.get "authority_level") ((field identity.1 "authority").get "ceiling"))
  require "grant_capability_out_of_scope" ((items (v.1.get "capability_ids")).all fun capabilityId =>
    includes (identity.1.get "capabilities") (some capabilityId) &&
      !includes (identity.1.get "prohibited_capabilities") (some capabilityId) && g.capabilities.has capabilityId)
  g.checkDelegation grant
  require "authority_grant_conflict" (sameText ((g.grants.get grant.grantId).map Grant.value) grant.value)
  pure (grant.value, { g with grants := g.grants.put grant })

def registerAuthorityGrant (value : Json) : Outcome (Json × Gateway date) := do
  let v ← validated (validateAuthorityGrant date) value
  g.admitGrant v

/-! ## Authorisation -/

/-- `this.grants.get(reference)`. -/
def grantOf (reference : Option Json) : Option (Grant date) := (reference.bind Json.str?).bind g.grants.get

def requireActiveAgent (agentId : Option Json) : Outcome (Identity date) := do
  let identity ← orThrow (agentId.bind g.identities.get) (reject "agent_unknown")
  require "agent_inactive" (identity.1.get "lifecycle_state" == some (.text "active"))
  pure identity

/-- The grant an agent's envelope refers to: its own, under the reference it shows. -/
def exercisedGrant (identity : Identity date) (envelope : Envelope date) : Outcome (Grant date) := do
  let grant ← orThrow (g.grantOf (envelope.1.get "authority_ref")) (reject "authority_grant_unknown")
  require "authority_grant_unknown" (grant.subject == identity.agentId)
  require "authentication_reference_mismatch"
    (envelope.1.get "authentication_ref" == grant.value.get "authentication_ref")
  pure grant

/-- The branch for `discovery`. -/
def authorizeDiscovery (identity : Identity date) (envelope : Envelope date) (now : ℤ) : Outcome Unit := do
  require "discovery_route_forbidden" (isComponent envelope.recipient "brainstem" &&
    !envelope.lacks "authority_ref" && envelope.lacks "requested_capability" && envelope.lacks "budget_ref" &&
    envelope.lacks "delegation_ref" && envelope.1.get "data_classification" == some (.text "internal"))
  let grant ← g.exercisedGrant identity envelope
  require "discovery_grant_out_of_scope" (grant.hasStatus "active" && !(now < grant.issuedAt) &&
    !(grant.expiresAt ≤ now) && includes (grant.value.get "message_types") (some (.text "discovery")) &&
    includes (grant.value.get "permissions") (some (.text "capability.discover")) &&
    (items (grant.value.get "capability_ids")).length == 0 && (items (grant.value.get "budget_refs")).length == 0 &&
    isNull (grant.value.get "parent_grant_ref"))

/-- The parent of an exercised grant. -/
def checkParent (grant : Grant date) (now : ℤ) : Outcome Unit :=
  match grant.parentRef with
  | none => pure ()
  | some ref => do
    let parent ← orThrow (g.grants.get ref) (reject "parent_grant_inactive")
    require "parent_grant_inactive" (parent.hasStatus "active" && !(parent.expiresAt ≤ now))

/-- The branch for a requested capability. -/
def authorizeCapability (identity : Identity date) (envelope : Envelope date) (now : ℤ) : Outcome Unit := do
  let capability ← orThrow ((envelope.1.get "requested_capability").bind g.capabilities.get)
    (reject "capability_unknown")
  let capabilityId := capability.1.get "capability_id"
  require "capability_out_of_scope" (includes (identity.1.get "capabilities") capabilityId &&
    !includes (identity.1.get "prohibited_capabilities") capabilityId &&
    includes ((field identity.1 "execution_scope").get "allowed_capabilities") capabilityId &&
    includes (capability.1.get "allowed_agent_classes") (identity.1.get "agent_class") &&
    includes (capability.1.get "data_classifications") (envelope.1.get "data_classification"))
  require "authority_reference_required" (!envelope.lacks "authority_ref")
  let grant ← g.exercisedGrant identity envelope
  require "authority_grant_inactive" (grant.hasStatus "active" && !(now < grant.issuedAt) &&
    !(grant.expiresAt ≤ now) && !(envelope.sentAt < grant.issuedAt))
  require "authority_grant_out_of_scope" (includes (grant.value.get "capability_ids") capabilityId &&
    includes (grant.value.get "message_types") envelope.type &&
    !levelAbove (capability.1.get "required_authority") (grant.value.get "authority_level"))
  require "delegation_reference_mismatch"
    (envelope.1.get "delegation_ref" == grant.value.get "parent_grant_ref")
  g.checkParent grant now
  require "budget_out_of_scope" (envelope.lacks "budget_ref" ||
    (includes (identity.1.get "budget_refs") (envelope.1.get "budget_ref") &&
      includes (grant.value.get "budget_refs") (envelope.1.get "budget_ref")))

def authorizeAgentEnvelope (envelope : Envelope date) (now : ℤ) : Outcome Unit := do
  let identity ← g.requireActiveAgent (envelope.sender.get "id")
  require "direct_agent_execution_forbidden" (!oneOf envelope.type directAgentExecutionTypes)
  require "authentication_reference_required" (!envelope.lacks "authentication_ref")
  if envelope.hasType "discovery" then g.authorizeDiscovery identity envelope now
  else do
    require "requested_capability_required"
      (!(oneOf envelope.type capabilityMessageTypes && envelope.lacks "requested_capability"))
    if envelope.lacks "requested_capability" then pure () else g.authorizeCapability identity envelope now

/-- `capability.<name> === value`. -/
def capabilityHas (capability : Option Capability) (name value : String) : Bool :=
  capability.any fun c => c.1.get name == some (.text value)

/-- What a component's message of the given type must satisfy. -/
def routed (envelope : Envelope date) (messageType reasonClass : String) (condition : Bool) : Outcome Unit :=
  require reasonClass (!envelope.hasType messageType || condition)

def authorizeComponentEnvelope (envelope : Envelope date) : Outcome Unit := do
  let sentBy := fun component : String => envelope.sender.get "id" == some (.text component)
  let sentTo := isComponent envelope.recipient
  let references := ((envelope.sender.get "id").bind Json.str?).bind g.componentAuthenticationRefs.get
  require "component_authentication_invalid" (!envelope.lacks "authentication_ref" &&
    references.any fun refs => (envelope.1.get "authentication_ref").any refs.contains)
  let capability ← if envelope.lacks "requested_capability" then pure none
    else some <$> orThrow ((envelope.1.get "requested_capability").bind g.capabilities.get) (reject "capability_unknown")
  require "capability_out_of_scope" (capability.all fun c =>
    includes (c.1.get "data_classifications") (envelope.1.get "data_classification"))
  routed envelope "execution_request" "execution_route_forbidden" (sentBy "brainstem" && sentTo "kindred_cloud" &&
    !envelope.lacks "authority_ref" && !envelope.lacks "authentication_ref" &&
    !envelope.lacks "requested_capability" && capabilityHas capability "owner_component" "kindred_cloud" &&
    capabilityHas capability "action_type" "tool" && !capabilityHas capability "execution_mode" "proposal_only")
  routed envelope "execution_receipt" "execution_receipt_route_forbidden" (sentBy "kindred_cloud" &&
    sentTo "brainstem" && (items (envelope.1.get "evidence_refs")).length ≠ 0)
  routed envelope "settlement_request" "settlement_route_forbidden" (sentBy "brainstem" && sentTo "retrobank" &&
    !envelope.lacks "authority_ref" && !envelope.lacks "authentication_ref" && !envelope.lacks "budget_ref" &&
    !envelope.lacks "requested_capability" && capabilityHas capability "owner_component" "retrobank" &&
    capabilityHas capability "action_type" "settlement" &&
    capabilityHas capability "execution_mode" "governed_local_reversible")
  routed envelope "revocation" "revocation_route_forbidden" (sentBy "brainstem" && sentTo "brainstem" &&
    envelope.lacks "authority_ref" && envelope.lacks "requested_capability" && envelope.lacks "budget_ref" &&
    envelope.lacks "delegation_ref" && envelope.1.get "data_classification" == some (.text "restricted"))

/-- `#authorizeValidatedEnvelope(envelope, now)`. -/
def authorizeValidatedEnvelope (envelope : Envelope date) (now : ℤ) : Outcome Unit := do
  require "envelope_from_future" (envelope.sentAt ≤ now + MAX_FUTURE_SKEW_MS)
  require "envelope_expired" (now < envelope.expiresAt)
  if isAgent envelope.sender then g.authorizeAgentEnvelope envelope now else g.authorizeComponentEnvelope envelope
  if isAgent envelope.recipient then do
    let _ ← g.requireActiveAgent (envelope.recipient.get "id")
  else pure ()

/-! ## Acceptance -/

def acceptanceReceipt (envelope : Envelope date) (acceptedAt : JsString) : Json :=
  Json.record [("contract_version", .text "kindred.agent.protocol-receipt.v1"),
    ("message_id", field envelope.1 "message_id"), ("correlation_id", field envelope.1 "correlation_id"),
    ("status", .text "accepted"), ("accepted_at", .str acceptedAt), ("replay_consumed", .bool true)]

/-- The receipt of an accepted envelope. -/
def protocolReceipt (envelope : Envelope date) (now : ℤ) : Outcome Json := do
  let acceptedAt ← orThrow (date.toISOString now) .rangeError
  let receipt := acceptanceReceipt envelope acceptedAt
  validateProtocolReceipt date receipt
  pure receipt

/-- `#acceptValidatedEnvelope(envelope, now)`; the guard's clock reads `consumedAt`. -/
def acceptValidatedEnvelope (envelope : Envelope date) (now consumedAt : ℤ) : Outcome Json × Gateway date :=
  match g.authorizeValidatedEnvelope envelope now, envelope.replayKey with
  | .error e, _ => (.error e, g)
  | .ok (), none => (.error .typeError, { g with replayGuard := g.replayGuard.prune consumedAt })
  | .ok (), some key =>
    match g.replayGuard.consume key envelope.expiresAt consumedAt with
    | (.error e, replayGuard) => (.error e, { g with replayGuard })
    | (.ok (), replayGuard) => (protocolReceipt envelope now, { g with replayGuard })

def acceptEnvelope (value : Json) (now consumedAt : ℤ) : Outcome Json × Gateway date :=
  match Envelope.read value with
  | .error e => (.error e, g)
  | .ok envelope =>
    if envelope.hasType "revocation" then (.error (reject "revocation_requires_atomic_apply"), g)
    else g.acceptValidatedEnvelope envelope now consumedAt

/-! ## Revocation -/

/-- `{...identity, lifecycle_state, health, revoked_at}`. -/
def revokedIdentity (value effectiveAt : Json) : Json :=
  ((value.set "lifecycle_state" (.text "revoked")).set "health" (.text "unavailable")).set "revoked_at" effectiveAt

/-- `{...grant, status, revoked_at}`. -/
def revokedValue (value effectiveAt : Json) : Json := (value.set "status" (.text "revoked")).set "revoked_at" effectiveAt

theorem revokedValue_named (grant : Grant date) (effectiveAt : Json) :
    (revokedValue grant.value effectiveAt).get "grant_id" = some (.str grant.grantId) := by
  simp [revokedValue, grant.named]

/-- `validateAuthorityGrant({...grant, status, revoked_at})`. -/
def revokedGrant (grant : Grant date) (effectiveAt : Json) : Outcome (Grant date) :=
  match h : validateAuthorityGrant date (revokedValue grant.value effectiveAt) with
  | .ok () => .ok ⟨_, h, grant.grantId, revokedValue_named grant effectiveAt⟩
  | .error e => .error e

/-- `validateAuthorityGrant({...this.grants.get(grantId), ...})` for each affected id. -/
def grantUpdates (effectiveAt : Json) : List JsString → Outcome (List (Grant date))
  | [] => pure []
  | grantId :: rest => do
    let grant ← orThrow (g.grants.get grantId) (reject "authority_grant_fields_invalid")
    let update ← revokedGrant grant effectiveAt
    let updates ← grantUpdates effectiveAt rest
    pure (update :: updates)

/-- The parent through which a revocation reaches a grant. -/
def cascadeParent (grant : Grant date) : Option JsString := if grant.hasStatus "revoked" then none else grant.parentRef

/-- The target's own update and the ids of the grants it reaches first. -/
def revocationTarget (notice : Json) : Outcome (Option (Identity date) × List JsString) :=
  if notice.get "target_type" == some (.text "agent") then do
    let identity ← orThrow ((notice.get "target_id").bind g.identities.get) (reject "revocation_target_unknown")
    require "revocation_target_terminal"
      (!oneOf (identity.1.get "lifecycle_state") ["revoked", "retired", "replaced"])
    let update ← validated (validateAgentIdentity date) (revokedIdentity identity.1 (field notice "effective_at"))
    pure (some update, (g.grants.values.filter fun grant =>
      grant.subject == identity.agentId && !grant.hasStatus "revoked").map Grant.grantId)
  else do
    let grant ← orThrow (g.grantOf (notice.get "target_id")) (reject "revocation_target_unknown")
    require "revocation_target_terminal" (!grant.hasStatus "revoked")
    pure (none, [grant.grantId])

/-- What a revocation is going to write. -/
structure Revocation (date : DateApi) where
  identityUpdate : Option (Identity date)
  grantUpdates : List (Grant date)
  revocationId : Json
  receipt : Json

def revocationReceipt (envelope : Envelope date) (notice : Json) (identityChanged : Bool) (grantsRevoked : ℕ)
    (recordedAt : JsString) : Json :=
  Json.record [("contract_version", .text "kindred.agent.revocation-receipt.v1"),
    ("revocation_id", field notice "revocation_id"), ("message_id", field envelope.1 "message_id"),
    ("correlation_id", field envelope.1 "correlation_id"), ("target_type", field notice "target_type"),
    ("target_id", field notice "target_id"), ("reason_class", field notice "reason_class"),
    ("status", .text "applied"), ("effective_at", field notice "effective_at"),
    ("identity_state_changed", .bool identityChanged), ("grants_revoked", .int grantsRevoked),
    ("replay_consumed", .bool true), ("history_preserved", .bool true), ("provider_contacted", .bool false),
    ("memory_mutated", .bool false), ("tool_executed", .bool false), ("settlement_executed", .bool false),
    ("external_effects", .bool false), ("evidence_refs", field notice "evidence_refs"),
    ("recorded_at", .str recordedAt)]

/-- The checks of `applyRevocation` up to the first look at the replay guard. -/
def revocationRequest (value : Json) (now : ℤ) : Outcome (Envelope date × Json) := do
  let envelope ← Envelope.read value
  require "revocation_message_required" (envelope.hasType "revocation")
  require "revocation_route_forbidden" (isComponent envelope.sender "brainstem")
  g.authorizeValidatedEnvelope envelope now
  let notice := field envelope.1 "payload"
  validateRevocationNotice date notice
  require "revocation_evidence_invalid" (notice.get "effective_at" == envelope.1.get "timestamp" &&
    !(now < timeOf date notice "effective_at") &&
    stringify (field notice "evidence_refs") == stringify (field envelope.1 "evidence_refs"))
  pure (envelope, notice)

/-- From the replay check to the validated receipt, on the pruned guard. -/
def planRevocation (envelope : Envelope date) (notice : Json) (now : ℤ) : Outcome (Revocation date) := do
  let key ← orThrow envelope.replayKey .typeError
  require "envelope_replay" (!g.replayGuard.has key)
  require "revocation_replay" (!g.revocations.has (field notice "revocation_id"))
  ensure (g.revocations.size < 4096) (.rejected "revocation_capacity_reached" true)
  let (identityUpdate, affected) ← g.revocationTarget notice
  let affected ← orThrow (Forest.saturate Grant.grantId cascadeParent 4096 g.grants.values
    (g.grants.values.length + 1) affected) (.rejected "revocation_cascade_capacity_reached" true)
  let updates ← g.grantUpdates (field notice "effective_at") affected
  let recordedAt ← orThrow (date.toISOString now) .rangeError
  let receipt := revocationReceipt envelope notice identityUpdate.isSome updates.length recordedAt
  validateRevocationReceipt date receipt
  pure ⟨identityUpdate, updates, field notice "revocation_id", receipt⟩

def commit (revocation : Revocation date) : Gateway date :=
  { g with
    identities := revocation.identityUpdate.elim g.identities g.identities.put
    grants := revocation.grantUpdates.foldl Registry.put g.grants
    revocations := g.revocations.set revocation.revocationId revocation.receipt }

/-- `applyRevocation(value)`; the guard's clock reads `consumedAt` when it consumes. -/
def applyRevocation (value : Json) (now consumedAt : ℤ) : Outcome Json × Gateway date :=
  match g.revocationRequest value now with
  | .error e => (.error e, g)
  | .ok (envelope, notice) =>
    let pruned : Gateway date := { g with replayGuard := g.replayGuard.prune now }
    match pruned.planRevocation envelope notice now with
    | .error e => (.error e, pruned)
    | .ok revocation =>
      match pruned.acceptValidatedEnvelope envelope now consumedAt with
      | (.error e, rest) => (.error e, rest)
      | (.ok _, rest) => (.ok revocation.receipt, rest.commit revocation)

/-! ## Runs -/

inductive Operation
  | registerIdentity (value : Json)
  | registerCapability (value : Json)
  | registerAuthorityGrant (value : Json)
  | acceptEnvelope (value : Json) (now consumedAt : ℤ)
  | applyRevocation (value : Json) (now consumedAt : ℤ)

def Operation.readings : Operation → List ℤ
  | .acceptEnvelope _ now consumedAt => [now, consumedAt]
  | .applyRevocation _ now consumedAt => [now, consumedAt]
  | _ => []

/-- What a registration leaves: a throw changes nothing. -/
def registered (result : Outcome (Json × Gateway date)) : Gateway date :=
  match result with
  | .ok (_, g') => g'
  | .error _ => g

def step : Operation → Gateway date
  | .registerIdentity value => g.registered (g.registerIdentity value)
  | .registerCapability value => g.registered (g.registerCapability value)
  | .registerAuthorityGrant value => g.registered (g.registerAuthorityGrant value)
  | .acceptEnvelope value now consumedAt => (g.acceptEnvelope value now consumedAt).2
  | .applyRevocation value now consumedAt => (g.applyRevocation value now consumedAt).2

end Gateway

end

end Agent
