import StrataPortNetwork.Superstructure.Records

/-! # The route execution engine

Directory, execution ports and the engine that derives one signed child envelope for each
target of a route and hands it to a dispatcher, attempt after attempt. The dispatcher is
any function of the calls so far; a run keeps these calls with their answers.
-/
namespace Superstructure
open Py
open Js (JsMap ensure orThrow)

/-! ## Directory -/

inductive Health
  | healthy
  | degraded
  | unavailable
  deriving DecidableEq

inductive Readiness
  | ready
  | blocked
  | maintenance
  deriving DecidableEq

def Readiness.value : Readiness → Str
  | .ready => str "ready"
  | .blocked => str "blocked"
  | .maintenance => str "maintenance"

/-- The fields of a registration that routing and execution read. -/
structure PortRegistration where
  portId : Str
  authority : Str
  capabilities : List Str
  acceptedClassifications : List Str
  routeModes : List Str
  health : Health
  readiness : Readiness
  maintenance : Bool
  blocker : Option Str

abbrev PortDirectory := List PortRegistration

namespace PortDirectory
variable (directory : PortDirectory)

/-- `resolve_raw(port_id)`. -/
def resolveRaw (portId : Str) : Outcome PortRegistration :=
  orThrow (directory.find? fun r => r.portId == portId) ⟨.lookupError, str "unknown destination port"⟩

/-- `blocker or readiness`. -/
def blockerOf (r : PortRegistration) : Str :=
  match r.blocker with
  | some (c :: rest) => c :: rest
  | _ => r.readiness.value

/-- `resolve(port_id, capability, classification, route_mode, organization_id, tenant_id)`. -/
def resolve (portId capability classification routeMode organizationId tenantId : Str) : Outcome PortRegistration := do
  let r ← resolveRaw directory portId
  ensure (organizationId ≠ [] ∧ tenantId ≠ []) ⟨.permissionError, str "organization and tenant required"⟩
  ensure (!(r.maintenance || r.readiness ≠ .ready || r.health = .unavailable))
    ⟨.runtimeError, str "destination blocked: " ++ blockerOf r⟩
  ensure (capability ∈ r.capabilities ∧ classification ∈ r.acceptedClassifications ∧ routeMode ∈ r.routeModes)
    ⟨.permissionError, str "destination compatibility denied"⟩
  pure r

end PortDirectory

/-! ## Envelopes and receipts -/

structure ProductionEnvelope where
  schemaVersion : Str
  protocolVersion : Str
  messageId : Str
  correlationId : Str
  causationId : Str
  traceId : Str
  transactionId : Str
  organizationId : Str
  tenantId : Str
  partnerId : Str
  environmentId : Str
  projectId : Str
  sourceIdentity : Str
  sourceIdentityType : Str
  sourceComponent : Str
  sourceAuthority : Str
  delegatedAuthority : Str
  originPort : Str
  destinationStratum : Str
  destinationPort : Str
  destinationCapability : Str
  routeMode : RouteMode
  routeTargets : List Str
  payloadType : Str
  payload : Dict
  payloadHash : Str
  classification : Classification
  truthClass : Str
  disclosurePolicy : List Str
  policyReferences : List Str
  contractReferences : List Str
  issuedAt : Str
  expiresAt : Str
  deadline : Str
  nonce : Str
  sequence : ℤ
  idempotencyKey : Str
  attempt : ℤ
  signatures : List Signature
  encryptionMetadata : Dict

/-- `envelope.unsigned()`. -/
def ProductionEnvelope.unsigned (e : ProductionEnvelope) : Value := .record [
  ("schema_version", .str e.schemaVersion), ("protocol_version", .str e.protocolVersion),
  ("message_id", .str e.messageId), ("correlation_id", .str e.correlationId),
  ("causation_id", .str e.causationId), ("trace_id", .str e.traceId), ("transaction_id", .str e.transactionId),
  ("organization_id", .str e.organizationId), ("tenant_id", .str e.tenantId), ("partner_id", .str e.partnerId),
  ("environment_id", .str e.environmentId), ("project_id", .str e.projectId),
  ("source_identity", .str e.sourceIdentity), ("source_identity_type", .str e.sourceIdentityType),
  ("source_component", .str e.sourceComponent), ("source_authority", .str e.sourceAuthority),
  ("delegated_authority", .str e.delegatedAuthority), ("origin_port", .str e.originPort),
  ("destination_stratum", .str e.destinationStratum), ("destination_port", .str e.destinationPort),
  ("destination_capability", .str e.destinationCapability), ("route_mode", .str e.routeMode.value),
  ("route_targets", .strings e.routeTargets), ("payload_type", .str e.payloadType), ("payload", .ofDict e.payload),
  ("payload_hash", .str e.payloadHash), ("classification", .str e.classification.value),
  ("truth_class", .str e.truthClass), ("disclosure_policy", .strings e.disclosurePolicy),
  ("policy_references", .strings e.policyReferences), ("contract_references", .strings e.contractReferences),
  ("issued_at", .str e.issuedAt), ("expires_at", .str e.expiresAt), ("deadline", .str e.deadline),
  ("nonce", .str e.nonce), ("sequence", .int e.sequence), ("idempotency_key", .str e.idempotencyKey),
  ("attempt", .int e.attempt), ("encryption_metadata", .ofDict e.encryptionMetadata)]

def Signature.asdict (s : Signature) : Value := .record [("key_id", .str s.keyId), ("algorithm", .str s.algorithm),
  ("value", .str s.value), ("assurance", .str s.assurance)]

/-- `asdict(envelope)`, its enumerations by their values. -/
def ProductionEnvelope.asdict (e : ProductionEnvelope) : Value :=
  .dict (e.unsigned.items ++ [(str "signatures", .list (e.signatures.map Signature.asdict))])

structure SignedPortReceipt where
  receiptId : Str
  parentTransactionId : Str
  destinationTransactionId : Str
  messageId : Str
  correlationId : Str
  portId : Str
  destinationAuthority : Str
  organizationId : Str
  tenantId : Str
  capability : Str
  attempt : ℤ
  acceptedAt : Str
  completedAt : Str
  portStatus : Str
  providerStatus : Str
  railStatus : Str
  destinationStatus : Str
  reconciliationStatus : Str
  evidenceStatus : Str
  truthClass : Str
  resultHash : Str
  blocker : Option Str
  expiresAt : Str
  signatures : List Signature
  deriving DecidableEq

/-- `receipt.unsigned()`. -/
def SignedPortReceipt.unsigned (r : SignedPortReceipt) : Value := .record [
  ("receipt_id", .str r.receiptId), ("parent_transaction_id", .str r.parentTransactionId),
  ("destination_transaction_id", .str r.destinationTransactionId), ("message_id", .str r.messageId),
  ("correlation_id", .str r.correlationId), ("port_id", .str r.portId),
  ("destination_authority", .str r.destinationAuthority), ("organization_id", .str r.organizationId),
  ("tenant_id", .str r.tenantId), ("capability", .str r.capability), ("attempt", .int r.attempt),
  ("accepted_at", .str r.acceptedAt), ("completed_at", .str r.completedAt), ("port_status", .str r.portStatus),
  ("provider_status", .str r.providerStatus), ("rail_status", .str r.railStatus),
  ("destination_status", .str r.destinationStatus), ("reconciliation_status", .str r.reconciliationStatus),
  ("evidence_status", .str r.evidenceStatus), ("truth_class", .str r.truthClass),
  ("result_hash", .str r.resultHash), ("blocker", .ofOption r.blocker), ("expires_at", .str r.expiresAt)]

/-! ## Execution ports -/

structure ExternalExecutionPort where
  registration : PortRegistration
  signer : Signer

/-- What the destination and the clock contribute to one execution. -/
structure DestinationAnswer where
  blocker : Option Str
  result : Outcome (Str × Str)
  receiptId : Str
  acceptedAt : Str
  completedAt : Str

namespace ExternalExecutionPort
variable (platform : Platform) (port : ExternalExecutionPort)

/-- The authentication of an envelope in `execute`. -/
def authenticate (envelope : ProductionEnvelope) : Outcome Unit := do
  ensure (envelope.originPort = str "strata-data-port-zero") ⟨.permissionError, str "Port Zero authentication failed"⟩
  let verified ← port.signer.verifies envelope.unsigned envelope.signatures
  ensure verified ⟨.permissionError, str "Port Zero authentication failed"⟩

/-- `execute(envelope, destination_transaction_id)`. -/
def execute (answer : DestinationAnswer) (envelope : ProductionEnvelope) (destinationTransactionId : Str) :
    Outcome SignedPortReceipt := do
  port.authenticate envelope
  ensure (envelope.organizationId ≠ [] ∧ envelope.tenantId ≠ [] ∧
    envelope.destinationCapability ∈ port.registration.capabilities)
    ⟨.permissionError, str "tenant or capability denied"⟩
  let receipt := fun (blocker : Option Str) (status provider rail destinationStatus truth : Str) (resultHash : Str) =>
    (⟨answer.receiptId, envelope.transactionId, destinationTransactionId, envelope.messageId, envelope.correlationId,
      port.registration.portId, port.registration.authority, envelope.organizationId, envelope.tenantId,
      envelope.destinationCapability, envelope.attempt, answer.acceptedAt, answer.completedAt, status, provider, rail,
      destinationStatus, str "pending", str "receipt_verified", truth, resultHash, blocker, envelope.expiresAt,
      []⟩ : SignedPortReceipt)
  let unsigned ← match answer.blocker with
    | some (c :: rest) => do
      let hash ← digest platform.sha256 (.record [("blocker", .str (c :: rest)),
        ("destination_transaction_id", .str destinationTransactionId)])
      pure (receipt (some (c :: rest)) (str "failed") (str "blocked") (str "not_submitted") (str "failed")
        (str "port_reported") hash)
    | _ => do
      let (destinationStatus, hash) ← answer.result
      pure (receipt none (str "completed") (str "completed") (str "completed") destinationStatus
        (str "destination_confirmed") hash)
  let signature ← port.signer.sign unsigned.unsigned
  pure { unsigned with signatures := [signature] }

/-- What `verify_receipt` compares with the envelope. -/
def matchesEnvelope (receipt : SignedPortReceipt) (envelope : ProductionEnvelope) : Bool :=
  receipt.parentTransactionId = envelope.transactionId && receipt.messageId = envelope.messageId &&
    receipt.correlationId = envelope.correlationId && receipt.organizationId = envelope.organizationId &&
    receipt.tenantId = envelope.tenantId && receipt.capability = envelope.destinationCapability &&
    receipt.attempt = envelope.attempt

/-- `verify_receipt(receipt, envelope)`. -/
def verifyReceipt (now : ℤ) (receipt : SignedPortReceipt) (envelope : ProductionEnvelope) : Outcome Bool := do
  let verified ← port.signer.verifies receipt.unsigned receipt.signatures
  if verified && matchesEnvelope receipt envelope then do
    let expiresAt ← platform.fromisoformat receipt.expiresAt
    let expired ← expiresAt.le now
    pure (!expired)
  else pure false

end ExternalExecutionPort

/-! ## Reconciliation -/

/-- `reconciler.reconcile(receipts)`: a dict with a status. -/
abbrev Reconciler := List SignedPortReceipt → Outcome Value

/-- `EmitCoreReconciler.reconcile(receipts)`, which is not connected. -/
def emitCoreReconcile (platform : Platform) : Reconciler := fun receipts => do
  let hashes ← receipts.mapM fun r => digest platform.sha256
    (.dict (match r.unsigned with
      | .dict entries => entries ++ [(str "signatures", .list (r.signatures.map Signature.asdict))]
      | _ => []))
  pure (.record [("status", .text "blocked"), ("blocker", .text "emit_core_authority_not_connected"),
    ("truth_class", .text "port_reported"), ("receipt_hashes", .strings hashes)])

/-! ## The engine -/

/-- One call of the dispatcher with what it came to. -/
structure Handed where
  index : ℕ
  attempt : ℕ
  portId : Str
  envelope : ProductionEnvelope
  destinationTransactionId : Str
  answer : Outcome SignedPortReceipt

/-- What a dispatcher does with a call may depend on all calls before it. -/
abbrev Dispatcher := List Handed → Str → ProductionEnvelope → Str → Outcome SignedPortReceipt

structure DeadLetter where
  deadLetterId : Str
  transactionId : Str
  portId : Str
  attempts : ℕ
  reason : Str
  payloadHash : Str
  evidenceHash : Str
  recoveryOwner : Str
  state : Str
  createdAt : Str

/-- The calls of a run, the latest first, and the dead letters it stores. -/
structure RouteLog where
  handed : List Handed
  deadLetters : List DeadLetter

structure RouteResult where
  receipts : List SignedPortReceipt
  reconciliation : Value
  complete : Bool
  isPartial : Bool

structure RouteExecutionEngine where
  directory : PortDirectory
  dispatcher : Dispatcher
  reconciler : Reconciler
  signer : Signer
  maxAttempts : ℕ

namespace RouteExecutionEngine
variable (platform : Platform) (engine : RouteExecutionEngine)

/-- The dead letter of a target, with its random id and its time. -/
def deadLetter (deadLetterId createdAt target : Str) (child : ProductionEnvelope) (error : Option PyError) :
    Outcome DeadLetter := do
  let reason := (error.elim (str "NoneType") fun e => e.cls.name) ++ str ": transport dispatch failed"
  let evidence ← digest platform.sha256 (.record [("transaction_id", .str child.transactionId),
    ("port_id", .str target), ("attempts", .int engine.maxAttempts), ("reason", .str reason),
    ("payload_hash", .str child.payloadHash)])
  pure ⟨deadLetterId, child.transactionId, target, engine.maxAttempts, reason, child.payloadHash, evidence,
    str "strata-operations", str "pending", createdAt⟩

/-- The attempts from `attempt` on, `left` of them. -/
def attemptsFrom (index : ℕ) (target : Str) (child : ProductionEnvelope) :
    ℕ → ℕ → Option PyError → RouteLog → Except (Option PyError) SignedPortReceipt × RouteLog
  | 0, _, error, log => (.error error, log)
  | left + 1, attempt, _, log =>
    let envelope := { child with attempt := attempt }
    let answer := engine.dispatcher log.handed target envelope child.transactionId
    let log := { log with handed := ⟨index, attempt, target, envelope, child.transactionId, answer⟩ :: log.handed }
    match answer with
    | .ok receipt => (.ok receipt, log)
    | .error e => attemptsFrom index target child left (attempt + 1) (some e) log

/-- `_dispatch(target, child)`; `letter` is the id and the time of a dead letter. -/
def dispatch (letter : Str × Str) (index : ℕ) (target : Str) (child : ProductionEnvelope) (log : RouteLog) :
    Outcome SignedPortReceipt × RouteLog :=
  match engine.attemptsFrom index target child engine.maxAttempts 1 none log with
  | (.ok receipt, log) => (.ok receipt, log)
  | (.error error, log) =>
    match engine.deadLetter platform letter.1 letter.2 target child error with
    | .error e => (.error e, log)
    | .ok stored => (.error ⟨.runtimeError, str "retry exhaustion; dead letter persisted"⟩,
        { log with deadLetters := log.deadLetters ++ [stored] })

/-- The keys a target may see in a split route. -/
def allowed (envelope : ProductionEnvelope) (index : ℕ) : List Str :=
  match envelope.disclosurePolicy[index]? with
  | some entry => split (point 44) entry
  | none => []

/-- The payload for a target. -/
def payloadFor (envelope : ProductionEnvelope) (index : ℕ) : Dict :=
  if envelope.routeMode = .split then envelope.payload.restrict fun key => key ∈ allowed envelope index
  else envelope.payload

/-- The signed envelope for a target. -/
def child (envelope : ProductionEnvelope) (index : ℕ) (target : Str) : Outcome ProductionEnvelope := do
  let payload := payloadFor envelope index
  let hash ← digest platform.sha256 (.ofDict payload)
  let unsigned := { envelope with
    destinationPort := target
    payload := payload
    payloadHash := hash
    transactionId := envelope.transactionId ++ str ":" ++ target
    signatures := [] }
  let signature ← engine.signer.sign unsigned.unsigned
  pure { unsigned with signatures := [signature] }

/-- The loop over the targets from `index` on; the receipts in their order. -/
def route (letter : Str × Str) (envelope : ProductionEnvelope) :
    ℕ → List Str → RouteLog → Outcome (List SignedPortReceipt) × RouteLog
  | _, [], log => (.ok [], log)
  | index, target :: rest, log =>
    match engine.directory.resolve target envelope.destinationCapability envelope.classification.value
        envelope.routeMode.value envelope.organizationId envelope.tenantId with
    | .error e => (.error e, log)
    | .ok _ =>
      match engine.child platform envelope index target with
      | .error e => (.error e, log)
      | .ok child =>
        match engine.dispatch platform letter index target child log with
        | (.error e, log) => (.error e, log)
        | (.ok receipt, log) =>
          match route letter envelope (index + 1) rest log with
          | (.error e, log) => (.error e, log)
          | (.ok receipts, log) => (.ok (receipt :: receipts), log)

def isCompleted (r : SignedPortReceipt) : Bool := r.portStatus = str "completed"

/-- The summary of a route: the decision is read only when every target completed. -/
def summary (receipts : List SignedPortReceipt) (decision : Value) : Outcome RouteResult := do
  let complete ← if receipts.all isCompleted then do
      let status ← orThrow (decision.get "status") ⟨.lookupError, str "'status'"⟩
      pure (match status with
        | .str s => decide (s = str "reconciled")
        | _ => false)
    else pure false
  pure ⟨receipts, decision, complete, receipts.any isCompleted && !complete⟩

/-- `execute(envelope)`. -/
def execute (letter : Str × Str) (envelope : ProductionEnvelope) : Outcome RouteResult × RouteLog :=
  let targets := envelope.routeTargets
  if envelope.routeMode = .direct ∧ targets.length ≠ 1 then
    (.error ⟨.valueError, str "direct requires one target"⟩, ⟨[], []⟩)
  else if (envelope.routeMode = .split ∨ envelope.routeMode = .multicast) ∧ targets.length < 2 then
    (.error ⟨.valueError, str "multi-target route requires at least two targets"⟩, ⟨[], []⟩)
  else
    match engine.route platform letter envelope 0 targets ⟨[], []⟩ with
    | (.error e, log) => (.error e, log)
    | (.ok receipts, log) =>
      (do
        let decision ← engine.reconciler receipts
        summary receipts decision, log)

end RouteExecutionEngine

end Superstructure
