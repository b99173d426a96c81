import StrataPortNetwork.Superstructure.Sqlite

/-! # The communication ledger

The events of all messages in one table. An event column is kept as the event that
`json.loads` and `_decode` make of its text. `append` reads the events of its message,
makes the next event of them and inserts it in a transaction of its own.
-/
namespace Superstructure
open Py
open Js (ensure orThrow)

/-! ## Statuses -/

inductive RequestStatus
  | created
  | validated
  | authorized
  | rejected
  | cancelled
  | expired
  deriving DecidableEq

def RequestStatus.value : RequestStatus → Str
  | .created => str "created"
  | .validated => str "validated"
  | .authorized => str "authorized"
  | .rejected => str "rejected"
  | .cancelled => str "cancelled"
  | .expired => str "expired"

inductive G3TProviderStatus
  | accepted
  | policyChecked
  | scheduled
  | queued
  | routing
  | submittedToRail
  | partiallyCompleted
  | completed
  | failed
  | retrying
  | escalated
  | recovered
  | cancelled
  deriving DecidableEq

def G3TProviderStatus.value : G3TProviderStatus → Str
  | .accepted => str "accepted"
  | .policyChecked => str "policy_checked"
  | .scheduled => str "scheduled"
  | .queued => str "queued"
  | .routing => str "routing"
  | .submittedToRail => str "submitted_to_rail"
  | .partiallyCompleted => str "partially_completed"
  | .completed => str "completed"
  | .failed => str "failed"
  | .retrying => str "retrying"
  | .escalated => str "escalated"
  | .recovered => str "recovered"
  | .cancelled => str "cancelled"

inductive TransportRailStatus
  | notRequired
  | notSubmitted
  | submitted
  | railAccepted
  | railQueued
  | railProcessing
  | railSent
  | railDelivered
  | railFailed
  | railRejected
  | railExpired
  | railUnknown
  deriving DecidableEq

def TransportRailStatus.value : TransportRailStatus → Str
  | .notRequired => str "not_required"
  | .notSubmitted => str "not_submitted"
  | .submitted => str "submitted"
  | .railAccepted => str "rail_accepted"
  | .railQueued => str "rail_queued"
  | .railProcessing => str "rail_processing"
  | .railSent => str "rail_sent"
  | .railDelivered => str "rail_delivered"
  | .railFailed => str "rail_failed"
  | .railRejected => str "rail_rejected"
  | .railExpired => str "rail_expired"
  | .railUnknown => str "rail_unknown"

inductive RecipientStatus
  | notObserved
  | received
  | opened
  | acknowledged
  | responded
  | declined
  | unreachable
  | unknown
  deriving DecidableEq

def RecipientStatus.value : RecipientStatus → Str
  | .notObserved => str "not_observed"
  | .received => str "received"
  | .opened => str "opened"
  | .acknowledged => str "acknowledged"
  | .responded => str "responded"
  | .declined => str "declined"
  | .unreachable => str "unreachable"
  | .unknown => str "unknown"

inductive ReconciliationStatus
  | pending
  | providerReported
  | railReported
  | recipientConfirmed
  | reconciled
  | disputed
  | inconclusive
  | reversed
  deriving DecidableEq

def ReconciliationStatus.value : ReconciliationStatus → Str
  | .pending => str "pending"
  | .providerReported => str "provider_reported"
  | .railReported => str "rail_reported"
  | .recipientConfirmed => str "recipient_confirmed"
  | .reconciled => str "reconciled"
  | .disputed => str "disputed"
  | .inconclusive => str "inconclusive"
  | .reversed => str "reversed"

inductive EvidenceStatus
  | notRecorded
  | recorded
  | hashVerified
  | signatureVerified
  | receiptVerified
  | independentlyVerified
  | invalid
  deriving DecidableEq

def EvidenceStatus.value : EvidenceStatus → Str
  | .notRecorded => str "not_recorded"
  | .recorded => str "recorded"
  | .hashVerified => str "hash_verified"
  | .signatureVerified => str "signature_verified"
  | .receiptVerified => str "receipt_verified"
  | .independentlyVerified => str "independently_verified"
  | .invalid => str "invalid"

inductive CommunicationTruth
  | requested
  | internallyObserved
  | g3tReported
  | railReported
  | recipientConfirmed
  | reconciled
  | externallyVerified
  | disputed
  | unknown
  deriving DecidableEq

def CommunicationTruth.value : CommunicationTruth → Str
  | .requested => str "requested"
  | .internallyObserved => str "internally_observed"
  | .g3tReported => str "g3t_reported"
  | .railReported => str "rail_reported"
  | .recipientConfirmed => str "recipient_confirmed"
  | .reconciled => str "reconciled"
  | .externallyVerified => str "externally_verified"
  | .disputed => str "disputed"
  | .unknown => str "unknown"

/-! ## Events -/

structure CommunicationState where
  requestStatus : RequestStatus
  g3tProviderStatus : G3TProviderStatus
  transportRailStatus : TransportRailStatus
  recipientStatus : RecipientStatus
  reconciliationStatus : ReconciliationStatus
  evidenceStatus : EvidenceStatus
  truthClass : CommunicationTruth
  deriving DecidableEq

def CommunicationState.asdict (s : CommunicationState) : Value := .record [
  ("request_status", .str s.requestStatus.value), ("g3t_provider_status", .str s.g3tProviderStatus.value),
  ("transport_rail_status", .str s.transportRailStatus.value), ("recipient_status", .str s.recipientStatus.value),
  ("reconciliation_status", .str s.reconciliationStatus.value), ("evidence_status", .str s.evidenceStatus.value),
  ("truth_class", .str s.truthClass.value)]

structure CommunicationEvent where
  eventId : Str
  schemaVersion : Str
  timestamp : Str
  correlationId : Str
  causationId : Str
  traceId : Str
  messageId : Str
  campaignId : Option Str
  organizationId : Str
  tenantId : Str
  requestingIdentity : Str
  actingIdentity : Str
  delegatedAuthority : Str
  g3tProviderIdentity : Str
  selectedTransportRail : Str
  channel : Str
  attemptNumber : ℤ
  previousState : Option CommunicationState
  newState : CommunicationState
  reasonCode : Str
  providerResponseCode : Option Str
  railResponseCode : Option Str
  receiptIdentifier : Option Str
  payloadHash : Str
  evidenceHash : Str
  classification : Str
  disclosurePolicy : Str
  deriving DecidableEq

def CommunicationEvent.asdict (e : CommunicationEvent) : Value := .record [
  ("event_id", .str e.eventId), ("schema_version", .str e.schemaVersion), ("timestamp", .str e.timestamp),
  ("correlation_id", .str e.correlationId), ("causation_id", .str e.causationId), ("trace_id", .str e.traceId),
  ("message_id", .str e.messageId), ("campaign_id", .ofOption e.campaignId),
  ("organization_id", .str e.organizationId), ("tenant_id", .str e.tenantId),
  ("requesting_identity", .str e.requestingIdentity), ("acting_identity", .str e.actingIdentity),
  ("delegated_authority", .str e.delegatedAuthority), ("g3t_provider_identity", .str e.g3tProviderIdentity),
  ("selected_transport_rail", .str e.selectedTransportRail), ("channel", .str e.channel),
  ("attempt_number", .int e.attemptNumber),
  ("previous_state", e.previousState.elim .none CommunicationState.asdict), ("new_state", e.newState.asdict),
  ("reason_code", .str e.reasonCode), ("provider_response_code", .ofOption e.providerResponseCode),
  ("rail_response_code", .ofOption e.railResponseCode), ("receipt_identifier", .ofOption e.receiptIdentifier),
  ("payload_hash", .str e.payloadHash), ("evidence_hash", .str e.evidenceHash),
  ("classification", .str e.classification), ("disclosure_policy", .str e.disclosurePolicy)]

/-- A row of `communication_events`, without its number: the table is the list in this order. -/
structure CommunicationRow where
  eventId : Str
  callbackId : Option Str
  messageId : Str
  attempt : ℤ
  event : CommunicationEvent
  eventHash : Str
  previousHash : Option Str
  createdAt : Str

abbrev Communications := List CommunicationRow

/-- The events of a message, `ORDER BY sequence`. -/
def Communications.rowsOf (db : Communications) (messageId : Str) : List CommunicationRow :=
  db.filter fun row => row.messageId == messageId

/-- What an event takes of its context. -/
structure B2BContext where
  organizationId : Str
  tenantId : Str
  requestingIdentity : Str
  delegatedAuthority : Str
  transportRail : Str
  disclosurePolicy : Str

/-- The arguments of `append`. -/
structure AppendCall where
  context : B2BContext
  messageId : Str
  newState : CommunicationState
  correlationId : Str
  causationId : Str
  traceId : Str
  actingIdentity : Str
  channel : Str
  attemptNumber : ℤ
  reasonCode : Str
  payloadHash : Str
  callbackId : Option Str
  campaignId : Option Str
  providerResponseCode : Option Str
  railResponseCode : Option Str
  receiptIdentifier : Option Str

/-! ## The ledger -/

namespace CommunicationLedger
variable (platform : Platform)

/-- `_validate(previous, new, reason)`. -/
def validate (previous : Option CommunicationState) (new : CommunicationState) (reason : Str) : Outcome Unit := do
  ensure (!(new.recipientStatus = .acknowledged &&
    new.truthClass ∉ [.recipientConfirmed, .reconciled, .externallyVerified]))
    ⟨.valueError, str "recipient acknowledgement requires recipient evidence"⟩
  ensure (!(new.reconciliationStatus = .reconciled && new.truthClass ∉ [.reconciled, .externallyVerified]))
    ⟨.valueError, str "reconciliation truth required"⟩
  ensure (!(new.truthClass = .externallyVerified && new.evidenceStatus ≠ .independentlyVerified))
    ⟨.valueError, str "independent evidence required"⟩
  ensure (!(new.g3tProviderStatus = .failed && reason.isEmpty)) ⟨.valueError, str "failure reason required"⟩
  ensure (!(previous.any (fun p => new.transportRailStatus ≠ p.transportRailStatus) &&
    new.reconciliationStatus = .providerReported))
    ⟨.valueError, str "conflicting rail callback requires reconciliation"⟩

/-- `{"event": event, "previous_hash": previous_hash}`. -/
def hashed (event : CommunicationEvent) (previousHash : Option Str) : Value :=
  .record [("event", event.asdict), ("previous_hash", .ofOption previousHash)]

/-- The event of a call before its hash is put in, with its random id and its time. -/
def pending (call : AppendCall) (eventId now : Str) (previous : Option CommunicationState) : CommunicationEvent :=
  ⟨eventId, str "1.0.0", now, call.correlationId, call.causationId, call.traceId, call.messageId, call.campaignId,
    call.context.organizationId, call.context.tenantId, call.context.requestingIdentity, call.actingIdentity,
    call.context.delegatedAuthority, str "g3t-connected", call.context.transportRail, call.channel,
    call.attemptNumber, previous, call.newState, call.reasonCode, call.providerResponseCode, call.railResponseCode,
    call.receiptIdentifier, call.payloadHash, str "pending", str "protected", call.context.disclosurePolicy⟩

/-- The row that `append` inserts after the events it has read. -/
def prepare (call : AppendCall) (eventId now : Str) (prior : List CommunicationRow) : Outcome CommunicationRow := do
  let previous := prior.getLast?.map fun row => row.event.newState
  validate previous call.newState call.reasonCode
  let event := pending call eventId now previous
  let previousHash := prior.getLast?.map fun row => row.event.evidenceHash
  let eventHash ← digest platform.sha256 (hashed event previousHash)
  pure ⟨eventId, call.callbackId, call.messageId, call.attemptNumber, { event with evidenceHash := eventHash }, eventHash,
    previousHash, now⟩

def duplicate (column : String) : PyError :=
  ⟨.integrityError, str "UNIQUE constraint failed: communication_events." ++ str column⟩

/-- The body of the transaction of `append`. -/
def insertIn (row : CommunicationRow) (db : Communications) : Outcome (Unit × Communications) := do
  bindText row.eventId
  bindOption row.callbackId
  bindText row.messageId
  bindInt row.attempt
  bindText row.eventHash
  bindOption row.previousHash
  ensure (!(db.any fun r => r.eventId == row.eventId)) (duplicate "event_id")
  ensure (row.callbackId.all fun callbackId => !(db.any fun r => r.callbackId == some callbackId))
    (duplicate "callback_id")
  pure ((), db ++ [row])

/-- The handler of an insert that raised: the event of the callback, if there is one. -/
def recover (call : AppendCall) (e : PyError) (db : Communications) : Outcome CommunicationEvent :=
  match call.callbackId with
  | some (c :: rest) => do
    bindText (c :: rest)
    match db.find? fun row => row.callbackId == some (c :: rest) with
    | some row => pure row.event
    | none => throw e
  | _ => throw e

/-- The random id and the time of an event, and the fate of the transaction that inserts it. -/
structure Stamp where
  eventId : Str
  now : Str
  fate : Fate

/-- `append(...)`. -/
def append (call : AppendCall) (stamp : Stamp) (db : Communications) : Outcome CommunicationEvent × Communications :=
  match prepare platform call stamp.eventId stamp.now (db.rowsOf call.messageId) with
  | .error e => (.error e, db)
  | .ok row =>
    match transaction stamp.fate (insertIn row) db with
    | (.ok (), db) => (.ok row.event, db)
    | (.error e, db) => (recover call e db, db)

/-- The check of one row in `verify`, which takes an event that has no digest for a failed check. -/
def checkRow (row : CommunicationRow) (previous : Option Str) : Bool :=
  row.previousHash = previous &&
    (match digest platform.sha256 (hashed { row.event with evidenceHash := str "pending" } previous) with
    | .ok hash => hash = row.eventHash
    | .error _ => false) && row.event.evidenceHash = row.eventHash

/-- The loop of `verify`. -/
def chain : List CommunicationRow → Option Str → Bool
  | [], _ => true
  | row :: rest, previous => checkRow platform row previous && chain rest (some row.eventHash)

/-- `verify(message_id)`. -/
def verify (db : Communications) (messageId : Str) : Bool := chain platform (db.rowsOf messageId) none

end CommunicationLedger

end Superstructure
