import StrataPortNetwork.Superstructure.Sqlite
import StrataPortNetwork.Superstructure.Routing
import StrataPortNetwork.Py.Json

/-! # The lifecycle store

A projection row for each transaction and its events in one table. A column with JSON text
is kept as the value that `json.loads` makes of it, and as nothing where it raises. Random
ids and times are inputs of a call.
-/
namespace Superstructure
open Py
open Js (JsMap ensure orThrow)

/-! ## Tables -/

/-- A row of `strata_transactions`; `retry_count`, which no code reads, is left out. -/
structure Projection where
  organizationId : Str
  tenantId : Str
  envelopeJson : Json
  status : Str
  version : ℤ
  lastEventHash : Option Str
  blocker : Option Str
  reconciliationStatus : Str
  createdAt : Str
  updatedAt : Str

/-- A row of `strata_events`, without its number: the table is the list in this order. -/
structure EventRow where
  eventId : Str
  transactionId : Str
  eventJson : Option Json
  eventHash : Option Str
  previousHash : Option Str
  createdAt : Str

structure Database where
  transactions : JsMap Str Projection
  events : List EventRow

namespace Database

def empty : Database := ⟨JsMap.empty, []⟩

/-- The events of a transaction, `ORDER BY sequence`. -/
def rowsOf (db : Database) (transactionId : Str) : List EventRow :=
  db.events.filter fun row => row.transactionId == transactionId

end Database

/-! ## Events -/

def versionConflict : PyError := ⟨.runtimeError, str "optimistic version conflict"⟩
def transactionNotFound : PyError := ⟨.lookupError, str "transaction not found"⟩
def duplicateTransaction : PyError :=
  ⟨.integrityError, str "UNIQUE constraint failed: strata_transactions.transaction_id"⟩
def duplicateEvent : PyError := ⟨.integrityError, str "UNIQUE constraint failed: strata_events.event_id"⟩

/-- The arguments of `transition` with its random id and its time. -/
structure TransitionCall where
  envelope : ProductionEnvelope
  newState : Str
  reason : Str
  expectedVersion : Option ℤ
  retryIncrement : ℤ
  blocker : Option Str
  reconciliation : Str
  extra : Dict
  eventId : Str
  now : Str

namespace TransitionCall
variable (call : TransitionCall)

/-- The event's own fields, but for its hash. -/
def ownFields (projection : Projection) : Entries :=
  let e := call.envelope
  [("event_id", .str call.eventId), ("schema_version", .text "1.0.0"), ("timestamp", .str call.now),
    ("organization_id", .str e.organizationId), ("tenant_id", .str e.tenantId), ("partner_id", .str e.partnerId),
    ("environment_id", .str e.environmentId), ("project_id", .str e.projectId),
    ("transaction_id", .str e.transactionId), ("destination_transaction_id", .str e.transactionId),
    ("message_id", .str e.messageId), ("correlation_id", .str e.correlationId),
    ("causation_id", .str e.causationId), ("trace_id", .str e.traceId), ("source_identity", .str e.sourceIdentity),
    ("acting_identity", .text "strata-data-port-zero"), ("delegated_authority", .str e.delegatedAuthority),
    ("origin_port", .str e.originPort), ("destination_port", .str e.destinationPort),
    ("stratum", .str e.destinationStratum), ("capability", .str e.destinationCapability),
    ("provider_of_record", if e.destinationStratum = str "communications" then .text "g3t-connected" else .none),
    ("transport_rail", .none), ("attempt", .int e.attempt), ("sequence", .int (projection.version + 1)),
    ("previous_state", .str projection.status), ("new_state", .str call.newState), ("reason_code", .str call.reason),
    ("provider_response_code", .none), ("rail_response_code", .none), ("receipt_id", .none),
    ("receipt_hash", .none), ("payload_hash", .str e.payloadHash),
    ("reconciliation_state", .str call.reconciliation), ("evidence_state", .text "recorded"),
    ("truth_class", .str e.truthClass), ("classification", .str e.classification.value),
    ("disclosure_policy", .strings e.disclosurePolicy),
    ("previous_event_hash", .ofOption projection.lastEventHash)].map fun field => (str field.1, field.2)

/-- The event before its hash is put in. -/
def event (projection : Projection) : Dict := dictOf (call.ownFields projection ++ call.extra.entries)

end TransitionCall

/-- `{"event": event, "previous_hash": previous_hash}`. -/
def chained (event : Value) (previousHash : Option Str) : Value :=
  .record [("event", event), ("previous_hash", .ofOption previousHash)]

namespace LifecycleStore
variable (platform : Platform)

/-- The body of the transaction of `transition`. -/
def transitionIn (call : TransitionCall) (db : Database) : Outcome (Str × Database) := do
  let transactionId := call.envelope.transactionId
  bindText transactionId
  let projection ← orThrow (db.transactions.get transactionId) transactionNotFound
  ensure (call.expectedVersion.all fun version => projection.version = version) versionConflict
  let event := call.event projection
  let eventHash ← digest platform.sha256 (chained (.ofDict event) projection.lastEventHash)
  let event := event.set (str "event_hash") (.str eventHash)
  let eventId ← orThrow (event.get (str "event_id")) ⟨.keyError, str "'event_id'"⟩
  let eventJson ← dumps notSerializable (.ofDict event)
  let eventId ← textOf eventId
  bindText eventId
  ensure (!(db.events.any fun row => row.eventId == eventId)) duplicateEvent
  let row : EventRow := ⟨eventId, transactionId, some eventJson, some eventHash, projection.lastEventHash, call.now⟩
  bindText call.newState
  bindInt (projection.version + 1)
  bindInt call.retryIncrement
  bindOption call.blocker
  bindText call.reconciliation
  ensure ((db.transactions.get transactionId).any fun p => p.version = projection.version) versionConflict
  pure (eventHash,
    { transactions := db.transactions.set transactionId { projection with
        status := call.newState
        version := projection.version + 1
        lastEventHash := some eventHash
        blocker := call.blocker
        reconciliationStatus := call.reconciliation
        updatedAt := call.now }
      events := db.events ++ [row] })

/-- `transition(envelope, new_state, reason, ...)`. -/
def transition (fate : Fate) (call : TransitionCall) (db : Database) : Outcome Str × Database :=
  transaction fate (transitionIn platform call) db

/-- The body of the first transaction of `create`. -/
def insertIn (envelope : ProductionEnvelope) (envelopeJson : Json) (now : Str) (db : Database) :
    Outcome (Unit × Database) := do
  bindText envelope.transactionId
  bindText envelope.organizationId
  bindText envelope.tenantId
  ensure (!db.transactions.has envelope.transactionId) duplicateTransaction
  let projection : Projection :=
    ⟨envelope.organizationId, envelope.tenantId, envelopeJson, str "received", 0, none, none, str "pending", now, now⟩
  pure ((), { db with transactions := db.transactions.set envelope.transactionId projection })

/-- The arguments of `create` with the fates of its two transactions. -/
structure CreateCall where
  envelope : ProductionEnvelope
  now : Str
  insertFate : Fate
  eventId : Str
  eventNow : Str
  eventFate : Fate

/-- The transition at the end of `create`. -/
def CreateCall.received (call : CreateCall) : TransitionCall :=
  ⟨call.envelope, str "received", str "request-received", none, 0, none, str "pending", JsMap.empty, call.eventId,
    call.eventNow⟩

/-- `create(envelope)`. -/
def create (call : CreateCall) (db : Database) : Outcome Str × Database :=
  match dumps ⟨.attributeError, str "object has no attribute 'value'"⟩ call.envelope.asdict with
  | .error e => (.error e, db)
  | .ok envelopeJson =>
    match transaction call.insertFate (insertIn call.envelope envelopeJson call.now) db with
    | (.error e, db) => (.error e, db)
    | (.ok (), db) => transition platform call.eventFate call.received db

/-! ## Verification -/

/-- `event.pop("event_hash")`; nothing where it raises `KeyError`. -/
def popEventHash : Value → Outcome (Option (Value × Value))
  | .dict entries => pure ((entries.lookup (str "event_hash")).map fun stored =>
      (stored, .dict (entries.filter fun e => !(e.1 == str "event_hash"))))
  | .list _ => throw ⟨.typeError, str "'str' object cannot be interpreted as an integer"⟩
  | _ => throw ⟨.attributeError, str "object has no attribute 'pop'"⟩

/-- `value == i`; the text of a float below 10^16 that is an integer ends in `.0`. -/
def equalsInt (v : Option Value) (i : ℤ) : Bool :=
  match v with
  | some (.int j) => j = i
  | some (.bool b) => i = if b then 1 else 0
  | some (.float repr) => repr = decimal i ++ str ".0"
  | _ => false

/-- `value == text`, where the text of a column may be null. -/
def equalsText (v : Value) (text : Option Str) : Bool :=
  match v, text with
  | .str s, some t => s = t
  | .none, none => true
  | _, _ => false

/-- The check of one event. -/
def checkRow (row : EventRow) (previous : Option Str) (expected : ℤ) : Outcome Bool :=
  match row.eventJson with
  | none => pure false
  | some json => do
    let popped ← popEventHash json.val
    match popped with
    | none => pure false
    | some (stored, event) =>
      if !equalsInt (event.get "sequence") expected || row.previousHash ≠ previous ||
          !equalsText stored row.eventHash then pure false
      else do
        let hash ← digest platform.sha256 (chained event previous)
        pure (some hash = row.eventHash)

/-- The loop over the events: the hash of the last one, or nothing where a check fails. -/
def chain : List EventRow → Option Str → ℤ → Outcome (Option (Option Str))
  | [], previous, _ => pure (some previous)
  | row :: rest, previous, expected => do
    let checked ← checkRow platform row previous expected
    if checked then chain rest row.eventHash (expected + 1) else pure none

/-- `verify`, for what its two reads return. -/
def verifyReads (rows : List EventRow) (projection : Option Projection) : Outcome Bool := do
  let previous ← chain platform rows none 1
  match previous with
  | none => pure false
  | some previous => pure (!rows.isEmpty &&
      projection.any fun p => p.version = (rows.length : ℤ) && p.lastEventHash = previous)

/-- `verify(transaction_id)`. -/
def verify (db : Database) (transactionId : Str) : Outcome Bool :=
  verifyReads platform (db.rowsOf transactionId) (db.transactions.get transactionId)

end LifecycleStore

end Superstructure
