import StrataPortNetwork.Py.Values
import StrataPortNetwork.Js.Check

/-! # Transport records and signers

The immutable records of the Python runtime with the dicts they are signed as. The hash
function, the parser of times and the signers are parameters.
-/
namespace Superstructure
open Py
open Js (Bytes)

/-! ## Enumerations -/

inductive RouteMode
  | direct
  | split
  | multicast
  deriving DecidableEq

def RouteMode.value : RouteMode → Str
  | .direct => str "direct"
  | .split => str "split"
  | .multicast => str "multicast"

inductive ReceiptState
  | accepted
  | rejected
  | delivered
  | acknowledged
  | escalated
  | failed
  | retrying
  | recovered
  | expired
  | quarantined
  deriving DecidableEq

def ReceiptState.value : ReceiptState → Str
  | .accepted => str "accepted"
  | .rejected => str "rejected"
  | .delivered => str "delivered"
  | .acknowledged => str "acknowledged"
  | .escalated => str "escalated"
  | .failed => str "failed"
  | .retrying => str "retrying"
  | .recovered => str "recovered"
  | .expired => str "expired"
  | .quarantined => str "quarantined"

inductive TruthClass
  | simulated
  | estimated
  | observed
  | providerReported
  | verified
  deriving DecidableEq

def TruthClass.value : TruthClass → Str
  | .simulated => str "simulated"
  | .estimated => str "estimated"
  | .observed => str "observed"
  | .providerReported => str "provider-reported"
  | .verified => str "verified"

inductive Classification
  | publicClass
  | internalClass
  | protectedClass
  deriving DecidableEq

def Classification.value : Classification → Str
  | .publicClass => str "public"
  | .internalClass => str "internal"
  | .protectedClass => str "protected"

/-! ## Records -/

structure Signature where
  keyId : Str
  algorithm : Str
  value : Str
  assurance : Str
  deriving DecidableEq

structure GovernedEnvelope where
  schemaVersion : Str
  messageId : Str
  correlationId : Str
  causationId : Str
  traceId : Str
  sourceIdentity : Str
  sourceComponent : Str
  sourceAuthority : Str
  originPort : Str
  destinationPorts : List Str
  routeMode : RouteMode
  payloadType : Str
  payload : Dict
  payloadHash : Str
  truthClass : TruthClass
  classification : Classification
  disclosurePolicy : List Str
  worldContext : Dict
  policyReferences : List Str
  issuedAt : Str
  expiresAt : Str
  nonce : Str
  idempotencyKey : Str
  sequence : ℤ
  signatures : List Signature

/-- `envelope.unsigned_dict()`. -/
def GovernedEnvelope.unsignedDict (e : GovernedEnvelope) : Value := .record [
  ("schema_version", .str e.schemaVersion), ("message_id", .str e.messageId),
  ("correlation_id", .str e.correlationId), ("causation_id", .str e.causationId), ("trace_id", .str e.traceId),
  ("source_identity", .str e.sourceIdentity), ("source_component", .str e.sourceComponent),
  ("source_authority", .str e.sourceAuthority), ("origin_port", .str e.originPort),
  ("destination_ports", .strings e.destinationPorts), ("route_mode", .str e.routeMode.value),
  ("payload_type", .str e.payloadType), ("payload", .ofDict e.payload), ("payload_hash", .str e.payloadHash),
  ("truth_class", .str e.truthClass.value), ("classification", .str e.classification.value),
  ("disclosure_policy", .strings e.disclosurePolicy), ("world_context", .ofDict e.worldContext),
  ("policy_references", .strings e.policyReferences), ("issued_at", .str e.issuedAt),
  ("expires_at", .str e.expiresAt), ("nonce", .str e.nonce), ("idempotency_key", .str e.idempotencyKey),
  ("sequence", .int e.sequence)]

structure Receipt where
  messageId : Str
  portId : Str
  state : ReceiptState
  detail : Str
  truthClass : TruthClass
  evidenceHash : Str
  signature : Signature
  attempt : ℤ
  deriving DecidableEq

/-! ## Parameters -/

structure Signer where
  sign : Value → Outcome Signature
  verify : Value → Signature → Outcome Bool

/-- A point in time in microseconds, with or without an offset from UTC. -/
inductive DateTime
  | aware (micros : ℤ)
  | naive (micros : ℤ)

/-- `moment <= now`, where `now` is aware. -/
def DateTime.le (moment : DateTime) (now : ℤ) : Outcome Bool :=
  match moment with
  | .aware micros => pure (micros ≤ now)
  | .naive _ => throw ⟨.typeError, str "can't compare offset-naive and offset-aware datetimes"⟩

structure Platform where
  /-- The hexadecimal SHA-256 of bytes. -/
  sha256 : Bytes → Str
  /-- `datetime.fromisoformat(text)`. -/
  fromisoformat : Str → Outcome DateTime

/-- `not signatures or not verify(unsigned, signatures[0])`, negated. -/
def Signer.verifies (signer : Signer) (unsigned : Value) (signatures : List Signature) : Outcome Bool :=
  match signatures with
  | [] => pure false
  | signature :: _ => signer.verify unsigned signature

end Superstructure
