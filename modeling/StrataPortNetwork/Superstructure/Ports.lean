import StrataPortNetwork.Superstructure.Records
import StrataPortNetwork.Transition

/-! # Port Zero and the external ports

Dispatch from Port Zero over a transport that may lose requests and responses, and the
receiving side with its durable nonces. A run keeps a log of what the ports answered in
each attempt; the log is read by no function of the source.
-/
namespace Superstructure
open Py
open Js (JsMap JsSet ensure)

/-! ## Durable state -/

/-- The tables the ports use. A table of unique keys refuses a second row under a key. -/
structure SQLiteState where
  replayNonces : JsSet (Str × Str)
  idempotency : JsMap Str (List Receipt)
  /-- `(evidence_hash, message_id)` in the order of their sequence. -/
  evidence : List (Str × Str)

namespace SQLiteState

def integrityError (message : String) : PyError := ⟨.integrityError, str message⟩

/-- `claim_nonce(port_id, nonce)`. -/
def claimNonce (s : SQLiteState) (portId nonce : Str) : Bool × SQLiteState :=
  if s.replayNonces.has (portId, nonce) then (false, s)
  else (true, { s with replayNonces := s.replayNonces.add (portId, nonce) })

/-- `get_receipts(key)`. -/
def getReceipts (s : SQLiteState) (key : Str) : Option (List Receipt) := s.idempotency.get key

def insertEvidence : List Receipt → List (Str × Str) → Outcome (List (Str × Str))
  | [], rows => pure rows
  | r :: rest, rows =>
    if rows.any (fun row => row.1 == r.evidenceHash) then
      throw (integrityError "UNIQUE constraint failed: evidence.evidence_hash")
    else insertEvidence rest (rows ++ [(r.evidenceHash, r.messageId)])

/-- `record_outcome(key, receipts)`: one transaction, so an error leaves the tables as they were. -/
def recordOutcome (s : SQLiteState) (key : Str) (receipts : List Receipt) : Outcome SQLiteState := do
  ensure (!s.idempotency.has key) (integrityError "UNIQUE constraint failed: idempotency.key")
  let evidence ← insertEvidence receipts s.evidence
  pure { s with idempotency := s.idempotency.set key receipts, evidence := evidence }

def evidenceHashes (s : SQLiteState) : List Str := s.evidence.map Prod.fst

end SQLiteState

/-! ## External ports -/

structure ProviderResult where
  state : ReceiptState
  referenceHash : Str

/-- A ready port; the adapter's answers come with the deliveries. -/
structure ExternalPort where
  portId : Str
  signer : Signer

namespace ExternalPort
variable (platform : Platform) (port : ExternalPort)

/-- The checks before the nonce is claimed; the state and detail of a rejection. -/
def admission (envelope : GovernedEnvelope) : Outcome (Option (ReceiptState × String)) :=
  if envelope.originPort ≠ str "strata-data-port-zero" then
    pure (some (.rejected, "Port Zero authentication required"))
  else if port.portId ∉ envelope.destinationPorts then pure (some (.rejected, "destination policy rejected"))
  else do
    let verified ← port.signer.verifies envelope.unsignedDict envelope.signatures
    if verified then do
      let hash ← digest platform.sha256 (.ofDict envelope.payload)
      if hash ≠ envelope.payloadHash then pure (some (.quarantined, "payload integrity failure")) else pure none
    else pure (some (.quarantined, "invalid signature"))

/-- `_receipt(envelope, state, detail, truth)`. -/
def receiptOf (envelope : GovernedEnvelope) (state : ReceiptState) (detail : Str) (truth : Option TruthClass) :
    Outcome Receipt := do
  let body := Value.record [("message_id", .str envelope.messageId), ("port_id", .str port.portId),
    ("state", .str state.value), ("detail", .str detail)]
  let evidenceHash ← digest platform.sha256 body
  let signature ← port.signer.sign body
  pure ⟨envelope.messageId, port.portId, state, detail, truth.getD envelope.truthClass, evidenceHash, signature, 1⟩

/-- What a delivery comes to at the port. -/
structure Reception where
  receipt : Outcome Receipt
  state : SQLiteState
  executed : Bool

/-- `receive(envelope)`, where `provider` is what the adapter answers if it is asked. -/
def receive (state : SQLiteState) (provider : Outcome ProviderResult) (envelope : GovernedEnvelope) : Reception :=
  match port.admission platform envelope with
  | .error e => ⟨.error e, state, false⟩
  | .ok (some (receiptState, detail)) => ⟨port.receiptOf platform envelope receiptState (str detail) none, state, false⟩
  | .ok none =>
    match state.claimNonce port.portId envelope.nonce with
    | (false, state) => ⟨port.receiptOf platform envelope .quarantined (str "replay detected") none, state, false⟩
    | (true, state) =>
      match provider with
      | .error e => ⟨.error e, state, true⟩
      | .ok result =>
        ⟨port.receiptOf platform envelope result.state result.referenceHash (some .providerReported), state, true⟩

end ExternalPort

/-! ## Transport -/

/-- The fate of one request in one attempt. -/
inductive Delivery
  | requestLost
  | delivered (provider : Outcome ProviderResult) (responseLost : Bool)

/-- A receipt a port issued, and whether its adapter executed the envelope for it. -/
structure Answer where
  receipt : Receipt
  executed : Bool

/-- What the ports answered in one attempt, in the order of the destinations. -/
structure Attempt where
  envelope : GovernedEnvelope
  answers : List Answer

def Attempt.receipts (a : Attempt) : List Receipt := a.answers.map Answer.receipt

structure Transmission where
  answers : List Answer
  /-- Some destination got no request or gave no response. -/
  lost : Bool
  state : SQLiteState

/-- The request to each destination in turn. A port that raises gives no response. -/
def deliver (platform : Platform) (ports : List ExternalPort) (envelope : GovernedEnvelope) :
    List Str → List Delivery → SQLiteState → Transmission
  | [], _, state => ⟨[], false, state⟩
  | destination :: rest, fates, state =>
    match ports.find? (fun port => port.portId == destination), fates.headD .requestLost with
    | some port, .delivered provider responseLost =>
      let reception := port.receive platform state provider envelope
      let others := deliver platform ports envelope rest fates.tail reception.state
      match reception.receipt with
      | .error _ => { others with lost := true }
      | .ok receipt => { others with
        answers := ⟨receipt, reception.executed⟩ :: others.answers
        lost := responseLost || others.lost }
    | _, _ => { deliver platform ports envelope rest fates.tail state with lost := true }

/-! ## Port Zero -/

structure CircuitBreaker where
  threshold : ℕ
  failures : ℕ
  isOpen : Bool

namespace CircuitBreaker

def fresh : CircuitBreaker := ⟨2, 0, false⟩

def success (b : CircuitBreaker) : CircuitBreaker := { b with failures := 0, isOpen := false }

def failure (b : CircuitBreaker) : CircuitBreaker :=
  { b with failures := b.failures + 1, isOpen := b.threshold ≤ b.failures + 1 }

end CircuitBreaker

/-- Without durable state the outcomes and the evidence are kept in memory. -/
structure PortZero where
  signer : Signer
  identities : List Str
  maxAttempts : ℕ
  state : Option SQLiteState
  idempotency : JsMap Str (List Receipt)
  evidence : List Str
  breakers : JsMap Str CircuitBreaker

namespace PortZero
variable (platform : Platform) (z : PortZero)

/-- The checks of `dispatch`. -/
def admission (envelope : GovernedEnvelope) (now : ℤ) : Outcome Unit := do
  ensure (envelope.sourceIdentity ∈ z.identities) ⟨.permissionError, str "internal identity authentication failed"⟩
  ensure (envelope.originPort = str "strata-data-port-zero")
    ⟨.permissionError, str "external bypass of Port Zero denied"⟩
  let expiresAt ← platform.fromisoformat envelope.expiresAt
  let expired ← expiresAt.le now
  ensure (!expired) ⟨.timeoutError, str "envelope expired"⟩

/-- The outcome recorded under an idempotency key. -/
def recorded (key : Str) : Option (List Receipt) :=
  match z.state with
  | some state => state.getReceipts key
  | none => z.idempotency.get key

def signed (envelope : GovernedEnvelope) : Outcome GovernedEnvelope := do
  let hash ← digest platform.sha256 (.ofDict envelope.payload)
  let unsigned := { envelope with payloadHash := hash, signatures := [] }
  let signature ← z.signer.sign unsigned.unsignedDict
  pure { unsigned with signatures := [signature] }

/-- `self.breakers.setdefault(destination, CircuitBreaker())` updated for every destination. -/
def updateBreakers (update : CircuitBreaker → CircuitBreaker) (destinations : List Str) : PortZero :=
  let updated := fun (breakers : JsMap Str CircuitBreaker) d => breakers.set d (update ((breakers.get d).getD .fresh))
  { z with breakers := destinations.foldl updated z.breakers }

/-- The outcome of an attempt that got through is recorded before it is returned. -/
def complete (envelope : GovernedEnvelope) (receipts : List Receipt) : Outcome (List Receipt) × PortZero :=
  let z := z.updateBreakers .success envelope.destinationPorts
  match z.state with
  | some state =>
    match state.recordOutcome envelope.idempotencyKey receipts with
    | .error e => (.error e, z)
    | .ok state => (.ok receipts, { z with state := some state, evidence := state.evidenceHashes })
  | none => (.ok receipts, { z with
      idempotency := z.idempotency.set envelope.idempotencyKey receipts
      evidence := z.evidence ++ receipts.map Receipt.evidenceHash })

end PortZero

/-! ## Dispatch -/

structure World where
  portZero : PortZero
  /-- The state behind the external ports. -/
  portState : SQLiteState
  /-- The attempts made so far, the latest first. -/
  log : List Attempt

namespace World
variable (platform : Platform) (ports : List ExternalPort)

/-- `transport.dispatch(signed)`; an attempt that loses anything raises `TransportUnavailable`. -/
def transmit (w : World) (signed : GovernedEnvelope) (fates : List Delivery) : Outcome (List Receipt) × World :=
  let transmission := deliver platform ports signed signed.destinationPorts fates w.portState
  let attempt : Attempt := ⟨signed, transmission.answers⟩
  let w := { w with portState := transmission.state, log := attempt :: w.log }
  if transmission.lost then (.error ⟨.transportUnavailable, str "unavailable destinations"⟩, w)
  else (.ok attempt.receipts, w)

/-- The loop over the attempts; `network` gives the fates of each attempt. -/
def attempts (signed : GovernedEnvelope) :
    ℕ → List (List Delivery) → Option PyError → World → Outcome (List Receipt) × World
  | 0, _, lastError, w => (.error ⟨.transportUnavailable,
      str "bounded retries exhausted: " ++ (lastError.elim (str "None") PyError.message)⟩, w)
  | n + 1, network, _, w =>
    match w.transmit platform ports signed (network.headD []) with
    | (.ok receipts, w) =>
      let (outcome, portZero) := w.portZero.complete signed receipts
      (outcome, { w with portZero := portZero })
    | (.error e, w) =>
      attempts signed n network.tail (some e)
        { w with portZero := w.portZero.updateBreakers .failure signed.destinationPorts }

/-- One call of `dispatch`: the envelope, the clock reading and what the network does. -/
structure Submission where
  envelope : GovernedEnvelope
  now : ℤ
  network : List (List Delivery)

/-- `dispatch(envelope)`. -/
def dispatch (w : World) (submission : Submission) : Outcome (List Receipt) × World :=
  match w.portZero.admission platform submission.envelope submission.now with
  | .error e => (.error e, w)
  | .ok () =>
    match w.portZero.recorded submission.envelope.idempotencyKey with
    | some prior => (.ok prior, w)
    | none =>
      match w.portZero.signed platform submission.envelope with
      | .error e => (.error e, w)
      | .ok signed => w.attempts platform ports signed w.portZero.maxAttempts submission.network none

def step (w : World) (submission : Submission) : World := (w.dispatch platform ports submission).2

end World

end Superstructure
