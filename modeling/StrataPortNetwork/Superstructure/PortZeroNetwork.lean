import StrataPortNetwork.Superstructure.LifecycleCalls

/-! # Submission and its crashes

`submit` stores a transaction and its stages, each in a database transaction of its own.
Any of these may fail, and the process may stop between two of them. A row that verifies is
left at every such cut but one: the projection row of `create` without its first event.
-/
namespace Superstructure
open Py
open Js (JsMap ensure)

inductive PortZeroStatus
  | received
  | identityResolved
  | policyChecked
  | classified
  | routeResolved
  | signed
  | persisted
  | dispatching
  | dispatched
  | awaitingReceipt
  | reconciling
  | completed
  | failed
  | retrying
  | recovered
  | quarantined

def PortZeroStatus.value : PortZeroStatus → Str
  | .received => str "received"
  | .identityResolved => str "identity_resolved"
  | .policyChecked => str "policy_checked"
  | .classified => str "classified"
  | .routeResolved => str "route_resolved"
  | .signed => str "signed"
  | .persisted => str "persisted"
  | .dispatching => str "dispatching"
  | .dispatched => str "dispatched"
  | .awaitingReceipt => str "awaiting_receipt"
  | .reconciling => str "reconciling"
  | .completed => str "completed"
  | .failed => str "failed"
  | .retrying => str "retrying"
  | .recovered => str "recovered"
  | .quarantined => str "quarantined"

/-- The exception that ends a submission. -/
structure BlockedRoute where
  transactionId : Str
  blocker : Str
  evidenceHash : Str

/-- The random event id and the time of a transition, and the fate of its transaction. -/
structure Stamp where
  eventId : Str
  now : Str
  fate : Fate

/-- The argument of `submit` with what clocks, random ids and the database contribute. -/
structure Submission where
  envelope : ProductionEnvelope
  now : ℤ
  createdAt : Str
  insertFate : Fate
  received : Stamp
  identityResolved : Stamp
  policyChecked : Stamp
  classified : Stamp
  failed : Stamp

structure PortZeroNetwork where
  directory : PortDirectory
  signer : Signer
  identities : JsMap Str (List Str)

namespace PortZeroNetwork
variable (platform : Platform) (network : PortZeroNetwork)

/-- The checks and the signature of `submit`. -/
def admission (envelope : ProductionEnvelope) (now : ℤ) : Outcome ProductionEnvelope := do
  ensure (envelope.schemaVersion = str "1.0.0" ∧ envelope.protocolVersion = str "1.0.0")
    ⟨.valueError, str "unsupported envelope version"⟩
  ensure (envelope.originPort = str "strata-data-port-zero") ⟨.permissionError, str "Port Zero is sole origin"⟩
  ensure ((network.identities.get envelope.sourceIdentity).any fun authorities =>
    envelope.delegatedAuthority ∈ authorities) ⟨.permissionError, str "identity or delegated authority denied"⟩
  let expiresAt ← platform.fromisoformat envelope.expiresAt
  let expired ← expiresAt.le now
  ensure (!expired) ⟨.timeoutError, str "request expired"⟩
  let payloadHash ← digest platform.sha256 (.ofDict envelope.payload)
  ensure (payloadHash = envelope.payloadHash) ⟨.valueError, str "payload integrity failure"⟩
  let signature ← network.signer.sign envelope.unsigned
  pure { envelope with signatures := [signature] }

/-- The call of `create` in a submission. -/
def creation (s : Submission) (signed : ProductionEnvelope) : LifecycleStore.CreateCall :=
  ⟨signed, s.createdAt, s.insertFate, s.received.eventId, s.received.now, s.received.fate⟩

/-- `lifecycle.transition(signed, status.value, reason, blocker=blocker)`. -/
def advance (signed : ProductionEnvelope) (status : PortZeroStatus) (reason : Str) (blocker : Option Str) (stamp : Stamp)
    (db : Database) : Outcome Str × Database :=
  LifecycleStore.transition platform stamp.fate
    ⟨signed, status.value, reason, none, 0, blocker, str "pending", JsMap.empty, stamp.eventId, stamp.now⟩ db

/-- `_persist(envelope, FAILED, blocker)` and the exception that is raised with its evidence. -/
def block (s : Submission) (signed : ProductionEnvelope) (blocker : Str) (db : Database) :
    Outcome BlockedRoute × Database :=
  andThen (advance platform signed .failed blocker (some blocker) s.failed db) fun evidence db =>
    (pure ⟨s.envelope.transactionId, blocker, evidence⟩, db)

/-- The exceptions of `resolve` that block a route. -/
def blocks (e : PyError) : Bool := e.cls = .lookupError || e.cls = .permissionError || e.cls = .runtimeError

/-- `submit(envelope)`, which raises in any case: `BlockedRoute` stands for its result. -/
def submit (s : Submission) (db : Database) : Outcome BlockedRoute × Database :=
  match network.admission platform s.envelope s.now with
  | .error e => (.error e, db)
  | .ok signed =>
    andThen (LifecycleStore.create platform (creation s signed) db) fun _ db =>
    andThen (advance platform signed .identityResolved (str "identity-and-authority-validated") none
      s.identityResolved db) fun _ db =>
    andThen (advance platform signed .policyChecked (str "governance-policy-validated") none s.policyChecked db)
      fun _ db =>
    andThen (advance platform signed .classified (str "classification-and-disclosure-validated") none
      s.classified db) fun _ db =>
    let e := s.envelope
    match network.directory.resolve e.destinationPort e.destinationCapability e.classification.value e.routeMode.value
        e.organizationId e.tenantId with
    | .error error => if blocks error then block platform s signed error.message db else (.error error, db)
    | .ok _ => block platform s signed (str "authorized production dispatcher unavailable") db

/-! ## Crash consistency -/

section
variable {platform : Platform} {network : PortZeroNetwork} {db : Database}

theorem admission_eq {envelope signed : ProductionEnvelope} {now : ℤ} (h : network.admission platform envelope now = .ok signed) :
    ∃ signature, signed = { envelope with signatures := [signature] } := by
  simp only [admission, Js.bind_eq_ok, Js.pure_eq_ok] at h
  obtain ⟨-, -, -, -, -, -, -, -, -, -, -, -, -, -, -, -, signature, -, rfl⟩ := h
  exact ⟨signature, rfl⟩

/-- The transitions of a submission have no extra entries. -/
theorem advance_step (hdb : db.Whole platform) (signed : ProductionEnvelope) (status : PortZeroStatus) (reason : Str)
    (blocker : Option Str) (stamp : Stamp) :
    (advance platform signed status reason blocker stamp db).2.Whole platform :=
  LifecycleStore.transition_step hdb fun _ _ => ⟨fun _ h => absurd h (by simp), rfl⟩

theorem block_step (hdb : db.Whole platform) (s : Submission) (signed : ProductionEnvelope) (blocker : Str) :
    (block platform s signed blocker db).2.Whole platform :=
  andThen_invariant (advance_step hdb signed _ _ _ _) fun _ _ h => h

/-- A submission leaves the database whole unless it stops between the two transactions of `create`. -/
theorem submit_step (hdb : db.Whole platform) {s : Submission}
    (h : ∀ signed, network.admission platform s.envelope s.now = .ok signed →
      (creation s signed).Inserts db → (creation s signed).Completes db) :
    (network.submit platform s db).2.Whole platform := by
  unfold submit
  cases hadmission : network.admission platform s.envelope s.now with
  | error e => exact hdb
  | ok signed =>
    refine andThen_invariant (LifecycleStore.create_step hdb (h signed hadmission)).1 fun _ _ hdb => ?_
    refine andThen_invariant (advance_step hdb signed _ _ _ _) fun _ _ hdb => ?_
    refine andThen_invariant (advance_step hdb signed _ _ _ _) fun _ _ hdb => ?_
    refine andThen_invariant (advance_step hdb signed _ _ _ _) fun _ _ hdb => ?_
    dsimp only
    split
    · split
      · exact block_step hdb s signed _
      · exact hdb
    · exact block_step hdb s signed _

end

/-- What clients of one database do. -/
inductive Operation
  | store (call : LifecycleStore.Call)
  | submit (network : PortZeroNetwork) (submission : Submission)

def Operation.step (platform : Platform) (db : Database) : Operation → Database
  | .store call => call.step platform db
  | .submit network submission => (network.submit platform submission db).2

/-- No `create` stops after its first transaction, and no transition that passes its version check redefines the number
or the hash of its event. -/
def Operation.Complete (platform : Platform) (db : Database) : Operation → Prop
  | .store (.create call) => call.Inserts db → call.Completes db
  | .store (.transition fate call) => fate = .commits → ∀ p, db.transactions.get call.envelope.transactionId = some p →
      call.expectedVersion.all (fun version => p.version = version) = true → call.KeepsChain p
  | .submit network s => ∀ signed, network.admission platform s.envelope s.now = .ok signed →
      (creation s signed).Inserts db → (creation s signed).Completes db

theorem Operation.step_whole {platform : Platform} {db : Database} {operation : Operation}
    (h : operation.Complete platform db) (hdb : db.Whole platform) : (operation.step platform db).Whole platform := by
  cases operation with
  | store call =>
    cases call with
    | create call => exact (LifecycleStore.create_step hdb h).1
    | transition fate call =>
      refine LifecycleStore.transition_step hdb fun {hash p} hresult hp => ?_
      exact h (transaction_commits hresult) p hp
        (LifecycleStore.expectedVersion_of_transitionIn hp (transaction_ok hresult))
  | submit network s => exact submit_step hdb h

/-- Whatever transactions fail and wherever the process stops, in a run of such operations each transaction id has no
projection row or one that `verify` accepts. -/
theorem crash_consistent (platform : Platform) (operations : List Operation) (db : Database)
    (hrun : Transition.run (Operation.step platform) Database.empty operations = db)
    (h : Transition.Steps (Operation.step platform) (Operation.Complete platform) Database.empty operations) (id : Str) :
    db.transactions.get id = none ∨ LifecycleStore.verify platform db id = .ok true := by
  have hstep : ∀ (db : Database) (operation : Operation), operation.Complete platform db → db.Whole platform →
      (operation.step platform db).Whole platform := fun _ _ => Operation.step_whole
  have hwhole : db.Whole platform := hrun ▸ Transition.run_invariant_of_steps hstep Database.whole_empty h
  cases hp : db.transactions.get id with
  | none => exact .inl rfl
  | some p => exact .inr ((hwhole.chained.verify_iff hp).mpr (hwhole.events hp))

end PortZeroNetwork

namespace Sample

/-- `BEGIN IMMEDIATE` on a busy database. -/
def busy : Fate := .failsToBegin ⟨.operationalError, str "database is locked"⟩

/-- A submission whose last transaction meets a busy database. -/
def interrupted : Submission where
  envelope := { direct with
    payloadHash := str "2ddebddc2117497dbbd4667c9e4ee7f519fbf8a9ab6800000000000000000000" }
  now := deadline - 1
  createdAt := str "2026-07-26T16:21:00+00:00"
  insertFate := .commits
  received := ⟨str "event-1", str "2026-07-26T16:21:00+00:00", .commits⟩
  identityResolved := ⟨str "event-2", str "2026-07-26T16:21:01+00:00", .commits⟩
  policyChecked := ⟨str "event-3", str "2026-07-26T16:21:02+00:00", .commits⟩
  classified := ⟨str "event-4", str "2026-07-26T16:21:03+00:00", .commits⟩
  failed := ⟨str "event-5", str "2026-07-26T16:21:04+00:00", busy⟩

def network : PortZeroNetwork := ⟨[registration "p1"], hmacSigner, JsMap.empty.set (str "brainstem") [str "send"]⟩

theorem interrupted_encodable {signed : ProductionEnvelope}
    (h : network.admission platform interrupted.envelope interrupted.now = .ok signed) :
    (PortZeroNetwork.creation interrupted signed).received.Encodable := by
  obtain ⟨signature, rfl⟩ := PortZeroNetwork.admission_eq h
  simp [TransitionCall.Encodable, TransitionCall.texts, PortZeroNetwork.creation, interrupted,
    LifecycleStore.CreateCall.received, direct, routed, scalar_str]

/-- A submission that is cut off at its last stage leaves a transaction that verifies. -/
theorem interrupted_consistent :
    (Transition.run (PortZeroNetwork.Operation.step platform) Database.empty
      [.submit network interrupted]).transactions.get (str "tx1") = none ∨
    LifecycleStore.verify platform (Transition.run (PortZeroNetwork.Operation.step platform) Database.empty
      [.submit network interrupted]) (str "tx1") = .ok true := by
  have hcomplete : Transition.Steps (PortZeroNetwork.Operation.step platform)
      (PortZeroNetwork.Operation.Complete platform) Database.empty [.submit network interrupted] :=
    ⟨fun signed hsigned _ => ⟨rfl, interrupted_encodable hsigned, fun row hrow => absurd hrow List.not_mem_nil⟩, trivial⟩
  exact PortZeroNetwork.crash_consistent platform _ _ rfl hcomplete (str "tx1")

/-- The database is busy when `create` begins its second transaction: a projection row stays that never verifies. -/
theorem row_without_event : ¬∀ (platform : Platform) (operations : List PortZeroNetwork.Operation) (db : Database),
    Transition.run (PortZeroNetwork.Operation.step platform) Database.empty operations = db → ∀ id,
    db.transactions.get id = none ∨ LifecycleStore.verify platform db id = .ok true := by
  intro hclaim
  have hinserts : (created .commits busy).Inserts Database.empty := by
    refine ⟨rfl, ?_, ⟨scalar_str _, scalar_str _, scalar_str _⟩, rfl⟩
    decide +kernel
  rcases LifecycleStore.create_cases platform (created .commits busy) Database.empty with
    ⟨hnot, -⟩ | ⟨-, p, -, -, -, hcreate⟩
  · exact hnot hinserts
  · have hrun : Transition.run (PortZeroNetwork.Operation.step platform) Database.empty
        [.store (.create (created .commits busy))] =
        { Database.empty with transactions := JsMap.set JsMap.empty (str "tx1") p } := congrArg Prod.snd hcreate
    rcases hclaim platform _ _ hrun (str "tx1") with hnone | hverified
    · simp at hnone
    · exact (LifecycleStore.verifyReads_eq_true.mp hverified).2.1 rfl

end Sample

end Superstructure
