import StrataPortNetwork.Superstructure.Ports
import StrataPortNetwork.Superstructure.Routing
import StrataPortNetwork.Superstructure.Signers
import StrataPortNetwork.Native.Sample
import StrataPortNetwork.Py.Encodable

/-! # A transparent instance of the platform

The hash is the polynomial one of the sample cryptography and a signature is the hash of
what it signs, so every function of the runtime is computable on concrete records. The
engine signs with a keyed hash that spells the bytes out, which has no collisions.
-/
namespace Superstructure.Sample
open Py
open Js (JsMap JsSet)

/-- `2026-07-26T16:40:00+00:00`. -/
def deadline : ℤ := 1785084000000000

def platform : Platform where
  sha256 bytes := (Native.Sample.digest bytes).map fun u => point u.toNat
  fromisoformat text :=
    if text = str "2026-07-26T16:40:00+00:00" then pure (.aware deadline)
    else throw ⟨.valueError, str "Invalid isoformat string"⟩

/-- A signature holds the hash of the canonical JSON. -/
def signer : Signer where
  sign v := do
    let hash ← digest platform.sha256 v
    pure ⟨str "test-managed", str "TEST-ONLY", hash, str "test-only-not-production-proof"⟩
  verify v signature := do
    let hash ← digest platform.sha256 v
    pure (signature.value == hash)

def dict (entries : List (String × Value)) : Dict :=
  entries.foldl (fun d e => d.set (str e.1) e.2) JsMap.empty

def watt : ExternalPort := ⟨str "watt", signer⟩

/-- An intent for the port, under an idempotency key. -/
def intent (messageId nonce key : String) (payload : Dict) : GovernedEnvelope where
  schemaVersion := str "1.0.0"
  messageId := str messageId
  correlationId := str messageId
  causationId := str messageId
  traceId := str messageId
  sourceIdentity := str "brainstem"
  sourceComponent := str "unified-quad-runtime"
  sourceAuthority := str "protected-kindred-authority"
  originPort := str "strata-data-port-zero"
  destinationPorts := [str "watt"]
  routeMode := .direct
  payloadType := str "ExecutionIntent"
  payload := payload
  payloadHash := []
  truthClass := .simulated
  classification := .internalClass
  disclosurePolicy := []
  worldContext := dict [("environment", .text "production")]
  policyReferences := [str "protocol.default-deny.v1"]
  issuedAt := str "2026-07-26T16:20:00+00:00"
  expiresAt := str "2026-07-26T16:40:00+00:00"
  nonce := str nonce
  idempotencyKey := str key
  sequence := 1
  signatures := []

def emptyState : SQLiteState := ⟨JsSet.empty, JsMap.empty, []⟩

/-- A durable Port Zero that makes two attempts, and ports with no history. -/
def world : World where
  portZero := ⟨signer, [str "brainstem"], 2, some emptyState, JsMap.empty, [], JsMap.empty⟩
  portState := emptyState
  log := []

def executedAs (reference : String) : Outcome ProviderResult := .ok ⟨.acknowledged, str reference⟩

/-- Both attempts reach the port; the response to the first one is lost. -/
def responseLost : World.Submission :=
  ⟨intent "message-1" "nonce-1" "key-1" (dict [("samples_watts", .int 10)]), deadline - 1,
    [[.delivered (executedAs "provider-reference-1") true], [.delivered (executedAs "provider-reference-1") false]]⟩

/-- The request of the first attempt is lost, the second attempt gets through. -/
def requestLost (messageId nonce : String) (payload : Dict) : World.Submission :=
  ⟨intent messageId nonce "key-1" payload, deadline - 1,
    [[.requestLost], [.delivered (executedAs "provider-reference-1") false]]⟩

/-! ## Routes -/

def hexText (bytes : Js.Bytes) : Str := bytes.flatMap fun b => [hexDigit (b.toNat / 16), hexDigit (b.toNat % 16)]

theorem hexDigit_inj {d e : ℕ} (hd : d < 16) (he : e < 16) : hexDigit d = hexDigit e ↔ d = e := by
  rw [hexDigit, hexDigit, point_inj (by split <;> omega) (by split <;> omega)]
  split <;> split <;> omega

theorem hexText_injective : Function.Injective hexText := by
  intro bytes
  induction bytes with
  | nil =>
    intro bytes' h
    cases bytes' with
    | nil => rfl
    | cons b rest => exact absurd h (by simp [hexText])
  | cons b rest ih =>
    intro bytes' h
    cases bytes' with
    | nil => exact absurd h (by simp [hexText])
    | cons b' rest' =>
      simp only [hexText, List.flatMap_cons, List.cons_append, List.nil_append, List.cons.injEq] at h
      obtain ⟨hhigh, hlow, hrest⟩ := h
      have hb := b.toNat_lt
      have hb' := b'.toNat_lt
      rw [hexDigit_inj (by omega) (by omega)] at hhigh hlow
      rw [ih hrest, UInt8.toNat_inj.mp (by omega : b.toNat = b'.toNat)]

theorem ascii_hexText (bytes : Js.Bytes) : ascii (hexText bytes) = true := by
  have hdigit : ∀ d < 16, (hexDigit d).val < 128 := by decide
  refine List.all_eq_true.mpr fun c hc => decide_eq_true ?_
  obtain ⟨b, -, hb⟩ := List.mem_flatMap.mp hc
  have hlt := b.toNat_lt
  rcases List.mem_cons.mp hb with rfl | hb
  · exact hdigit _ (by omega)
  · rw [List.mem_singleton.mp hb]
    exact hdigit _ (by omega)

/-- A hash without collisions. -/
def spelling : Platform := { platform with sha256 := hexText }

theorem scalar_hexText (bytes : Js.Bytes) : Scalar (hexText bytes) :=
  scalar_points fun c hc => by simpa using List.all_eq_true.mp (ascii_hexText bytes) c hc

def hmacSigner : Signer := developmentHMACSigner hexText (str "local-test-key")

theorem hmacSigner_ideal : hmacSigner.Ideal := developmentHMACSigner_ideal hexText_injective ascii_hexText _

def registration (portId : String) : PortRegistration where
  portId := str portId
  authority := str "G3T Connected"
  capabilities := [str "send"]
  acceptedClassifications := [str "protected"]
  routeModes := [str "direct", str "split", str "multicast"]
  health := .healthy
  readiness := .ready
  maintenance := false
  blocker := none

/-- An envelope for a route over the targets. -/
def routed (routeMode : RouteMode) (targets disclosure : List String) (payload : Dict) : ProductionEnvelope where
  schemaVersion := str "1.0.0"
  protocolVersion := str "1.0.0"
  messageId := str "m1"
  correlationId := str "c1"
  causationId := str "cause1"
  traceId := str "trace1"
  transactionId := str "tx1"
  organizationId := str "org1"
  tenantId := str "t1"
  partnerId := str "partner1"
  environmentId := str "prod"
  projectId := str "p1"
  sourceIdentity := str "brainstem"
  sourceIdentityType := str "service"
  sourceComponent := str "runtime"
  sourceAuthority := str "BRAINSTEM"
  delegatedAuthority := str "send"
  originPort := str "strata-data-port-zero"
  destinationStratum := str "comms"
  destinationPort := str "p1"
  destinationCapability := str "send"
  routeMode := routeMode
  routeTargets := targets.map str
  payloadType := str "Request"
  payload := payload
  payloadHash := []
  classification := .protectedClass
  truthClass := str "requested"
  disclosurePolicy := disclosure.map str
  policyReferences := [str "default-deny"]
  contractReferences := [str "B2B@1"]
  issuedAt := str "2026-07-26T16:20"
  expiresAt := str "2026-07-26T16:40:00+00:00"
  deadline := str "2026-07-26T16:30"
  nonce := str "nonce1"
  sequence := 1
  idempotencyKey := str "idem1"
  attempt := 1
  signatures := []
  encryptionMetadata := JsMap.empty

def direct : ProductionEnvelope := routed .direct ["p1"] [] (dict [("recipient_ref", .text "r1")])

/-- What the ports of the sample answer to an envelope they accept. -/
def completed : DestinationAnswer where
  blocker := none
  result := .ok (str "completed", str "result-hash")
  receiptId := str "receipt1"
  acceptedAt := str "2026-07-26T16:21:00+00:00"
  completedAt := str "2026-07-26T16:21:01+00:00"

/-- The port behind the dispatcher executes what it is handed. -/
def portExecutes : Dispatcher := fun _ portId envelope destinationTransactionId =>
  (ExternalExecutionPort.mk { registration "" with portId := portId } hmacSigner).execute platform completed envelope
    destinationTransactionId

/-- No attempt gets through. -/
def lost : Dispatcher := fun _ _ _ _ => .error ⟨.timeoutError, str "timed out"⟩

def reconciled : Reconciler := fun _ => .ok (.record [("status", .text "reconciled")])

def engine (dispatcher : Dispatcher) : RouteExecutionEngine where
  directory := [registration "p1", registration "p2"]
  dispatcher := dispatcher
  reconciler := reconciled
  signer := hmacSigner
  maxAttempts := 3

/-- The random id and the time of a dead letter. -/
def letter : Str × Str := (str "letter1", str "2026-07-26T16:22:00+00:00")

/-! ## The runs over the routes -/

/-- A JSON value without lone surrogates can be signed. -/
theorem sign_ok {v : Value} (hjson : v.isJson = true) (hscalar : v.Scalar) :
    ∃ signature, hmacSigner.sign v = .ok signature := by
  obtain ⟨hash, hhash⟩ : ∃ hash, digest hexText v = .ok hash := digest_ok hjson hscalar
  simp only [digest, Js.bind_eq_ok] at hhash
  obtain ⟨bytes, hbytes, -⟩ := hhash
  refine ⟨⟨str "local-test-key", str "HMAC-SHA256", hexText bytes, str "development-only"⟩, ?_⟩
  simp only [hmacSigner, developmentHMACSigner, hbytes]
  rfl

theorem scalar_sha256 (bytes : Js.Bytes) : Scalar (platform.sha256 bytes) := by
  have hdigit : ∀ d < 16, (point (Js.hexDigit d).toNat).val < 128 := by decide
  refine scalar_points fun c hc => ?_
  obtain ⟨u, hu, rfl⟩ := List.mem_map.mp hc
  obtain ⟨i, -, rfl⟩ := List.mem_map.mp hu
  exact hdigit _ (Nat.mod_lt _ (by omega))

/-- The payload is JSON without lone surrogates. -/
def JsonPayload (payload : Dict) : Prop := ∀ f ∈ payload.entries, f.2.isJson = true ∧ Scalar f.1 ∧ f.2.Scalar

theorem jsonPayload_set {d : Dict} (hd : JsonPayload d) (key text : String) :
    JsonPayload (d.set (str key) (.text text)) := by
  have hnew : (Value.text text).isJson = true ∧ Scalar (str key) ∧ (Value.text text).Scalar :=
    ⟨rfl, scalar_str _, scalar_str _⟩
  rw [JsMap.set]
  split
  · intro f hf
    obtain ⟨e, he, rfl⟩ := List.mem_map.mp hf
    split
    · exact ⟨hnew.1, (hd e he).2.1, hnew.2.2⟩
    · exact hd e he
  · intro f hf
    rcases List.mem_append.mp hf with hf | hf
    · exact hd f hf
    · rw [List.mem_singleton.mp hf]
      exact hnew

theorem jsonPayload_empty : JsonPayload JsMap.empty := fun _ hf => absurd hf List.not_mem_nil

theorem jsonPayload_direct : JsonPayload (dict [("recipient_ref", .text "r1")]) :=
  jsonPayload_set jsonPayload_empty "recipient_ref" "r1"

theorem isJson_unsigned {e : ProductionEnvelope} (hpayload : (Value.ofDict e.payload).isJson = true)
    (hmetadata : (Value.ofDict e.encryptionMetadata).isJson = true) : e.unsigned.isJson = true := by
  simp [ProductionEnvelope.unsigned, Value.record, Value.isJson, Value.entriesJson, hpayload, hmetadata]

/-- Every target of such a route has a signed child. -/
theorem child_ok (dispatcher : Dispatcher) (routeMode : RouteMode) (targets disclosure : List String) {payload : Dict}
    (hpayload : JsonPayload payload) (index : ℕ) (target : String) :
    ∃ child, (engine dispatcher).child platform (routed routeMode targets disclosure payload) index (str target) =
      .ok child := by
  have hvisible : JsonPayload (RouteExecutionEngine.payloadFor (routed routeMode targets disclosure payload) index) := by
    rw [RouteExecutionEngine.payloadFor]
    split
    · exact fun f hf => hpayload f (List.mem_filter.mp hf).1
    · exact hpayload
  have hjson := Value.isJson_ofDict fun f hf => (hvisible f hf).1
  have hscalar := Value.scalarEntries_iff.mpr fun f hf => (hvisible f hf).2
  obtain ⟨hash, hhash⟩ : ∃ hash, digest platform.sha256 (.ofDict (RouteExecutionEngine.payloadFor
      (routed routeMode targets disclosure payload) index)) = .ok hash := digest_ok hjson hscalar
  have hsha : Scalar hash := by
    simp only [digest, Js.bind_eq_ok, Js.pure_eq_ok] at hhash
    obtain ⟨bytes, -, rfl⟩ := hhash
    exact scalar_sha256 bytes
  have hmode : Scalar routeMode.value := by cases routeMode <;> exact scalar_str _
  have hstrings : ∀ texts : List String, (Value.strings (texts.map str)).Scalar := by
    intro texts
    simp [Value.strings, Value.Scalar, Value.scalarItems_iff, scalar_str]
  have hmetadata : (Value.ofDict JsMap.empty).isJson = true := rfl
  have hmetadata' : (Value.ofDict JsMap.empty).Scalar := trivial
  simp only [RouteExecutionEngine.child, hhash, bind, Except.bind]
  obtain ⟨signature, hsign⟩ := sign_ok (isJson_unsigned (e := { routed routeMode targets disclosure payload with
    destinationPort := str target
    payload := RouteExecutionEngine.payloadFor (routed routeMode targets disclosure payload) index
    payloadHash := hash
    transactionId := (routed routeMode targets disclosure payload).transactionId ++ str ":" ++ str target
    signatures := [] }) hjson hmetadata) (by
      have htransaction := ((scalar_str "tx1").append (scalar_str ":")).append (scalar_str target)
      have hclass : Scalar Classification.protectedClass.value := scalar_str _
      have hpolicy := hstrings ["default-deny"]
      have hcontract := hstrings ["B2B@1"]
      simp only [ProductionEnvelope.unsigned, Value.record, List.map_cons, List.map_nil, Value.Scalar, Value.ScalarEntries,
        routed, scalar_str, hstrings, hmode, hsha, htransaction, hclass, hmetadata', true_and, and_true]
        at hscalar hpolicy hcontract ⊢
      exact ⟨hscalar, hpolicy, hcontract⟩)
  exact ⟨_, by rw [engine, hsign]; rfl⟩

/-- A run over targets is its loop. -/
theorem execute_eq (dispatcher : Dispatcher) (routeMode : RouteMode) (targets disclosure : List String) (payload : Dict)
    (hdirect : ¬ (routeMode = .direct ∧ targets.length ≠ 1))
    (hmany : ¬ ((routeMode = .split ∨ routeMode = .multicast) ∧ targets.length < 2)) :
    (engine dispatcher).execute platform letter (routed routeMode targets disclosure payload) =
      (((engine dispatcher).route platform letter (routed routeMode targets disclosure payload) 0 (targets.map str)
        ⟨[], []⟩).1.bind fun receipts => (reconciled receipts).bind (RouteExecutionEngine.summary receipts),
      ((engine dispatcher).route platform letter (routed routeMode targets disclosure payload) 0 (targets.map str)
        ⟨[], []⟩).2) := by
  have hlength : (routed routeMode targets disclosure payload).routeTargets.length = targets.length := List.length_map ..
  have hmode : (routed routeMode targets disclosure payload).routeMode = routeMode := rfl
  simp only [RouteExecutionEngine.execute]
  rw [hlength, hmode, if_neg hdirect, if_neg hmany]
  rcases h : (engine dispatcher).route platform letter (routed routeMode targets disclosure payload) 0 (targets.map str)
    ⟨[], []⟩ with ⟨e | receipts, log⟩ <;> simp only [routed] at h ⊢ <;> rw [h] <;> rfl

theorem lost_dispatch (child : ProductionEnvelope) (target : Str) : ∃ x log,
    (engine lost).dispatch platform letter 0 target child ⟨[], []⟩ = (.error x, log) ∧
      log.handed = [3, 2, 1].map fun attempt => ⟨0, attempt, target, { child with attempt := attempt },
        child.transactionId, .error ⟨.timeoutError, str "timed out"⟩⟩ := by
  have hattempts : (engine lost).attemptsFrom 0 target child (engine lost).maxAttempts 1 none ⟨[], []⟩ =
      (.error (some ⟨.timeoutError, str "timed out"⟩), ⟨[3, 2, 1].map fun attempt => ⟨0, attempt, target,
        { child with attempt := attempt }, child.transactionId, .error ⟨.timeoutError, str "timed out"⟩⟩, []⟩) := rfl
  simp only [RouteExecutionEngine.dispatch, hattempts]
  cases (engine lost).deadLetter platform letter.1 letter.2 target child (some ⟨.timeoutError, str "timed out"⟩) with
  | error e => exact ⟨_, _, rfl, rfl⟩
  | ok stored => exact ⟨_, _, rfl, rfl⟩

/-- When no attempt gets through, all three are made at the first target. -/
theorem lost_attempts {routeMode : RouteMode} {target : String} {rest disclosure : List String} {payload : Dict}
    (hrun : ¬ (routeMode = .direct ∧ (target :: rest).length ≠ 1) ∧
      ¬ ((routeMode = .split ∨ routeMode = .multicast) ∧ (target :: rest).length < 2))
    (hresolve : ((engine lost).directory.resolve (str target) (str "send") (str "protected") routeMode.value (str "org1")
      (str "t1")).isOk = true)
    (hpayload : JsonPayload payload) (attempt : ℕ) (hattempt : 1 ≤ attempt ∧ attempt ≤ 3) :
    ∃ h ∈ ((engine lost).execute platform letter (routed routeMode (target :: rest) disclosure payload)).2.handed,
      h.index = 0 ∧ h.attempt = attempt := by
  obtain ⟨child, hchild⟩ := child_ok lost routeMode (target :: rest) disclosure hpayload 0 target
  set e := routed routeMode (target :: rest) disclosure payload with he
  cases hr : (engine lost).directory.resolve (str target) e.destinationCapability e.classification.value e.routeMode.value
      e.organizationId e.tenantId with
  | error x =>
    change ((engine lost).directory.resolve (str target) e.destinationCapability e.classification.value e.routeMode.value
      e.organizationId e.tenantId).isOk = true at hresolve
    rw [hr] at hresolve
    cases hresolve
  | ok r =>
    obtain ⟨x, log, hdispatch, hhanded⟩ := lost_dispatch child (str target)
    have hmem : attempt ∈ [3, 2, 1] := by
      simp only [List.mem_cons, List.not_mem_nil, or_false]
      omega
    have hroute : ((engine lost).route platform letter e 0 ((target :: rest).map str) ⟨[], []⟩).2 = log := by
      simp only [List.map_cons, RouteExecutionEngine.route, hr, hchild, hdispatch]
    rw [he, execute_eq lost _ _ _ _ hrun.1 hrun.2, ← he, hroute, hhanded]
    exact ⟨_, List.mem_map_of_mem hmem, rfl, rfl⟩

theorem direct_resolved : ((engine lost).directory.resolve (str "p1") direct.destinationCapability direct.classification.value
    direct.routeMode.value direct.organizationId direct.tenantId).isOk = true := by decide +kernel

theorem direct_child (dispatcher : Dispatcher) :
    ∃ child, (engine dispatcher).child platform direct 0 (str "p1") = .ok child :=
  child_ok dispatcher .direct ["p1"] [] jsonPayload_direct 0 "p1"

end Superstructure.Sample
