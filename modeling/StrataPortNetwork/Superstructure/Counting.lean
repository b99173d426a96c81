import StrataPortNetwork.Superstructure.Attempts
import StrataPortNetwork.Superstructure.Sample

/-! # Which receipts a route result counts

A result counts every receipt that says it is completed. The engine looks at nothing else
in it, so a result is as good as the receipts the dispatcher returns: it counts verified
receipts only if all completed ones among them are.
-/
namespace Superstructure
open Py

/-- The target with the number counts as completed. -/
def RouteResult.CompletedAt (result : RouteResult) (index : ℕ) : Prop :=
  ∃ receipt, result.receipts[index]? = some receipt ∧ RouteExecutionEngine.isCompleted receipt = true

namespace Handed

/-- The dispatcher returned a receipt that says it is completed. -/
def Completed (h : Handed) : Prop :=
  ∃ receipt, h.answer = .ok receipt ∧ RouteExecutionEngine.isCompleted receipt = true

/-- The receipt of the call passes `verify_receipt` against the envelope that was handed over, and
it names the port it was handed over for. -/
def Verified (platform : Platform) (verifier : ExternalExecutionPort) (now : ℤ) (h : Handed) : Prop :=
  ∃ receipt, h.answer = .ok receipt ∧ verifier.verifyReceipt platform now receipt h.envelope = .ok true ∧
    receipt.portId = h.portId

end Handed

namespace RouteExecutionEngine
variable {platform : Platform} {engine : RouteExecutionEngine}

/-- A result says complete or partial exactly when some receipt says it is completed. -/
theorem summary_spec {receipts : List SignedPortReceipt} {decision : Value} {result : RouteResult}
    (hne : receipts ≠ []) (h : summary receipts decision = .ok result) : result.receipts = receipts ∧
      (result.complete = true ∨ result.isPartial = true ↔ ∃ r ∈ receipts, isCompleted r = true) := by
  by_cases hall : receipts.all isCompleted = true
  · have hsome : ∃ r ∈ receipts, isCompleted r = true := by
      obtain ⟨r, hr⟩ := List.exists_mem_of_ne_nil receipts hne
      exact ⟨r, hr, List.all_eq_true.mp hall r hr⟩
    simp only [summary, hall, if_true, Js.bind_eq_ok, Js.pure_eq_ok] at h
    obtain ⟨status, -, complete, -, rfl⟩ := h
    refine ⟨rfl, ?_⟩
    rw [List.any_eq_true.mpr hsome]
    cases complete <;> simpa using hsome
  · simp only [summary, if_neg hall, Js.bind_eq_ok, Js.pure_eq_ok] at h
    obtain ⟨complete, rfl, rfl⟩ := h
    refine ⟨rfl, ?_⟩
    simp

/-- The receipts of a result are the answers of the calls of its run. -/
theorem execute_answered {letter : Str × Str} {envelope : ProductionEnvelope} {result : RouteResult}
    (h : (engine.execute platform letter envelope).1 = .ok result) :
    Answered (engine.execute platform letter envelope).2.handed 0 result.receipts ∧
      (result.complete = true ∨ result.isPartial = true ↔ ∃ r ∈ result.receipts, isCompleted r = true) := by
  obtain ⟨new, hhanded, -, hreceipts⟩ := route_spec platform engine letter envelope 0 envelope.routeTargets ⟨[], []⟩
  rcases execute_cases platform engine letter envelope with ⟨e, he⟩ | ⟨hne, hrun⟩
  · simp [he] at h
  · rw [hrun] at h ⊢
    simp only [List.append_nil] at h hhanded ⊢
    cases hroute : (engine.route platform letter envelope 0 envelope.routeTargets ⟨[], []⟩).1 with
    | error e => simp [hroute, Except.bind] at h
    | ok receipts =>
      obtain ⟨hlength, hanswered⟩ := hreceipts receipts hroute
      have hsome : receipts ≠ [] := by
        rintro rfl
        exact hne (List.length_eq_zero_iff.mp hlength.symm)
      simp only [hroute, Except.bind] at h
      cases hdecision : engine.reconciler receipts with
      | error e => simp [hdecision] at h
      | ok decision =>
        simp only [hdecision] at h
        obtain ⟨hsame, hcounts⟩ := summary_spec hsome h
        rw [hhanded, hsame]
        exact ⟨hanswered, hcounts⟩

/-- A result counts verified receipts only, exactly when every completed receipt that the
dispatcher returned in the run is verified. -/
theorem counts_verified_iff (verifier : ExternalExecutionPort) (now : ℤ) {letter : Str × Str}
    {envelope : ProductionEnvelope} {result : RouteResult}
    (hresult : (engine.execute platform letter envelope).1 = .ok result) :
    (result.complete = true ∨ result.isPartial = true → ∀ index, result.CompletedAt index →
      ∃ h ∈ (engine.execute platform letter envelope).2.handed, h.index = index ∧ h.Verified platform verifier now) ↔
    ∀ h ∈ (engine.execute platform letter envelope).2.handed, h.Completed → h.Verified platform verifier now := by
  obtain ⟨hanswered, hcounts⟩ := execute_answered hresult
  constructor
  · rintro htrusted h hh ⟨receipt, hanswer, hcompleted⟩
    have hreceipt := hanswered.receipt_of_call h hh receipt hanswer
    have hsome := hcounts.mpr ⟨receipt, List.mem_of_getElem? hreceipt, hcompleted⟩
    obtain ⟨h', hh', hindex, hverified⟩ := htrusted hsome h.index ⟨receipt, hreceipt, hcompleted⟩
    have ⟨receipt', hanswer', _⟩ := hverified
    rw [hanswered.unique h hh h' hh' hindex.symm receipt receipt' hanswer hanswer']
    exact hverified
  · rintro hhonest - index ⟨receipt, hreceipt, hcompleted⟩
    obtain ⟨h, hh, hindex, hanswer⟩ := hanswered.call_of_receipt index receipt hreceipt
    exact ⟨h, hh, by omega, hhonest h hh ⟨receipt, hanswer, hcompleted⟩⟩

end RouteExecutionEngine

namespace ExternalExecutionPort
variable {platform : Platform} {port : ExternalExecutionPort}

theorem verifyReceipt_of {receipt : SignedPortReceipt} {envelope : ProductionEnvelope} {expiry now : ℤ}
    (hverified : port.signer.verifies receipt.unsigned receipt.signatures = .ok true)
    (hmatch : matchesEnvelope receipt envelope = true)
    (hexpiry : platform.fromisoformat receipt.expiresAt = .ok (.aware expiry)) (hnow : now < expiry) :
    port.verifyReceipt platform now receipt envelope = .ok true := by
  simp only [verifyReceipt, hverified, bind, Except.bind, hmatch, Bool.and_self, if_true, hexpiry, DateTime.le,
    decide_eq_false (not_le.mpr hnow), pure, Except.pure, Bool.not_false]

/-- The receipt of a port passes its own check while the envelope has not expired. -/
theorem execute_verified (hsigner : port.signer.Ideal) {answer : DestinationAnswer}
    {envelope : ProductionEnvelope} {destinationTransactionId : Str} {receipt : SignedPortReceipt} {expiry now : ℤ}
    (h : port.execute platform answer envelope destinationTransactionId = .ok receipt)
    (hexpiry : platform.fromisoformat envelope.expiresAt = .ok (.aware expiry)) (hnow : now < expiry) :
    port.verifyReceipt platform now receipt envelope = .ok true ∧ receipt.portId = port.registration.portId := by
  have hcheck : ∀ {unsigned : SignedPortReceipt} {signature : Signature},
      port.signer.sign unsigned.unsigned = .ok signature → matchesEnvelope unsigned envelope = true →
      unsigned.expiresAt = envelope.expiresAt →
      port.verifyReceipt platform now { unsigned with signatures := [signature] } envelope = .ok true :=
    fun hsign hmatch hexpires => verifyReceipt_of ((hsigner.verify_iff hsign).mpr rfl) hmatch
      ((congrArg platform.fromisoformat hexpires).trans hexpiry) hnow
  simp only [ExternalExecutionPort.execute, Js.bind_eq_ok] at h
  obtain ⟨-, -, -, -, h⟩ := h
  split at h
  · simp only [Js.bind_eq_ok, Js.pure_eq_ok] at h
    obtain ⟨hash, -, _, rfl, signature, hsign, rfl⟩ := h
    exact ⟨hcheck hsign (by simp [matchesEnvelope]) rfl, rfl⟩
  · simp only [Js.bind_eq_ok, Js.pure_eq_ok] at h
    obtain ⟨⟨status, hash⟩, -, _, rfl, signature, hsign, rfl⟩ := h
    exact ⟨hcheck hsign (by simp [matchesEnvelope]) rfl, rfl⟩

end ExternalExecutionPort

/-- A call that a port of the verifier's signer answers is verified. -/
theorem Handed.verified_of_port {platform : Platform} {verifier : ExternalExecutionPort}
    (hsigner : verifier.signer.Ideal) {h : Handed} {registration : PortRegistration} {answer : DestinationAnswer}
    {expiry now : ℤ}
    (hanswer : h.answer = (ExternalExecutionPort.mk registration verifier.signer).execute platform answer h.envelope
      h.destinationTransactionId)
    (hport : registration.portId = h.portId)
    (hexpiry : platform.fromisoformat h.envelope.expiresAt = .ok (.aware expiry)) (hnow : now < expiry)
    (hcompleted : h.Completed) : h.Verified platform verifier now := by
  obtain ⟨receipt, hreceipt, -⟩ := hcompleted
  have hideal : (ExternalExecutionPort.mk registration verifier.signer).signer.Ideal := hsigner
  obtain ⟨hverified, hnamed⟩ := ExternalExecutionPort.execute_verified hideal (hanswer.symm.trans hreceipt) hexpiry
    hnow
  exact ⟨receipt, hreceipt, hverified, hnamed.trans hport⟩

namespace Sample

/-- A receipt with no signature that names nothing of what was handed over. -/
def forged : SignedPortReceipt where
  receiptId := []
  parentTransactionId := []
  destinationTransactionId := []
  messageId := []
  correlationId := []
  portId := []
  destinationAuthority := []
  organizationId := []
  tenantId := []
  capability := []
  attempt := 0
  acceptedAt := []
  completedAt := []
  portStatus := str "completed"
  providerStatus := []
  railStatus := []
  destinationStatus := []
  reconciliationStatus := []
  evidenceStatus := []
  truthClass := []
  resultHash := []
  blocker := none
  expiresAt := []
  signatures := []

def forges : Dispatcher := fun _ _ _ _ => .ok forged

/-- The receipt of the only target is the receipt of the route. -/
theorem route_answered {dispatcher : Dispatcher} {e child : ProductionEnvelope} {target : Str} {r : PortRegistration}
    {receipt : SignedPortReceipt} {log : RouteLog}
    (hresolve : (engine dispatcher).directory.resolve target e.destinationCapability e.classification.value e.routeMode.value
      e.organizationId e.tenantId = .ok r)
    (hchild : (engine dispatcher).child platform e 0 target = .ok child)
    (hdispatch : (engine dispatcher).dispatch platform letter 0 target child ⟨[], []⟩ = (.ok receipt, log)) :
    ((engine dispatcher).route platform letter e 0 [target] ⟨[], []⟩).1 = .ok [receipt] := by
  simp only [RouteExecutionEngine.route, hresolve, hchild, hdispatch]

/-- The port has resolved and its first call was answered. -/
theorem direct_answered {dispatcher : Dispatcher} {child : ProductionEnvelope} {receipt : SignedPortReceipt}
    (hchild : (engine dispatcher).child platform direct 0 (str "p1") = .ok child)
    (hanswer : dispatcher [] (str "p1") { child with attempt := 1 } child.transactionId = .ok receipt) :
    ((engine dispatcher).execute platform letter direct).1 =
      RouteExecutionEngine.summary [receipt] (.record [("status", .text "reconciled")]) := by
  have hresolve : ((engine dispatcher).directory.resolve (str "p1") direct.destinationCapability direct.classification.value
      direct.routeMode.value direct.organizationId direct.tenantId).isOk = true := direct_resolved
  have hdispatch : ∃ log, (engine dispatcher).dispatch platform letter 0 (str "p1") child ⟨[], []⟩ = (.ok receipt, log) := by
    have hattempts : ∃ log, (engine dispatcher).attemptsFrom 0 (str "p1") child (engine dispatcher).maxAttempts 1 none
        ⟨[], []⟩ = (.ok receipt, log) := by
      have hcall : (engine dispatcher).dispatcher [] (str "p1") { child with attempt := ((1 : ℕ) : ℤ) }
        child.transactionId = .ok receipt := hanswer
      have hmax : (engine dispatcher).maxAttempts = 2 + 1 := rfl
      simp only [hmax, RouteExecutionEngine.attemptsFrom, hcall]
      exact ⟨_, rfl⟩
    obtain ⟨log, hattempts⟩ := hattempts
    simp only [RouteExecutionEngine.dispatch, hattempts]
    exact ⟨_, rfl⟩
  obtain ⟨log, hdispatch⟩ := hdispatch
  cases hr : (engine dispatcher).directory.resolve (str "p1") direct.destinationCapability direct.classification.value
      direct.routeMode.value direct.organizationId direct.tenantId with
  | error e =>
    rw [hr] at hresolve
    cases hresolve
  | ok r =>
    have hroute : ((engine dispatcher).route platform letter direct 0 (["p1"].map str) ⟨[], []⟩).1 = .ok [receipt] :=
      route_answered hr hchild hdispatch
    have hrun := execute_eq dispatcher .direct ["p1"] [] (dict [("recipient_ref", .text "r1")]) (by decide) (by decide)
    rw [← direct, hroute] at hrun
    rw [hrun, Except.bind, reconciled, Except.bind]

/-- A forged receipt makes a route complete. -/
theorem forged_receipt_counted : ∃ result, ((engine forges).execute platform letter direct).1 = .ok result ∧
    result.complete = true ∧ result.CompletedAt 0 ∧
    ∀ verifier now, ∀ h ∈ ((engine forges).execute platform letter direct).2.handed,
      ¬ h.Verified platform verifier now := by
  obtain ⟨child, hchild⟩ := direct_child forges
  have hrun : (match ((engine forges).execute platform letter direct).1 with
      | .ok result => result.complete && result.receipts[0]? == some forged
      | .error _ => false) = true := by
    have hforged : forges [] (str "p1") { child with attempt := 1 } child.transactionId = .ok forged := rfl
    rw [direct_answered hchild hforged]
    decide +kernel
  cases hresult : ((engine forges).execute platform letter direct).1 with
  | error e => simp [hresult] at hrun
  | ok result =>
    simp only [hresult, Bool.and_eq_true, beq_iff_eq] at hrun
    refine ⟨result, rfl, hrun.1, ⟨forged, hrun.2, rfl⟩, ?_⟩
    rintro verifier now h hh ⟨receipt, hanswer, hverified, -⟩
    obtain ⟨_, _, -, -, hfor⟩ := RouteExecutionEngine.execute_handed platform (engine forges) letter direct h hh
    obtain ⟨calls, hforged⟩ := hfor.answer
    cases Except.ok.inj (hanswer.symm.trans hforged)
    simp [ExternalExecutionPort.verifyReceipt, Signer.verifies, forged, bind, Except.bind, pure, Except.pure] at hverified

theorem summary_ok (receipts : List SignedPortReceipt) :
    ∃ result, RouteExecutionEngine.summary receipts (.record [("status", .text "reconciled")]) = .ok result := by
  have hstatus : (Value.record [("status", .text "reconciled")]).get "status" = some (.text "reconciled") := rfl
  rw [RouteExecutionEngine.summary, hstatus]
  split <;> exact ⟨_, rfl⟩

/-- A port of the sample answers an envelope that carries its own signature. -/
theorem port_answers {e : ProductionEnvelope} {portId destinationTransactionId : Str} {signature : Signature}
    (hsign : hmacSigner.sign e.unsigned = .ok signature) (hsignatures : e.signatures = [signature])
    (horigin : e.originPort = str "strata-data-port-zero")
    (hallowed : e.organizationId ≠ [] ∧ e.tenantId ≠ [] ∧ e.destinationCapability ∈ [str "send"])
    (htexts : ∀ t ∈ [portId, destinationTransactionId, e.transactionId, e.messageId, e.correlationId, e.organizationId,
      e.tenantId, e.destinationCapability, e.expiresAt], Scalar t) (calls : List Handed) :
    ∃ receipt, portExecutes calls portId e destinationTransactionId = .ok receipt := by
  have hverifies : hmacSigner.verifies e.unsigned e.signatures = .ok true := by
    rw [hsignatures, Signer.verifies]
    exact (hmacSigner_ideal.verify_iff hsign).mpr rfl
  have hallowed' : e.organizationId ≠ [] ∧ e.tenantId ≠ [] ∧
    e.destinationCapability ∈ (registration "").capabilities := hallowed
  simp only [List.forall_mem_cons, List.not_mem_nil, false_implies, implies_true, and_true] at htexts
  obtain ⟨hportId, hdestination, htransaction, hmessage, hcorrelation, horganization, htenant, hcapability,
    hexpires⟩ := htexts
  have hreceipt : ∃ signature, hmacSigner.sign (SignedPortReceipt.mk completed.receiptId e.transactionId
      destinationTransactionId e.messageId e.correlationId portId (registration "").authority e.organizationId e.tenantId
      e.destinationCapability e.attempt completed.acceptedAt completed.completedAt (str "completed") (str "completed")
      (str "completed") (str "completed") (str "pending") (str "receipt_verified") (str "destination_confirmed")
      (str "result-hash") none e.expiresAt []).unsigned = .ok signature := by
    refine sign_ok ?_ ?_
    · simp [SignedPortReceipt.unsigned, Value.record, Value.isJson, Value.entriesJson]
    · simp [SignedPortReceipt.unsigned, Value.record, Value.Scalar, Value.ScalarEntries, completed, registration, scalar_str,
        hportId, hdestination, htransaction, hmessage, hcorrelation, horganization, htenant, hcapability, hexpires]
  obtain ⟨signature', hreceipt⟩ := hreceipt
  simp only [portExecutes, ExternalExecutionPort.execute, ExternalExecutionPort.authenticate, horigin, hverifies,
    hallowed', completed, bind, Except.bind, pure, Except.pure, Js.ensure, decide_true, if_true, ne_eq,
    not_false_eq_true, and_self]
  simp only [completed] at hreceipt
  rw [hreceipt]
  exact ⟨_, rfl⟩

theorem honest_ok : ((engine portExecutes).execute platform letter direct).1.isOk = true := by
  have hallowed : direct.organizationId ≠ [] ∧ direct.tenantId ≠ [] ∧ direct.destinationCapability ∈ [str "send"] := by
    decide +kernel
  obtain ⟨child, hchild⟩ := direct_child portExecutes
  have hanswer : ∃ receipt, portExecutes [] (str "p1") { child with attempt := 1 } child.transactionId = .ok receipt := by
    obtain ⟨hash, signature, -, hfields, hsign⟩ := RouteExecutionEngine.child_spec hchild
    have hattempt : { child with attempt := 1 } = child := by rw [hfields]; rfl
    rw [hattempt]
    have htransaction := ((scalar_str "tx1").append (scalar_str ":")).append (scalar_str "p1")
    refine port_answers hsign (by rw [hfields]) (by rw [hfields]; rfl) (by rw [hfields]; exact hallowed) ?_ []
    rw [hfields]
    simp only [direct, routed, List.forall_mem_cons, scalar_str, htransaction, true_and, List.not_mem_nil, false_implies,
      implies_true]
  obtain ⟨receipt, hanswer⟩ := hanswer
  obtain ⟨result, hresult⟩ := summary_ok [receipt]
  rw [direct_answered hchild hanswer, hresult]
  rfl

theorem honest_receipt_counted : ∃ result, ((engine portExecutes).execute platform letter direct).1 = .ok result ∧
    (result.complete = true ∨ result.isPartial = true → ∀ index, result.CompletedAt index →
      ∃ h ∈ ((engine portExecutes).execute platform letter direct).2.handed,
        h.index = index ∧ h.Verified platform ⟨registration "p1", hmacSigner⟩ 0) := by
  have hok := honest_ok
  cases hresult : ((engine portExecutes).execute platform letter direct).1 with
  | error e =>
    rw [hresult] at hok
    exact absurd hok (by simp [Except.isOk, Except.toBool])
  | ok result =>
    refine ⟨result, rfl, (RouteExecutionEngine.counts_verified_iff ⟨registration "p1", hmacSigner⟩ 0 hresult).mpr ?_⟩
    intro h hh hcompleted
    obtain ⟨target, child, -, hchild, hfor⟩ :=
      RouteExecutionEngine.execute_handed platform (engine portExecutes) letter direct h hh
    obtain ⟨calls, hanswer⟩ := hfor.answer
    have hexpires : h.envelope.expiresAt = direct.expiresAt := by
      obtain ⟨hash, signature, -, hfields, -⟩ := RouteExecutionEngine.child_spec hchild
      rw [hfor.envelope, hfields]
    have hexpiry : platform.fromisoformat h.envelope.expiresAt = .ok (.aware deadline) := by
      rw [hexpires]
      simp [direct, routed, platform]
    have hport : h.answer = (ExternalExecutionPort.mk { registration "" with portId := h.portId } hmacSigner).execute
        platform completed h.envelope h.destinationTransactionId := hanswer
    exact Handed.verified_of_port hmacSigner_ideal hport rfl hexpiry (by decide) hcompleted

end Sample

end Superstructure
