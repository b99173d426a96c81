import StrataPortNetwork.Superstructure.Routing
import StrataPortNetwork.Py.Canonical

/-! # What the engine hands to its dispatcher

Every call hands over the child of its target with the number of the attempt put in. The
child is signed before that, with the attempt number of the submitted envelope, so the
signature verifies on that attempt and on no other.
-/
namespace Superstructure
open Py
open Js (JsMap ensure)

/-! ## Calls of a run -/

/-- The call hands over the child with its attempt number, and the dispatcher answers it. -/
structure Handed.IsFor (h : Handed) (dispatcher : Dispatcher) (target : Str) (child : ProductionEnvelope)
    (attempts : ℕ) : Prop where
  portId : h.portId = target
  envelope : h.envelope = { child with attempt := h.attempt }
  destinationTransactionId : h.destinationTransactionId = child.transactionId
  answer : ∃ calls, h.answer = dispatcher calls h.portId h.envelope h.destinationTransactionId
  first : 1 ≤ h.attempt
  last : h.attempt ≤ attempts

/-- The call is one of those made, and the only one that did not raise. -/
def OnlyAnswer (new : List Handed) (receipt : SignedPortReceipt) : Prop :=
  ∃ h ∈ new, h.answer = .ok receipt ∧ ∀ h' ∈ new, ∀ r, h'.answer = .ok r → h' = h

/-- The receipts, numbered from `index` on, are the answers of the calls: one call for each. -/
structure Answered (calls : List Handed) (index : ℕ) (receipts : List SignedPortReceipt) : Prop where
  call_of_receipt : ∀ i r, receipts[i]? = some r → ∃ h ∈ calls, h.index = index + i ∧ h.answer = .ok r
  receipt_of_call : ∀ h ∈ calls, ∀ r, h.answer = .ok r → receipts[h.index - index]? = some r
  unique : ∀ h ∈ calls, ∀ h' ∈ calls, h.index = h'.index →
    ∀ r r', h.answer = .ok r → h'.answer = .ok r' → h = h'

theorem Answered.cons {new later : List Handed} {index : ℕ} {receipt : SignedPortReceipt}
    {receipts : List SignedPortReceipt} (hlater : Answered later (index + 1) receipts)
    (hle : ∀ h ∈ later, index + 1 ≤ h.index) (hnew : ∀ h ∈ new, h.index = index) (honly : OnlyAnswer new receipt) :
    Answered (later ++ new) index (receipt :: receipts) := by
  obtain ⟨first, hfirst, hanswer, hunique⟩ := honly
  have hsame : ∀ h ∈ new, ∀ r, h.answer = .ok r → h = first ∧ r = receipt := by
    intro h hh r hr
    have heq := hunique h hh r hr
    rw [heq, hanswer] at hr
    exact ⟨heq, (Except.ok.inj hr).symm⟩
  constructor
  · intro i r hr
    cases i with
    | zero =>
      rw [List.getElem?_cons_zero] at hr
      exact ⟨first, List.mem_append_right _ hfirst, hnew first hfirst, Option.some.inj hr ▸ hanswer⟩
    | succ i =>
      rw [List.getElem?_cons_succ] at hr
      obtain ⟨h, hh, hindex, hr⟩ := hlater.call_of_receipt i r hr
      exact ⟨h, List.mem_append_left _ hh, by omega, hr⟩
  · intro h hh r hr
    rcases List.mem_append.mp hh with hh | hh
    · have hindex := hle h hh
      rw [show h.index - index = h.index - (index + 1) + 1 by omega, List.getElem?_cons_succ]
      exact hlater.receipt_of_call h hh r hr
    · rw [hnew h hh, Nat.sub_self, List.getElem?_cons_zero, (hsame h hh r hr).2]
  · intro h hh h' hh' hindex r r' hr hr'
    rcases List.mem_append.mp hh with hh | hh <;> rcases List.mem_append.mp hh' with hh' | hh'
    · exact hlater.unique h hh h' hh' hindex r r' hr hr'
    · have hfar := hle h hh
      rw [hindex, hnew h' hh'] at hfar
      exact absurd hfar (Nat.not_succ_le_self index)
    · have hfar := hle h' hh'
      rw [← hindex, hnew h hh] at hfar
      exact absurd hfar (Nat.not_succ_le_self index)
    · rw [(hsame h hh r hr).1, (hsame h' hh' r' hr').1]

namespace RouteExecutionEngine
variable (platform : Platform) (engine : RouteExecutionEngine)

/-- The loop over the attempts adds calls for its child; a receipt is the answer of the only
call that did not raise. -/
theorem attemptsFrom_spec (index : ℕ) (target : Str) (child : ProductionEnvelope) (left attempt : ℕ)
    (error : Option PyError) (log : RouteLog) (hattempt : 1 ≤ attempt) :
    ∃ new : List Handed,
      (engine.attemptsFrom index target child left attempt error log).2.handed = new ++ log.handed ∧
      (∀ h ∈ new, h.index = index ∧ h.IsFor engine.dispatcher target child (attempt + left - 1)) ∧
      ∀ receipt, (engine.attemptsFrom index target child left attempt error log).1 = .ok receipt →
        OnlyAnswer new receipt := by
  induction left generalizing attempt error log with
  | zero => exact ⟨[], rfl, by simp, by simp [attemptsFrom]⟩
  | succ left ih =>
    rw [attemptsFrom]
    let call : Outcome SignedPortReceipt → Handed :=
      Handed.mk index attempt target { child with attempt := attempt } child.transactionId
    cases hanswer : engine.dispatcher log.handed target { child with attempt := attempt } child.transactionId with
    | ok receipt =>
      refine ⟨[call (.ok receipt)], rfl, ?_, ?_⟩
      · intro h hh
        rw [List.mem_singleton.mp hh]
        exact ⟨rfl, rfl, rfl, rfl, ⟨log.handed, hanswer.symm⟩, hattempt, (by omega : attempt ≤ attempt + (left + 1) - 1)⟩
      · intro receipt' hreceipt
        cases Except.ok.inj hreceipt
        exact ⟨call (.ok receipt), List.mem_cons_self, rfl, fun h' hh' _ _ => List.mem_singleton.mp hh'⟩
    | error e =>
      obtain ⟨new, hhanded, hnew, hreceipts⟩ := ih (attempt + 1) (some e)
        { log with handed := call (.error e) :: log.handed } (by omega)
      refine ⟨new ++ [call (.error e)], ?_, ?_, ?_⟩
      · rw [List.append_assoc]
        exact hhanded
      · intro h hh
        rcases List.mem_append.mp hh with hh | hh
        · obtain ⟨hindex, hfor⟩ := hnew h hh
          exact ⟨hindex, hfor.portId, hfor.envelope, hfor.destinationTransactionId, hfor.answer, hfor.first,
            hfor.last.trans (by omega)⟩
        · rw [List.mem_singleton.mp hh]
          exact ⟨rfl, rfl, rfl, rfl, ⟨log.handed, hanswer.symm⟩, hattempt, (by omega : attempt ≤ attempt + (left + 1) - 1)⟩
      · intro receipt hreceipt
        obtain ⟨h, hh, hanswer, honly⟩ := hreceipts receipt hreceipt
        refine ⟨h, List.mem_append_left _ hh, hanswer, fun h' hh' r hr => ?_⟩
        rcases List.mem_append.mp hh' with hh' | hh'
        · exact honly h' hh' r hr
        · rw [List.mem_singleton.mp hh'] at hr
          simp [call] at hr

theorem dispatch_spec (letter : Str × Str) (index : ℕ) (target : Str) (child : ProductionEnvelope)
    (log : RouteLog) :
    ∃ new : List Handed,
      (engine.dispatch platform letter index target child log).2.handed = new ++ log.handed ∧
      (∀ h ∈ new, h.index = index ∧ h.IsFor engine.dispatcher target child engine.maxAttempts) ∧
      ∀ receipt, (engine.dispatch platform letter index target child log).1 = .ok receipt →
        OnlyAnswer new receipt := by
  obtain ⟨new, hhanded, hnew, hreceipts⟩ := attemptsFrom_spec engine index target child
    engine.maxAttempts 1 none log le_rfl
  rw [Nat.add_sub_cancel_left] at hnew
  unfold dispatch
  rcases hloop : engine.attemptsFrom index target child engine.maxAttempts 1 none log with
    ⟨error | receipt, after⟩
  · rw [hloop] at hhanded
    simp only
    cases engine.deadLetter platform letter.1 letter.2 target child error with
    | error e => exact ⟨new, hhanded, hnew, by simp⟩
    | ok stored => exact ⟨new, hhanded, hnew, by simp⟩
  · rw [hloop] at hhanded hreceipts
    exact ⟨new, hhanded, hnew, fun receipt' h => hreceipts receipt' (congrArg _ (Except.ok.inj h))⟩

/-- The call is for one of the targets numbered from `index` on. -/
def IsForOneOf (envelope : ProductionEnvelope) (index : ℕ) (targets : List Str) (h : Handed) : Prop :=
  ∃ target child, index ≤ h.index ∧ targets[h.index - index]? = some target ∧
    engine.child platform envelope h.index target = .ok child ∧ h.IsFor engine.dispatcher target child engine.maxAttempts

variable {platform engine} in
theorem IsForOneOf.cons {envelope : ProductionEnvelope} {index : ℕ} {targets : List Str} {h : Handed}
    (hh : IsForOneOf platform engine envelope (index + 1) targets h) (target : Str) :
    IsForOneOf platform engine envelope index (target :: targets) h := by
  obtain ⟨target', child, hle, hget, hchild, hfor⟩ := hh
  refine ⟨target', child, by omega, ?_, hchild, hfor⟩
  rw [show h.index - index = h.index - (index + 1) + 1 by omega, List.getElem?_cons_succ]
  exact hget

variable {platform engine} in
theorem IsForOneOf.le_index {envelope : ProductionEnvelope} {index : ℕ} {targets : List Str} {h : Handed}
    (hh : IsForOneOf platform engine envelope index targets h) : index ≤ h.index := by
  obtain ⟨_, _, hle, -⟩ := hh
  exact hle

/-- The calls of the loop over the targets, and the receipts it returns. -/
theorem route_spec (letter : Str × Str) (envelope : ProductionEnvelope) (index : ℕ) (targets : List Str)
    (log : RouteLog) :
    ∃ new : List Handed,
      (engine.route platform letter envelope index targets log).2.handed = new ++ log.handed ∧
      (∀ h ∈ new, IsForOneOf platform engine envelope index targets h) ∧
      ∀ receipts, (engine.route platform letter envelope index targets log).1 = .ok receipts →
        receipts.length = targets.length ∧ Answered new index receipts := by
  induction targets generalizing index log with
  | nil =>
    refine ⟨[], rfl, by simp, fun receipts hreceipts => ?_⟩
    cases Except.ok.inj hreceipts
    exact ⟨rfl, by simp, by simp, by simp⟩
  | cons target rest ih =>
    unfold route
    cases engine.directory.resolve target envelope.destinationCapability envelope.classification.value
        envelope.routeMode.value envelope.organizationId envelope.tenantId with
    | error e => exact ⟨[], rfl, by simp, by simp⟩
    | ok registration =>
      cases hchild : engine.child platform envelope index target with
      | error e => exact ⟨[], rfl, by simp, by simp⟩
      | ok child =>
        obtain ⟨new, hhanded, hnew, hreceipt⟩ := dispatch_spec platform engine letter index target child log
        have hfirst : ∀ h ∈ new, IsForOneOf platform engine envelope index (target :: rest) h := by
          intro h hh
          obtain ⟨rfl, hfor⟩ := hnew h hh
          exact ⟨target, child, le_rfl, by simp, hchild, hfor⟩
        rcases hdispatch : engine.dispatch platform letter index target child log with
          ⟨error | receipt, after⟩
        · rw [hdispatch] at hhanded
          simp only [hdispatch]
          exact ⟨new, hhanded, hfirst, by simp⟩
        · rw [hdispatch] at hhanded hreceipt
          simp only [hdispatch]
          obtain ⟨later, hlater, hlaterNew, hlaterReceipts⟩ := ih (index + 1) after
          have hall : ∀ h ∈ later ++ new, IsForOneOf platform engine envelope index (target :: rest) h :=
            fun h hh => (List.mem_append.mp hh).elim (fun hl => (hlaterNew h hl).cons target) (hfirst h)
          rcases hroute : engine.route platform letter envelope (index + 1) rest after with
            ⟨error | receipts, final⟩
          · rw [hroute] at hlater
            simp only
            refine ⟨later ++ new, ?_, hall, by simp⟩
            simp only at hlater hhanded ⊢
            rw [hlater, hhanded, List.append_assoc]
          · rw [hroute] at hlater hlaterReceipts
            simp only
            refine ⟨later ++ new, ?_, hall, ?_⟩
            · simp only at hlater hhanded ⊢
              rw [hlater, hhanded, List.append_assoc]
            · intro receipts' hreceipts
              cases Except.ok.inj hreceipts
              obtain ⟨hlength, hanswered⟩ := hlaterReceipts receipts rfl
              exact ⟨congrArg Nat.succ hlength, hanswered.cons (fun h hh => (hlaterNew h hh).le_index)
                (fun h hh => (hnew h hh).1) (hreceipt receipt rfl)⟩

variable {platform engine} in
theorem child_spec {envelope child : ProductionEnvelope} {index : ℕ} {target : Str}
    (h : engine.child platform envelope index target = .ok child) : ∃ hash signature,
      digest platform.sha256 (.ofDict (payloadFor envelope index)) = .ok hash ∧
      child = { envelope with
        destinationPort := target
        payload := payloadFor envelope index
        payloadHash := hash
        transactionId := envelope.transactionId ++ str ":" ++ target
        signatures := [signature] } ∧
      engine.signer.sign child.unsigned = .ok signature := by
  simp only [RouteExecutionEngine.child, Js.bind_eq_ok, Js.pure_eq_ok] at h
  obtain ⟨hash, hhash, signature, hsignature, rfl⟩ := h
  exact ⟨hash, signature, hhash, rfl, hsignature⟩

/-- A run stops at the number of its targets, or is the loop with the summary of its receipts. -/
theorem execute_cases (letter : Str × Str) (envelope : ProductionEnvelope) :
    ((∃ e, engine.execute platform letter envelope = (.error e, ⟨[], []⟩)) ∨
      envelope.routeTargets ≠ [] ∧ engine.execute platform letter envelope =
        ((engine.route platform letter envelope 0 envelope.routeTargets ⟨[], []⟩).1.bind fun receipts =>
          (engine.reconciler receipts).bind (summary receipts),
        (engine.route platform letter envelope 0 envelope.routeTargets ⟨[], []⟩).2)) := by
  simp only [execute]
  by_cases hdirect : envelope.routeMode = .direct ∧ envelope.routeTargets.length ≠ 1
  · rw [if_pos hdirect]
    exact .inl ⟨_, rfl⟩
  rw [if_neg hdirect]
  by_cases hmany : (envelope.routeMode = .split ∨ envelope.routeMode = .multicast) ∧
      envelope.routeTargets.length < 2
  · rw [if_pos hmany]
    exact .inl ⟨_, rfl⟩
  rw [if_neg hmany]
  right
  constructor
  · intro hnil
    cases hmode : envelope.routeMode <;> simp [hmode, hnil] at hdirect hmany
  · rcases engine.route platform letter envelope 0 envelope.routeTargets ⟨[], []⟩ with ⟨e | receipts, log⟩ <;> rfl

/-- Every call of a run is for a target of the route and hands over the child of that target. -/
theorem execute_handed (letter : Str × Str) (envelope : ProductionEnvelope) :
    ∀ h ∈ (engine.execute platform letter envelope).2.handed, ∃ target child,
      envelope.routeTargets[h.index]? = some target ∧ engine.child platform envelope h.index target = .ok child ∧
        h.IsFor engine.dispatcher target child engine.maxAttempts := by
  intro h hh
  rcases execute_cases platform engine letter envelope with ⟨e, he⟩ | ⟨-, hrun⟩
  · rw [he] at hh
    exact absurd hh List.not_mem_nil
  · obtain ⟨new, hhanded, hnew, -⟩ := route_spec platform engine letter envelope 0
      envelope.routeTargets ⟨[], []⟩
    rw [hrun, hhanded, List.append_nil] at hh
    obtain ⟨target, child, -, hget, hchild, hfor⟩ := hnew h hh
    exact ⟨target, child, hget, hchild, hfor⟩

end RouteExecutionEngine

end Superstructure
