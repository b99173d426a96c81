import StrataPortNetwork.Superstructure.Sample

/-! # What Port Zero records

A port executes a nonce once, so a retry of an attempt that lost a response after the
execution is answered with a replay rejection, and that answer is recorded for good.
Where no attempt is made under a key that a port has executed before, the outcome
recorded is what the ports answered when they executed.
-/
namespace Superstructure
open Py
open Js (JsMap JsSet)

/-- Receipts name the message and a destination of the envelope they answer. -/
def Attempt.Produced (a : Attempt) : Prop :=
  ∀ r ∈ a.receipts, r.messageId = a.envelope.messageId ∧ r.portId ∈ a.envelope.destinationPorts

/-! ## The recorded outcomes -/

namespace PortZero
variable {platform : Platform} {z : PortZero}

@[simp] theorem recorded_updateBreakers (update : CircuitBreaker → CircuitBreaker) (destinations : List Str) (key : Str) :
    (z.updateBreakers update destinations).recorded key = z.recorded key := rfl

theorem recordOutcome_getReceipts {s s' : SQLiteState} {key : Str} {receipts : List Receipt}
    (h : s.recordOutcome key receipts = .ok s') (k : Str) :
    s'.getReceipts k = if key = k then some receipts else s.getReceipts k := by
  simp only [SQLiteState.recordOutcome, Js.bind_eq_ok, Js.pure_eq_ok] at h
  obtain ⟨⟨⟩, -, evidence, -, rfl⟩ := h
  rw [SQLiteState.getReceipts, JsMap.get_set]
  simp only [beq_iff_eq]
  rfl

/-- An outcome that is recorded is the one returned; an error records nothing. -/
theorem complete_cases (z : PortZero) (envelope : GovernedEnvelope) (receipts : List Receipt) :
    ((∃ e, (z.complete envelope receipts).1 = .error e) ∧
      ∀ key, (z.complete envelope receipts).2.recorded key = z.recorded key) ∨
    ((z.complete envelope receipts).1 = .ok receipts ∧ ∀ key, (z.complete envelope receipts).2.recorded key =
      if envelope.idempotencyKey = key then some receipts else z.recorded key) := by
  unfold complete
  cases hstate : z.state with
  | none =>
    refine Or.inr ?_
    simp only [updateBreakers, hstate, true_and]
    intro key
    simp only [recorded, hstate, JsMap.get_set, beq_iff_eq]
  | some state =>
    simp only [updateBreakers, hstate]
    cases hrecord : state.recordOutcome envelope.idempotencyKey receipts with
    | error e => exact Or.inl ⟨⟨e, rfl⟩, fun key => by simp only [recorded, hstate]⟩
    | ok state' =>
      refine Or.inr ⟨rfl, fun key => ?_⟩
      simp only [recorded, hstate]
      exact recordOutcome_getReceipts hrecord key

/-- Signing changes the payload hash and the signatures only. -/
theorem signed_spec {envelope signed : GovernedEnvelope} (h : z.signed platform envelope = .ok signed) :
    ∃ hash signatures, signed = { envelope with payloadHash := hash, signatures := signatures } := by
  simp only [PortZero.signed, Js.bind_eq_ok, Js.pure_eq_ok] at h
  obtain ⟨hash, -, signature, -, rfl⟩ := h
  exact ⟨hash, [signature], rfl⟩

end PortZero

namespace World
variable {platform : Platform} {ports : List ExternalPort} {w : World}

/-- An attempt adds itself to the log, changes the ports' state and nothing else. -/
theorem transmit_cases (w : World) (signed : GovernedEnvelope) (fates : List Delivery) :
    ∃ a state, a.envelope = signed ∧
      a.answers = (deliver platform ports signed signed.destinationPorts fates w.portState).answers ∧
      (w.transmit platform ports signed fates =
          (.ok a.receipts, { w with portState := state, log := a :: w.log }) ∨
        ∃ e, w.transmit platform ports signed fates =
          (.error e, { w with portState := state, log := a :: w.log })) := by
  refine ⟨⟨signed, (deliver platform ports signed signed.destinationPorts fates w.portState).answers⟩,
    (deliver platform ports signed signed.destinationPorts fates w.portState).state, rfl, rfl, ?_⟩
  unfold transmit
  by_cases hlost : (deliver platform ports signed signed.destinationPorts fates w.portState).lost = true
  · simp [hlost]
  · simp [hlost]

/-! ## Retries -/

/-- No answer so far comes from an execution under the key. -/
def Unexecuted (w : World) (key : Str) : Prop :=
  ∀ a ∈ w.log, a.envelope.idempotencyKey = key → ∀ x ∈ a.answers, x.executed = false

instance (w : World) (key : Str) : Decidable (w.Unexecuted key) := List.decidableBAll ..

/-- What holds after a transmission, if it raised. -/
def AfterLoss (p : World → Prop) : Outcome (List Receipt) × World → Prop
  | (.ok _, _) => True
  | (.error _, w) => p w

instance (p : World → Prop) [∀ w, Decidable (p w)] : ∀ result, Decidable (AfterLoss p result)
  | (.ok _, _) => inferInstanceAs (Decidable True)
  | (.error _, w) => inferInstanceAs (Decidable (p w))

variable (platform ports)

/-- Every attempt the loop makes finds the key unexecuted. -/
def RetriesUnexecuted (signed : GovernedEnvelope) : ℕ → List (List Delivery) → World → Prop
  | 0, _, _ => True
  | n + 1, network, w => w.Unexecuted signed.idempotencyKey ∧
      AfterLoss (fun w => RetriesUnexecuted signed n network.tail
        { w with portZero := w.portZero.updateBreakers .failure signed.destinationPorts })
        (w.transmit platform ports signed (network.headD []))

instance decidableRetries (signed : GovernedEnvelope) :
    ∀ n network w, Decidable (RetriesUnexecuted platform ports signed n network w)
  | 0, _, _ => inferInstanceAs (Decidable True)
  | n + 1, network, w =>
    have : ∀ w, Decidable (RetriesUnexecuted platform ports signed n network.tail w) :=
      decidableRetries signed n network.tail
    inferInstanceAs (Decidable (_ ∧ AfterLoss _ _))

/-- A dispatch makes attempts only under a key unexecuted so far. -/
def DispatchUnexecuted (w : World) (submission : Submission) : Prop :=
  match w.portZero.admission platform submission.envelope submission.now,
    w.portZero.recorded submission.envelope.idempotencyKey, w.portZero.signed platform submission.envelope with
  | .ok _, none, .ok signed =>
    RetriesUnexecuted platform ports signed w.portZero.maxAttempts submission.network w
  | _, _, _ => True

instance (w : World) (submission : Submission) : Decidable (DispatchUnexecuted platform ports w submission) := by
  unfold DispatchUnexecuted
  split <;> infer_instance

/-- What ports answered when they executed an envelope is what is recorded under its key,
if anything is. -/
def Faithful (w : World) : Prop :=
  ∀ a ∈ w.log, (∃ x ∈ a.answers, x.executed = true) →
    ∀ receipts, w.portZero.recorded a.envelope.idempotencyKey = some receipts → receipts = a.receipts

variable {platform ports}

theorem attempts_faithful {signed : GovernedEnvelope} {n : ℕ} {network : List (List Delivery)}
    {lastError : Option PyError} {w : World} (hw : w.Faithful)
    (hnone : w.portZero.recorded signed.idempotencyKey = none)
    (hquiet : RetriesUnexecuted platform ports signed n network w) :
    (w.attempts platform ports signed n network lastError).2.Faithful := by
  induction n generalizing network lastError w with
  | zero => exact hw
  | succ n ih =>
    obtain ⟨hunexecuted, hretries⟩ := hquiet
    obtain ⟨a, state, henvelope, -, hok | ⟨e, herror⟩⟩ := @transmit_cases platform ports w signed (network.headD [])
    · rw [attempts, hok]
      -- The new attempt is the only one under its key that executed.
      rcases w.portZero.complete_cases signed a.receipts with ⟨-, hrecorded⟩ | ⟨-, hrecorded⟩
      · intro b hb hexecuted receipts hreceipts
        simp only [hrecorded] at hreceipts
        rcases List.mem_cons.mp hb with rfl | hb
        · rw [henvelope, hnone] at hreceipts
          simp at hreceipts
        · exact hw b hb hexecuted receipts hreceipts
      · intro b hb hexecuted receipts hreceipts
        simp only [hrecorded] at hreceipts
        by_cases hkey : signed.idempotencyKey = b.envelope.idempotencyKey
        · rw [if_pos hkey] at hreceipts
          rcases List.mem_cons.mp hb with rfl | hb
          · exact (Option.some.inj hreceipts).symm
          · obtain ⟨x, hx, hxe⟩ := hexecuted
            rw [hunexecuted b hb hkey.symm x hx] at hxe
            simp at hxe
        · rw [if_neg hkey] at hreceipts
          rcases List.mem_cons.mp hb with rfl | hb
          · exact absurd (congrArg GovernedEnvelope.idempotencyKey henvelope.symm) hkey
          · exact hw b hb hexecuted receipts hreceipts
    · rw [attempts, herror]
      rw [herror] at hretries
      refine ih ?_ hnone hretries
      intro b hb hexecuted receipts hreceipts
      rw [PortZero.recorded_updateBreakers] at hreceipts
      rcases List.mem_cons.mp hb with rfl | hb
      · rw [henvelope, hnone] at hreceipts
        simp at hreceipts
      · exact hw b hb hexecuted receipts hreceipts

theorem dispatch_faithful {submission : Submission} (hw : w.Faithful)
    (hquiet : DispatchUnexecuted platform ports w submission) : (w.step platform ports submission).Faithful := by
  unfold step dispatch
  unfold DispatchUnexecuted at hquiet
  cases hadmission : w.portZero.admission platform submission.envelope submission.now with
  | error e => exact hw
  | ok _ =>
    cases hrecorded : w.portZero.recorded submission.envelope.idempotencyKey with
    | some prior => exact hw
    | none =>
      cases hsigned : w.portZero.signed platform submission.envelope with
      | error e => exact hw
      | ok signed =>
        rw [hadmission, hrecorded, hsigned] at hquiet
        obtain ⟨hash, signatures, hspec⟩ := PortZero.signed_spec hsigned
        refine attempts_faithful hw ?_ hquiet
        rw [hspec]
        exact hrecorded

/-- In a run without retries after an execution, whenever an adapter executed an envelope and
its port issued a receipt for it, the outcome recorded under the envelope's key holds that
receipt: it is the list of what the ports answered in that attempt. -/
theorem recorded_outcome_faithful (hstart : w.log = []) {submissions : List Submission}
    (hquiet : Transition.Steps (step platform ports) (DispatchUnexecuted platform ports) w submissions) :
    ∀ a ∈ (Transition.run (step platform ports) w submissions).log, ∀ x ∈ a.answers, x.executed = true →
      ∀ receipts, (Transition.run (step platform ports) w submissions).portZero.recorded
          a.envelope.idempotencyKey = some receipts →
        x.receipt ∈ receipts ∧ receipts = a.receipts := by
  have hfaithful : (Transition.run (step platform ports) w submissions).Faithful := by
    refine Transition.run_invariant_of_steps (fun _ _ hquiet hw => dispatch_faithful hw hquiet) ?_ hquiet
    rw [Faithful, hstart]
    simp
  intro a ha x hx hexecuted receipts hrecorded
  have hreceipts := hfaithful a ha ⟨x, hx, hexecuted⟩ receipts hrecorded
  refine ⟨?_, hreceipts⟩
  rw [hreceipts]
  exact List.mem_map_of_mem hx

end World

namespace Sample

/-- Some executed answer of the log is missing in the outcome under its key. -/
def misses (w : World) : Bool := w.log.any fun a => a.answers.any fun x =>
  x.executed && (w.portZero.recorded a.envelope.idempotencyKey).any fun receipts => !receipts.contains x.receipt

theorem exists_of_misses {w : World} (h : misses w = true) : ∃ a ∈ w.log, ∃ x ∈ a.answers, x.executed = true ∧
    ∃ receipts, w.portZero.recorded a.envelope.idempotencyKey = some receipts ∧ x.receipt ∉ receipts := by
  obtain ⟨a, ha, h⟩ := List.any_eq_true.mp h
  obtain ⟨x, hx, h⟩ := List.any_eq_true.mp h
  rw [Bool.and_eq_true, Option.any_eq_true] at h
  obtain ⟨hexecuted, receipts, hreceipts, hmissing⟩ := h
  exact ⟨a, ha, x, hx, hexecuted, receipts, hreceipts, by simpa using hmissing⟩

/-- A retry after a lost request meets the condition. -/
def retried : World.Submission := requestLost "message-1" "nonce-1" (dict [("samples_watts", .int 10)])

/-- Another message with another payload under the same key. -/
def reusing : World.Submission := requestLost "message-2" "nonce-2" (dict [("samples_watts", .int 20)])

/-- The receipts are all for the first message and there are some. -/
def answersFirst : Outcome (List Receipt) → Bool
  | .ok receipts => !receipts.isEmpty && receipts.all fun r => r.messageId == retried.envelope.messageId
  | .error _ => false

/-- What the sample runs come to, evaluated at once. -/
theorem runs_evaluated : misses (world.step platform [watt] responseLost) = true ∧
    (Transition.run (World.step platform [watt]) world [retried]).log ≠ [] ∧
    Transition.Steps (World.step platform [watt]) (World.DispatchUnexecuted platform [watt]) world [retried] ∧
    ((Transition.run (World.step platform [watt]) world []).dispatch platform [watt] retried).1.isOk = true ∧
    answersFirst ((world.step platform [watt] retried).dispatch platform [watt] reusing).1 = true ∧
    ((world.step platform [watt] retried).step platform [watt] reusing).log.length =
      (world.step platform [watt] retried).log.length := by
  decide +kernel

/-- A retry after a lost response is answered with a replay rejection, which stays recorded. -/
theorem replay_rejection_recorded :
    ∃ a ∈ (world.step platform [watt] responseLost).log, ∃ x ∈ a.answers, x.executed = true ∧
      ∃ receipts, (world.step platform [watt] responseLost).portZero.recorded a.envelope.idempotencyKey =
        some receipts ∧ x.receipt ∉ receipts :=
  exists_of_misses runs_evaluated.1

theorem retried_outcome_faithful : (Transition.run (World.step platform [watt]) world [retried]).log ≠ [] ∧
    ∀ a ∈ (Transition.run (World.step platform [watt]) world [retried]).log, ∀ x ∈ a.answers, x.executed = true →
      ∀ receipts, (Transition.run (World.step platform [watt]) world [retried]).portZero.recorded
          a.envelope.idempotencyKey = some receipts → x.receipt ∈ receipts ∧ receipts = a.receipts :=
  ⟨runs_evaluated.2.1, World.recorded_outcome_faithful rfl runs_evaluated.2.2.1⟩

end Sample

namespace World
variable {platform : Platform} {ports : List ExternalPort} {w : World}

/-! ## Receipts and the envelopes they are for -/

theorem receiptOf_spec {port : ExternalPort} {envelope : GovernedEnvelope} {state : ReceiptState} {detail : Str}
    {truth : Option TruthClass} {receipt : Receipt}
    (h : port.receiptOf platform envelope state detail truth = .ok receipt) :
    receipt.messageId = envelope.messageId ∧ receipt.portId = port.portId := by
  simp only [ExternalPort.receiptOf, Js.bind_eq_ok, Js.pure_eq_ok] at h
  obtain ⟨evidenceHash, -, signature, -, rfl⟩ := h
  exact ⟨rfl, rfl⟩

theorem receive_spec {port : ExternalPort} {state : SQLiteState} {provider : Outcome ProviderResult}
    {envelope : GovernedEnvelope} {receipt : Receipt}
    (h : (port.receive platform state provider envelope).receipt = .ok receipt) :
    receipt.messageId = envelope.messageId ∧ receipt.portId = port.portId := by
  unfold ExternalPort.receive at h
  split at h
  · simp at h
  · exact receiptOf_spec h
  · split at h
    · exact receiptOf_spec h
    · split at h
      · simp at h
      · exact receiptOf_spec h

theorem deliver_produced (signed : GovernedEnvelope) (destinations : List Str) (fates : List Delivery)
    (state : SQLiteState) (hsub : ∀ d ∈ destinations, d ∈ signed.destinationPorts) :
    ∀ x ∈ (deliver platform ports signed destinations fates state).answers,
      x.receipt.messageId = signed.messageId ∧ x.receipt.portId ∈ signed.destinationPorts := by
  induction destinations generalizing fates state with
  | nil => simp [deliver]
  | cons destination rest ih =>
    obtain ⟨hhead, hrest⟩ := List.forall_mem_cons.mp hsub
    unfold deliver
    split
    · rename_i port provider responseLost hport hfate
      have hid : port.portId = destination := by simpa using List.find?_some hport
      cases hreceipt : (port.receive platform state provider signed).receipt with
      | error e =>
        simp only [hreceipt]
        exact ih _ _ hrest
      | ok receipt =>
        simp only [hreceipt]
        intro x hx
        rcases List.mem_cons.mp hx with rfl | hx
        · obtain ⟨hmessage, hportId⟩ := receive_spec hreceipt
          exact ⟨hmessage, by rw [hportId, hid]; exact hhead⟩
        · exact ih _ _ hrest x hx
    · exact ih _ _ hrest

/-- The attempts of one loop are all for the signed envelope; what is returned comes from one
of them, and nothing else is recorded. -/
theorem attempts_spec (signed : GovernedEnvelope) (n : ℕ) (network : List (List Delivery)) (lastError : Option PyError)
    (w : World) :
    ∃ new : List Attempt, (w.attempts platform ports signed n network lastError).2.log = new ++ w.log ∧
      (∀ a ∈ new, a.envelope = signed ∧ a.Produced) ∧
      (∀ receipts, (w.attempts platform ports signed n network lastError).1 = .ok receipts →
        ∃ a ∈ new, receipts = a.receipts) ∧
      ∀ key receipts, (w.attempts platform ports signed n network lastError).2.portZero.recorded key = some receipts →
        w.portZero.recorded key = some receipts ∨ (signed.idempotencyKey = key ∧ ∃ a ∈ new, receipts = a.receipts) := by
  induction n generalizing network lastError w with
  | zero => exact ⟨[], rfl, by simp, by simp [attempts], fun key receipts h => Or.inl h⟩
  | succ n ih =>
    obtain ⟨a, state, henvelope, hanswers, hcases⟩ := @transmit_cases platform ports w signed (network.headD [])
    have hproduced : a.Produced := by
      intro r hr
      obtain ⟨x, hx, rfl⟩ := List.mem_map.mp hr
      rw [hanswers] at hx
      rw [henvelope]
      exact deliver_produced signed _ _ _ (fun _ hd => hd) x hx
    rcases hcases with hok | ⟨e, herror⟩
    · rw [attempts, hok]
      refine ⟨[a], rfl, by simpa using ⟨henvelope, hproduced⟩, ?_, ?_⟩
      · intro receipts hreceipts
        rcases w.portZero.complete_cases signed a.receipts with ⟨⟨e, he⟩, -⟩ | ⟨hreturned, -⟩
        · rw [he] at hreceipts
          simp at hreceipts
        · rw [hreturned] at hreceipts
          exact ⟨a, List.mem_singleton_self a, (Except.ok.inj hreceipts).symm⟩
      · intro key receipts hreceipts
        rcases w.portZero.complete_cases signed a.receipts with ⟨-, hrecorded⟩ | ⟨-, hrecorded⟩
        · exact Or.inl ((hrecorded key).symm.trans hreceipts)
        · simp only [hrecorded] at hreceipts
          split at hreceipts
          · exact Or.inr ⟨‹_›, a, List.mem_singleton_self a, (Option.some.inj hreceipts).symm⟩
          · exact Or.inl hreceipts
    · rw [attempts, herror]
      obtain ⟨new, hlog, hnew, hreturned, hrecorded⟩ := ih network.tail (some e) { w with
        portState := state
        log := a :: w.log
        portZero := w.portZero.updateBreakers .failure signed.destinationPorts }
      refine ⟨new ++ [a], ?_, ?_, ?_, ?_⟩
      · rw [hlog, List.append_assoc, List.singleton_append]
      · intro b hb
        rcases List.mem_append.mp hb with hb | hb
        · exact hnew b hb
        · rw [List.mem_singleton.mp hb]
          exact ⟨henvelope, hproduced⟩
      · intro receipts hreceipts
        obtain ⟨b, hb, hb'⟩ := hreturned receipts hreceipts
        exact ⟨b, List.mem_append_left _ hb, hb'⟩
      · intro key receipts hreceipts
        rcases hrecorded key receipts hreceipts with hold | ⟨hkey, b, hb, hb'⟩
        · exact Or.inl hold
        · exact Or.inr ⟨hkey, b, List.mem_append_left _ hb, hb'⟩

/-- Every recorded outcome is what the ports answered in an attempt under its key. -/
structure Logged (w : World) : Prop where
  recorded : ∀ key receipts, w.portZero.recorded key = some receipts →
    ∃ a ∈ w.log, a.envelope.idempotencyKey = key ∧ receipts = a.receipts
  produced : ∀ a ∈ w.log, a.Produced

theorem step_logged {submission : Submission} (hw : w.Logged) : (w.step platform ports submission).Logged := by
  unfold step dispatch
  cases w.portZero.admission platform submission.envelope submission.now with
  | error e => exact hw
  | ok _ =>
    cases w.portZero.recorded submission.envelope.idempotencyKey with
    | some prior => exact hw
    | none =>
      cases w.portZero.signed platform submission.envelope with
      | error e => exact hw
      | ok signed =>
        obtain ⟨new, hlog, hnew, -, hrecorded⟩ := @attempts_spec platform ports signed
          w.portZero.maxAttempts submission.network none w
        constructor
        · intro key receipts hreceipts
          simp only [hlog]
          rcases hrecorded key receipts hreceipts with hold | ⟨hkey, a, ha, hreceipts⟩
          · obtain ⟨a, ha, hkey, hreceipts⟩ := hw.recorded key receipts hold
            exact ⟨a, List.mem_append_right _ ha, hkey, hreceipts⟩
          · exact ⟨a, List.mem_append_left _ ha, by rw [(hnew a ha).1, hkey], hreceipts⟩
        · intro a ha
          simp only [hlog] at ha
          rcases List.mem_append.mp ha with ha | ha
          · exact (hnew a ha).2
          · exact hw.produced a ha

/-- Receipts returned in any run are what the ports answered for an envelope under the same
key: for the submitted one where the key had no outcome, and otherwise for the one whose
outcome is recorded, which is returned as it is and changes nothing. -/
theorem returned_receipts_bound_to_key (hlog : w.log = []) (hnone : ∀ key, w.portZero.recorded key = none)
    (submissions : List Submission) (submission : Submission) {receipts : List Receipt}
    (h : ((Transition.run (step platform ports) w submissions).dispatch platform ports submission).1 = .ok receipts) :
    let w' := Transition.run (step platform ports) w submissions
    let key := submission.envelope.idempotencyKey
    (w'.portZero.recorded key = none ∧ ∃ a ∈ (w'.step platform ports submission).log,
        a.envelope.payload = submission.envelope.payload ∧
        a.envelope.destinationPorts = submission.envelope.destinationPorts ∧
        a.envelope.idempotencyKey = key ∧ a.Produced ∧ receipts = a.receipts) ∨
      (w'.portZero.recorded key = some receipts ∧ w'.step platform ports submission = w' ∧
        ∃ a ∈ w'.log, a.envelope.idempotencyKey = key ∧ a.Produced ∧ receipts = a.receipts) := by
  intro w' key
  have hlogged : w'.Logged := by
    refine Transition.run_invariant (fun _ _ hw => step_logged hw) ⟨?_, by simp [hlog]⟩ submissions
    intro key receipts hreceipts
    rw [hnone] at hreceipts
    simp at hreceipts
  change (w'.dispatch platform ports submission).1 = .ok receipts at h
  unfold step
  unfold dispatch at h ⊢
  cases hadmission : w'.portZero.admission platform submission.envelope submission.now with
  | error e => simp [hadmission] at h
  | ok _ =>
    simp only [hadmission] at h ⊢
    cases hrecorded : w'.portZero.recorded submission.envelope.idempotencyKey with
    | some prior =>
      simp only [hrecorded] at h ⊢
      obtain ⟨a, ha, hkey, hreceipts⟩ := hlogged.recorded _ _ hrecorded
      rw [← Except.ok.inj h]
      exact Or.inr ⟨rfl, trivial, a, ha, hkey, hlogged.produced a ha, hreceipts⟩
    | none =>
      simp only [hrecorded] at h ⊢
      cases hsigned : w'.portZero.signed platform submission.envelope with
      | error e => simp [hsigned] at h
      | ok signed =>
        simp only [hsigned] at h ⊢
        obtain ⟨new, hnewlog, hnew, hreturned, -⟩ := @attempts_spec platform ports signed
          w'.portZero.maxAttempts submission.network none w'
        obtain ⟨a, ha, hreceipts⟩ := hreturned receipts h
        obtain ⟨hash, signatures, hspec⟩ := PortZero.signed_spec hsigned
        obtain ⟨henvelope, hproduced⟩ := hnew a ha
        refine Or.inl ⟨trivial, a, ?_, ?_, ?_, ?_, hproduced, hreceipts⟩
        · rw [hnewlog]
          exact List.mem_append_left _ ha
        · rw [henvelope, hspec]
        · rw [henvelope, hspec]
        · rw [henvelope, hspec]

end World

namespace Sample

theorem first_receipts_bound_to_key : ∃ receipts,
    ((Transition.run (World.step platform [watt]) world []).dispatch platform [watt] retried).1 = .ok receipts ∧
    ((world.portZero.recorded retried.envelope.idempotencyKey = none ∧ ∃ a ∈ (world.step platform [watt] retried).log,
        a.envelope.payload = retried.envelope.payload ∧
        a.envelope.destinationPorts = retried.envelope.destinationPorts ∧
        a.envelope.idempotencyKey = retried.envelope.idempotencyKey ∧ a.Produced ∧ receipts = a.receipts) ∨
      (world.portZero.recorded retried.envelope.idempotencyKey = some receipts ∧
        world.step platform [watt] retried = world ∧
        ∃ a ∈ world.log, a.envelope.idempotencyKey = retried.envelope.idempotencyKey ∧ a.Produced ∧
          receipts = a.receipts)) := by
  obtain ⟨-, -, -, hok, -⟩ := runs_evaluated
  cases h : ((Transition.run (World.step platform [watt]) world []).dispatch platform [watt] retried).1 with
  | error e =>
    rw [h] at hok
    simp [Except.isOk, Except.toBool] at hok
  | ok receipts => exact ⟨receipts, rfl, World.returned_receipts_bound_to_key rfl (fun _ => rfl) [] retried h⟩

/-- The second message is answered with receipts of the first, and nothing is sent for it. -/
theorem reused_key_answered_with_first_receipts :
    ((world.step platform [watt] retried).step platform [watt] reusing).log.length =
        (world.step platform [watt] retried).log.length ∧
      retried.envelope.payload.get (str "samples_watts") = some (.int 10) ∧
      reusing.envelope.payload.get (str "samples_watts") = some (.int 20) ∧
      retried.envelope.messageId ≠ reusing.envelope.messageId ∧
      ∃ receipts, ((world.step platform [watt] retried).dispatch platform [watt] reusing).1 = .ok receipts ∧
        receipts ≠ [] ∧ ∀ r ∈ receipts, r.messageId = retried.envelope.messageId := by
  obtain ⟨-, -, -, -, hfirst, hlength⟩ := runs_evaluated
  refine ⟨hlength, by rfl, by rfl, by decide, ?_⟩
  cases h : ((world.step platform [watt] retried).dispatch platform [watt] reusing).1 with
  | error e =>
    rw [h] at hfirst
    simp [answersFirst] at hfirst
  | ok receipts =>
    rw [h, answersFirst, Bool.and_eq_true, List.all_eq_true] at hfirst
    exact ⟨receipts, rfl, by simpa using hfirst.1, fun r hr => eq_of_beq (hfirst.2 r hr)⟩

end Sample

end Superstructure
