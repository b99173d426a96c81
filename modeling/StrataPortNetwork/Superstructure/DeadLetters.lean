import StrataPortNetwork.Superstructure.Attempts

/-! # Bounded retries and dead letters

The calls for a target are its attempts, numbered from one and no more than the engine allows, and
all but the last of them raised. A target that none of its attempts reached leaves one dead letter
and ends the route.
-/
namespace Superstructure
open Py

def Handed.Raised (h : Handed) : Prop := ∃ e, h.answer = .error e

/-- Calls in their order: attempts numbered from `first` on, each of which raised but the last. -/
structure Attempted (first most : ℕ) (calls : List Handed) : Prop where
  numbered : calls.map Handed.attempt = List.range' first calls.length
  bounded : calls.length ≤ most
  raised : calls.Pairwise fun earlier _ => earlier.Raised

/-- The last of the calls was answered with the receipt. -/
def AnsweredWith (calls : List Handed) (receipt : SignedPortReceipt) : Prop :=
  ∃ before h, calls = before ++ [h] ∧ h.answer = .ok receipt

/-- As many calls as the engine allows, and no answer. -/
structure Exhausted (most : ℕ) (calls : List Handed) : Prop where
  length : calls.length = most
  raised : ∀ h ∈ calls, h.Raised

theorem Attempted.nil {first most : ℕ} : Attempted first most [] := ⟨rfl, Nat.zero_le _, .nil⟩

theorem Attempted.cons {first most : ℕ} {h : Handed} {calls : List Handed} (hcalls : Attempted (first + 1) most calls)
    (hattempt : h.attempt = first) (hraised : h.Raised) : Attempted first (most + 1) (h :: calls) where
  numbered := by rw [List.map_cons, hcalls.numbered, hattempt, List.length_cons, List.range'_succ]
  bounded := Nat.succ_le_succ hcalls.bounded
  raised := List.pairwise_cons.mpr ⟨fun _ _ => hraised, hcalls.raised⟩

theorem AnsweredWith.cons {calls : List Handed} {receipt : SignedPortReceipt} (h : AnsweredWith calls receipt) (first : Handed) :
    AnsweredWith (first :: calls) receipt := by
  obtain ⟨before, last, rfl, hanswer⟩ := h
  exact ⟨first :: before, last, rfl, hanswer⟩

/-- The calls for the target with an index. -/
def callsFor (calls : List Handed) (index : ℕ) : List Handed := calls.filter fun h => h.index = index

theorem callsFor_append (calls calls' : List Handed) (index : ℕ) :
    callsFor (calls ++ calls') index = callsFor calls index ++ callsFor calls' index := List.filter_append ..

theorem callsFor_self {calls : List Handed} {index : ℕ} (h : ∀ c ∈ calls, c.index = index) : callsFor calls index = calls :=
  List.filter_eq_self.mpr fun c hc => decide_eq_true (h c hc)

theorem callsFor_other {calls : List Handed} {index : ℕ} (h : ∀ c ∈ calls, c.index ≠ index) : callsFor calls index = [] :=
  List.filter_eq_nil_iff.mpr fun c hc => by simpa using h c hc

namespace RouteExecutionEngine
variable (platform : Platform) (engine : RouteExecutionEngine)

/-- The loop over the attempts ends with an answer or when no attempt is left. -/
theorem attemptsFrom_calls (index : ℕ) (target : Str) (child : ProductionEnvelope) (left attempt : ℕ) (error : Option PyError)
    (log : RouteLog) : ∃ calls : List Handed,
      (engine.attemptsFrom index target child left attempt error log).2 = { log with handed := calls.reverse ++ log.handed } ∧
      (∀ h ∈ calls, h.index = index) ∧ Attempted attempt left calls ∧
      ((∃ receipt, (engine.attemptsFrom index target child left attempt error log).1 = .ok receipt ∧ AnsweredWith calls receipt) ∨
        ∃ e, (engine.attemptsFrom index target child left attempt error log).1 = .error e ∧ Exhausted left calls) := by
  induction left generalizing attempt error log with
  | zero => exact ⟨[], rfl, by simp, .nil, .inr ⟨error, rfl, rfl, by simp⟩⟩
  | succ left ih =>
    rw [attemptsFrom]
    let call : Outcome SignedPortReceipt → Handed :=
      Handed.mk index attempt target { child with attempt := attempt } child.transactionId
    cases hanswer : engine.dispatcher log.handed target { child with attempt := attempt } child.transactionId with
    | ok receipt =>
      have hone : Attempted attempt (left + 1) [call (.ok receipt)] :=
        ⟨rfl, Nat.succ_le_succ (Nat.zero_le _), List.pairwise_singleton _ _⟩
      exact ⟨[call (.ok receipt)], rfl, by simp [call], hone, .inl ⟨receipt, rfl, [], call (.ok receipt), rfl, rfl⟩⟩
    | error e =>
      obtain ⟨calls, hlog, hindex, hattempted, hend⟩ := ih (attempt + 1) (some e)
        { log with handed := call (.error e) :: log.handed }
      refine ⟨call (.error e) :: calls, ?_, ?_, hattempted.cons rfl ⟨e, rfl⟩, ?_⟩
      · rw [List.reverse_cons, List.append_assoc]
        exact hlog
      · exact List.forall_mem_cons.mpr ⟨rfl, hindex⟩
      · rcases hend with ⟨receipt, hreceipt, hanswered⟩ | ⟨last, hlast, hexhausted⟩
        · exact .inl ⟨receipt, hreceipt, hanswered.cons _⟩
        · exact .inr ⟨last, hlast, congrArg Nat.succ hexhausted.length,
            List.forall_mem_cons.mpr ⟨⟨e, rfl⟩, hexhausted.raised⟩⟩

/-- The dead letter of a target that was not reached. -/
structure Buried (envelope : ProductionEnvelope) (index : ℕ) (targets : List Str) (calls : List Handed) (letter : DeadLetter) : Prop where
  exhausted : ∃ i target child, index ≤ i ∧ targets[i - index]? = some target ∧ engine.child platform envelope i target = .ok child ∧
    letter.portId = target ∧ letter.transactionId = child.transactionId ∧ letter.payloadHash = child.payloadHash ∧
      Exhausted engine.maxAttempts (callsFor calls i) ∧ ∀ h ∈ calls, h.index ≤ i
  attempts : letter.attempts = engine.maxAttempts
  state : letter.state = str "pending"

/-- `RuntimeError` of a target that was not reached. -/
def retryExhaustion : PyError := ⟨.runtimeError, str "retry exhaustion; dead letter persisted"⟩

/-- The calls of a route from the target numbered `index` on, in their order, and its dead letters. -/
structure Bounded (envelope : ProductionEnvelope) (index : ℕ) (targets : List Str) (calls : List Handed) (letters : List DeadLetter)
    (outcome : Outcome (List SignedPortReceipt)) : Prop where
  ordered : calls.Pairwise fun h h' => h.index ≤ h'.index
  within : ∀ h ∈ calls, index ≤ h.index ∧ h.index < index + targets.length
  attempted : ∀ i, Attempted 1 engine.maxAttempts (callsFor calls i)
  next : ∀ i ≥ index, callsFor calls (i + 1) ≠ [] → ∃ receipt, AnsweredWith (callsFor calls i) receipt
  letters : letters = [] ∨ outcome = .error retryExhaustion ∧ ∃ letter, letters = [letter] ∧
    Buried platform engine envelope index targets calls letter
  returned : ∀ receipts, outcome = .ok receipts → receipts.length = targets.length ∧
    ∀ i receipt, receipts[i]? = some receipt → AnsweredWith (callsFor calls (index + i)) receipt

variable {platform engine}

theorem deadLetter_eq_ok {deadLetterId createdAt target : Str} {child : ProductionEnvelope} {error : Option PyError} {letter : DeadLetter}
    (h : engine.deadLetter platform deadLetterId createdAt target child error = .ok letter) :
    letter.portId = target ∧ letter.transactionId = child.transactionId ∧ letter.payloadHash = child.payloadHash ∧
      letter.attempts = engine.maxAttempts ∧ letter.state = str "pending" := by
  simp only [deadLetter, Js.bind_eq_ok, Js.pure_eq_ok] at h
  obtain ⟨evidence, -, rfl⟩ := h
  exact ⟨rfl, rfl, rfl, rfl, rfl⟩

variable (platform engine) in
/-- A target is reached by its last call, or all its calls raised and the route ends here. -/
theorem dispatch_calls (letter : Str × Str) (index : ℕ) (target : Str) (child : ProductionEnvelope) (log : RouteLog) :
    ∃ calls letters, (engine.dispatch platform letter index target child log).2 =
        ⟨calls.reverse ++ log.handed, log.deadLetters ++ letters⟩ ∧
      (∀ h ∈ calls, h.index = index) ∧ Attempted 1 engine.maxAttempts calls ∧
      ((∃ receipt, (engine.dispatch platform letter index target child log).1 = .ok receipt ∧ letters = [] ∧
          AnsweredWith calls receipt) ∨
        Exhausted engine.maxAttempts calls ∧ ((∃ e, (engine.dispatch platform letter index target child log).1 = .error e ∧
          letters = []) ∨ ∃ stored error, (engine.dispatch platform letter index target child log).1 = .error retryExhaustion ∧
            letters = [stored] ∧ engine.deadLetter platform letter.1 letter.2 target child error = .ok stored)) := by
  obtain ⟨calls, hlog, hindex, hattempted, hend⟩ := attemptsFrom_calls engine index target child engine.maxAttempts 1 none log
  unfold dispatch
  rcases hloop : engine.attemptsFrom index target child engine.maxAttempts 1 none log with ⟨error | receipt, after⟩
  · rw [hloop] at hlog hend
    obtain rfl : after = { log with handed := calls.reverse ++ log.handed } := hlog
    have hexhausted : Exhausted engine.maxAttempts calls := by
      rcases hend with ⟨receipt, hreceipt, -⟩ | ⟨-, -, hexhausted⟩
      · cases hreceipt
      · exact hexhausted
    simp only
    cases hletter : engine.deadLetter platform letter.1 letter.2 target child error with
    | error e => exact ⟨calls, [], by rw [List.append_nil], hindex, hattempted, .inr ⟨hexhausted, .inl ⟨e, rfl, rfl⟩⟩⟩
    | ok stored =>
      refine ⟨calls, [stored], rfl, hindex, hattempted, .inr ⟨hexhausted, .inr ⟨stored, error, ?_, rfl, hletter⟩⟩⟩
      rw [retryExhaustion]
  · rw [hloop] at hlog hend
    obtain rfl : after = { log with handed := calls.reverse ++ log.handed } := hlog
    refine ⟨calls, [], by rw [List.append_nil], hindex, hattempted, .inl ⟨receipt, rfl, rfl, ?_⟩⟩
    rcases hend with ⟨receipt', hreceipt, hanswered⟩ | ⟨e, hlast, -⟩
    · exact Except.ok.inj hreceipt ▸ hanswered
    · cases hlast

variable {envelope : ProductionEnvelope} {index : ℕ} {targets : List Str}

theorem Bounded.nil {outcome : Outcome (List SignedPortReceipt)} (h : ∀ receipts, outcome = .ok receipts → targets = [] ∧ receipts = []) :
    Bounded platform engine envelope index targets [] [] outcome where
  ordered := .nil
  within := by simp
  attempted _ := .nil
  next _ _ h := absurd rfl h
  letters := .inl rfl
  returned receipts hreceipts := by
    obtain ⟨rfl, rfl⟩ := h receipts hreceipts
    exact ⟨rfl, by simp⟩

/-- The calls for the first target, where the route ends with them. -/
theorem Bounded.last {target : Str} {rest : List Str} {calls : List Handed} {letters : List DeadLetter} {e : PyError}
    (hindex : ∀ h ∈ calls, h.index = index) (hattempted : Attempted 1 engine.maxAttempts calls)
    (hletters : letters = [] ∨ e = retryExhaustion ∧ ∃ letter, letters = [letter] ∧
      Buried platform engine envelope index (target :: rest) calls letter) :
    Bounded platform engine envelope index (target :: rest) calls letters (.error e) where
  ordered := List.pairwise_iff_forall_sublist.mpr fun {h h'} hsub => by
    rw [hindex h (hsub.subset List.mem_cons_self), hindex h' (hsub.subset (List.mem_cons_of_mem _ List.mem_cons_self))]
  within h hh := by
    rw [hindex h hh, List.length_cons]
    omega
  attempted i := by
    by_cases hi : i = index
    · rw [callsFor_self (hi ▸ hindex)]
      exact hattempted
    · rw [callsFor_other fun h hh heq => hi (heq.symm.trans (hindex h hh))]
      exact .nil
  next i hi hnext := by
    refine absurd (callsFor_other fun h hh heq => ?_) hnext
    have := hindex h hh
    omega
  letters := hletters.imp_right fun ⟨he, hletter⟩ => ⟨congrArg _ he, hletter⟩
  returned receipts h := by cases h

/-- The calls for the first target, which its last call reached, before those for the others. -/
theorem Bounded.cons (target : Str) {calls later : List Handed} {letters : List DeadLetter} {receipt : SignedPortReceipt}
    {outcome : Outcome (List SignedPortReceipt)} (hindex : ∀ h ∈ calls, h.index = index)
    (hattempted : Attempted 1 engine.maxAttempts calls) (hanswered : AnsweredWith calls receipt)
    (hlater : Bounded platform engine envelope (index + 1) targets later letters outcome) :
    Bounded platform engine envelope index (target :: targets) (calls ++ later) letters (outcome.map (receipt :: ·)) := by
  have hfirst : callsFor (calls ++ later) index = calls := by
    rw [callsFor_append, callsFor_self hindex, callsFor_other, List.append_nil]
    intro h hh heq
    have := (hlater.within h hh).1
    omega
  have hother : ∀ i ≠ index, callsFor (calls ++ later) i = callsFor later i := by
    intro i hi
    rw [callsFor_append, callsFor_other fun h hh heq => hi (heq.symm.trans (hindex h hh)), List.nil_append]
  constructor
  · refine List.pairwise_append.mpr ⟨?_, hlater.ordered, fun h hh h' hh' => ?_⟩
    · exact List.pairwise_iff_forall_sublist.mpr fun {h h'} hsub => by
        rw [hindex h (hsub.subset List.mem_cons_self), hindex h' (hsub.subset (List.mem_cons_of_mem _ List.mem_cons_self))]
    · have hle := (hlater.within h' hh').1
      rw [hindex h hh]
      omega
  · intro h hh
    rw [List.length_cons]
    rcases List.mem_append.mp hh with hh | hh
    · rw [hindex h hh]
      omega
    · have := hlater.within h hh
      omega
  · intro i
    by_cases hi : i = index
    · rw [hi, hfirst]
      exact hattempted
    · rw [hother i hi]
      exact hlater.attempted i
  · intro i hi hnext
    rw [hother (i + 1) (by omega)] at hnext
    by_cases heq : i = index
    · rw [heq, hfirst]
      exact ⟨receipt, hanswered⟩
    · rw [hother i heq]
      exact hlater.next i (by omega) hnext
  · rcases hlater.letters with hnone | ⟨rfl, letter, hletter, hburied⟩
    · exact .inl hnone
    · obtain ⟨i, target', child, hle, hget, hchild, hport, htransaction, hhash, hexhausted, hlast⟩ := hburied.exhausted
      refine .inr ⟨rfl, letter, hletter, ⟨i, target', child, by omega, ?_, hchild, hport, htransaction, hhash, ?_, ?_⟩,
        hburied.attempts, hburied.state⟩
      · rw [show i - index = i - (index + 1) + 1 by omega, List.getElem?_cons_succ]
        exact hget
      · rw [hother i (by omega)]
        exact hexhausted
      · intro h hh
        rcases List.mem_append.mp hh with hh | hh
        · rw [hindex h hh]
          omega
        · exact hlast h hh
  · intro receipts hreceipts
    cases outcome with
    | error e => cases hreceipts
    | ok others =>
      obtain rfl := Except.ok.inj hreceipts
      obtain ⟨hlength, hall⟩ := hlater.returned others rfl
      refine ⟨congrArg Nat.succ hlength, fun i r hr => ?_⟩
      cases i with
      | zero =>
        rw [List.getElem?_cons_zero, Option.some.injEq] at hr
        rw [Nat.add_zero, hfirst, ← hr]
        exact hanswered
      | succ i =>
        rw [List.getElem?_cons_succ] at hr
        rw [hother (index + (i + 1)) (by omega), show index + (i + 1) = index + 1 + i by omega]
        exact hall i r hr

variable (platform engine) in
theorem route_bounded (letter : Str × Str) (envelope : ProductionEnvelope) (index : ℕ) (targets : List Str) (log : RouteLog) :
    ∃ calls letters, (engine.route platform letter envelope index targets log).2 =
        ⟨calls.reverse ++ log.handed, log.deadLetters ++ letters⟩ ∧
      Bounded platform engine envelope index targets calls letters (engine.route platform letter envelope index targets log).1 := by
  induction targets generalizing index log with
  | nil => exact ⟨[], [], by simp [route], .nil fun receipts h => ⟨rfl, (Except.ok.inj h).symm⟩⟩
  | cons target rest ih =>
    unfold route
    cases engine.directory.resolve target envelope.destinationCapability envelope.classification.value
        envelope.routeMode.value envelope.organizationId envelope.tenantId with
    | error e => exact ⟨[], [], by simp, .nil fun receipts h => by cases h⟩
    | ok registration =>
      cases hchild : engine.child platform envelope index target with
      | error e => exact ⟨[], [], by simp, .nil fun receipts h => by cases h⟩
      | ok child =>
        obtain ⟨calls, letters, hlog, hindex, hattempted, hend⟩ := dispatch_calls platform engine letter index target child log
        rcases hdispatch : engine.dispatch platform letter index target child log with ⟨error | receipt, after⟩
        · rw [hdispatch] at hlog hend
          simp only [hdispatch]
          refine ⟨calls, letters, hlog, .last hindex hattempted ?_⟩
          rcases hend with ⟨receipt, hreceipt, -⟩ | ⟨hexhausted, ⟨-, -, hnone⟩ | ⟨stored, e, herror, hstored, hletter⟩⟩
          · cases hreceipt
          · exact .inl hnone
          · obtain ⟨hport, htransaction, hhash, hattempts, hstate⟩ := deadLetter_eq_ok hletter
            refine .inr ⟨Except.error.inj herror, stored, hstored, ⟨index, target, child, le_rfl, by simp, hchild, hport,
              htransaction, hhash, ?_, fun h hh => (hindex h hh).le⟩, hattempts, hstate⟩
            rw [callsFor_self hindex]
            exact hexhausted
        · rw [hdispatch] at hlog hend
          obtain ⟨rfl, hanswered⟩ : letters = [] ∧ AnsweredWith calls receipt := by
            rcases hend with ⟨receipt', hreceipt, hnone, hanswered⟩ | ⟨-, ⟨e, herror, -⟩ | ⟨stored, e, herror, -⟩⟩
            · exact ⟨hnone, Except.ok.inj hreceipt ▸ hanswered⟩
            · cases herror
            · cases herror
          obtain ⟨later, letters, hlaterLog, hlater⟩ := ih (index + 1) after
          have hcons := hlater.cons target hindex hattempted hanswered
          simp only [hdispatch]
          rcases hroute : engine.route platform letter envelope (index + 1) rest after with ⟨error | receipts, final⟩
          all_goals
            rw [hroute] at hlaterLog hcons
            simp only
            refine ⟨calls ++ later, letters, ?_, hcons⟩
            simp only at hlaterLog hlog ⊢
            rw [hlaterLog, hlog, List.reverse_append, List.append_nil, List.append_assoc]

/-- A route that reached its targets stored no dead letter, whatever is made of its receipts. -/
theorem Bounded.summarized {calls : List Handed} {letters : List DeadLetter} {outcome outcome' : Outcome (List SignedPortReceipt)}
    {receipts : List SignedPortReceipt} (h : Bounded platform engine envelope index targets calls letters outcome)
    (houtcome : outcome = .ok receipts) (hsame : ∀ receipts', outcome' = .ok receipts' → receipts' = receipts) :
    Bounded platform engine envelope index targets calls letters outcome' where
  ordered := h.ordered
  within := h.within
  attempted := h.attempted
  next := h.next
  letters := by
    rcases h.letters with hnone | ⟨herror, -⟩
    · exact .inl hnone
    · rw [houtcome] at herror
      cases herror
  returned receipts' hreceipts' := by
    rw [hsame receipts' hreceipts']
    exact h.returned receipts houtcome

theorem summary_receipts {receipts : List SignedPortReceipt} {decision : Value} {result : RouteResult}
    (h : summary receipts decision = .ok result) : result.receipts = receipts := by
  unfold summary at h
  split at h
  all_goals
    simp only [Js.bind_eq_ok, Js.pure_eq_ok] at h
  · obtain ⟨status, -, complete, -, rfl⟩ := h
    rfl
  · obtain ⟨complete, -, rfl⟩ := h
    rfl

end RouteExecutionEngine

end Superstructure
