import StrataPortNetwork.DirectPipe.WorkerTransfer
import Mathlib.Data.Set.Function

/-! # Every transfer settles once

The transfers that were accepted are the pending ones and the settled ones, each of them
once, and exactly the pending ones have their timers set. Whatever closes the object settles
everything that is pending.
-/
namespace DirectPipe
open Js

namespace Transfers

/-- The invariant of the pending table. -/
structure Tabled (s : Transfers) : Prop where
  partition : (s.pendingIds ++ s.settled.map Prod.fst).Perm (s.accepted.map Prod.fst)
  nodup : (s.accepted.map Prod.fst).Nodup
  fresh : ∀ id ∈ s.accepted.map Prod.fst, id < s.nextId
  armed : s.armed = s.pendingIds
  inflight : s.pending.length ≤ s.options.maxInflight
  closed : s.closed = true → s.pending = []

section
variable {s : Transfers}

theorem Tabled.accepted_of_pending (h : s.Tabled) {id : ℕ} (hid : id ∈ s.pendingIds) : id ∈ s.accepted.map Prod.fst :=
  h.partition.mem_iff.mp (List.mem_append_left _ hid)

theorem Tabled.pending_nodup (h : s.Tabled) : s.pendingIds.Nodup :=
  (List.nodup_append.mp (h.partition.nodup_iff.mpr h.nodup)).1

/-- An accepted transfer is pending, or it was settled once. -/
theorem Tabled.settlements (h : s.Tabled) (id : ℕ) :
    s.settlements id = if id ∈ s.accepted.map Prod.fst ∧ id ∉ s.pendingIds then 1 else 0 := by
  have hcount := h.partition.count_eq id
  rw [List.count_append, h.nodup.count, h.pending_nodup.count] at hcount
  rw [Transfers.settlements]
  by_cases hpending : id ∈ s.pendingIds
  · rw [if_pos hpending, if_pos (h.accepted_of_pending hpending)] at hcount
    rw [if_neg fun hboth => hboth.2 hpending]
    omega
  · rw [if_neg hpending, Nat.zero_add] at hcount
    simp only [hcount, hpending, not_false_eq_true, and_true]

theorem pendingIds_settle (s : Transfers) (id : ℕ) (settlement : Settlement) :
    (s.settle id settlement).pendingIds = s.pendingIds.filter (· != id) := by
  rw [pendingIds, settle, pendingIds, List.filter_map]
  rfl

theorem Tabled.settle (h : s.Tabled) {id : ℕ} (hid : id ∈ s.pendingIds) (settlement : Settlement) :
    (s.settle id settlement).Tabled := by
  refine ⟨?_, h.nodup, h.fresh, ?_, ?_, ?_⟩
  · have hsplit : s.pendingIds.Perm (id :: s.pendingIds.filter (· != id)) :=
      h.pending_nodup.erase_eq_filter id ▸ List.perm_cons_erase hid
    rw [pendingIds_settle]
    change (s.pendingIds.filter (· != id) ++ (s.settled ++ [(id, settlement)]).map Prod.fst).Perm _
    rw [List.map_append, ← List.append_assoc]
    refine List.perm_append_comm.trans (List.Perm.trans ?_ h.partition)
    exact (hsplit.append_right _).symm
  · rw [pendingIds_settle]
    change s.armed.filter (· != id) = _
    rw [h.armed]
  · exact (List.length_filter_le _ _).trans h.inflight
  · intro hclosed
    change s.pending.filter _ = []
    rw [h.closed hclosed]
    rfl

/-- A failure settles everything that is pending, whatever timers are still set. -/
theorem Tabled.fail_of_armed (h : s.Tabled) {armed : List ℕ} (harmed : ∀ id ∈ armed, id ∈ s.pendingIds) (failure : Failure) :
    ({ s with armed := armed }.fail failure).Tabled ∧ ({ s with armed := armed }.fail failure).pending = [] := by
  have hnone : armed.filter (fun id => !s.pendingIds.contains id) = [] := by
    rw [List.filter_eq_nil_iff]
    intro id hid
    simp [harmed id hid]
  rw [Transfers.fail]
  split
  · rename_i hclosed
    have hempty := h.closed hclosed
    have hids : s.pendingIds = [] := by rw [pendingIds, hempty, List.map_nil]
    have hnil : armed = [] := List.eq_nil_iff_forall_not_mem.mpr fun id hid => by simpa [hids] using harmed id hid
    exact ⟨⟨h.partition, h.nodup, h.fresh, hnil.trans hids.symm, h.inflight, h.closed⟩, hempty⟩
  · refine ⟨⟨?_, h.nodup, h.fresh, hnone, Nat.zero_le _, fun _ => rfl⟩, rfl⟩
    change ([] ++ (s.settled ++ s.pending.map fun p : ℕ × Request => (p.1, Settlement.rejected failure)).map Prod.fst).Perm _
    rw [List.nil_append, List.map_append, List.map_map]
    exact List.perm_append_comm.trans h.partition

theorem Tabled.fail (h : s.Tabled) (failure : Failure) : (s.fail failure).Tabled ∧ (s.fail failure).pending = [] :=
  h.fail_of_armed (fun id hid => by rwa [h.armed] at hid) failure

/-- The timer of a pending transfer settles it. -/
theorem Tabled.expire (h : s.Tabled) (id : ℕ) : (s.expire id).Tabled ∧ id ∉ (s.expire id).pendingIds := by
  rw [Transfers.expire]
  split
  · have harmed : ∀ other ∈ s.armed.filter (· != id), other ∈ s.pendingIds :=
      fun other hother => h.armed ▸ List.mem_of_mem_filter hother
    obtain ⟨htabled, hempty⟩ := h.fail_of_armed harmed (.error (js "Direct Pipe worker transfer timed out"))
    exact ⟨htabled, by rw [pendingIds, hempty]; exact List.not_mem_nil⟩
  · rename_i harmed
    rw [List.contains_iff_mem, h.armed] at harmed
    exact ⟨h, harmed⟩

variable {digest : Bytes → JsString}

theorem mem_pendingIds_of_lookup {id : ℕ} {request : Request} (h : s.pending.lookup id = some request) : id ∈ s.pendingIds := by
  obtain ⟨before, after, hpending, -⟩ := List.lookup_eq_some_iff.mp h
  rw [pendingIds, hpending]
  simp

theorem Tabled.receive (h : s.Tabled) (message : Message) : (s.receive digest message).Tabled := by
  rw [Transfers.receive]
  split
  · exact h
  · rename_i id request hlookup
    obtain ⟨id', -, hrequest⟩ := Option.bind_eq_some_iff.mp hlookup
    obtain ⟨request', hfound, heq⟩ := Option.map_eq_some_iff.mp hrequest
    cases heq
    have hid := mem_pendingIds_of_lookup hfound
    split
    · exact h.settle hid _
    · exact ((h.settle hid _).fail _).1

theorem checkTransfer_ok {buffer : Option Bytes} {bytes : Bytes} (h : s.checkTransfer buffer = .ok bytes) :
    s.closed = false ∧ buffer = some bytes ∧ s.pending.length < s.options.maxInflight := by
  simp only [checkTransfer, bind_eq_ok, ensure_eq_ok, orThrow_eq_ok, pure_eq_ok, exists_const, Bool.not_eq_true', decide_eq_true_eq] at h
  obtain ⟨hopen, _, rfl, -, hroom, rfl⟩ := h
  exact ⟨hopen, rfl, hroom⟩

theorem Tabled.transfer (h : s.Tabled) (buffer : Option Bytes) (posting : Posting) :
    (s.transfer digest buffer posting).1.Tabled := by
  rw [Transfers.transfer]
  split
  · exact h
  · rename_i bytes hchecked
    obtain ⟨hopen, -, hroom⟩ := checkTransfer_ok hchecked
    have hids : (s.accept digest bytes).pendingIds = s.pendingIds ++ [s.nextId] := List.map_append
    have htabled : (s.accept digest bytes).Tabled := by
      refine ⟨?_, ?_, ?_, ?_, ?_, ?_⟩
      · rw [hids]
        change (s.pendingIds ++ [s.nextId] ++ s.settled.map Prod.fst).Perm ((s.accepted ++ [(s.nextId, bytes)]).map Prod.fst)
        rw [List.map_append, List.append_assoc]
        refine List.Perm.trans ?_ (h.partition.append_right _)
        rw [List.append_assoc]
        exact List.perm_append_comm.append_left _
      · change ((s.accepted ++ [(s.nextId, bytes)]).map Prod.fst).Nodup
        rw [List.map_append, List.nodup_append]
        refine ⟨h.nodup, List.pairwise_singleton _ _, fun id hid other hother => ?_⟩
        rw [List.mem_singleton.mp hother]
        exact (h.fresh id hid).ne
      · intro id hid
        rw [show (s.accept digest bytes).accepted = s.accepted ++ [(s.nextId, bytes)] from rfl, List.map_append,
          List.mem_append] at hid
        change id < s.nextId + 1
        rcases hid with hid | hid
        · exact (h.fresh id hid).trans (Nat.lt_succ_self _)
        · rw [List.mem_singleton.mp hid]
          exact Nat.lt_succ_self _
      · rw [hids, ← h.armed]
        rfl
      · change (s.pending ++ [_]).length ≤ s.options.maxInflight
        rw [List.length_append]
        exact hroom
      · intro hclosed
        rw [show (s.accept digest bytes).closed = s.closed from rfl, hopen] at hclosed
        cases hclosed
    cases posting with
    | detaches => exact htabled
    | keeps => exact (htabled.fail _).1
    | throws => exact (htabled.fail _).1

theorem Tabled.step (h : s.Tabled) (event : Event) : (s.step digest event).Tabled := by
  cases event with
  | transfer buffer posting => exact h.transfer buffer posting
  | message message => exact h.receive message
  | timeout id => exact (h.expire id).1
  | error => exact (h.fail _).1
  | exit code => exact (h.fail _).1
  | close => exact (h.fail _).1

theorem tabled_start (options : Options) : (start options).Tabled :=
  ⟨.nil, List.nodup_nil, by simp [start], rfl, Nat.zero_le _, fun _ => rfl⟩

theorem Tabled.run (h : s.Tabled) (events : List Event) : (Transition.run (Transfers.step digest) s events).Tabled := by
  have hstep : ∀ (t : Transfers) event, t.Tabled → (t.step digest event).Tabled := fun _ event h => h.step event
  exact Transition.run_invariant hstep h events

/-! ## What a step can do -/

/-- Transfers were rejected and nothing else happened. -/
structure Rejects (s t : Transfers) : Prop where
  options : t.options = s.options
  accepted : t.accepted = s.accepted
  pending : ∀ p ∈ t.pending, p ∈ s.pending
  settled : ∀ id output, (id, Settlement.resolved output) ∈ t.settled → (id, .resolved output) ∈ s.settled

theorem Rejects.refl (s : Transfers) : s.Rejects s := ⟨rfl, rfl, fun _ => id, fun _ _ => id⟩

theorem rejects_fail (s : Transfers) (failure : Failure) : s.Rejects (s.fail failure) := by
  rw [Transfers.fail]
  split
  · exact .refl s
  · refine ⟨rfl, rfl, by simp, fun id output h => ?_⟩
    rcases List.mem_append.mp h with h | h
    · exact h
    · obtain ⟨p, -, hp⟩ := List.mem_map.mp h
      cases hp

theorem rejects_settle_fail (s : Transfers) (id : ℕ) (failure : Failure) :
    s.Rejects ((s.settle id (.rejected failure)).fail failure) := by
  obtain ⟨hoptions, haccepted, hpending, hsettled⟩ := rejects_fail (s.settle id (.rejected failure)) failure
  refine ⟨hoptions, haccepted, fun p hp => List.mem_of_mem_filter (hpending p hp), fun other output h => ?_⟩
  rcases List.mem_append.mp (hsettled other output h) with h | h
  · exact h
  · cases List.mem_singleton.mp h

/-- A step rejects transfers, after it accepted one or not, or it resolves one as a message
answers it. -/
theorem step_cases (s : Transfers) (event : Event) :
    s.Rejects (s.step digest event) ∨
    (∃ bytes posting, event = .transfer (some bytes) posting ∧ (s.accept digest bytes).Rejects (s.step digest event)) ∨
    ∃ message id request output, event = .message message ∧ (id, request) ∈ s.pending ∧
      checkMessage digest message request = .ok output ∧ s.step digest event = s.settle id (.resolved output) := by
  cases event with
  | transfer buffer posting =>
    rw [Transfers.step, Transfers.transfer]
    split
    · exact .inl (.refl s)
    · rename_i bytes hchecked
      obtain ⟨-, rfl, -⟩ := checkTransfer_ok hchecked
      refine .inr (.inl ⟨bytes, posting, rfl, ?_⟩)
      cases posting with
      | detaches => exact .refl _
      | keeps => exact rejects_fail _ _
      | throws => exact rejects_fail _ _
  | message message =>
    rw [Transfers.step, Transfers.receive]
    split
    · exact .inl (.refl s)
    · rename_i id request hlookup
      obtain ⟨id', -, hrequest⟩ := Option.bind_eq_some_iff.mp hlookup
      obtain ⟨request', hfound, heq⟩ := Option.map_eq_some_iff.mp hrequest
      cases heq
      obtain ⟨before, after, hpending, -⟩ := List.lookup_eq_some_iff.mp hfound
      split
      · rename_i output hcheck
        exact .inr (.inr ⟨message, id, request, output, rfl, by simp [hpending], hcheck, rfl⟩)
      · exact .inl (rejects_settle_fail s id _)
  | timeout id =>
    rw [Transfers.step, Transfers.expire]
    split
    · obtain ⟨hoptions, haccepted, hpending, hsettled⟩ := rejects_fail { s with armed := s.armed.filter (· != id) }
        (.error (js "Direct Pipe worker transfer timed out"))
      exact .inl ⟨hoptions, haccepted, hpending, hsettled⟩
    · exact .inl (.refl s)
  | error => exact .inl (rejects_fail s _)
  | exit code => exact .inl (rejects_fail s _)
  | close => exact .inl (rejects_fail s _)

theorem options_step (s : Transfers) (event : Event) : (s.step digest event).options = s.options := by
  rcases step_cases s event with h | ⟨bytes, posting, -, h⟩ | ⟨message, other, request, output, -, -, -, heq⟩
  · exact h.options
  · exact h.options
  · rw [heq, Transfers.settle]

/-! ## Transfers that are over -/

/-- An accepted transfer that is no longer pending. -/
def Over (s : Transfers) (id : ℕ) : Prop := id ∈ s.accepted.map Prod.fst ∧ id ∉ s.pendingIds

theorem Rejects.pendingIds {t : Transfers} (h : s.Rejects t) {id : ℕ} (hid : id ∈ t.pendingIds) : id ∈ s.pendingIds := by
  obtain ⟨p, hp, rfl⟩ := List.mem_map.mp hid
  exact List.mem_map_of_mem (h.pending p hp)

theorem accepted_step {id : ℕ} (hid : id ∈ s.accepted.map Prod.fst) (event : Event) :
    id ∈ (s.step digest event).accepted.map Prod.fst := by
  rcases step_cases s event with h | ⟨bytes, posting, -, h⟩ | ⟨message, other, request, output, -, -, -, heq⟩
  · rwa [h.accepted]
  · rw [h.accepted, show (s.accept digest bytes).accepted = s.accepted ++ [(s.nextId, bytes)] from rfl, List.map_append]
    exact List.mem_append_left _ hid
  · rwa [heq]

theorem Over.step {id : ℕ} (htabled : s.Tabled) (h : s.Over id) (event : Event) : (s.step digest event).Over id := by
  refine ⟨accepted_step h.1 event, fun hid => h.2 ?_⟩
  rcases step_cases s event with hrejects | ⟨bytes, posting, -, hrejects⟩ | ⟨message, other, request, output, -, -, -, heq⟩
  · exact hrejects.pendingIds hid
  · have hids := hrejects.pendingIds hid
    rw [show (s.accept digest bytes).pendingIds = s.pendingIds ++ [s.nextId] from List.map_append, List.mem_append,
      List.mem_singleton] at hids
    exact hids.resolve_right (htabled.fresh id h.1).ne
  · rw [heq, pendingIds_settle] at hid
    exact List.mem_of_mem_filter hid

/-- Once the timer of a transfer has had its turn, the transfer is over. -/
theorem Tabled.over_of_timeout (h : s.Tabled) {id : ℕ} (hid : id ∈ s.accepted.map Prod.fst) {later : List Event}
    (htimeout : Event.timeout id ∈ later) : (Transition.run (Transfers.step digest) s later).Over id := by
  obtain ⟨before, after, rfl⟩ := List.append_of_mem htimeout
  have hbefore : (Transition.run (Transfers.step digest) s before).Tabled := h.run before
  have hkeeps : ∀ (t : Transfers) event, id ∈ t.accepted.map Prod.fst → id ∈ (t.step digest event).accepted.map Prod.fst :=
    fun _ event h => accepted_step h event
  have hover : ∀ (t : Transfers) event, t.Tabled ∧ t.Over id → (t.step digest event).Tabled ∧ (t.step digest event).Over id :=
    fun _ event h => ⟨h.1.step event, h.2.step h.1 event⟩
  have hexpired : (Transfers.step digest (Transition.run (Transfers.step digest) s before) (.timeout id)).Over id :=
    ⟨accepted_step (Transition.run_invariant hkeeps hid before) _, (hbefore.expire id).2⟩
  rw [Transition.run_append, Transition.run_cons]
  exact (Transition.run_invariant hover ⟨hbefore.step _, hexpired⟩ after).2

/-! ## Outputs -/

/-- What is pending was accepted with its size and digest, and what was resolved was accepted. -/
structure Faithful (digest : Bytes → JsString) (payloads : Set Bytes) (s : Transfers) : Prop where
  payloads : ∀ p ∈ s.accepted, p.2 ∈ payloads
  pending : ∀ p ∈ s.pending, ∃ bytes, (p.1, bytes) ∈ s.accepted ∧ p.2 = ⟨bytes.length, digest bytes⟩
  resolved : ∀ id output, (id, Settlement.resolved output) ∈ s.settled → (id, output) ∈ s.accepted

variable {payloads : Set Bytes}

theorem Faithful.of_rejects {t : Transfers} (h : s.Faithful digest payloads) (hrejects : s.Rejects t) :
    t.Faithful digest payloads := by
  refine ⟨?_, ?_, ?_⟩
  · rw [hrejects.accepted]
    exact h.payloads
  · intro p hp
    rw [hrejects.accepted]
    exact h.pending p (hrejects.pending p hp)
  · intro id output hout
    rw [hrejects.accepted]
    exact h.resolved id output (hrejects.settled id output hout)

theorem Faithful.accept (h : s.Faithful digest payloads) {bytes : Bytes} (hbytes : bytes ∈ payloads) :
    (s.accept digest bytes).Faithful digest payloads := by
  refine ⟨fun p hp => ?_, fun p hp => ?_, fun id output hout => List.mem_append_left _ (h.resolved id output hout)⟩
  · rcases List.mem_append.mp hp with hp | hp
    · exact h.payloads p hp
    · rw [List.mem_singleton.mp hp]
      exact hbytes
  · rcases List.mem_append.mp hp with hp | hp
    · obtain ⟨bytes', haccepted, hrequest⟩ := h.pending p hp
      exact ⟨bytes', List.mem_append_left _ haccepted, hrequest⟩
    · rw [List.mem_singleton.mp hp]
      exact ⟨bytes, List.mem_append_right _ (List.mem_singleton_self _), rfl⟩

theorem checkMessage_ok {message : Message} {request : Request} {output : Bytes}
    (h : checkMessage digest message request = .ok output) :
    message.buffer = some output ∧ digest output = request.expectedSha256 := by
  unfold checkMessage at h
  cases herror : message.error with
  | some error => simp [herror] at h
  | none =>
    simp only [herror, bind_eq_ok, ensure_eq_ok, orThrow_eq_ok, pure_eq_ok, exists_const, Bool.and_eq_true, beq_iff_eq] at h
    obtain ⟨_, hbuffer, ⟨-, hdigest⟩, rfl⟩ := h
    exact ⟨hbuffer, hdigest⟩

/-- What the worker answers to a request resolves it. -/
theorem checkMessage_answer (id : ℕ) (bytes : Bytes) :
    checkMessage digest (answer digest (some id) (some bytes) true) ⟨bytes.length, digest bytes⟩ = .ok bytes := by
  simp [answer, checkMessage, orThrow, ensure, bind, Except.bind, pure, Except.pure]

theorem Faithful.step (h : s.Faithful digest payloads) (hdigest : Set.InjOn digest payloads) {event : Event}
    (hevent : ∀ bytes ∈ Event.payloads event, bytes ∈ payloads) : (s.step digest event).Faithful digest payloads := by
  rcases step_cases s event with hrejects | ⟨bytes, posting, rfl, hrejects⟩ |
    ⟨message, id, request, output, rfl, hpending, hcheck, heq⟩
  · exact h.of_rejects hrejects
  · exact (h.accept (hevent bytes (by simp [Event.payloads]))).of_rejects hrejects
  · obtain ⟨hbuffer, hsame⟩ := checkMessage_ok hcheck
    obtain ⟨bytes, haccepted, rfl⟩ := h.pending _ hpending
    have houtput : output = bytes :=
      hdigest (hevent output (by simp [Event.payloads, hbuffer])) (h.payloads _ haccepted) hsame
    rw [heq]
    refine ⟨h.payloads, fun p hp => h.pending p (List.mem_of_mem_filter hp), fun other output' hout => ?_⟩
    rcases List.mem_append.mp hout with hout | hout
    · exact h.resolved other output' hout
    · cases List.mem_singleton.mp hout
      exact houtput ▸ haccepted

/-! ## Runs -/

theorem faithful_run (options : Options) {events : List Event}
    (hdigest : Set.InjOn digest {bytes | ∃ event ∈ events, bytes ∈ event.payloads}) :
    (Transition.run (Transfers.step digest) (start options) events).Faithful digest
      {bytes | ∃ event ∈ events, bytes ∈ event.payloads} := by
  have hstart : (start options).Faithful digest {bytes | ∃ event ∈ events, bytes ∈ event.payloads} := by
    constructor <;> simp [start]
  have hstep : ∀ (t : Transfers) event, True ∧ event ∈ events →
      t.Faithful digest {bytes | ∃ event ∈ events, bytes ∈ event.payloads} →
        (t.step digest event).Faithful digest {bytes | ∃ event ∈ events, bytes ∈ event.payloads} :=
    fun _ event hevent h => h.step hdigest fun bytes hbytes => ⟨event, hevent.2, hbytes⟩
  have hsteps : Transition.Steps (Transfers.step digest) (fun _ _ => True) (start options) events :=
    Transition.steps_of_forall fun _ _ => trivial
  exact Transition.run_invariant_of_steps hstep hstart (Transition.steps_and_mem hsteps)

/-- Nothing changes a closed object. -/
theorem Tabled.step_of_closed (h : s.Tabled) (hclosed : s.closed = true) (event : Event) : s.step digest event = s := by
  have hfail : ∀ failure, s.fail failure = s := fun failure => by rw [Transfers.fail, if_pos hclosed]
  have hempty := h.closed hclosed
  cases event with
  | transfer buffer posting => simp [Transfers.step, Transfers.transfer, checkTransfer, ensure, hclosed, bind, Except.bind]
  | message message =>
    rw [Transfers.step, Transfers.receive, hempty]
    cases message.id <;> rfl
  | timeout id => simp [Transfers.step, Transfers.expire, h.armed, pendingIds, hempty]
  | error => exact hfail _
  | exit code => exact hfail _
  | close => exact hfail _

end

/-- In every run the accepted transfers that are no longer pending, and no other ids, have been
settled, each once; a pending transfer is settled once by the time its timer fires. What
resolves is the transfer's own input, and a closed object stays as it is. -/
theorem transfers_settle_once (digest : Bytes → JsString) (options : Options) (events : List Event)
    (hdigest : Set.InjOn digest {bytes | ∃ event ∈ events, bytes ∈ event.payloads}) :
    let s := Transition.run (step digest) (start options) events
    (∀ id, s.settlements id = if id ∈ s.accepted.map Prod.fst ∧ id ∉ s.pendingIds then 1 else 0) ∧
    (∀ id ∈ s.accepted.map Prod.fst, ∀ later, Event.timeout id ∈ later →
      (Transition.run (step digest) s later).settlements id = 1) ∧
    ((s.accepted.map Prod.fst).Nodup ∧
      ∀ id output, (id, Settlement.resolved output) ∈ s.settled → (id, output) ∈ s.accepted) ∧
    s.pending.length ≤ options.maxInflight ∧
    (s.closed = true → s.pending = [] ∧ ∀ later, Transition.run (step digest) s later = s ∧
      ∀ buffer posting, s.transfer digest buffer posting = (s, .error (.error (js "Direct Pipe worker is closed")))) := by
  intro s
  have htabled : s.Tabled := (tabled_start options).run events
  have hoptions : s.options = options := by
    have hstep : ∀ (t : Transfers) event, t.options = options → (t.step digest event).options = options :=
      fun t event h => (options_step t event).trans h
    exact Transition.run_invariant hstep rfl events
  refine ⟨htabled.settlements, ?_, ⟨htabled.nodup, (faithful_run options hdigest).resolved⟩, ?_, ?_⟩
  · intro id hid later htimeout
    have hover : (Transition.run (step digest) s later).Over id := htabled.over_of_timeout hid htimeout
    rw [(htabled.run later).settlements]
    exact if_pos hover
  · exact hoptions ▸ htabled.inflight
  · intro hclosed
    refine ⟨htabled.closed hclosed, fun later => ⟨?_, fun buffer posting => ?_⟩⟩
    · have hstays : ∀ (t : Transfers) event, t = s → t.step digest event = s := fun t event ht => by
        rw [ht, htabled.step_of_closed hclosed]
      exact Transition.run_invariant hstays rfl later
    · simp [transfer, checkTransfer, ensure, hclosed, bind, Except.bind]

end Transfers

/-! ## A run -/

namespace Sample
open Transfers

def digest (bytes : Bytes) : JsString := bytes.map fun b => UInt16.ofNat b.toNat

def options : Options := ⟨16, 2, by decide, by decide⟩

/-- A transfer that the worker answers and one that times out. -/
def events : List Event := [.transfer (some [1, 2]) .detaches, .transfer (some [3]) .detaches,
  .message (answer digest (some 1) (some [1, 2]) true), .timeout 2]

theorem injOn_payloads : Set.InjOn digest {bytes | ∃ event ∈ events, bytes ∈ event.payloads} := by
  intro bytes hbytes bytes' hbytes' h
  simp only [events, Set.mem_ofPred_eq, List.mem_cons, List.not_mem_nil, or_false, exists_eq_or_imp, exists_eq_left,
    Event.payloads, Option.toList_some, answer, if_true] at hbytes hbytes'
  rcases hbytes with rfl | rfl | rfl | hbytes <;> rcases hbytes' with rfl | rfl | rfl | hbytes' <;>
    first | rfl | contradiction

theorem transfers_settled : let s := Transition.run (step digest) (start options) events
    s.settlements 1 = 1 ∧ s.settlements 2 = 1 ∧ s.pending = [] := by
  intro s
  obtain ⟨hsettlements, -, -, -, hclosed⟩ := transfers_settle_once digest options events injOn_payloads
  exact ⟨hsettlements 1, hsettlements 2, (hclosed rfl).1⟩

end Sample

end DirectPipe
