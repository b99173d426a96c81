import StrataPortNetwork.TwoMachine.Completeness
import StrataPortNetwork.TwoMachine.Network
import StrataPortNetwork.TwoMachine.Sample

/-! # What a returned receipt proves

A receipt that a sender run returns was issued by a receiver that decrypted the payload of
the run. The receipt binds the state id by its bytes only: lone surrogates and U+FFFD have
the same ones, so the network can swap them on the way out and back.
-/
namespace TwoMachine
open Js ProofReceiver Transition

section
variable {platform : Platform} {secret : JsString} {receivers : ℕ → ProofReceiver}

/-- A receiver has decrypted the payload of the run, under its state id and generation, in the
session that the receipt names. -/
def World.Received (platform : Platform) (receivers : ℕ → ProofReceiver) (w : World) (run : Run) (receipt : Json) : Prop :=
  ∃ i, ∃ x ∈ (w.receivers i).issued, receipt.get "sessionId" = some (.str x.claim.sessionId) ∧
    x.claim.session.stateId = run.call.stateId ∧ x.claim.session.generation = run.call.generation ∧
    x.payload = run.call.canonicalPayload ∧ (receivers i).openPayload platform x.claim x.ciphertext = some x.payload

/-- No payload that a receiver decrypted collides with one that a run sends. -/
def World.CollisionFree (platform : Platform) (w : World) : Prop :=
  ∀ run ∈ w.runs, ∀ i, ∀ x ∈ (w.receivers i).issued,
    platform.sha256 x.payload = platform.sha256 run.call.canonicalPayload → x.payload = run.call.canonicalPayload

/-- The state id of a call has bytes of its own. -/
def WorldEvent.HasUnambiguousState : WorldEvent → Prop
  | .send call => Unambiguous call.stateId
  | _ => True

theorem step_unambiguous {w : World} {e : WorldEvent} (he : e.HasUnambiguousState)
    (h : ∀ run ∈ w.runs, Unambiguous run.call.stateId) :
    ∀ run ∈ (w.step platform secret receivers e).runs, Unambiguous run.call.stateId := by
  have hset : ∀ {n : ℕ} {run run' : Run}, w.runs[n]? = some run → run'.call = run.call →
      ∀ r ∈ w.runs.set n run', Unambiguous r.call.stateId := by
    intro n run run' hn hcall r hr
    rcases List.mem_or_eq_of_mem_set hr with hr | rfl
    · exact h r hr
    · rw [hcall]
      exact h run (List.mem_of_getElem? hn)
  cases e with
  | send call =>
    simp only [World.step]
    split
    · exact h
    · intro run hrun
      rcases List.mem_append.mp hrun with hrun | hrun
      · exact h run hrun
      · rw [List.mem_singleton.mp hrun]
        exact he
  | challengeArrives n response iv =>
    simp only [World.step]
    split
    · rename_i call hello hn
      exact hset hn (@World.challenged_keeps platform secret _ response iv).1
    · exact h
  | receiptArrives n response =>
    simp only [World.step]
    split
    · rename_i call hello t hn
      exact hset hn rfl
    · exact h
  | receiver i event => exact h

/-- A returned receipt of an ideal run names a receipt that a receiver issued. -/
theorem World.Sound.issued_of_returned {w : World} (h : World.Sound platform secret receivers w) {n : ℕ} {run : Run}
    {receipt : Json} (hn : w.runs[n]? = some run) (hreturned : run.result = some (.ok receipt)) :
    ∃ t, run.transfer = some t ∧ receipt.get "sessionId" = some (.str t.sessionId) ∧
      ∃ i, ∃ x ∈ (w.receivers i).issued, x.claim.sessionId = t.sessionId ∧
        utf8Encode x.claim.session.stateId = utf8Encode run.call.stateId ∧
        x.claim.session.generation = run.call.generation ∧
        platform.sha256 x.payload = platform.sha256 run.call.canonicalPayload := by
  obtain ⟨hstarted, hanswers, hreceipt⟩ := h.runs n run hn
  obtain ⟨t, transcript, mac, ht, haccepted, hbytes⟩ := hreceipt receipt hreturned
  have hid : receipt.get "sessionId" = some (.str t.sessionId) := by
    have hmatches := haccepted.matching
    simp only [receiptMatches, Bool.and_eq_true, Json.some_beq_str_iff] at hmatches
    tauto
  refine ⟨t, ht, hid, ?_⟩
  rcases hbytes with ⟨m, run', t', hm, ht', hbytes⟩ | ⟨i, x, hx, hbytes⟩
  · -- the MAC of a proof is not the MAC of a receipt
    obtain ⟨hstarted', hanswers', -⟩ := h.runs m run' hm
    have hanswer := hanswers' t' ht'
    have hvalid : (run'.hello.proofFields t'.challenge t'.destinationHostFingerprint).Valid := by
      rw [hstarted'.hello]
      exact ⟨hanswer.challenge, hex_of_pattern (platform.sha256_hex _), hanswer.destination, hstarted'.stateId,
        hex_of_pattern (platform.sha256_hex _), hex_of_pattern (platform.sha256_hex _)⟩
    exact absurd hbytes.symm (proof_ne_receipt (bar_not_mem_sessionId hanswer.sessionId) hvalid haccepted.parts)
  · have hgenuine := (h.genuine i).issued x hx
    obtain ⟨hsession, hstateId, hgeneration, hreceived⟩ :=
      says_of_bytes hgenuine haccepted.parts haccepted.matching hbytes
    obtain ⟨loopback, now, hcore⟩ := hgenuine.core
    rw [hstarted.hello] at hstateId hgeneration hreceived
    rw [hcore] at hsession hstateId hgeneration hreceived
    have hhex := fun bytes => unambiguous_of_ascii (ascii_sha256 (hex_of_pattern (platform.sha256_hex bytes)))
    exact ⟨i, x, hx, (unambiguous_of_ascii (ascii_sessionId (hanswers t ht).sessionId)).eq_of_bytes hsession, hstateId, hgeneration,
      (hhex _).eq_of_bytes hreceived⟩

/-- A receiver with a free session answers every admissible call that is not disturbed with a
receipt that is returned. -/
def Completes (platform : Platform) (r : ProofReceiver) : Prop :=
  ∀ {call : SendCall}, call.Admissible platform → call.canonicalPayload.length ≤ r.maxBytes → ∀ {s : State} (drawn : Drawn)
    {before now createdAt claimed : ℤ} (later : ℤ), (r.expireSessions before s.sessions).size < r.maxSessions →
    claimed - createdAt < r.challengeTtlMs → ∀ {iv : Bytes}, iv.length = 12 → ∀ address : Option JsString,
    ∃ hello t challenge receipt,
      let opened := run (r.step platform) s [.challenge before,
        .helloBody s.requests.length (.ok (Body.ofText (stringify hello.toJson))) drawn now createdAt]
      startSend platform r.secret call = .ok hello ∧
      opened.requests[s.requests.length]? = some (.answered challenge) ∧
      answerChallenge platform r.secret call hello (.ok challenge.wire) iv = .ok t ∧
      (run (r.step platform) opened [.transfer t.headers claimed,
          .ciphertextBody opened.requests.length (.ok t.ciphertext) address later,
          .sinkAnswers opened.requests.length true]).requests[opened.requests.length]? =
        some (.answered ⟨200, receipt⟩) ∧
      acceptReceipt platform r.secret hello t (.ok (Response.wire ⟨200, receipt⟩)) = .ok receipt.rebuild

/-- Undisturbed proofs complete, and receipts returned in runs whose state ids have bytes of
their own prove what they say. -/
theorem transfer_correct (receivers : ℕ → ProofReceiver) {events : List WorldEvent}
    (hideal : Steps (World.step platform secret receivers)
      (fun w e => World.Ideal platform secret receivers w e ∧ e.HasUnambiguousState) World.start events)
    (hfree : (World.after platform secret receivers events).CollisionFree platform) :
    (∀ i, Completes platform (receivers i)) ∧
    ∀ (n : ℕ) (run : Run) (receipt : Json), (World.after platform secret receivers events).runs[n]? = some run →
      run.result = some (.ok receipt) → (World.after platform secret receivers events).Received platform receivers run receipt := by
  refine ⟨fun i call h hpayload s drawn before now createdAt claimed later hroom htime iv hiv address =>
    undisturbed h hpayload drawn later hroom htime hiv address, ?_⟩
  intro n run receipt hn hreturned
  have hstart : World.Sound platform secret receivers World.start ∧ ∀ run ∈ World.start.runs, Unambiguous run.call.stateId :=
    ⟨World.start_sound, by simp [World.start]⟩
  have hstep : ∀ w e, (World.Ideal platform secret receivers w e ∧ e.HasUnambiguousState) →
      (World.Sound platform secret receivers w ∧ ∀ run ∈ w.runs, Unambiguous run.call.stateId) →
      World.Sound platform secret receivers (w.step platform secret receivers e) ∧
        ∀ run ∈ (w.step platform secret receivers e).runs, Unambiguous run.call.stateId :=
    fun w e he h => ⟨World.step_sound h.1 he.1, step_unambiguous he.2 h.2⟩
  obtain ⟨hsound, hunambiguous⟩ := run_invariant_of_steps hstep hstart hideal
  obtain ⟨t, ht, hid, i, x, hx, hsession, hstateId, hgeneration, hsha⟩ := hsound.issued_of_returned hn hreturned
  have hmem := List.mem_of_getElem? hn
  refine ⟨i, x, hx, by rw [hid, hsession], (hunambiguous run hmem).eq_of_bytes hstateId, hgeneration,
    hfree run hmem i x hx hsha, ((hsound.genuine i).issued x hx).opened⟩

/-! ## A rewritten state id -/

section
variable {r : ProofReceiver} {call : SendCall} {stateId : JsString}

/-- The call that the receiver is told of. -/
def SendCall.renamed (call : SendCall) (stateId : JsString) : SendCall := { call with stateId := stateId }

theorem SendCall.Admissible.renamed (h : call.Admissible platform) (hstateId : validStateId stateId = true) :
    (call.renamed stateId).Admissible platform :=
  ⟨h.port, h.timeoutMs, hstateId, h.stateHash, h.generation, h.nonempty, h.hashed⟩

/-- What the sender sends after it was handed a challenge. -/
def sentTransfer (platform : Platform) (r : ProofReceiver) (call : SendCall) (drawn : Drawn) (iv : Bytes) : Transfer :=
  transferOf platform r.secret call (call.helloOf platform) drawn.sessionId drawn.challenge
    (r.destinationHostFingerprint platform) iv

/-- The challenge that the sender is handed: it does not name the state. -/
def handedChallenge (platform : Platform) (r : ProofReceiver) (call : SendCall) (drawn : Drawn) (now : ℤ) : HttpResponse :=
  (r.challengeResponse drawn.sessionId (openedSession platform r call drawn now)).wire

theorem sentTransfer_answers (call : SendCall) (drawn : Drawn) (now : ℤ) (iv : Bytes) :
    answerChallenge platform r.secret call (call.helloOf platform) (.ok (handedChallenge platform r call drawn now)) iv =
      .ok (sentTransfer platform r call drawn iv) ∧
    Answers platform r.secret call (call.helloOf platform) (sentTransfer platform r call drawn iv) := by
  have hanswer := @answerChallenge_response platform r r.secret call drawn now iv
  exact ⟨hanswer, (answerChallenge_ok hanswer).1⟩

theorem transcript_renamed (hbytes : utf8Encode stateId = utf8Encode call.stateId) (sessionId challenge destination : JsString) :
    utf8Encode (proofTranscript sessionId (((call.renamed stateId).helloOf platform).proofFields challenge destination)) =
      utf8Encode (proofTranscript sessionId ((call.helloOf platform).proofFields challenge destination)) := by
  simp only [proofTranscript, utf8Encode_joinBar, proofParts, SendCall.helloOf, SendCall.renamed, Hello.proofFields,
    List.map_cons, hbytes]

/-- The transfer of the sender answers for the rewritten state id as well. -/
theorem sentTransfer_renamed (hbytes : utf8Encode stateId = utf8Encode call.stateId) (drawn : Drawn) (iv : Bytes) :
    sentTransfer platform r (call.renamed stateId) drawn iv = sentTransfer platform r call drawn iv := by
  simp only [sentTransfer, transferOf, hmac, transcript_renamed hbytes]
  rfl

/-- The receipt as the network rewrites it for the sender. -/
def rewrittenReceipt (platform : Platform) (r : ProofReceiver) (call : SendCall) (drawn : Drawn) (now : ℤ) (iv : Bytes) :
    Issued :=
  (sentTransfer platform r call drawn iv).issued platform r (openedSession platform r call drawn now)
    call.canonicalPayload false now

/-- What a receiver is told of a call. -/
def challengeLeg (platform : Platform) (call : SendCall) (drawn : Drawn) (now : ℤ) : List Event :=
  [.challenge now, .helloBody 0 (.ok (Body.ofText (stringify (call.helloOf platform).toJson))) drawn now now]

def transferLeg (t : Transfer) (now : ℤ) : List Event :=
  [.transfer t.headers now, .ciphertextBody 1 (.ok t.ciphertext) none now]

def handedReceipt (platform : Platform) (r : ProofReceiver) (call : SendCall) (drawn : Drawn) (now : ℤ) (iv : Bytes) :
    HttpResponse :=
  Response.wire ⟨200, (rewrittenReceipt platform r call drawn now iv).receipt⟩

/-- The network tells the receiver of another state id, and rewrites it back in the receipt. -/
def rewriting (platform : Platform) (r : ProofReceiver) (call : SendCall) (stateId : JsString) (drawn : Drawn) (now : ℤ)
    (iv : Bytes) : List WorldEvent :=
  .send call :: ((challengeLeg platform (call.renamed stateId) drawn now).map (WorldEvent.receiver 0) ++
    .challengeArrives 0 (.ok (handedChallenge platform r call drawn now)) iv ::
    ((transferLeg (sentTransfer platform r call drawn iv) now).map (WorldEvent.receiver 0) ++
    [.receiptArrives 0 (.ok (handedReceipt platform r call drawn now iv))]))

/-- A world whose first receiver alone has been used. -/
def World.single (s : State) (runs : List Run) : World := ⟨Function.update (fun _ => State.start) 0 s, runs⟩

theorem run_single (s : State) (runs : List Run) (events : List Event) :
    run (World.step platform secret receivers) (World.single s runs) (events.map (WorldEvent.receiver 0)) =
      World.single (run ((receivers 0).step platform) s events) runs := by
  induction events generalizing s with
  | nil => rfl
  | cons e events ih =>
    rw [List.map_cons, run_cons, run_cons, ← ih]
    simp only [World.step, World.single, Function.update_self, Function.update_idem]

theorem single_receiver (s : State) (runs : List Run) : (World.single s runs).receivers 0 = s := by
  simp only [World.single, Function.update_self]

theorem single_start : World.single State.start [] = World.start := by
  rw [World.single, Function.update_eq_self]
  rfl

theorem step_send (w : World) {call : SendCall} {hello : Hello} (h : startSend platform secret call = .ok hello) :
    w.step platform secret receivers (.send call) = { w with runs := w.runs ++ [⟨call, hello, none, none⟩] } := by
  simp only [World.step, h]

theorem step_challenge {w : World} {n : ℕ} {call : SendCall} {hello : Hello} {t : Transfer}
    {response : Except JsString HttpResponse} {iv : Bytes} (hn : w.runs[n]? = some ⟨call, hello, none, none⟩)
    (h : answerChallenge platform secret call hello response iv = .ok t) :
    w.step platform secret receivers (.challengeArrives n response iv) =
      { w with runs := w.runs.set n ⟨call, hello, some t, none⟩ } := by
  simp only [World.step, hn, Run.challenged, h]

theorem step_receipt {w : World} {n : ℕ} {call : SendCall} {hello : Hello} {t : Transfer} {receipt : Json}
    {response : Except JsString HttpResponse} (hn : w.runs[n]? = some ⟨call, hello, some t, none⟩)
    (h : acceptReceipt platform secret hello t response = .ok receipt) :
    w.step platform secret receivers (.receiptArrives n response) =
      { w with runs := w.runs.set n ⟨call, hello, some t, some (.ok receipt)⟩ } := by
  simp only [World.step, hn, Run.answered, h]

/-- The receipt that the receiver issues. -/
def issuedReceipt (platform : Platform) (r : ProofReceiver) (call : SendCall) (stateId : JsString) (drawn : Drawn) (now : ℤ)
    (iv : Bytes) : Issued :=
  (sentTransfer platform r call drawn iv).issued platform r (openedSession platform r (call.renamed stateId) drawn now)
    call.canonicalPayload false now

theorem rewritten_bytes (hbytes : utf8Encode stateId = utf8Encode call.stateId) (drawn : Drawn) (now : ℤ) (iv : Bytes) :
    utf8Encode (joinBar (rewrittenReceipt platform r call drawn now iv).core.parts) =
      utf8Encode (joinBar (issuedReceipt platform r call stateId drawn now iv).core.parts) := by
  simp only [utf8Encode_joinBar, rewrittenReceipt, issuedReceipt, Transfer.issued, receiptCore, ReceiptCore.parts,
    Transfer.claim, openedSession_fields, SendCall.helloOf, SendCall.renamed, Hello.proofFields, List.map_cons, hbytes]

/-- The sender accepts the receipt as it is rewritten. -/
theorem acceptReceipt_rewritten (call : SendCall) (drawn : Drawn) (now : ℤ) (iv : Bytes) :
    acceptReceipt platform r.secret (call.helloOf platform) (sentTransfer platform r call drawn iv)
        (.ok (handedReceipt platform r call drawn now iv)) =
      .ok (rewrittenReceipt platform r call drawn now iv).receipt.rebuild :=
  acceptReceipt_issued rfl (receiptMatches_issued (openedSession_fields call drawn now) false now).2

/-- The two legs of the exchange at a fresh receiver. -/
theorem legs_run (h : call.Admissible platform) (hstateId : validStateId stateId = true)
    (hbytes : utf8Encode stateId = utf8Encode call.stateId) (hpayload : call.canonicalPayload.length ≤ r.maxBytes)
    (drawn : Drawn) (now : ℤ) {iv : Bytes} (hiv : iv.length = 12) :
    let opened := run (r.step platform) State.start (challengeLeg platform (call.renamed stateId) drawn now)
    let t := sentTransfer platform r call drawn iv
    opened.requests.length = 1 ∧
    r.step platform opened (.transfer t.headers now) = { opened with
      sessions := opened.sessions.delete t.sessionId
      requests := opened.requests ++ [.ciphertext (t.claim (openedSession platform r (call.renamed stateId) drawn now))]
      claims := (now, t.claim (openedSession platform r (call.renamed stateId) drawn now)) :: opened.claims } ∧
    (run (r.step platform) opened (transferLeg t now)).issued = [issuedReceipt platform r call stateId drawn now iv] := by
  have hadmissible := h.renamed hstateId
  obtain ⟨-, hanswers⟩ := @sentTransfer_answers platform r (call.renamed stateId) drawn now iv
  rw [sentTransfer_renamed hbytes] at hanswers
  have hroom : (r.expireSessions now State.start.sessions).size < r.maxSessions := by
    have := r.maxSessions_ok
    simp only [positiveInteger, Bool.and_eq_true, decide_eq_true_eq] at this
    exact Nat.lt_of_lt_of_le Nat.zero_lt_one this.1
  have hlive : r.expired now (openedSession platform r (call.renamed stateId) drawn now) = false := by
    have := r.challengeTtlMs_ok
    simp only [positiveInteger, Bool.and_eq_true, decide_eq_true_eq] at this
    simp only [expired, openedSession, sessionOf, sub_self, decide_eq_false_iff_not, not_le]
    omega
  have hopened := challenge_run hadmissible hpayload drawn now now now hroom
  intro opened t
  have hget : opened.sessions.get t.sessionId = some (openedSession platform r (call.renamed stateId) drawn now) :=
    (congrArg (fun s => s.sessions.get drawn.sessionId) hopened).trans
      ((JsMap.get_set _ _ _ _).trans (if_pos (beq_self_eq_true _)))
  have hlength : opened.requests.length = 1 := congrArg (fun s => s.requests.length) hopened
  have hissued : opened.issued = [] := congrArg State.issued hopened
  obtain ⟨hclaim, htransfer⟩ := transfer_run hanswers hiv hpayload (openedSession_fields _ _ _) hget hlive none now
  rw [hlength] at htransfer
  refine ⟨hlength, hclaim, (congrArg State.issued htransfer).trans ?_⟩
  rw [hissued]
  rfl

/-- The receiver has issued a receipt for the state id that the network made up, and the sender
returns one for its own. -/
theorem rewriting_run (h : call.Admissible platform) (hstateId : validStateId stateId = true)
    (hbytes : utf8Encode stateId = utf8Encode call.stateId) (hpayload : call.canonicalPayload.length ≤ r.maxBytes)
    (drawn : Drawn) (now : ℤ) {iv : Bytes} (hiv : iv.length = 12) :
    let w := World.after platform r.secret (fun _ => r) (rewriting platform r call stateId drawn now iv)
    Steps (World.step platform r.secret fun _ => r) (World.Ideal platform r.secret fun _ => r) World.start
      (rewriting platform r call stateId drawn now iv) ∧
    (w.receivers 0).issued = [issuedReceipt platform r call stateId drawn now iv] ∧
    (∀ i, i ≠ 0 → (w.receivers i).issued = []) ∧
    w.runs = [⟨call, call.helloOf platform, some (sentTransfer platform r call drawn iv),
      some (.ok (rewrittenReceipt platform r call drawn now iv).receipt.rebuild)⟩] := by
  have hsent := startSend_admissible r.secret_length h
  obtain ⟨hanswer, -⟩ := @sentTransfer_answers platform r call drawn now iv
  obtain ⟨hlength, hclaim, hreceipts⟩ := legs_run h hstateId hbytes hpayload drawn now hiv
  set opened := run (r.step platform) State.start (challengeLeg platform (call.renamed stateId) drawn now)
  set t := sentTransfer platform r call drawn iv
  set issued := run (r.step platform) opened (transferLeg t now)
  -- the world after each leg of the exchange
  have hsend : World.start.step platform r.secret (fun _ => r) (.send call) =
      World.single State.start [⟨call, call.helloOf platform, none, none⟩] := by
    rw [← single_start]
    exact step_send _ hsent
  have hchallenge : run (World.step platform r.secret fun _ => r)
      (World.single State.start [⟨call, call.helloOf platform, none, none⟩])
      ((challengeLeg platform (call.renamed stateId) drawn now).map (WorldEvent.receiver 0)) =
      World.single opened [⟨call, call.helloOf platform, none, none⟩] := run_single _ _ _
  have hanswered : (World.single opened [⟨call, call.helloOf platform, none, none⟩]).step platform r.secret (fun _ => r)
      (.challengeArrives 0 (.ok (handedChallenge platform r call drawn now)) iv) =
      World.single opened [⟨call, call.helloOf platform, some t, none⟩] := step_challenge rfl hanswer
  have hclaimed : run (World.step platform r.secret fun _ => r)
      (World.single opened [⟨call, call.helloOf platform, some t, none⟩])
      ((transferLeg t now).map (WorldEvent.receiver 0)) =
      World.single issued [⟨call, call.helloOf platform, some t, none⟩] := run_single _ _ _
  have hreturned : (World.single issued [⟨call, call.helloOf platform, some t, none⟩]).step platform r.secret (fun _ => r)
      (.receiptArrives 0 (.ok (handedReceipt platform r call drawn now iv))) =
      World.single issued [⟨call, call.helloOf platform, some t,
        some (.ok (rewrittenReceipt platform r call drawn now iv).receipt.rebuild)⟩] :=
    step_receipt rfl (acceptReceipt_rewritten call drawn now iv)
  have hafter : World.after platform r.secret (fun _ => r) (rewriting platform r call stateId drawn now iv) =
      World.single issued [⟨call, call.helloOf platform, some t,
        some (.ok (rewrittenReceipt platform r call drawn now iv).receipt.rebuild)⟩] := by
    rw [World.after, rewriting, run_cons, hsend, run_append, hchallenge, run_cons, hanswered, run_append, hclaimed, run_cons,
      hreturned, run_nil]
  refine ⟨?_, ?_, ?_, ?_⟩
  · rw [rewriting, Steps, hsend, steps_append, hchallenge, Steps, hanswered, steps_append, hclaimed]
    refine ⟨trivial, ⟨trivial, trivial, trivial⟩, trivial, ⟨trivial, ?_, trivial⟩, ?_, trivial⟩
    · intro ciphertext claim payload hbody hwaits _
      -- the receiver opens what the run has sealed, for a session with the same transcript
      have hstate : ((World.single opened [⟨call, call.helloOf platform, some t, none⟩]).step platform r.secret (fun _ => r)
          (.receiver 0 (.transfer t.headers now))).receivers 0 = r.step platform opened (.transfer t.headers now) := by
        simp only [World.step, World.single, Function.update_self]
      rw [hstate, hclaim, Waits, ← hlength, List.getElem?_concat_length, Option.some.injEq, Stage.ciphertext.injEq] at hwaits
      subst hwaits
      have hsame : utf8Encode (Run.transcript ⟨call, call.helloOf platform, some t, none⟩ t) =
          utf8Encode (proofTranscript t.sessionId (openedSession platform r (call.renamed stateId) drawn now).toProofFields) := by
        rw [openedSession_fields]
        exact (transcript_renamed hbytes _ _ _).symm
      exact ⟨0, ⟨call, call.helloOf platform, some t, none⟩, t, rfl, rfl, hsame,
        (base64Decode_urlEncode _).symm, (base64Decode_urlEncode _).symm, Except.ok.inj hbody⟩
    · intro answer receipt transcript mac hanswer hparse htranscript _ _
      have hreceipt : receipt = (rewrittenReceipt platform r call drawn now iv).receipt.rebuild := by
        rw [← Except.ok.inj hanswer] at hparse
        exact Option.some.inj (hparse.symm.trans (parse_stringify _))
      rw [hreceipt, receiptTranscript_issued, Option.some.injEq] at htranscript
      refine Or.inr ⟨0, issuedReceipt platform r call stateId drawn now iv, ?_, ?_⟩
      · rw [single_receiver, hreceipts]
        exact List.mem_cons_self
      · rw [← htranscript, rewritten_bytes hbytes]
  · rw [hafter]
    exact hreceipts
  · intro i hi
    rw [hafter]
    exact congrArg State.issued (Function.update_of_ne hi issued fun _ => State.start)
  · rw [hafter]
    rfl

end

end

/-! ## Sample runs -/

namespace Sample

theorem callOf_admissible {stateId : JsString} (h : validStateId stateId = true) :
    (callOf stateId).Admissible platform where
  port := show positiveInteger 47831 = true by decide
  timeoutMs := show positiveInteger 15000 = true by decide
  stateId := h
  stateHash := hex_of_pattern (platform.sha256_hex [1])
  generation := ⟨le_rfl, show (0 : ℤ) ≤ 9007199254740991 by decide⟩
  nonempty := le_rfl
  hashed := (toLowerCase_of_lower (platform.sha256_hex [1])).symm

/-- The run of one call that is told to the receiver under another state id. -/
def told (stateId toldId : JsString) : List WorldEvent := rewriting platform receiver (callOf stateId) toldId firstDrawn now iv

theorem told_run {stateId toldId : JsString} (h : validStateId stateId = true) (htold : validStateId toldId = true)
    (hbytes : utf8Encode toldId = utf8Encode stateId) :
    let w := World.after platform receiver.secret (fun _ => receiver) (told stateId toldId)
    Steps (World.step platform receiver.secret fun _ => receiver) (World.Ideal platform receiver.secret fun _ => receiver)
      World.start (told stateId toldId) ∧
    (w.receivers 0).issued = [issuedReceipt platform receiver (callOf stateId) toldId firstDrawn now iv] ∧
    (∀ i, i ≠ 0 → (w.receivers i).issued = []) ∧
    w.runs = [⟨callOf stateId, (callOf stateId).helloOf platform,
      some (sentTransfer platform receiver (callOf stateId) firstDrawn iv),
      some (.ok (rewrittenReceipt platform receiver (callOf stateId) firstDrawn now iv).receipt.rebuild)⟩] :=
  rewriting_run (r := receiver) (callOf_admissible h) htold hbytes (show 1 ≤ 1024 by decide) firstDrawn now
    (show iv.length = 12 by decide)

theorem told_collisionFree {stateId toldId : JsString} (h : validStateId stateId = true) (htold : validStateId toldId = true)
    (hbytes : utf8Encode toldId = utf8Encode stateId) :
    (World.after platform receiver.secret (fun _ => receiver) (told stateId toldId)).CollisionFree platform := by
  obtain ⟨-, hissued, hnone, hruns⟩ := told_run h htold hbytes
  intro run hrun i x hx _
  have hcall : run.call = callOf stateId := by
    rw [hruns, List.mem_singleton] at hrun
    rw [hrun]
  by_cases hi : i = 0
  · subst hi
    rw [hissued, List.mem_singleton] at hx
    rw [hx, hcall]
    rfl
  · rw [hnone i hi] at hx
    cases hx

def plainState : JsString := js "state-1"

theorem transfer_correct_plainState : ∃ receipt : Json,
    (World.after platform receiver.secret (fun _ => receiver) (told plainState plainState)).Received platform
      (fun _ => receiver) ⟨callOf plainState, (callOf plainState).helloOf platform,
        some (sentTransfer platform receiver (callOf plainState) firstDrawn iv), some (.ok receipt)⟩ receipt := by
  have hvalid : validStateId plainState = true := by decide
  have hunambiguous : Unambiguous plainState := ⟨wellFormed_of_ascii (by decide), by decide⟩
  obtain ⟨hideal, -, -, hruns⟩ := told_run hvalid hvalid rfl
  have hstate : ∀ e ∈ told plainState plainState, e.HasUnambiguousState := by
    simp only [told, rewriting, challengeLeg, transferLeg, List.map_cons, List.map_nil, List.cons_append, List.nil_append,
      List.forall_mem_cons, List.not_mem_nil, false_implies, implies_true, and_true]
    exact ⟨hunambiguous, trivial, trivial, trivial, trivial, trivial, trivial⟩
  exact ⟨_, (transfer_correct (fun _ => receiver) (steps_and_forall hideal hstate)
    (told_collisionFree hvalid hvalid rfl)).2 0 _ _ (by rw [hruns]; rfl) rfl⟩

/-- A state id that is a lone surrogate is told as U+FFFD: the receiver has decrypted the
payload under another state id than the receipt that the sender returns says. -/
theorem surrogate_rewritten :
    Steps (World.step platform receiver.secret fun _ => receiver) (World.Ideal platform receiver.secret fun _ => receiver)
      World.start (told [0xD800] [0xFFFD]) ∧
    (World.after platform receiver.secret (fun _ => receiver) (told [0xD800] [0xFFFD])).CollisionFree platform ∧
    ∃ (run : Run) (receipt : Json),
      (World.after platform receiver.secret (fun _ => receiver) (told [0xD800] [0xFFFD])).runs[0]? = some run ∧
      run.result = some (.ok receipt) ∧
      ¬ (World.after platform receiver.secret (fun _ => receiver) (told [0xD800] [0xFFFD])).Received platform
        (fun _ => receiver) run receipt := by
  have hbytes : utf8Encode [0xFFFD] = utf8Encode [0xD800] := by decide
  have hvalid : validStateId [0xD800] = true ∧ validStateId [0xFFFD] = true := by decide
  obtain ⟨hideal, hissued, hnone, hruns⟩ := told_run hvalid.1 hvalid.2 hbytes
  refine ⟨hideal, told_collisionFree hvalid.1 hvalid.2 hbytes, _, _, by rw [hruns]; rfl, rfl, ?_⟩
  rintro ⟨i, x, hx, -, hstateId, -⟩
  by_cases hi : i = 0
  · subst hi
    rw [hissued, List.mem_singleton] at hx
    subst hx
    exact absurd hstateId (show ([0xFFFD] : JsString) ≠ [0xD800] by decide)
  · rw [hnone i hi] at hx
    cases hx

end Sample

end TwoMachine
