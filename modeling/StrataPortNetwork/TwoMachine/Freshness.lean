import StrataPortNetwork.TwoMachine.Transfer

/-! # Which transfer a receipt answers

The sender contributes nothing of its own to a session, so a run that is handed a recorded
challenge takes the recorded receipt. A receipt answers a transfer of some run that was handed
its session, and of this very run if no other was.
-/
namespace TwoMachine
open Js ProofReceiver Transition

section
variable {platform : Platform} {secret : JsString} {receivers : ℕ → ProofReceiver}

/-- The claim was made by the transfer: its iv, tag, ciphertext and transcript are the claim's. -/
def Run.Answered (run : Run) (t : Transfer) (x : Issued) : Prop :=
  utf8Encode (run.transcript t) = utf8Encode (proofTranscript x.claim.sessionId x.claim.session.toProofFields) ∧
    t.iv = base64Decode x.claim.iv ∧ t.tag = base64Decode x.claim.tag ∧ t.ciphertext = x.ciphertext

/-- A transfer that a receiver has opened was made for the session of the claim. -/
theorem World.Sound.sessionId_of_answered {w : World} (h : World.Sound platform secret receivers w) {i : ℕ} {x : Issued}
    (hx : x ∈ (w.receivers i).issued) {m : ℕ} {run : Run} {t : Transfer} (hm : w.runs[m]? = some run)
    (ht : run.transfer = some t) (hanswered : run.Answered t x) : t.sessionId = x.claim.sessionId := by
  obtain ⟨hstarted, hanswers, -⟩ := h.runs m run hm
  have hanswer := hanswers t ht
  have hvalid : (run.hello.proofFields t.challenge t.destinationHostFingerprint).Valid := by
    rw [hstarted.hello]
    exact ⟨hanswer.challenge, hex_of_pattern (platform.sha256_hex _), hanswer.destination, hstarted.stateId,
      hex_of_pattern (platform.sha256_hex _), hex_of_pattern (platform.sha256_hex _)⟩
  have hsame := joinBar_bytes_inj (bar_not_mem_proofParts (bar_not_mem_sessionId hanswer.sessionId) hvalid)
    (by simp [proofParts]) (by simp [proofParts]) hanswered.1
  have hid : utf8Encode t.sessionId = utf8Encode x.claim.sessionId := by
    simp only [proofParts, List.map_cons, List.cons.injEq] at hsame
    exact hsame.2.1
  exact (unambiguous_of_ascii (ascii_sessionId ((h.genuine i).issued x hx).sessionId)).eq_of_bytes hid

variable {r : ProofReceiver} {call : SendCall}

/-- A second run is handed what the first one was. -/
def replaying (platform : Platform) (r : ProofReceiver) (call : SendCall) (drawn : Drawn) (now : ℤ) (iv iv' : Bytes) :
    List WorldEvent :=
  rewriting platform r call call.stateId drawn now iv ++ [.send call,
    .challengeArrives 1 (.ok (handedChallenge platform r call drawn now)) iv',
    .receiptArrives 1 (.ok (handedReceipt platform r call drawn now iv))]

/-- A receipt matches any transfer of the same length for the same session. -/
theorem acceptReceipt_replayed (call : SendCall) (drawn : Drawn) (now : ℤ) (iv iv' : Bytes) :
    acceptReceipt platform r.secret (call.helloOf platform) (sentTransfer platform r call drawn iv')
        (.ok (handedReceipt platform r call drawn now iv)) =
      .ok (rewrittenReceipt platform r call drawn now iv).receipt.rebuild := by
  have hmatches := (@receiptMatches_issued platform r _ (sentTransfer platform r call drawn iv) _
    (openedSession_fields call drawn now) false now).2
  have hlength : (sentTransfer platform r call drawn iv').ciphertext.length =
      (sentTransfer platform r call drawn iv).ciphertext.length := by
    simp only [sentTransfer, transferOf, platform.encrypt_length]
  refine acceptReceipt_issued rfl ?_
  rw [← hmatches]
  simp only [receiptMatches, hlength]
  rfl

/-- Both runs return the receipt of the first one. -/
theorem replaying_run (h : call.Admissible platform) (hpayload : call.canonicalPayload.length ≤ r.maxBytes) (drawn : Drawn)
    (now : ℤ) {iv : Bytes} (hiv : iv.length = 12) (iv' : Bytes) :
    let w := World.after platform r.secret (fun _ => r) (replaying platform r call drawn now iv iv')
    let receipt := (rewrittenReceipt platform r call drawn now iv).receipt.rebuild
    Steps (World.step platform r.secret fun _ => r) (World.Ideal platform r.secret fun _ => r) World.start
      (replaying platform r call drawn now iv iv') ∧
    (w.receivers 0).issued = [issuedReceipt platform r call call.stateId drawn now iv] ∧
    (∀ i, i ≠ 0 → (w.receivers i).issued = []) ∧
    w.runs = [⟨call, call.helloOf platform, some (sentTransfer platform r call drawn iv), some (.ok receipt)⟩,
      ⟨call, call.helloOf platform, some (sentTransfer platform r call drawn iv'), some (.ok receipt)⟩] := by
  obtain ⟨hideal, hissued, hnone, hruns⟩ := rewriting_run h h.stateId rfl hpayload drawn now hiv
  set w := World.after platform r.secret (fun _ => r) (rewriting platform r call call.stateId drawn now iv)
  set receipt := (rewrittenReceipt platform r call drawn now iv).receipt.rebuild
  set first : Run := ⟨call, call.helloOf platform, some (sentTransfer platform r call drawn iv), some (.ok receipt)⟩
  have hsend : w.step platform r.secret (fun _ => r) (.send call) =
      { w with runs := [first, ⟨call, call.helloOf platform, none, none⟩] } := by
    rw [step_send w (startSend_admissible r.secret_length h), hruns]
    rfl
  have hanswered : World.step platform r.secret (fun _ => r)
      { w with runs := [first, ⟨call, call.helloOf platform, none, none⟩] }
      (.challengeArrives 1 (.ok (handedChallenge platform r call drawn now)) iv') =
      { w with runs := [first, ⟨call, call.helloOf platform, some (sentTransfer platform r call drawn iv'), none⟩] } :=
    step_challenge rfl (sentTransfer_answers call drawn now iv').1
  have hreturned : World.step platform r.secret (fun _ => r)
      { w with runs := [first, ⟨call, call.helloOf platform, some (sentTransfer platform r call drawn iv'), none⟩] }
      (.receiptArrives 1 (.ok (handedReceipt platform r call drawn now iv))) =
      { w with runs := [first, ⟨call, call.helloOf platform, some (sentTransfer platform r call drawn iv'),
        some (.ok receipt)⟩] } :=
    step_receipt rfl (acceptReceipt_replayed call drawn now iv iv')
  have hafter : World.after platform r.secret (fun _ => r) (replaying platform r call drawn now iv iv') =
      { w with runs := [first, ⟨call, call.helloOf platform, some (sentTransfer platform r call drawn iv'),
        some (.ok receipt)⟩] } := by
    rw [World.after, replaying, run_append, run_cons, run_cons, run_cons, run_nil]
    change ((w.step _ _ _ _).step _ _ _ _).step _ _ _ _ = _
    rw [hsend, hanswered, hreturned]
  refine ⟨?_, by rw [hafter]; exact hissued, fun i hi => by rw [hafter]; exact hnone i hi, by rw [hafter]⟩
  rw [replaying, steps_append]
  refine ⟨hideal, trivial, trivial, ?_, trivial⟩
  change World.Ideal platform r.secret (fun _ => r) ((w.step _ _ _ _).step _ _ _ _) _
  rw [hsend, hanswered]
  intro answer receipt' transcript mac hanswer hparse htranscript _ _
  have hreceipt : receipt' = receipt := by
    rw [← Except.ok.inj hanswer] at hparse
    exact Option.some.inj (hparse.symm.trans (parse_stringify _))
  rw [hreceipt, receiptTranscript_issued, Option.some.injEq] at htranscript
  refine Or.inr ⟨0, issuedReceipt platform r call call.stateId drawn now iv, by rw [hissued]; exact List.mem_cons_self, ?_⟩
  rw [← htranscript, rewritten_bytes rfl]

end

/-! ## Sample runs -/

namespace Sample

def otherIv : Bytes := List.replicate 12 8

def replayedEvents : List WorldEvent := replaying platform receiver (callOf plainState) firstDrawn now iv otherIv

end Sample

end TwoMachine
