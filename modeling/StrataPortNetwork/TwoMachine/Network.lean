import StrataPortNetwork.TwoMachine.Genuine
import Mathlib.Logic.Function.Basic

/-! # Senders, receivers and the network between them

Any number of sender runs and receivers share a secret, and the network decides what each
of them is handed and when. Ideal primitives: a receipt with a valid MAC has bytes that one
of them authenticated, and a ciphertext that opens was sealed by a sender.
-/
namespace TwoMachine
open Js ProofReceiver

/-! ## The world -/

/-- A run of `sendTwoHostProof` past its first checks: what it sent, and how it ended. -/
structure Run where
  call : SendCall
  hello : Hello
  transfer : Option Transfer
  result : Option (Except JsString Json)

structure World where
  receivers : ℕ → ProofReceiver.State
  runs : List Run

def World.start : World := ⟨fun _ => State.start, []⟩

inductive WorldEvent
  | send (call : SendCall)
  | challengeArrives (n : ℕ) (response : Except JsString HttpResponse) (iv : Bytes)
  | receiptArrives (n : ℕ) (response : Except JsString HttpResponse)
  | receiver (i : ℕ) (event : Event)

section
variable (platform : Platform) (secret : JsString) (receivers : ℕ → ProofReceiver)

def Run.challenged (run : Run) (response : Except JsString HttpResponse) (iv : Bytes) : Run :=
  match answerChallenge platform secret run.call run.hello response iv with
  | .error e => { run with result := some (.error e) }
  | .ok t => { run with transfer := some t }

def Run.answered (run : Run) (t : Transfer) (response : Except JsString HttpResponse) : Run :=
  { run with result := some (acceptReceipt platform secret run.hello t response) }

def World.step (w : World) : WorldEvent → World
  | .send call =>
    match startSend platform secret call with
    | .error _ => w
    | .ok hello => { w with runs := w.runs ++ [⟨call, hello, none, none⟩] }
  | .challengeArrives n response iv =>
    match w.runs[n]? with
    | some ⟨call, hello, none, none⟩ =>
      { w with runs := w.runs.set n (Run.challenged platform secret ⟨call, hello, none, none⟩ response iv) }
    | _ => w
  | .receiptArrives n response =>
    match w.runs[n]? with
    | some ⟨call, hello, some t, none⟩ =>
      { w with runs := w.runs.set n (Run.answered platform secret ⟨call, hello, some t, none⟩ t response) }
    | _ => w
  | .receiver i event =>
    { w with receivers := Function.update w.receivers i ((receivers i).step platform (w.receivers i) event) }

def World.after (events : List WorldEvent) : World :=
  Transition.run (World.step platform secret receivers) World.start events

end

/-! ## Ideal primitives -/

/-- The transcript that a run authenticates with its transfer. -/
def Run.transcript (run : Run) (t : Transfer) : JsString :=
  proofTranscript t.sessionId (run.hello.proofFields t.challenge t.destinationHostFingerprint)

namespace World

/-- The texts that a holder of the secret has computed a MAC for. -/
def authenticated (w : World) : Set Bytes :=
  {bytes | (∃ (n : ℕ) (run : Run) (t : Transfer), w.runs[n]? = some run ∧ run.transfer = some t ∧ bytes = utf8Encode (run.transcript t)) ∨
    ∃ i, ∃ x ∈ (w.receivers i).issued, bytes = utf8Encode (joinBar x.core.parts)}

/-- Run `n` has sealed the ciphertext, for the session of the claim. -/
def Sealed (w : World) (claim : Claim) (ciphertext : Bytes) (n : ℕ) : Prop :=
  ∃ (run : Run) (t : Transfer), w.runs[n]? = some run ∧ run.transfer = some t ∧
    utf8Encode (run.transcript t) = utf8Encode (proofTranscript claim.sessionId claim.session.toProofFields) ∧
    t.iv = base64Decode claim.iv ∧ t.tag = base64Decode claim.tag ∧ t.ciphertext = ciphertext

/-- No step forges a MAC or a ciphertext. -/
def Ideal (platform : Platform) (secret : JsString) (receivers : ℕ → ProofReceiver) (w : World) : WorldEvent → Prop
  | .receiptArrives _ response => ∀ answer receipt transcript mac, response = .ok answer →
      parse answer.text = some receipt → receiptTranscript receipt = some transcript →
      receipt.get "receiptMac" = some (.str mac) → safeEqualHex mac (hmac platform secret transcript) = true →
      utf8Encode transcript ∈ w.authenticated
  | .receiver i (.ciphertextBody j body _ _) => ∀ ciphertext claim payload, body = .ok ciphertext →
      Waits (w.receivers i).requests j claim → (receivers i).openPayload platform claim ciphertext = some payload →
      ∃ n, w.Sealed claim ciphertext n
  | _ => True

variable {platform : Platform} {secret : JsString} {receivers : ℕ → ProofReceiver}

/-! ## What steps keep -/

/-- Transfers and receipts stay on record. -/
structure Grows (w w' : World) : Prop where
  runs : ∀ (n : ℕ) (run : Run), w.runs[n]? = some run → ∃ run' : Run, w'.runs[n]? = some run' ∧ run'.call = run.call ∧
    run'.hello = run.hello ∧ ∀ t, run.transfer = some t → run'.transfer = some t
  issued : ∀ i, ∀ x ∈ (w.receivers i).issued, x ∈ (w'.receivers i).issued

theorem Grows.refl (w : World) : Grows w w := ⟨fun _ run h => ⟨run, h, rfl, rfl, fun _ => id⟩, fun _ _ => id⟩

theorem Grows.authenticated {w w' : World} (h : Grows w w') {bytes : Bytes} (hbytes : bytes ∈ w.authenticated) :
    bytes ∈ w'.authenticated := by
  rcases hbytes with ⟨n, run, t, hn, ht, rfl⟩ | ⟨i, x, hx, rfl⟩
  · obtain ⟨run', hn', -, hhello, ht'⟩ := h.runs n run hn
    exact Or.inl ⟨n, run', t, hn', ht' t ht, by rw [Run.transcript, Run.transcript, hhello]⟩
  · exact Or.inr ⟨i, x, h.issued i x hx, rfl⟩

theorem Grows.sealed {w w' : World} (h : Grows w w') {claim : Claim} {ciphertext : Bytes} {n : ℕ}
    (hs : w.Sealed claim ciphertext n) : w'.Sealed claim ciphertext n := by
  obtain ⟨run, t, hn, ht, htranscript, hrest⟩ := hs
  obtain ⟨run', hn', -, hhello, ht'⟩ := h.runs n run hn
  refine ⟨run', t, hn', ht' t ht, ?_, hrest⟩
  rw [← htranscript, Run.transcript, Run.transcript, hhello]

end World

/-- A receiver issues a receipt for the payload that a waiting claim decrypts to. -/
theorem ProofReceiver.step_issued (platform : Platform) (r : ProofReceiver) (s : State) (e : Event) :
    (r.step platform s e).issued = s.issued ∨ ∃ j address now x, e = .ciphertextBody j (.ok x.ciphertext) address now ∧
      Waits s.requests j x.claim ∧ r.openPayload platform x.claim x.ciphertext = some x.payload ∧
      (r.step platform s e).issued = x :: s.issued := by
  cases e with
  | timer now => exact Or.inl rfl
  | challenge now =>
    simp only [step]
    split <;> exact Or.inl rfl
  | helloBody i body drawn now createdAt =>
    simp only [step]
    split
    · split <;> exact Or.inl rfl
    · exact Or.inl rfl
  | transfer headers now =>
    simp only [step]
    split <;> exact Or.inl rfl
  | ciphertextBody j body address now =>
    simp only [step]
    split
    · rename_i claim hj
      split
      · exact Or.inl rfl
      · rename_i x sessions heq
        obtain ⟨rfl, rfl, -, hopen, -⟩ := resumeTransfer_ok heq
        exact Or.inr ⟨j, address, now, x, rfl, hj, hopen, rfl⟩
    · exact Or.inl rfl
  | sinkAnswers i persisted =>
    simp only [step]
    split <;> exact Or.inl rfl
  | unknownRequest => exact Or.inl rfl

namespace World
variable {platform : Platform} {secret : JsString} {receivers : ℕ → ProofReceiver}

/-- A run that is set to one with the same beginning. -/
theorem grows_set {w : World} {n : ℕ} {run run' : Run} (hn : w.runs[n]? = some run) (hcall : run'.call = run.call)
    (hhello : run'.hello = run.hello) (htransfer : ∀ t, run.transfer = some t → run'.transfer = some t) :
    Grows w { w with runs := w.runs.set n run' } := by
  refine ⟨fun m run₀ hm => ?_, fun _ _ => id⟩
  by_cases hmn : n = m
  · subst hmn
    rw [hn, Option.some.injEq] at hm
    subst hm
    have hlt := (List.getElem?_eq_some_iff.mp hn).1
    exact ⟨run', by simp [hlt], hcall, hhello, htransfer⟩
  · exact ⟨run₀, by simpa [List.getElem?_set_ne hmn] using hm, rfl, rfl, fun _ => id⟩

theorem challenged_keeps (run : Run) (response : Except JsString HttpResponse) (iv : Bytes) :
    (run.challenged platform secret response iv).call = run.call ∧
      (run.challenged platform secret response iv).hello = run.hello := by
  unfold Run.challenged
  split <;> exact ⟨rfl, rfl⟩

theorem step_grows (w : World) (e : WorldEvent) : Grows w (w.step platform secret receivers e) := by
  cases e with
  | send call =>
    simp only [step]
    split
    · exact Grows.refl w
    · refine ⟨fun n run hn => ⟨run, ?_, rfl, rfl, fun _ => id⟩, fun _ _ => id⟩
      exact List.getElem?_append_left (List.getElem?_eq_some_iff.mp hn).1 ▸ hn
  | challengeArrives n response iv =>
    simp only [step]
    split
    · rename_i call hello hn
      obtain ⟨hcall, hhello⟩ := @challenged_keeps platform secret ⟨call, hello, none, none⟩ response iv
      exact grows_set hn hcall hhello (by simp)
    · exact Grows.refl w
  | receiptArrives n response =>
    simp only [step]
    split
    · rename_i call hello t hn
      exact grows_set hn rfl rfl fun _ => id
    · exact Grows.refl w
  | receiver i event =>
    refine ⟨fun n run hn => ⟨run, hn, rfl, rfl, fun _ => id⟩, fun j x hx => ?_⟩
    simp only [step]
    by_cases hij : j = i
    · subst hij
      rw [Function.update_self]
      rcases step_issued platform (receivers j) (w.receivers j) event with heq | ⟨_, _, _, _, _, _, _, heq⟩
      · rw [heq]
        exact hx
      · rw [heq]
        exact List.mem_cons_of_mem _ hx
    · rw [Function.update_of_ne hij]
      exact hx

/-! ## The invariant -/

/-- A run that has passed the checks up to its stage. -/
structure RunSound (platform : Platform) (secret : JsString) (w : World) (run : Run) : Prop where
  started : Started platform run.call run.hello
  answers : ∀ t, run.transfer = some t → Answers platform secret run.call run.hello t
  returned : ∀ receipt, run.result = some (.ok receipt) → ∃ t transcript mac, run.transfer = some t ∧
    Accepted platform secret run.hello t receipt transcript mac ∧ utf8Encode transcript ∈ w.authenticated

/-- Receivers are genuine, their receipts are for what a run sealed, and runs return authenticated receipts. -/
structure Sound (platform : Platform) (secret : JsString) (receivers : ℕ → ProofReceiver) (w : World) : Prop where
  genuine : ∀ i, Genuine platform (receivers i) (w.receivers i)
  issued : ∀ i, ∀ x ∈ (w.receivers i).issued, ∃ n, w.Sealed x.claim x.ciphertext n
  runs : ∀ (n : ℕ) (run : Run), w.runs[n]? = some run → RunSound platform secret w run

theorem RunSound.grows {w w' : World} (h : Grows w w') {run : Run} (hrun : RunSound platform secret w run) :
    RunSound platform secret w' run := by
  refine ⟨hrun.started, hrun.answers, fun receipt hreceipt => ?_⟩
  obtain ⟨t, transcript, mac, ht, haccepted, hbytes⟩ := hrun.returned receipt hreceipt
  exact ⟨t, transcript, mac, ht, haccepted, h.authenticated hbytes⟩

theorem start_sound : Sound platform secret receivers World.start := by
  refine ⟨fun i => start_genuine, ?_, ?_⟩ <;> simp [World.start, State.start]

/-- Receivers as they were, and one run set to a sound one. -/
theorem Sound.set_run {w : World} (h : Sound platform secret receivers w) {n : ℕ} {run : Run}
    (hgrows : Grows w { w with runs := w.runs.set n run }) (hrun : RunSound platform secret w run) :
    Sound platform secret receivers { w with runs := w.runs.set n run } := by
  refine ⟨h.genuine, fun i x hx => ?_, fun m run' hm => ?_⟩
  · obtain ⟨m, hm⟩ := h.issued i x hx
    exact ⟨m, hgrows.sealed hm⟩
  · simp only [List.getElem?_set] at hm
    split at hm
    · split at hm
      · rw [← Option.some.inj hm]
        exact hrun.grows hgrows
      · cases hm
    · exact (h.runs m run' hm).grows hgrows

theorem Sound.challenged {w : World} (h : Sound platform secret receivers w) {n : ℕ} {call : SendCall} {hello : Hello}
    (hn : w.runs[n]? = some ⟨call, hello, none, none⟩) (response : Except JsString HttpResponse) (iv : Bytes) :
    RunSound platform secret w (Run.challenged platform secret ⟨call, hello, none, none⟩ response iv) := by
  have hrun := h.runs n _ hn
  unfold Run.challenged
  split
  · exact ⟨hrun.started, hrun.answers, by simp⟩
  · rename_i t ht
    refine ⟨hrun.started, fun t' ht' => ?_, by simp⟩
    rw [← Option.some.inj ht']
    exact (answerChallenge_ok ht).1

theorem Sound.answered {w : World} (h : Sound platform secret receivers w) {n : ℕ} {call : SendCall} {hello : Hello}
    {t : Transfer} (hn : w.runs[n]? = some ⟨call, hello, some t, none⟩) {response : Except JsString HttpResponse}
    (hideal : Ideal platform secret receivers w (.receiptArrives n response)) :
    RunSound platform secret w (Run.answered platform secret ⟨call, hello, some t, none⟩ t response) := by
  have hrun := h.runs n _ hn
  refine ⟨hrun.started, hrun.answers, fun receipt hreceipt => ?_⟩
  obtain ⟨answer, transcript, mac, hresponse, hparse, haccepted⟩ := acceptReceipt_ok (Option.some.inj hreceipt)
  exact ⟨t, transcript, mac, rfl, haccepted,
    hideal answer receipt transcript mac hresponse hparse haccepted.parts haccepted.receiptMac haccepted.authentic⟩

theorem step_sound {w : World} (h : Sound platform secret receivers w) {e : WorldEvent}
    (hideal : Ideal platform secret receivers w e) : Sound platform secret receivers (w.step platform secret receivers e) := by
  have hgrows := @step_grows platform secret receivers w e
  cases e with
  | send call =>
    simp only [step] at hgrows ⊢
    split
    · exact h
    · rename_i hello hstart
      rw [hstart] at hgrows
      refine ⟨h.genuine, fun i x hx => ?_, fun n run hn => ?_⟩
      · obtain ⟨n, hn⟩ := h.issued i x hx
        exact ⟨n, hgrows.sealed hn⟩
      · rcases List.mem_append.mp (List.mem_of_getElem? hn) with hmem | hmem
        · obtain ⟨m, hm⟩ := List.mem_iff_getElem?.mp hmem
          exact (h.runs m run hm).grows hgrows
        · rw [List.mem_singleton] at hmem
          subst hmem
          exact ⟨startSend_ok hstart, by simp, by simp⟩
  | challengeArrives n response iv =>
    simp only [step] at hgrows ⊢
    split
    · rename_i call hello hn
      rw [hn] at hgrows
      exact h.set_run hgrows (h.challenged hn response iv)
    · exact h
  | receiptArrives n response =>
    simp only [step] at hgrows ⊢
    split
    · rename_i call hello t hn
      rw [hn] at hgrows
      exact h.set_run hgrows (h.answered hn hideal)
    · exact h
  | receiver i event =>
    refine ⟨fun j => ?_, fun j x hx => ?_, fun n run hn => (h.runs n run hn).grows hgrows⟩
    · simp only [step]
      by_cases hij : j = i
      · subst hij
        rw [Function.update_self]
        exact step_genuine (h.genuine j) event
      · rw [Function.update_of_ne hij]
        exact h.genuine j
    · have hold : x ∈ (w.receivers j).issued → ∃ n, (w.step platform secret receivers (.receiver i event)).Sealed x.claim
          x.ciphertext n := fun hx => (h.issued j x hx).imp fun n hn => hgrows.sealed hn
      simp only [step] at hx
      by_cases hij : j = i
      · subst hij
        rw [Function.update_self] at hx
        rcases step_issued platform (receivers j) (w.receivers j) event with heq | ⟨k, address, now, y, rfl, hk, hopen, heq⟩
        · rw [heq] at hx
          exact hold hx
        · rw [heq, List.mem_cons] at hx
          rcases hx with rfl | hx
          · obtain ⟨n, hn⟩ := hideal x.ciphertext x.claim x.payload rfl hk hopen
            exact ⟨n, hgrows.sealed hn⟩
          · exact hold hx
      · rw [Function.update_of_ne hij] at hx
        exact hold hx

theorem run_sound {events : List WorldEvent}
    (hideal : Transition.Steps (World.step platform secret receivers) (Ideal platform secret receivers) World.start events) :
    Sound platform secret receivers (World.after platform secret receivers events) := by
  have hstep : ∀ w e, Ideal platform secret receivers w e → Sound platform secret receivers w →
      Sound platform secret receivers (w.step platform secret receivers e) := fun w e hideal h => step_sound h hideal
  exact Transition.run_invariant_of_steps hstep start_sound hideal

end World

end TwoMachine
