import StrataPortNetwork.TwoMachine.Inspection
import StrataPortNetwork.TwoMachine.Transfer

/-! # One transcript in three languages

The receiver, the Python inspection and the Android sender join the fields of an emitted
receipt to the same text. Valid fields have no bar, so the text determines them.
-/
namespace TwoMachine
open Js (JsString JsNumber Bytes bar joinBar)
open Py (Value Str str ofUnits)
open ProofReceiver Transition

section
variable {platform : Platform}

/-! ## Emitted receipts -/

/-- Decrypted bytes are as many as the encrypted ones. -/
def Platform.Opens (platform : Platform) : Prop := ∀ key nonce aad ciphertext tag payload,
  platform.decrypt key nonce aad ciphertext tag = some payload → payload.length = ciphertext.length

/-- The numbers of a receipt print in decimal. -/
structure ReceiptCore.Bounded (c : ReceiptCore) : Prop where
  generation : 0 ≤ c.generation ∧ c.generation ≤ 9007199254740991
  payloadBytes : c.payloadBytes ≤ 9007199254740991
  ciphertextBytes : c.ciphertextBytes ≤ 9007199254740991

theorem openPayload_length (hopens : platform.Opens) {r : ProofReceiver} {claim : Claim} {ciphertext payload : Bytes}
    (h : r.openPayload platform claim ciphertext = some payload) : payload.length = ciphertext.length := by
  simp only [openPayload, Option.ite_none_right_eq_some] at h
  exact hopens _ _ _ _ _ _ h.2

theorem ProofReceiver.Issued.Genuine.bounded (hopens : platform.Opens) {r : ProofReceiver} {x : Issued}
    (h : Issued.Genuine platform r x) : x.core.Bounded := by
  have hmax : r.maxBytes ≤ 9007199254740991 := by
    have hok := r.maxBytes_ok
    simp only [positiveInteger, Bool.and_eq_true, decide_eq_true_eq] at hok
    exact hok.2
  have hlength := openPayload_length hopens h.opened
  have hreceived := h.received
  obtain ⟨loopback, now, hcore⟩ := h.core
  rw [hcore]
  exact ⟨h.checked.generation, by simp only [receiptCore]; omega, by simp only [receiptCore]; omega⟩

theorem run_genuine (r : ProofReceiver) (events : List Event) :
    ∀ x ∈ (run (r.step platform) State.start events).issued, Issued.Genuine platform r x := by
  have hstep : ∀ s e, Genuine platform r s → Genuine platform r (r.step platform s e) := fun _ e h => step_genuine h e
  exact (run_invariant hstep start_genuine events).issued

theorem ReceiptCore.Bounded.small {c : ReceiptCore} (h : c.Bounded) : c.generation.natAbs < 10 ^ 21 ∧
    (c.payloadBytes : ℤ).natAbs < 10 ^ 21 ∧ (c.ciphertextBytes : ℤ).natAbs < 10 ^ 21 := by
  obtain ⟨⟨hnonneg, hgeneration⟩, hpayload, hciphertext⟩ := h
  refine ⟨?_, ?_, ?_⟩ <;> omega

/-! ## Python -/

theorem mapM_of_map {α β : Type} {f : α → Option β} {names : List α} {parts : List β}
    (h : names.map f = parts.map some) : names.mapM f = some parts := by
  induction names generalizing parts with
  | nil => cases parts <;> simp_all
  | cons name rest ih =>
    cases parts with
    | nil => cases h
    | cons part parts =>
      rw [List.map_cons, List.map_cons, List.cons.injEq] at h
      rw [List.mapM_cons, h.1, ih h.2]
      rfl

section
variable {fields : List (String × Js.Json)} {name : String}

theorem receiptField_record (fields : List (String × Js.Json)) (name : String) :
    receiptField (Value.ofJson (.record fields)) name = (fields.lookup name).bind fun v =>
      if name ∈ BOOLS then (textOf (.ofJson v)).map lower else textOf (.ofJson v) := by
  rw [receiptField, Py.get_ofJson_record]
  cases fields.lookup name <;> rfl

theorem receiptField_str (hname : name ∉ BOOLS) {s : JsString} (h : fields.lookup name = some (.str s)) :
    receiptField (Value.ofJson (.record fields)) name = some (ofUnits s) := by
  rw [receiptField_record, h, Option.bind_some, if_neg hname]
  rfl

theorem receiptField_int (hname : name ∉ BOOLS) {i : ℤ} (hsmall : i.natAbs < 10 ^ 21)
    (h : fields.lookup name = some (.int i)) :
    receiptField (Value.ofJson (.record fields)) name = some (ofUnits (JsNumber.int i).toText) := by
  rw [receiptField_record, h, Option.bind_some, if_neg hname]
  exact congrArg some (Py.decimal_eq_ofUnits hsmall)

theorem receiptField_bool (hname : name ∈ BOOLS) {b : Bool} (h : fields.lookup name = some (.bool b)) :
    receiptField (Value.ofJson (.record fields)) name = some (ofUnits (boolText b)) := by
  rw [receiptField_record, h, Option.bind_some, if_pos hname]
  have htexts : lower (str "True") = str "true" ∧ lower (str "False") = str "false" := by decide
  cases b
  · exact congrArg some (htexts.2.trans (Py.ofUnits_js "false").symm)
  · exact congrArg some (htexts.1.trans (Py.ofUnits_js "true").symm)

end

/-- Python joins the same transcript. -/
theorem receiptText_issued {x : Issued} (h : x.core.Bounded) :
    receiptText (Value.ofJson x.receipt) = some (ofUnits (joinBar x.core.parts)) := by
  obtain ⟨hgeneration, hpayload, hciphertext⟩ := h.small
  have hparts : FIELDS.map (receiptField (Value.ofJson x.receipt)) = (x.core.parts.map ofUnits).map some := by
    simp only [FIELDS, ReceiptCore.parts, List.map_cons, List.map_nil, List.cons.injEq, and_true, Issued.receipt]
    exact ⟨receiptField_str (by decide) rfl, receiptField_str (by decide) rfl, receiptField_str (by decide) rfl,
      receiptField_str (by decide) rfl, receiptField_int (by decide) hgeneration rfl, receiptField_str (by decide) rfl,
      receiptField_str (by decide) rfl, receiptField_int (by decide) hpayload rfl,
      receiptField_int (by decide) hciphertext rfl, receiptField_str (by decide) rfl, receiptField_str (by decide) rfl,
      receiptField_bool (by decide) rfl, receiptField_bool (by decide) rfl, receiptField_bool (by decide) rfl,
      receiptField_bool (by decide) rfl, receiptField_bool (by decide) rfl, receiptField_str (by decide) rfl,
      receiptField_str (by decide) rfl, receiptField_bool (by decide) rfl, receiptField_bool (by decide) rfl,
      receiptField_bool (by decide) rfl, receiptField_str (by decide) rfl⟩
  rw [receiptText, mapM_of_map hparts, Option.map_some, Py.ofUnits_joinBar]

/-! ## Android -/

section
variable {receipt : Js.Json} {name : String}

theorem getString_str {s : JsString} (h : receipt.get name = some (.str s)) : getString receipt name = some s := by
  rw [getString, h]

theorem getLong_int {i : ℤ} (hsmall : i.natAbs < 2 ^ 63) (h : receipt.get name = some (.int i)) :
    (getLong receipt name).map longText = some (JsNumber.int i).toText := by
  have hlong : getLong receipt name = some i := by
    rw [getLong, h]
    exact if_pos (by omega)
  have hdecimal : i.natAbs < 10 ^ 21 := by omega
  rw [hlong, Option.map_some, longText, JsNumber.toText, Js.unsignedText, if_pos hdecimal]

theorem getBoolean_bool {b : Bool} (h : receipt.get name = some (.bool b)) :
    (getBoolean receipt name).map boolText = some (boolText b) := by
  rw [getBoolean, h, Option.map_some]

end

/-- The Android sender joins the same transcript. -/
theorem androidTranscript_issued {x : Issued} (h : x.core.Bounded) :
    androidTranscript x.receipt.rebuild = some (joinBar x.core.parts) := by
  obtain ⟨⟨hnonneg, hgeneration⟩, hpayload, hciphertext⟩ := h
  have hget : ∀ {name : String} {v : Js.Json}, (x.core.fields.lookup name).or ([("receiptMac", .str x.receiptMac)].lookup name) =
      some v → x.receipt.rebuild.get name = some v := fun hname => (get_receipt x _).trans hname
  refine Option.map_eq_some_iff.mpr ⟨x.core.parts, allSome_eq_some.mpr ?_, rfl⟩
  simp only [ReceiptCore.parts, List.map_cons, List.map_nil, List.cons.injEq, and_true]
  exact ⟨getString_str (hget rfl), getString_str (hget rfl), getString_str (hget rfl), getString_str (hget rfl),
    getLong_int (by omega) (hget rfl), getString_str (hget rfl), getString_str (hget rfl),
    getLong_int (by omega) (hget rfl), getLong_int (by omega) (hget rfl), getString_str (hget rfl),
    getString_str (hget rfl), getBoolean_bool (hget rfl), getBoolean_bool (hget rfl), getBoolean_bool (hget rfl),
    getBoolean_bool (hget rfl), getBoolean_bool (hget rfl), getString_str (hget rfl), getString_str (hget rfl),
    getBoolean_bool (hget rfl), getBoolean_bool (hget rfl), getBoolean_bool (hget rfl), getString_str (hget rfl)⟩

/-! ## Transcripts and fields -/

theorem joinBar_injective {fields fields' : List JsString} (hfree : ∀ s ∈ fields, bar ∉ s)
    (hlength : fields.length = fields'.length) (hne : fields ≠ []) (h : joinBar fields = joinBar fields') :
    fields = fields' :=
  Js.intercalate_inj hfree hlength.le hne h

theorem proofTranscript_injective {sessionId sessionId' : JsString} {p p' : ProofFields}
    (hid : sessionIdPattern.accepts sessionId = true) (hp : p.Valid)
    (h : proofTranscript sessionId p = proofTranscript sessionId' p') : sessionId = sessionId' ∧ p = p' := by
  have hlength : (proofParts sessionId p).length = (proofParts sessionId' p').length := rfl
  have hparts := joinBar_injective (bar_not_mem_proofParts (bar_not_mem_sessionId hid) hp) hlength (by simp [proofParts]) h
  simp only [proofParts, List.cons.injEq, and_true, true_and] at hparts
  obtain ⟨hsession, hchallenge, hsource, hdestination, hstateId, hstateHash, hgeneration, hsha, hbytes⟩ := hparts
  have hnumbers := And.intro (JsNumber.int.inj (Js.toText_injective hgeneration)) (JsNumber.int.inj (Js.toText_injective hbytes))
  refine ⟨hsession, ?_⟩
  cases p
  cases p'
  simp_all

theorem boolText_injective : Function.Injective boolText := by
  intro b c h
  have hne : Js.js "true" ≠ Js.js "false" := Js.js_injective.ne (by decide)
  cases b <;> cases c <;> first | rfl | exact absurd h hne | exact absurd h.symm hne

theorem receiptTranscript_injective {c c' : ReceiptCore} (h : c.Valid platform)
    (heq : receiptTranscript (.record c.fields) = receiptTranscript (.record c'.fields)) : c = c' := by
  rw [receiptTranscript_core, receiptTranscript_core, Option.some.injEq] at heq
  have hlength : c.parts.length = c'.parts.length := rfl
  have hparts := joinBar_injective h.bar_not_mem hlength (by simp [ReceiptCore.parts]) heq
  have hint : ∀ {i j : ℤ}, (JsNumber.int i).toText = (JsNumber.int j).toText → i = j :=
    fun htext => JsNumber.int.inj (Js.toText_injective htext)
  simp only [ReceiptCore.parts, List.cons.injEq, and_true, true_and, boolText_injective.eq_iff] at hparts
  obtain ⟨hsession, hstateId, hstateHash, hgeneration, hsha, hreceived, hpayload, hciphertext, hsource, hdestination,
    hdistinct, hloopback, hintegrity, hsatisfied, hobserved⟩ := hparts
  have hgeneration := hint hgeneration
  have hpayload := Int.ofNat.inj (hint hpayload)
  have hciphertext := Int.ofNat.inj (hint hciphertext)
  cases c
  cases c'
  simp_all

/-! ## The transcripts of a network -/

/-- Every emitted receipt has one transcript in JavaScript, before and after its transport, in
Python and on Android. Valid tuples are determined by their transcripts, and no proof has the
transcript of a receipt. -/
theorem one_transcript (hopens : platform.Opens) :
    (∀ (r : ProofReceiver) (events : List Event), ∀ x ∈ (run (r.step platform) State.start events).issued,
      ∃ transcript, receiptTranscript x.receipt = some transcript ∧ receiptTranscript x.receipt.rebuild = some transcript ∧
        receiptText (Value.ofJson x.receipt) = some (ofUnits transcript) ∧
        androidTranscript x.receipt.rebuild = some transcript) ∧
    (∀ sessionId sessionId' p p', sessionIdPattern.accepts sessionId = true → sessionIdPattern.accepts sessionId' = true →
      p.Valid → p'.Valid → proofTranscript sessionId p = proofTranscript sessionId' p' → sessionId = sessionId' ∧ p = p') ∧
    (∀ c c' : ReceiptCore, c.Valid platform → c'.Valid platform →
      receiptTranscript (.record c.fields) = receiptTranscript (.record c'.fields) → c = c') ∧
    ∀ sessionId p receipt, sessionIdPattern.accepts sessionId = true → p.Valid →
      receiptTranscript receipt ≠ some (proofTranscript sessionId p) := by
  refine ⟨?_, fun _ _ _ _ hid _ hp _ h => proofTranscript_injective hid hp h,
    fun _ _ hc _ h => receiptTranscript_injective hc h, ?_⟩
  · intro r events x hx
    have hgenuine := run_genuine r events x hx
    have hbounded := hgenuine.bounded hopens
    refine ⟨joinBar x.core.parts, ?_, receiptTranscript_issued x, receiptText_issued hbounded,
      androidTranscript_issued hbounded⟩
    refine receiptTranscript_of_get fun name hname => ?_
    rw [Issued.receipt, Js.Json.get_record, List.lookup_append, List.lookup_cons, beq_eq_false_iff_ne.mpr hname,
      List.lookup_nil, Option.or_none]
  · intro sessionId p receipt hid hp h
    exact proof_ne_receipt (bar_not_mem_sessionId hid) hp h rfl

/-! ## An exchange -/

/-- The events of one undisturbed exchange at a receiver. -/
def exchange (platform : Platform) (r : ProofReceiver) (call : SendCall) (drawn : Drawn) (now : ℤ) (iv : Bytes) : List Event :=
  challengeLeg platform call drawn now ++ transferLeg (sentTransfer platform r call drawn iv) now

theorem exchange_issued {r : ProofReceiver} {call : SendCall} (h : call.Admissible platform)
    (hpayload : call.canonicalPayload.length ≤ r.maxBytes) (drawn : Drawn) (now : ℤ) {iv : Bytes} (hiv : iv.length = 12) :
    (run (r.step platform) State.start (exchange platform r call drawn now iv)).issued =
      [issuedReceipt platform r call call.stateId drawn now iv] := by
  rw [exchange, run_append]
  exact (legs_run h h.stateId rfl hpayload drawn now hiv).2.2

end

/-! ## A sample receipt -/

namespace Sample

theorem platform_opens : platform.Opens := by
  intro key nonce aad ciphertext tag payload h
  simp only [platform, Option.ite_none_right_eq_some, Option.some.injEq] at h
  rw [h.2]

/-- The receipt of a sample exchange. -/
def plainReceipt : Issued := issuedReceipt platform receiver (callOf plainState) plainState firstDrawn now iv

theorem one_transcript_plainState : ∃ transcript, receiptTranscript plainReceipt.receipt = some transcript ∧
    receiptText (Value.ofJson plainReceipt.receipt) = some (ofUnits transcript) ∧
    androidTranscript plainReceipt.receipt.rebuild = some transcript := by
  have hissued : plainReceipt ∈ (run (receiver.step platform) State.start
      (exchange platform receiver (callOf plainState) firstDrawn now iv)).issued := by
    have hpayload : (callOf plainState).canonicalPayload.length ≤ receiver.maxBytes := show 1 ≤ 1024 by decide
    rw [exchange_issued (callOf_admissible (show validStateId plainState = true by decide)) hpayload firstDrawn now
      (show iv.length = 12 by decide)]
    exact List.mem_cons_self
  obtain ⟨transcript, hjs, -, hpython, handroid⟩ := (one_transcript platform_opens).1 receiver _ _ hissued
  exact ⟨transcript, hjs, hpython, handroid⟩

end Sample

end TwoMachine
