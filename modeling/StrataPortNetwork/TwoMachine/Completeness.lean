import StrataPortNetwork.TwoMachine.Genuine

/-! # An undisturbed proof

Where the network hands every message on as it was sent and in time, a receiver with a free
session answers each admissible call with a receipt that the sender accepts.
-/
namespace TwoMachine
open Js ProofReceiver Transition
variable {platform : Platform}

/-! ## The hello -/

/-- What `sendTwoHostProof` admits. -/
structure SendCall.Admissible (platform : Platform) (call : SendCall) : Prop where
  port : positiveInteger call.port = true
  timeoutMs : positiveInteger call.timeoutMs = true
  stateId : validStateId call.stateId = true
  stateHash : validSha256 call.stateHash = true
  generation : 0 ≤ call.generation ∧ call.generation ≤ 9007199254740991
  nonempty : 1 ≤ call.canonicalPayload.length
  hashed : platform.sha256 call.canonicalPayload = toLowerCase call.stateHash

def SendCall.helloOf (platform : Platform) (call : SendCall) : Hello :=
  ⟨hostFingerprint platform call.host, call.stateId, platform.sha256 call.canonicalPayload, call.generation,
    platform.sha256 call.canonicalPayload, call.canonicalPayload.length⟩

theorem startSend_admissible {secret : JsString} (hsecret : 32 ≤ secret.length) {call : SendCall}
    (h : call.Admissible platform) : startSend platform secret call = .ok (call.helloOf platform) := by
  simp only [startSend, bind_eq_ok, ensure_eq_ok, pure_eq_ok, decide_eq_true_eq, Bool.and_eq_true, beq_iff_eq]
  refine ⟨(), hsecret, (), h.port, (), h.timeoutMs, (), h.stateId, (), h.stateHash, (), h.generation, (), h.nonempty, (),
    h.hashed, ?_⟩
  rw [SendCall.helloOf, h.hashed]

/-- A JSON text as a request body: it is well formed, so its bytes decode to it. -/
def Body.ofText (text : JsString) : Body := ⟨(utf8Encode text).length, text⟩

theorem hello_size {call : SendCall} {r : ProofReceiver} (h : call.Admissible platform)
    (hpayload : call.canonicalPayload.length ≤ r.maxBytes) :
    (Body.ofText (stringify (call.helloOf platform).toJson)).size ≤ 64 * 1024 := by
  have hstateId := quote_length_le call.stateId
  have hbound : call.stateId.length ≤ 512 := by
    have := h.stateId
    simp only [validStateId, Bool.and_eq_true, decide_eq_true_eq] at this
    exact this.1.2
  have hhex : ∀ s : JsString, validSha256 s = true → (quote s).length ≤ 6 * 64 + 2 := by
    intro s hs
    have := quote_length_le s
    cases (Regex.accepts_iff _ _).mp hs with
    | run _ hl hm => omega
  have hsource := hhex _ (hex_of_pattern (platform.sha256_hex (utf8Encode call.host)))
  have hsha := hhex _ (hex_of_pattern (platform.sha256_hex call.canonicalPayload))
  have hgeneration := toText_length_le (i := call.generation) (by have := h.generation; omega)
  have hbytes := toText_length_le (i := call.canonicalPayload.length) (by
    have := r.maxBytes_ok
    simp only [positiveInteger, Bool.and_eq_true, decide_eq_true_eq] at this
    omega)
  have hkeys : (quote (js "schemaVersion")).length = 15 ∧ (quote (js TWO_HOST_PROOF_SCHEMA)).length = 32 ∧
      (quote (js "sourceHostFingerprint")).length = 23 ∧ (quote (js "stateId")).length = 9 ∧
      (quote (js "stateHash")).length = 11 ∧ (quote (js "generation")).length = 12 ∧
      (quote (js "payloadSha256")).length = 15 ∧ (quote (js "payloadBytes")).length = 14 := by decide +kernel
  have hlength : (stringify (call.helloOf platform).toJson).length ≤ 5000 := by
    simp only [Hello.toJson, Hello.fields, SendCall.helloOf, Json.record, Json.text, Json.int, List.map_cons, List.map_nil,
      stringify, stringifyFields, List.length_cons, List.length_append, List.length_nil, hkeys, hostFingerprint]
    omega
  calc (Body.ofText (stringify (call.helloOf platform).toJson)).size
    _ ≤ 3 * (stringify (call.helloOf platform).toJson).length := utf8Encode_length_le _
    _ ≤ 3 * 5000 := Nat.mul_le_mul_left 3 hlength
    _ ≤ 64 * 1024 := by decide

/-! ## The challenge -/

variable {r : ProofReceiver}

theorem readHello_ofText {hello : Hello} (hsize : (Body.ofText (stringify hello.toJson)).size ≤ 64 * 1024) :
    readHello platform (.ok (Body.ofText (stringify hello.toJson))) = .ok hello.toJson.rebuild := by
  simp only [readHello, bind_eq_ok, ensure_eq_ok, orThrow_eq_ok, pure_eq_ok, decide_eq_true_eq]
  exact ⟨(), hsize, _, parse_stringify _, (), rfl, rfl⟩

/-- A hello that the receiver admits, whoever sends it. -/
structure Hello.Admissible (r : ProofReceiver) (hello : Hello) : Prop where
  source : validSha256 hello.sourceHostFingerprint = true
  stateId : validStateId hello.stateId = true
  stateHash : validSha256 hello.stateHash = true
  generation : 0 ≤ hello.generation ∧ hello.generation ≤ 9007199254740991
  payloadSha256 : validSha256 hello.payloadSha256 = true
  hashes : toLowerCase hello.stateHash = toLowerCase hello.payloadSha256
  payloadBytes : 1 ≤ hello.payloadBytes ∧ hello.payloadBytes ≤ r.maxBytes

theorem checkHello_toJson {hello : Hello} (h : hello.Admissible r) : r.checkHello hello.toJson.rebuild = .ok hello := by
  have hget : ∀ name, hello.toJson.rebuild.get name = (hello.fields.lookup name).map Json.rebuild :=
    Json.get_rebuild_record (by simp [Hello.fields])
  have hfield : ∀ {s : JsString}, validSha256 s = true → sha256Field (some (Json.str s).rebuild) = some s :=
    fun hs => stringField_eq_some.mpr ⟨rfl, hs⟩
  have hinteger : ∀ {i : ℤ}, i.natAbs ≤ 9007199254740991 → Json.safeInteger? (Json.int i).rebuild = some i :=
    fun hi => if_pos hi
  have hmax := r.maxBytes_ok
  simp only [positiveInteger, Bool.and_eq_true, decide_eq_true_eq] at hmax
  have hgeneration := h.generation
  have hbytes := h.payloadBytes
  simp only [checkHello, bind_eq_ok, ensure_eq_ok, orThrow_eq_ok, pure_eq_ok, decide_eq_true_eq, Bool.and_eq_true,
    beq_iff_eq, hget, Hello.fields, List.lookup_cons, String.reduceBEq, Option.map_some, Option.bind_some]
  refine ⟨(), Json.some_beq_str_iff.mpr rfl, _, hfield h.source, _, rfl, (), h.stateId, _, hfield h.stateHash,
    _, hinteger (i := hello.generation) (by omega), (), hgeneration.1, _, hfield h.payloadSha256, (), h.hashes, _,
    hinteger (i := hello.payloadBytes) (by omega), (), hbytes, rfl⟩

theorem SendCall.Admissible.hello {call : SendCall} (h : call.Admissible platform)
    (hpayload : call.canonicalPayload.length ≤ r.maxBytes) : (call.helloOf platform).Admissible r where
  source := hex_of_pattern (platform.sha256_hex _)
  stateId := h.stateId
  stateHash := hex_of_pattern (platform.sha256_hex _)
  generation := h.generation
  payloadSha256 := hex_of_pattern (platform.sha256_hex _)
  hashes := rfl
  payloadBytes := ⟨Int.ofNat_le.mpr h.nonempty, Int.ofNat_le.mpr hpayload⟩

/-- The session that a receiver opens for the hello of a call. -/
def openedSession (platform : Platform) (r : ProofReceiver) (call : SendCall) (drawn : Drawn) (createdAt : ℤ) : Session :=
  r.sessionOf platform (call.helloOf platform) drawn createdAt

theorem openedSession_fields (call : SendCall) (drawn : Drawn) (createdAt : ℤ) :
    (openedSession platform r call drawn createdAt).toProofFields =
      (call.helloOf platform).proofFields drawn.challenge (r.destinationHostFingerprint platform) := by
  have hlower := toLowerCase_of_lower (platform.sha256_hex call.canonicalPayload)
  simp only [openedSession, sessionOf, Hello.proofFields, SendCall.helloOf, hlower]

theorem resumeChallenge_admissible {hello : Hello} (h : hello.Admissible r)
    (hsize : (Body.ofText (stringify hello.toJson)).size ≤ 64 * 1024) (drawn : Drawn) (now createdAt : ℤ) {sessions : Sessions}
    (hroom : (r.expireSessions now sessions).size < r.maxSessions) :
    r.resumeChallenge platform (.ok (Body.ofText (stringify hello.toJson))) drawn now createdAt sessions =
      (.ok (r.sessionOf platform hello drawn createdAt),
        (r.expireSessions now sessions).set drawn.sessionId (r.sessionOf platform hello drawn createdAt)) := by
  have hread : (readHello platform (.ok (Body.ofText (stringify hello.toJson))) >>= checkHello r) = .ok hello :=
    bind_eq_ok.mpr ⟨_, readHello_ofText hsize, checkHello_toJson h⟩
  unfold resumeChallenge
  rw [hread]
  dsimp only
  rw [if_neg (not_le.mpr hroom)]

/-- The sender takes the challenge of an honest receiver. -/
theorem answerChallenge_response (secret : JsString) (call : SendCall) (drawn : Drawn) (createdAt : ℤ) (iv : Bytes) :
    answerChallenge platform secret call (call.helloOf platform)
        (.ok (r.challengeResponse drawn.sessionId (openedSession platform r call drawn createdAt)).wire) iv =
      .ok (transferOf platform secret call (call.helloOf platform) drawn.sessionId drawn.challenge
        (r.destinationHostFingerprint platform) iv) := by
  have hget : ∀ name, (r.challengeResponse drawn.sessionId (openedSession platform r call drawn createdAt)).body.rebuild.get
      name = ((r.challengeFields drawn.sessionId (openedSession platform r call drawn createdAt)).lookup name).map
        Json.rebuild :=
    Json.get_rebuild_record (by simp [challengeFields])
  have hfield : ∀ {pattern : Regex} {s : JsString}, pattern.accepts s = true →
      stringField pattern (some (Json.str s).rebuild) = some s := fun hs => stringField_eq_some.mpr ⟨rfl, hs⟩
  simp only [answerChallenge, bind_eq_ok, ensure_eq_ok, orThrow_eq_ok, pure_eq_ok]
  refine ⟨_, rfl, (), rfl, _, parse_stringify _, (), rfl, ?_⟩
  simp only [hget, challengeFields, List.lookup_cons, String.reduceBEq, Option.map_some, Json.text, Json.some_beq_str_iff,
    Json.rebuild, true_and, exists_const]
  exact ⟨_, hfield drawn.sessionId_uuid, _, hfield (hex_of_pattern drawn.challenge_hex), _,
    hfield (hex_of_pattern (platform.sha256_hex _)), rfl⟩

/-! ## The transfer -/

theorem safeEqualHex_refl {s : JsString} (h : validSha256 s = true) : safeEqualHex s s = true := by
  simp [safeEqualHex, h]

/-- The claim that a transfer makes of a session. -/
def Transfer.claim (t : Transfer) (session : Session) : Claim :=
  ⟨t.sessionId, session, t.authorization, base64UrlEncode t.iv, base64UrlEncode t.tag⟩

theorem transferRequest_answers {call : SendCall} {hello : Hello} {t : Transfer}
    (h : Answers platform r.secret call hello t) {session : Session}
    (hfields : session.toProofFields = hello.proofFields t.challenge t.destinationHostFingerprint) {now : ℤ}
    {sessions : Sessions} (hget : sessions.get t.sessionId = some session) (hlive : r.expired now session = false) :
    r.transferRequest platform t.headers now sessions = (.ok (t.claim session), sessions.delete t.sessionId) := by
  have hauth : r.authenticates platform t.authorization t.sessionId session = true := by
    rw [authenticates, hfields, h.authorization]
    exact safeEqualHex_refl (hex_of_pattern (platform.hmac_hex _ _))
  simp only [transferRequest, Transfer.headers, hget, hlive, hauth, Bool.false_eq_true, if_false, Bool.not_true]
  rfl

theorem openPayload_answers {call : SendCall} {hello : Hello} {t : Transfer} (h : Answers platform r.secret call hello t)
    (hiv : t.iv.length = 12) {session : Session}
    (hfields : session.toProofFields = hello.proofFields t.challenge t.destinationHostFingerprint) :
    r.openPayload platform (t.claim session) t.ciphertext = some call.canonicalPayload := by
  have htag : t.tag.length = 16 := by
    rw [(Prod.mk.inj h.encrypted).2]
    exact platform.tag_length _ _ _ _
  simp only [openPayload, Transfer.claim, base64Decode_urlEncode, hiv, htag, and_self, if_true, hfields]
  rw [(Prod.mk.inj h.encrypted).1, (Prod.mk.inj h.encrypted).2]
  exact platform.decrypt_encrypt _ _ _ _

/-! ## The receipt -/

/-- The receipt that a receiver issues for a transfer. -/
def Transfer.issued (platform : Platform) (r : ProofReceiver) (t : Transfer) (session : Session) (payload : Bytes)
    (loopback : Bool) (now : ℤ) : Issued :=
  let core := receiptCore platform (t.claim session) t.ciphertext payload loopback (platform.toISOString now)
  ⟨t.claim session, t.ciphertext, payload, core, hmac platform r.secret (joinBar core.parts)⟩

theorem resumeTransfer_answers {call : SendCall} {hello : Hello} {t : Transfer} (h : Answers platform r.secret call hello t)
    (hiv : t.iv.length = 12) (hpayload : call.canonicalPayload.length ≤ r.maxBytes) {session : Session}
    (hfields : session.toProofFields = hello.proofFields t.challenge t.destinationHostFingerprint)
    (address : Option JsString) (now : ℤ) (sessions : Sessions) :
    r.resumeTransfer platform (t.claim session) (.ok t.ciphertext) address now sessions =
      (.ok (t.issued platform r session call.canonicalPayload (isLoopback (address.getD [])) now),
        sessions.delete t.sessionId) := by
  have hread : r.readCiphertext (.ok t.ciphertext) = .ok t.ciphertext := by
    have hlength : t.ciphertext.length ≤ r.maxBytes := by
      rw [(Prod.mk.inj h.encrypted).1, platform.encrypt_length]
      exact hpayload
    exact if_pos hlength
  simp only [resumeTransfer, hread, openPayload_answers h hiv hfields, receiptTranscript_core]
  rfl

theorem lookup_map_rebuild {fields : List (String × Json)} (h : ∀ f ∈ fields, f.2.rebuild = f.2) (name : String) :
    (fields.lookup name).map Json.rebuild = fields.lookup name := by
  induction fields with
  | nil => rfl
  | cons f rest ih =>
    obtain ⟨k, v⟩ := f
    rw [List.lookup_cons]
    split
    · exact congrArg some (h (k, v) List.mem_cons_self)
    · exact ih fun f hf => h f (List.mem_cons_of_mem _ hf)

/-- A receipt in transit has the fields of its core, and its MAC. -/
theorem get_receipt (x : Issued) (name : String) :
    x.receipt.rebuild.get name = (x.core.fields.lookup name).or ([("receiptMac", .str x.receiptMac)].lookup name) := by
  rw [Issued.receipt, Json.get_rebuild_record (by simp [ReceiptCore.fields]), lookup_map_rebuild, List.lookup_append]
  simp [ReceiptCore.fields, Json.text, Json.int, Json.rebuild]

theorem receiptTranscript_issued (x : Issued) : receiptTranscript x.receipt.rebuild = some (joinBar x.core.parts) := by
  refine receiptTranscript_of_get fun name hname => ?_
  rw [get_receipt, List.lookup_cons, beq_eq_false_iff_ne.mpr hname, List.lookup_nil, Option.or_none]

theorem acceptReceipt_issued {secret : JsString} {hello : Hello} {t : Transfer} {x : Issued}
    (hmac : x.receiptMac = hmac platform secret (joinBar x.core.parts))
    (hmatches : receiptMatches hello t x.receipt.rebuild = true) :
    acceptReceipt platform secret hello t (.ok (Response.wire ⟨200, x.receipt⟩)) = .ok x.receipt.rebuild := by
  have hget : x.receipt.rebuild.get "receiptMac" = some (.str x.receiptMac) := by
    simp [get_receipt, ReceiptCore.fields, List.lookup_cons]
  have hauthentic : ((x.receipt.rebuild.get "receiptMac").bind Json.str?).any (fun mac =>
      safeEqualHex mac (TwoMachine.hmac platform secret (joinBar x.core.parts))) = true := by
    rw [hget, hmac]
    exact safeEqualHex_refl (hex_of_pattern (platform.hmac_hex _ _))
  simp only [acceptReceipt, bind_eq_ok, ensure_eq_ok, orThrow_eq_ok, pure_eq_ok]
  exact ⟨_, rfl, _, parse_stringify _, (), rfl, (), rfl, _, receiptTranscript_issued x, (), hauthentic, (), hmatches, rfl⟩

theorem receiptMatches_issued {call : SendCall} {t : Transfer} {session : Session}
    (hfields : session.toProofFields =
      (call.helloOf platform).proofFields t.challenge t.destinationHostFingerprint) (loopback : Bool) (now : ℤ) :
    (t.issued platform r session call.canonicalPayload loopback now).core.integrityVerified = true ∧
      receiptMatches (call.helloOf platform) t
        (t.issued platform r session call.canonicalPayload loopback now).receipt.rebuild = true := by
  simp only [receiptMatches, get_receipt, Transfer.issued, receiptCore, Transfer.claim, ReceiptCore.fields, hfields,
    Hello.proofFields, SendCall.helloOf]
  simp [List.lookup_cons, Json.text, Json.isBool, Json.truthy]

/-! ## The whole exchange -/

/-- The first leg for any hello that the receiver admits. -/
theorem hello_run {hello : Hello} (h : hello.Admissible r) (hsize : (Body.ofText (stringify hello.toJson)).size ≤ 64 * 1024)
    (drawn : Drawn) (before now createdAt : ℤ) {s : State} (hroom : (r.expireSessions before s.sessions).size < r.maxSessions) :
    run (r.step platform) s [.challenge before,
        .helloBody s.requests.length (.ok (Body.ofText (stringify hello.toJson))) drawn now createdAt] =
      { s with
        sessions := (r.expireSessions now (r.expireSessions before s.sessions)).set drawn.sessionId
          (r.sessionOf platform hello drawn createdAt)
        requests := s.requests ++
          [.answered (r.challengeResponse drawn.sessionId (r.sessionOf platform hello drawn createdAt))]
        created := drawn.sessionId :: s.created } := by
  have hfirst : r.step platform s (.challenge before) =
      { s with sessions := r.expireSessions before s.sessions, requests := s.requests ++ [.hello] } := by
    simp only [step, challengeRequest, if_neg (not_le.mpr hroom)]
  have hstill : (r.expireSessions now (r.expireSessions before s.sessions)).size < r.maxSessions :=
    (List.length_filter_le _ _).trans_lt hroom
  rw [run_cons, run_cons, run_nil, hfirst]
  simp only [step, List.getElem?_concat_length, resumeChallenge_admissible h hsize drawn now createdAt hstill,
    List.set_append_right _ _ le_rfl, Nat.sub_self, List.set_cons_zero]

theorem challenge_run {call : SendCall} (h : call.Admissible platform)
    (hpayload : call.canonicalPayload.length ≤ r.maxBytes) (drawn : Drawn) (before now createdAt : ℤ) {s : State}
    (hroom : (r.expireSessions before s.sessions).size < r.maxSessions) :
    run (r.step platform) s [.challenge before,
        .helloBody s.requests.length (.ok (Body.ofText (stringify (call.helloOf platform).toJson))) drawn now createdAt] =
      { s with
        sessions := (r.expireSessions now (r.expireSessions before s.sessions)).set drawn.sessionId
          (openedSession platform r call drawn createdAt)
        requests := s.requests ++
          [.answered (r.challengeResponse drawn.sessionId (openedSession platform r call drawn createdAt))]
        created := drawn.sessionId :: s.created } :=
  hello_run (h.hello hpayload) (hello_size h hpayload) drawn before now createdAt hroom

theorem transfer_run {call : SendCall} {hello : Hello} {t : Transfer} (h : Answers platform r.secret call hello t)
    (hiv : t.iv.length = 12) (hpayload : call.canonicalPayload.length ≤ r.maxBytes) {session : Session}
    (hfields : session.toProofFields = hello.proofFields t.challenge t.destinationHostFingerprint) {now : ℤ} {s : State}
    (hget : s.sessions.get t.sessionId = some session) (hlive : r.expired now session = false)
    (address : Option JsString) (later : ℤ) :
    let issued := t.issued platform r session call.canonicalPayload (isLoopback (address.getD [])) later
    r.step platform s (.transfer t.headers now) = { s with
      sessions := s.sessions.delete t.sessionId
      requests := s.requests ++ [.ciphertext (t.claim session)]
      claims := (now, t.claim session) :: s.claims } ∧
    run (r.step platform) s [.transfer t.headers now, .ciphertextBody s.requests.length (.ok t.ciphertext) address later] =
      { s with
        sessions := (s.sessions.delete t.sessionId).delete t.sessionId
        requests := s.requests ++ [.sink issued]
        claims := (now, t.claim session) :: s.claims
        issued := issued :: s.issued } := by
  have hfirst : r.step platform s (.transfer t.headers now) = { s with
      sessions := s.sessions.delete t.sessionId
      requests := s.requests ++ [.ciphertext (t.claim session)]
      claims := (now, t.claim session) :: s.claims } := by
    simp only [step, transferRequest_answers h hfields hget hlive]
  refine ⟨hfirst, ?_⟩
  rw [run_cons, run_cons, run_nil, hfirst]
  simp only [step, List.getElem?_concat_length, resumeTransfer_answers h hiv hpayload hfields,
    List.set_append_right _ _ le_rfl, Nat.sub_self, List.set_cons_zero]

/-- The responses to an admissible call that is not disturbed, and the receipt it returns. -/
theorem undisturbed {call : SendCall} (h : call.Admissible platform)
    (hpayload : call.canonicalPayload.length ≤ r.maxBytes) {s : State} (drawn : Drawn) {before now createdAt claimed : ℤ}
    (later : ℤ) (hroom : (r.expireSessions before s.sessions).size < r.maxSessions)
    (htime : claimed - createdAt < r.challengeTtlMs) {iv : Bytes} (hiv : iv.length = 12) (address : Option JsString) :
    ∃ hello t challenge receipt,
      let opened := run (r.step platform) s [.challenge before,
        .helloBody s.requests.length (.ok (Body.ofText (stringify hello.toJson))) drawn now createdAt]
      startSend platform r.secret call = .ok hello ∧
      opened.requests[s.requests.length]? = some (.answered challenge) ∧
      answerChallenge platform r.secret call hello (.ok challenge.wire) iv = .ok t ∧
      (run (r.step platform) opened [.transfer t.headers claimed,
          .ciphertextBody opened.requests.length (.ok t.ciphertext) address later,
          .sinkAnswers opened.requests.length true]).requests[opened.requests.length]? =
        some (.answered ⟨200, receipt⟩) ∧
      acceptReceipt platform r.secret hello t (.ok (Response.wire ⟨200, receipt⟩)) = .ok receipt.rebuild := by
  obtain ⟨t, ht, hanswer⟩ : ∃ t, t = transferOf platform r.secret call (call.helloOf platform) drawn.sessionId
      drawn.challenge (r.destinationHostFingerprint platform) iv ∧ answerChallenge platform r.secret call
        (call.helloOf platform) (.ok (r.challengeResponse drawn.sessionId
          (openedSession platform r call drawn createdAt)).wire) iv = .ok t :=
    ⟨_, rfl, answerChallenge_response r.secret call drawn createdAt iv⟩
  obtain ⟨hanswers, htiv⟩ := answerChallenge_ok hanswer
  have hfields : (openedSession platform r call drawn createdAt).toProofFields =
      (call.helloOf platform).proofFields t.challenge t.destinationHostFingerprint := by
    rw [openedSession_fields, ht]
    rfl
  have hid : t.sessionId = drawn.sessionId := by
    rw [ht]
    rfl
  have hlive : r.expired claimed (openedSession platform r call drawn createdAt) = false := by
    simp only [expired, decide_eq_false_iff_not, not_le]
    exact htime
  have hopened := challenge_run h hpayload drawn before now createdAt hroom
  obtain ⟨hintegrity, hmatches⟩ := receiptMatches_issued hfields (isLoopback (address.getD [])) later
  have hget : (run (r.step platform) s [.challenge before, .helloBody s.requests.length
      (.ok (Body.ofText (stringify (call.helloOf platform).toJson))) drawn now createdAt]).sessions.get t.sessionId =
        some (openedSession platform r call drawn createdAt) := by
    rw [hopened, hid, JsMap.get_set, if_pos (beq_self_eq_true _)]
  refine ⟨call.helloOf platform, t, _, _, startSend_admissible r.secret_length h, ?_, hanswer, ?_,
    acceptReceipt_issued rfl hmatches⟩
  · rw [hopened]
    exact List.getElem?_concat_length
  · obtain ⟨-, htransfer⟩ := transfer_run hanswers (htiv ▸ hiv) hpayload hfields hget hlive address later
    rw [show ∀ a b c : Event, [a, b, c] = [a, b] ++ [c] from fun _ _ _ => rfl, run_append, htransfer, run_cons, run_nil]
    simp only [step, List.getElem?_concat_length, List.set_append_right _ _ le_rfl, Nat.sub_self, List.set_cons_zero,
      receiptResponse, if_true, hintegrity]

end TwoMachine
