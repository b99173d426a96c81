import StrataPortNetwork.TwoMachine.OneTranscript

/-! # Receipts under inspection

What the receiver checks of a session implies what the Python inspection checks of its
receipt, but for the texts that UTF-8 cannot carry, the length of the secret in code points
and the years that `datetime` knows.
-/
namespace TwoMachine
open Js (js JsString JsNumber Bytes Regex CharClass ensure orThrow bar joinBar WellFormed Ascii utf8Encode bind_eq_ok ensure_eq_ok orThrow_eq_ok
  pure_eq_ok throw_eq_ok)
open Py (Value Str str point ofUnits)
open ProofReceiver Transition

/-- `DEFAULT_MAX_BYTES` -/
def DEFAULT_MAX_BYTES : ℕ := 32 * 1024 * 1024

/-- A clock reading in the years 1 to 9999. -/
def KnownYear (now : ℤ) : Prop := -62135596800000 ≤ now ∧ now ≤ 253402300799999

/-- `observedAt.replace("Z", "+00:00")` -/
def utcOffset (text : Str) : Str := text.flatMap fun c => if c = point 90 then str "+00:00" else [c]

section
variable {platform : Platform} {fromisoformat : Str → Bool}

/-- The ISO text of a clock reading, and when `datetime.fromisoformat` reads it. -/
structure Timestamp (platform : Platform) (fromisoformat : Str → Bool) (now : ℤ) : Prop where
  ascii : Ascii (platform.toISOString now)
  utc : (platform.toISOString now).getLast? = some 90
  reads : fromisoformat (utcOffset (ofUnits (platform.toISOString now))) = true ↔ KnownYear now

/-! ## Patterns in Python -/

theorem point_val (u : UInt16) : (point u.toNat).val = u.toNat := Py.point_val_of_lt (Py.unit_lt u)

theorem isSha256_ofUnits {s : JsString} (h : validSha256 s = true) : isSha256 (ofUnits s) = true := by
  have hascii := ascii_sha256 h
  rw [validSha256, sha256Pattern, Regex.accepts_iff] at h
  cases h with
  | run hall hl hm =>
    rw [Py.ofUnits_ascii hascii, isSha256, Bool.and_eq_true, List.length_map, beq_iff_eq, List.all_map, List.all_eq_true]
    refine ⟨le_antisymm hm hl, fun u hu => ?_⟩
    have hclass := hall u hu
    simp only [Regex.hex, CharClass.has, List.any_append, List.any_cons, List.any_nil, Bool.or_false, Bool.or_eq_true,
      Bool.and_eq_true, decide_eq_true_eq] at hclass
    simp only [Function.comp_apply, point_val, Bool.or_eq_true, Bool.and_eq_true, decide_eq_true_eq]
    omega

theorem isSessionId_ofUnits {s : JsString} (h : sessionIdPattern.accepts s = true) : isSessionId (ofUnits s) = true := by
  have hascii := ascii_sessionId h
  rw [sessionIdPattern, Regex.accepts_iff] at h
  cases h with
  | run hall hl hm =>
    rw [Py.ofUnits_ascii hascii, isSessionId, Bool.and_eq_true, List.length_map, beq_iff_eq, List.all_map, List.all_eq_true]
    refine ⟨le_antisymm hm hl, fun u hu => ?_⟩
    have hclass := hall u hu
    simp only [Regex.hex, CharClass.has, List.any_append, List.any_cons, List.any_nil, Bool.or_false, Bool.or_eq_true,
      Bool.and_eq_true, decide_eq_true_eq] at hclass
    simp only [Function.comp_apply, point_val, Bool.or_eq_true, Bool.and_eq_true, decide_eq_true_eq, beq_iff_eq]
    omega

/-- A state id of the receiver passes the check of Python. -/
theorem stateId_ofUnits {s : JsString} (h : validStateId s = true) :
    1 ≤ (ofUnits s).length ∧ (ofUnits s).length ≤ 512 ∧
      ((ofUnits s).all fun c => c.val ≠ 124 && c.val ≠ 13 && c.val ≠ 10) = true := by
  simp only [validStateId, Bool.and_eq_true, decide_eq_true_eq, List.all_eq_true] at h
  obtain ⟨⟨hl, hm⟩, hunits⟩ := h
  have hne : s ≠ [] := List.length_pos_iff.mp hl
  refine ⟨List.length_pos_iff.mpr (Py.ofUnits_ne_nil hne), (Py.length_ofUnits_le s).trans hm, ?_⟩
  rw [List.all_eq_true]
  intro c hc
  have hfree : ∀ n, n < 128 → UInt16.ofNat n ∉ s → c.val ≠ n := by
    rintro n hn hmem rfl
    exact hmem (Py.unit_mem_of_mem hc (by omega))
  simp only [Bool.and_eq_true, decide_eq_true_eq]
  exact ⟨⟨hfree 124 (by omega) fun hmem => (hunits _ hmem).1.1 rfl, hfree 13 (by omega) fun hmem => (hunits _ hmem).1.2 rfl⟩,
    hfree 10 (by omega) fun hmem => (hunits _ hmem).2 rfl⟩

/-- A lower-case digest stays as it is. -/
theorem lower_hex {s : JsString} (h : Native.hex64.accepts s = true) : lower (ofUnits s) = ofUnits s := by
  have hascii := ascii_sha256 (hex_of_pattern h)
  rw [Native.hex64, Regex.accepts_iff] at h
  cases h with
  | run hall hl hm =>
    rw [Py.ofUnits_ascii hascii, lower, List.map_map]
    refine List.map_congr_left fun u hu => ?_
    have hclass := hall u hu
    simp only [Regex.hex, CharClass.has, List.any_cons, List.any_nil, Bool.or_false, Bool.or_eq_true, Bool.and_eq_true,
      decide_eq_true_eq] at hclass
    rw [Function.comp_apply, point_val, if_neg (by omega)]

/-! ## Fields of an issued receipt -/

section
variable {fields : List (String × Js.Json)} {name : String}

theorem strField_record {t : JsString} (h : fields.lookup name = some (.str t)) :
    strField (Value.ofJson (.record fields)) name = some (ofUnits t) := by
  rw [strField, Py.get_ofJson_record, h]
  rfl

theorem strField_text {t : String} (h : fields.lookup name = some (.text t)) :
    strField (Value.ofJson (.record fields)) name = some (str t) := by
  rw [strField_record h, Py.ofUnits_js]

theorem intField_record {i : ℤ} (h : fields.lookup name = some (.int i)) :
    intField (Value.ofJson (.record fields)) name = some i := by
  rw [intField, Py.get_ofJson_record, h]
  rfl

theorem boolField_record {b : Bool} (h : fields.lookup name = some (.bool b)) :
    boolField (Value.ofJson (.record fields)) name = some b := by
  rw [boolField, Py.get_ofJson_record, h]
  rfl

end

/-- The entries of an issued receipt. -/
def Issued.entries (x : Issued) : List (String × Js.Json) := x.core.fields ++ [("receiptMac", .str x.receiptMac)]

theorem receipt_eq (x : Issued) : x.receipt = .record x.entries := rfl

section
variable {r : ProofReceiver} {x : Issued}

theorem keys_issued (x : Issued) : (Value.ofJson x.receipt).items.map Prod.fst = (FIELDS ++ ["receiptMac"]).map str := by
  have hnames : x.entries.map Prod.fst = FIELDS ++ ["receiptMac"] := rfl
  rw [receipt_eq, Py.ofJson_record, Value.record, Value.items, List.map_map, List.map_map, ← hnames, List.map_map]
  rfl

/-- The flags of a verified receipt. -/
theorem flags_issued (hx : Issued.Genuine platform r x) (hverified : x.core.integrityVerified = true) :
    x.core.distinctHostFingerprints = (x.core.sourceHostFingerprint != x.core.destinationHostFingerprint) ∧
      x.core.twoHostNetworkProofSatisfied = (x.core.distinctHostFingerprints && !x.core.loopbackObserved) := by
  obtain ⟨loopback, now, hcore⟩ := hx.core
  rw [hcore] at hverified ⊢
  refine ⟨rfl, ?_⟩
  simp only [receiptCore] at hverified ⊢
  rw [hverified, Bool.true_and]

/-- The sizes and the hashes of a verified receipt. -/
theorem payload_issued (hopens : platform.Opens) (hx : Issued.Genuine platform r x)
    (hverified : x.core.integrityVerified = true) :
    x.core.payloadBytes = x.core.ciphertextBytes ∧ 1 ≤ x.core.payloadBytes ∧ x.core.payloadBytes ≤ r.maxBytes ∧
      x.core.stateHash = x.core.payloadSha256 ∧ x.core.payloadSha256 = x.core.receivedSha256 := by
  have hlength := openPayload_length hopens hx.opened
  obtain ⟨hpositive, hbound⟩ := hx.checked.payloadBytes
  obtain ⟨loopback, now, hcore⟩ := hx.core
  rw [hcore] at hverified ⊢
  simp only [receiptCore, Bool.and_eq_true, decide_eq_true_eq, beq_iff_eq] at hverified ⊢
  obtain ⟨hsize, hsha⟩ := hverified
  exact ⟨hlength, by omega, by omega, hx.checked.hashes.1, hsha.symm⟩

end

/-- The fields that the inspection reads of an issued receipt. -/
theorem strings_issued (x : Issued) :
    let field := strField (Value.ofJson x.receipt)
    field "schemaVersion" = some (str TWO_HOST_PROOF_SCHEMA) ∧ field "sessionId" = some (ofUnits x.core.sessionId) ∧
      field "stateId" = some (ofUnits x.core.stateId) ∧ field "stateHash" = some (ofUnits x.core.stateHash) ∧
      field "payloadSha256" = some (ofUnits x.core.payloadSha256) ∧
      field "receivedSha256" = some (ofUnits x.core.receivedSha256) ∧
      field "sourceHostFingerprint" = some (ofUnits x.core.sourceHostFingerprint) ∧
      field "destinationHostFingerprint" = some (ofUnits x.core.destinationHostFingerprint) ∧
      field "cipher" = some (str TWO_HOST_CIPHER) ∧ field "transportClass" = some (str TRANSPORT_CLASS) ∧
      field "observedAt" = some (ofUnits x.core.observedAt) ∧ field "receiptMac" = some (ofUnits x.receiptMac) :=
  ⟨strField_text rfl, strField_record rfl, strField_record rfl, strField_record rfl, strField_record rfl, strField_record rfl,
    strField_record rfl, strField_record rfl, strField_text rfl, strField_text rfl, strField_record rfl, strField_record rfl⟩

theorem integers_issued (x : Issued) :
    let field := intField (Value.ofJson x.receipt)
    field "generation" = some x.core.generation ∧ field "payloadBytes" = some (x.core.payloadBytes : ℤ) ∧
      field "ciphertextBytes" = some (x.core.ciphertextBytes : ℤ) :=
  ⟨intField_record rfl, intField_record rfl, intField_record rfl⟩

theorem booleans_issued (x : Issued) :
    let field := boolField (Value.ofJson x.receipt)
    field "distinctHostFingerprints" = some x.core.distinctHostFingerprints ∧
      field "loopbackObserved" = some x.core.loopbackObserved ∧ field "authenticationVerified" = some true ∧
      field "integrityVerified" = some x.core.integrityVerified ∧ field "encryptedOnWire" = some true ∧
      field "twoHostNetworkProofSatisfied" = some x.core.twoHostNetworkProofSatisfied ∧
      field "physicalMachineAttestationProven" = some false ∧ field "productionReadyClaim" = some false :=
  ⟨boolField_record rfl, boolField_record rfl, boolField_record rfl, boolField_record rfl, boolField_record rfl,
    boolField_record rfl, boolField_record rfl, boolField_record rfl⟩

/-! ## Inspection -/

theorem getLast_ofUnits {s : JsString} (hascii : Ascii s) {u : UInt16} (h : s.getLast? = some u) :
    (ofUnits s).getLast? = some (point u.toNat) := by
  rw [Py.ofUnits_ascii hascii, List.getLast?_map, h, Option.map_some]

/-- The transcript of a receipt has UTF-8 bytes in Python exactly when its state id has. -/
theorem wellFormed_transcript {c : ReceiptCore} (hc : c.Valid platform) (hascii : Ascii c.observedAt) :
    WellFormed (joinBar c.parts) ↔ WellFormed c.stateId := by
  have hboth : ∀ b, WellFormed (boolText b) := by
    intro b
    cases b <;> exact Js.wellFormed_of_ascii (by decide)
  have hnumber : ∀ i, WellFormed (JsNumber.int i).toText := fun i => Js.wellFormed_of_ascii (Js.ascii_toText _)
  have hsha : ∀ {s : JsString}, validSha256 s = true → WellFormed s := fun h => Js.wellFormed_of_ascii (ascii_sha256 h)
  rw [Py.wellFormed_joinBar_iff]
  constructor
  · intro h
    exact h _ (by simp [ReceiptCore.parts])
  · intro h
    simp only [ReceiptCore.parts, List.forall_mem_cons, List.not_mem_nil, false_implies, implies_true, and_true]
    exact ⟨Js.wellFormed_of_ascii (by decide), Js.wellFormed_of_ascii (ascii_sessionId hc.sessionId), h, hsha hc.stateHash,
      hnumber _, hsha hc.payloadSha256, hsha hc.receivedSha256, hnumber _, hnumber _, hsha hc.source, hsha hc.destination,
      hboth _, hboth _, hboth _, hboth _, hboth _, Js.wellFormed_of_ascii (by decide), Js.wellFormed_of_ascii (by decide),
      hboth _, hboth _, hboth _, Js.wellFormed_of_ascii hascii⟩

/-- Up to its time a verified receipt passes the inspection, and its MAC is the one computed. -/
theorem inspect_issued_iff (hopens : platform.Opens) {r : ProofReceiver} (hmax : r.maxBytes = DEFAULT_MAX_BYTES) {x : Issued}
    (hx : Issued.Genuine platform r x) (hverified : x.core.integrityVerified = true) {now : ℤ}
    (hnow : x.core.observedAt = platform.toISOString now) (ht : Timestamp platform fromisoformat now) :
    inspectReceipt platform fromisoformat (Value.ofJson x.receipt) (some (.str (ofUnits r.secret))) none = .ok ⟨true, false⟩ ↔
      WellFormed r.secret ∧ 32 ≤ (ofUnits r.secret).length ∧ WellFormed x.core.stateId ∧ KnownYear now := by
  have hvalid := hx.valid
  have hbounded := hx.bounded hopens
  obtain ⟨hsize, hpositive, hlimit, hstate, hreceived⟩ := payload_issued hopens hx hverified
  obtain ⟨hdistinct, hsatisfied⟩ := flags_issued hx hverified
  obtain ⟨hschema, hsession, hstateId, hstateHash, hpayload, hreceivedSha, hsource, hdestination, hcipher, htransport,
    hobserved, hmac⟩ := strings_issued x
  obtain ⟨hgeneration, hpayloadBytes, hciphertext⟩ := integers_issued x
  obtain ⟨hdistinctHosts, hloopback, hauthentication, hintegrity, hencrypted, htwoHost, hphysical, hproduction⟩ :=
    booleans_issued x
  rw [hmax, DEFAULT_MAX_BYTES] at hlimit
  have hflags : (BOOLS.all fun field => (boolField (Value.ofJson x.receipt) field).isSome) = true := by
    rw [show BOOLS = ["distinctHostFingerprints", "loopbackObserved", "authenticationVerified", "integrityVerified",
      "encryptedOnWire", "twoHostNetworkProofSatisfied", "physicalMachineAttestationProven", "productionReadyClaim"] from rfl]
    simp [hdistinctHosts, hloopback, hauthentication, hintegrity, hencrypted, htwoHost, hphysical, hproduction]
  have hhashes : (HASHES.all fun field => (strField (Value.ofJson x.receipt) field).any isSha256) = true := by
    have hmacHex : validSha256 x.receiptMac = true := by
      rw [hx.receiptMac]
      exact hex_of_pattern (platform.hmac_hex _ _)
    simp only [HASHES, List.all_cons, List.all_nil, hstateHash, hpayload, hreceivedSha, hsource, hdestination, hmac,
      Option.any_some, isSha256_ofUnits, hvalid.stateHash, hvalid.payloadSha256, hvalid.receivedSha256, hvalid.source,
      hvalid.destination, hmacHex, Bool.and_true]
  have hintegers : (["generation", "payloadBytes", "ciphertextBytes"].all fun field =>
      (intField (Value.ofJson x.receipt) field).any fun i => 0 ≤ i && i ≤ 2 ^ 53 - 1) = true := by
    simp only [List.all_cons, List.all_nil, hgeneration, hpayloadBytes, hciphertext, Option.any_some, Bool.and_true,
      Bool.and_eq_true, decide_eq_true_eq]
    have hg := hbounded.generation
    have hp := hbounded.payloadBytes
    have hc := hbounded.ciphertextBytes
    omega
  have hascii : Ascii x.core.observedAt := hnow ▸ ht.ascii
  have htranscript := wellFormed_transcript hvalid hascii
  simp only [inspectReceipt, bind_eq_ok, ensure_eq_ok, orThrow_eq_ok, pure_eq_ok, exists_const]
  constructor
  · rintro ⟨-, -, -, -, -, -, -, -, -, -, -, -, -, -, -, -, -, observed, hobs, -, hread, hlong, text, htext, key, hkey, bytes,
      hbytes, -⟩
    rw [hobserved, Option.some.injEq] at hobs
    rw [receiptText_issued hbounded, Option.some.injEq] at htext
    subst hobs htext
    rw [hnow] at hread
    exact ⟨(Py.encode_ofUnits.mp hkey).1, of_decide_eq_true hlong, htranscript.mp (Py.encode_ofUnits.mp hbytes).1,
      ht.reads.mp hread⟩
  · rintro ⟨hsecret, hlong, hstateText, hyear⟩
    refine ⟨?_, ?_, hflags, hhashes, _, hsession, isSessionId_ofUnits hvalid.sessionId, _, hstateId, ?_, hintegers, ?_, ?_, ?_,
      ?_, ?_, ?_, _, hobserved, ?_, ?_, decide_eq_true hlong, _, receiptText_issued hbounded, _,
      Py.encode_ofUnits.mpr ⟨hsecret, rfl⟩, _, Py.encode_ofUnits.mpr ⟨htranscript.mpr hstateText, rfl⟩, ?_, _, rfl, _, rfl, rfl⟩
    · rw [keys_issued, Bool.and_self, List.all_eq_true]
      exact fun name hname => List.contains_iff_mem.mpr hname
    · rw [hschema]
      exact beq_self_eq_true _
    · obtain ⟨hl, hm, hclass⟩ := stateId_ofUnits hvalid.stateId
      rw [Bool.and_eq_true, Bool.and_eq_true]
      exact ⟨⟨decide_eq_true hl, decide_eq_true hm⟩, hclass⟩
    · simp only [hpayloadBytes, hciphertext, Option.getD_some, Bool.and_eq_true, decide_eq_true_eq, beq_iff_eq]
      refine ⟨⟨?_, ?_⟩, ?_⟩
      · omega
      · omega
      · rw [hsize]
    · rw [hstateHash, hpayload, hreceivedSha, hstate, ← hreceived, beq_self_eq_true, Bool.and_self]
    · simp only [List.all_cons, List.all_nil, hauthentication, hintegrity, hencrypted, hverified, beq_self_eq_true, Bool.and_true]
    · rw [hphysical, hproduction]
      rfl
    · have hhosts : (some (ofUnits x.core.sourceHostFingerprint) != some (ofUnits x.core.destinationHostFingerprint)) =
          x.core.distinctHostFingerprints := by
        rw [hdistinct, Bool.eq_iff_iff, bne_iff_ne, bne_iff_ne, ne_eq, Option.some.injEq, Py.ofUnits_injective.eq_iff]
      have hopposite : (some x.core.loopbackObserved == some false) = !x.core.loopbackObserved := by
        cases x.core.loopbackObserved <;> rfl
      rw [hsource, hdestination, hdistinctHosts, htwoHost, hloopback, hhosts, hopposite, hsatisfied, beq_self_eq_true,
        beq_self_eq_true, Bool.and_self]
    · rw [hcipher, htransport, beq_self_eq_true, beq_self_eq_true, Bool.and_self]
    · rw [hnow, getLast_ofUnits ht.ascii ht.utc]
      exact beq_self_eq_true _
    · rw [hnow]
      exact ht.reads.mpr hyear
    · rw [hmac, Option.map_some, hx.receiptMac, TwoMachine.hmac, lower_hex (platform.hmac_hex _ _)]
      exact beq_self_eq_true _

/-! ## Every answered transfer -/

/-- A transfer that a receiver with the default limit answers with 200 passes the inspection with
the same secret exactly when the secret and the state id have UTF-8 bytes, the secret has 32 code
points and the clock is in a known year. -/
theorem receipt_inspectable (hopens : platform.Opens) {r : ProofReceiver} (hmax : r.maxBytes = DEFAULT_MAX_BYTES)
    (events : List Event) {i : ℕ} {claim : Claim} {now : ℤ} (ht : Timestamp platform fromisoformat now)
    (hwaits : (run (r.step platform) State.start events).requests[i]? = some (.ciphertext claim))
    {body : Except JsString Bytes} {remoteAddress : Option JsString} {x : Issued} {sessions : Sessions}
    (hissued : r.resumeTransfer platform claim body remoteAddress now (run (r.step platform) State.start events).sessions =
      (.ok x, sessions)) {persisted : Bool} (hanswer : (receiptResponse x persisted).status = 200) :
    inspectReceipt platform fromisoformat (Value.ofJson (receiptResponse x persisted).body) (some (.str (ofUnits r.secret)))
      none = .ok ⟨true, false⟩ ↔
      WellFormed r.secret ∧ 32 ≤ (ofUnits r.secret).length ∧ WellFormed claim.session.stateId ∧ KnownYear now := by
  have hanswered : (receiptResponse x persisted).body = x.receipt ∧ x.core.integrityVerified = true := by
    unfold receiptResponse at hanswer ⊢
    split at hanswer
    · rename_i hpersisted
      rw [if_pos hpersisted]
      refine ⟨rfl, ?_⟩
      by_contra hfailed
      rw [if_neg hfailed] at hanswer
      cases hanswer
    · cases hanswer
  have hgenuine : Issued.Genuine platform r x := by
    refine run_genuine r (events ++ [.ciphertextBody i body remoteAddress now]) x ?_
    rw [run_append, run_cons, run_nil]
    simp only [step, hwaits, hissued]
    exact List.mem_cons_self
  obtain ⟨-, -, -, -, hcore, -⟩ := resumeTransfer_ok hissued
  have hobserved : x.core.observedAt = platform.toISOString now := by
    rw [hcore]
    rfl
  have hstateId : x.core.stateId = claim.session.stateId := by
    rw [hcore]
    rfl
  rw [hanswered.1, ← hstateId]
  exact inspect_issued_iff hopens hmax hgenuine hanswered.2 hobserved ht

/-- The transfer of an undisturbed exchange, up to its body and from there on. -/
theorem exchange_answered {r : ProofReceiver} {call : SendCall} (h : call.Admissible platform)
    (hpayload : call.canonicalPayload.length ≤ r.maxBytes) (drawn : Drawn) (now : ℤ) {iv : Bytes} (hiv : iv.length = 12) :
    let t := sentTransfer platform r call drawn iv
    let claim := t.claim (openedSession platform r call drawn now)
    let s := run (r.step platform) State.start (challengeLeg platform call drawn now ++ [.transfer t.headers now])
    let x := issuedReceipt platform r call call.stateId drawn now iv
    s.requests[1]? = some (.ciphertext claim) ∧
      r.resumeTransfer platform claim (.ok t.ciphertext) none now s.sessions = (.ok x, s.sessions.delete t.sessionId) ∧
      receiptResponse x true = ⟨200, x.receipt⟩ := by
  intro t claim s x
  obtain ⟨hlength, hclaim, -⟩ := legs_run h h.stateId rfl hpayload drawn now hiv
  obtain ⟨-, hanswers⟩ := @sentTransfer_answers platform r call drawn now iv
  have hfields := @openedSession_fields platform r call drawn now
  refine ⟨?_, resumeTransfer_answers hanswers hiv hpayload hfields none now s.sessions, ?_⟩
  · simp only [s, run_append, run_cons, run_nil]
    rw [show call.renamed call.stateId = call from rfl] at hlength hclaim
    rw [hclaim, ← hlength]
    exact List.getElem?_concat_length
  · have hverified : x.core.integrityVerified = true := (receiptMatches_issued hfields false now).1
    rw [receiptResponse, if_pos rfl, if_pos hverified]

end

/-! ## Sample receipts -/

namespace Sample

def fromisoformat (text : Str) : Bool := text == str "2026-10-12T00:00:00.000+00:00"

theorem timestamp_now : Timestamp platform fromisoformat now where
  ascii := show Ascii (js "2026-10-12T00:00:00.000Z") by decide
  utc := by decide
  reads := by
    have hread : fromisoformat (utcOffset (ofUnits (js "2026-10-12T00:00:00.000Z"))) = true := by
      rw [Py.ofUnits_js]
      decide
    exact ⟨fun _ => by unfold KnownYear now; omega, fun _ => hread⟩

/-- A receiver with the default limit. -/
def defaultReceiver (secret : JsString) (h : 32 ≤ secret.length) : ProofReceiver :=
  { receiver with secret := secret, secret_length := h, maxBytes := DEFAULT_MAX_BYTES, maxBytes_ok := by decide }

theorem default_answered (secret : JsString) (h : 32 ≤ secret.length) :
    let r := defaultReceiver secret h
    let t := sentTransfer platform r (callOf plainState) firstDrawn iv
    let claim := t.claim (openedSession platform r (callOf plainState) firstDrawn now)
    let s := run (r.step platform) State.start (challengeLeg platform (callOf plainState) firstDrawn now ++
      [.transfer t.headers now])
    let x := issuedReceipt platform r (callOf plainState) plainState firstDrawn now iv
    s.requests[1]? = some (.ciphertext claim) ∧
      r.resumeTransfer platform claim (.ok t.ciphertext) none now s.sessions = (.ok x, s.sessions.delete t.sessionId) ∧
      receiptResponse x true = ⟨200, x.receipt⟩ := by
  have hpayload : (callOf plainState).canonicalPayload.length ≤ (defaultReceiver secret h).maxBytes :=
    show 1 ≤ 32 * 1024 * 1024 by decide
  exact exchange_answered (callOf_admissible (show validStateId plainState = true by decide)) hpayload firstDrawn now
    (show iv.length = 12 by decide)

theorem plainReceipt_inspectable :
    inspectReceipt platform fromisoformat
      (Value.ofJson (receiptResponse (issuedReceipt platform (defaultReceiver secret (by decide)) (callOf plainState) plainState
        firstDrawn now iv) true).body) (some (.str (ofUnits secret))) none = .ok ⟨true, false⟩ := by
  obtain ⟨hwaits, hissued, hanswer⟩ := default_answered secret (by decide)
  refine (receipt_inspectable platform_opens rfl _ timestamp_now hwaits hissued (congrArg Response.status hanswer)).mpr ?_
  refine ⟨Js.wellFormed_of_ascii (by decide), ?_, Js.wellFormed_of_ascii (by decide), by unfold KnownYear now; omega⟩
  exact show 32 ≤ (ofUnits secret).length by decide

/-- Sixteen characters outside the basic plane: 32 units and 16 code points. -/
def astralSecret : JsString := (List.replicate 16 [0xD83D, 0xDE00]).flatten

/-- A receiver with an astral secret answers with 200, and the inspection refuses its receipt. -/
theorem astralSecret_refused :
    let r := defaultReceiver astralSecret (by decide)
    let x := issuedReceipt platform r (callOf plainState) plainState firstDrawn now iv
    x ∈ (run (r.step platform) State.start (exchange platform r (callOf plainState) firstDrawn now iv)).issued ∧
      receiptResponse x true = ⟨200, x.receipt⟩ ∧
      inspectReceipt platform fromisoformat (Value.ofJson x.receipt) (some (.str (ofUnits r.secret))) none ≠
        .ok ⟨true, false⟩ := by
  intro r x
  obtain ⟨-, -, hanswer⟩ := default_answered astralSecret (by decide)
  have hmem : x ∈ (run (r.step platform) State.start (exchange platform r (callOf plainState) firstDrawn now iv)).issued := by
    have hpayload : (callOf plainState).canonicalPayload.length ≤ r.maxBytes := show 1 ≤ 32 * 1024 * 1024 by decide
    rw [exchange_issued (callOf_admissible (show validStateId plainState = true by decide)) hpayload firstDrawn now
      (show iv.length = 12 by decide)]
    exact List.mem_cons_self
  refine ⟨hmem, hanswer, fun hinspected => ?_⟩
  have hverified : x.core.integrityVerified = true :=
    (receiptMatches_issued (openedSession_fields (callOf plainState) firstDrawn now) false now).1
  have hlong := ((inspect_issued_iff platform_opens rfl (run_genuine r _ x hmem) hverified rfl timestamp_now).mp hinspected).2.1
  exact absurd hlong (show ¬ 32 ≤ (ofUnits astralSecret).length by decide)

end Sample

end TwoMachine
