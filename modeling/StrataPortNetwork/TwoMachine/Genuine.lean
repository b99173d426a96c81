import StrataPortNetwork.TwoMachine.SessionStore
import StrataPortNetwork.TwoMachine.Sender

/-! # Genuine receipts

A receiver claims sessions that have passed its checks, and a receipt says what it decrypted.
The bytes of a receipt determine its fields up to what UTF-8 loses, so a sender that accepts
an issued receipt reads in it what the receiver decrypted.
-/
namespace TwoMachine
open Js ProofReceiver

/-! ## What a receiver has checked -/

namespace ProofReceiver
variable {platform : Platform} {r : ProofReceiver}

theorem toLowerCase_of_lower {s : JsString} (h : Native.hex64.accepts s = true) : toLowerCase s = s := by
  have hclass : ∀ u ∈ s, Regex.hex.has u = true := by
    rw [Native.hex64, Regex.accepts_iff] at h
    cases h with
    | run hall hl hm => exact hall
  rw [toLowerCase]
  refine (List.map_congr_left fun u hu => ?_).trans (List.map_id s)
  have hu := hclass u hu
  simp only [Regex.hex, CharClass.has, List.any_cons, List.any_nil, Bool.or_false, Bool.or_eq_true, Bool.and_eq_true,
    decide_eq_true_eq] at hu
  rw [if_neg (by omega)]
  rfl

theorem hex_toLowerCase {s : JsString} (h : validSha256 s = true) : Native.hex64.accepts (toLowerCase s) = true := by
  rw [validSha256, sha256Pattern, Regex.accepts_iff] at h
  rw [Native.hex64, Regex.accepts_iff]
  cases h with
  | run hall hl hm =>
    refine .run ?_ (by simpa [toLowerCase] using hl) (by simpa [toLowerCase] using hm)
    intro u hu
    obtain ⟨v, hv, rfl⟩ := List.mem_map.mp hu
    have hclass := hall v hv
    have hadd : v.toNat ≤ 90 → (v + 32).toNat = v.toNat + 32 := by
      intro hle
      rw [UInt16.toNat_add]
      have : (32 : UInt16).toNat = 32 := rfl
      omega
    simp only [Regex.hex, CharClass.has, List.any_cons, List.any_nil, List.any_append, Bool.or_false, Bool.or_eq_true,
      Bool.and_eq_true, decide_eq_true_eq] at hclass ⊢
    split
    · rename_i hupper
      rw [hadd hupper.2]
      omega
    · omega

theorem validSha256_toLowerCase {s : JsString} (h : validSha256 s = true) : validSha256 (toLowerCase s) = true :=
  hex_of_pattern (hex_toLowerCase h)

theorem checkHello_ok {json : Json} {hello : Hello} (h : r.checkHello json = .ok hello) :
    validSha256 hello.sourceHostFingerprint = true ∧ validStateId hello.stateId = true ∧
      validSha256 hello.stateHash = true ∧ (0 ≤ hello.generation ∧ hello.generation ≤ 9007199254740991) ∧
      validSha256 hello.payloadSha256 = true ∧ (1 ≤ hello.payloadBytes ∧ hello.payloadBytes ≤ r.maxBytes) ∧
      toLowerCase hello.stateHash = toLowerCase hello.payloadSha256 := by
  have hsafe : ∀ {v : Option Json} {i : ℤ}, v.bind Json.safeInteger? = some i → 0 ≤ i → i ≤ 9007199254740991 := by
    rintro v i hv hnonneg
    obtain ⟨w, -, hw⟩ := Option.bind_eq_some_iff.mp hv
    cases w with
    | num x =>
      cases x with
      | int j =>
        simp only [Json.safeInteger?, JsNumber.safeInteger?, Option.ite_none_right_eq_some, Option.some.injEq] at hw
        omega
      | frac m e _ _ => simp [Json.safeInteger?, JsNumber.safeInteger?] at hw
    | null => simp [Json.safeInteger?] at hw
    | bool b => simp [Json.safeInteger?] at hw
    | str s => simp [Json.safeInteger?] at hw
    | arr items => simp [Json.safeInteger?] at hw
    | obj fields => simp [Json.safeInteger?] at hw
  simp only [checkHello, bind_eq_ok, ensure_eq_ok, orThrow_eq_ok, pure_eq_ok, decide_eq_true_eq, Bool.and_eq_true,
    Json.bind_str?_eq_some, beq_iff_eq] at h
  obtain ⟨-, -, source, hsource, stateId, -, -, hstateId, stateHash, hstateHash, generation, hgeneration, -, hnonneg, sha,
    hsha, -, hhashes, bytes, -, -, hbytes, rfl⟩ := h
  exact ⟨(stringField_eq_some.mp hsource).2, hstateId, (stringField_eq_some.mp hstateHash).2,
    ⟨hnonneg, hsafe hgeneration hnonneg⟩, (stringField_eq_some.mp hsha).2, hbytes, hhashes⟩

/-- What a receiver has checked of a session. -/
structure Checked (r : ProofReceiver) (p : ProofFields) : Prop where
  valid : p.Valid
  generation : 0 ≤ p.generation ∧ p.generation ≤ 9007199254740991
  payloadBytes : 1 ≤ p.payloadBytes ∧ p.payloadBytes ≤ r.maxBytes
  hashes : p.stateHash = p.payloadSha256 ∧ Native.hex64.accepts p.payloadSha256 = true
  destination : Native.hex64.accepts p.destinationHostFingerprint = true

theorem checked_sessionOf {json : Json} {hello : Hello} (h : r.checkHello json = .ok hello) (drawn : Drawn)
    (createdAt : ℤ) : Checked r (r.sessionOf platform hello drawn createdAt).toProofFields := by
  obtain ⟨hsource, hstateId, hstateHash, hgeneration, hsha, hbytes, hhashes⟩ := checkHello_ok h
  exact ⟨⟨hex_of_pattern drawn.challenge_hex, hsource, hex_of_pattern (platform.sha256_hex _), hstateId,
    validSha256_toLowerCase hstateHash, validSha256_toLowerCase hsha⟩, hgeneration, hbytes, ⟨hhashes, hex_toLowerCase hsha⟩,
    platform.sha256_hex _⟩

/-- The receipt of an issue says what the receiver decrypted. -/
structure Issued.Genuine (platform : Platform) (r : ProofReceiver) (x : Issued) : Prop where
  sessionId : sessionIdPattern.accepts x.claim.sessionId = true
  checked : Checked r x.claim.session.toProofFields
  received : x.ciphertext.length ≤ r.maxBytes
  opened : r.openPayload platform x.claim x.ciphertext = some x.payload
  core : ∃ loopback now, x.core = receiptCore platform x.claim x.ciphertext x.payload loopback (platform.toISOString now)
  receiptMac : x.receiptMac = hmac platform r.secret (joinBar x.core.parts)

/-- Stored and claimed sessions have passed the checks of a hello, and receipts are genuine. -/
structure Genuine (platform : Platform) (r : ProofReceiver) (s : State) : Prop where
  sessions : ∀ sessionId session, s.sessions.get sessionId = some session →
    sessionIdPattern.accepts sessionId = true ∧ Checked r session.toProofFields
  waiting : ∀ i claim, Waits s.requests i claim →
    sessionIdPattern.accepts claim.sessionId = true ∧ Checked r claim.session.toProofFields
  issued : ∀ x ∈ s.issued, Issued.Genuine platform r x

theorem start_genuine : Genuine platform r State.start := by
  constructor <;> simp [State.start, JsMap.empty, JsMap.get, Waits]

theorem step_genuine {s : State} (h : Genuine platform r s) (e : Event) : Genuine platform r (r.step platform s e) := by
  have hshrunk : ∀ {sessions : Sessions} {requests : List Stage},
      (∀ sessionId session, sessions.get sessionId = some session → s.sessions.get sessionId = some session) →
      (∀ i claim, Waits requests i claim → Waits s.requests i claim) →
      Genuine platform r { s with sessions := sessions, requests := requests } :=
    fun hsessions hrequests => ⟨fun sessionId session hget => h.sessions sessionId session (hsessions sessionId session hget),
      fun i claim hi => h.waiting i claim (hrequests i claim hi), h.issued⟩
  have hexpire : ∀ now sessionId session, (r.expireSessions now s.sessions).get sessionId = some session →
      s.sessions.get sessionId = some session := fun _ _ _ => get_expireSessions
  have hdelete : ∀ other sessionId session, (s.sessions.delete other).get sessionId = some session →
      s.sessions.get sessionId = some session := fun _ _ _ hget => (get_of_delete hget).1
  have happend : ∀ {stage : Stage}, (∀ claim, stage ≠ .ciphertext claim) →
      ∀ i claim, Waits (s.requests ++ [stage]) i claim → Waits s.requests i claim :=
    fun hstage _ _ hi => ciphertext_of_append hstage hi
  have hset : ∀ {stage : Stage} (j : ℕ), (∀ claim, stage ≠ .ciphertext claim) →
      ∀ i claim, Waits (s.requests.set j stage) i claim → Waits s.requests i claim :=
    fun _ hstage _ _ hi => (ciphertext_of_set hstage hi).1
  cases e with
  | timer now => exact hshrunk (hexpire now) fun _ _ => id
  | challenge now =>
    have hsessions := challengeRequest_sessions (r := r) now s.sessions
    simp only [step]
    split <;> (rename_i heq; rw [heq] at hsessions; subst hsessions; exact hshrunk (hexpire now) (happend (by simp)))
  | helloBody i body drawn now createdAt =>
    simp only [step]
    split
    · split
      · rename_i response sessions heq
        rcases resumeChallenge_error heq with rfl | rfl
        · exact hshrunk (fun _ _ => id) (hset i (by simp))
        · exact hshrunk (hexpire now) (hset i (by simp))
      · rename_i session sessions heq
        obtain ⟨-, rfl, json, hello, -, hchecked, rfl⟩ := resumeChallenge_ok heq
        refine ⟨?_, fun j claim hj => h.waiting j claim (hset i (by simp) j claim hj), h.issued⟩
        intro sessionId session hget
        rw [JsMap.get_set] at hget
        split at hget
        · rename_i hsame
          rw [← beq_iff_eq.mp hsame, ← Option.some.inj hget]
          exact ⟨drawn.sessionId_uuid, checked_sessionOf hchecked drawn createdAt⟩
        · exact h.sessions sessionId session (get_expireSessions hget)
    · exact h
  | transfer headers now =>
    simp only [step]
    split
    · rename_i response sessions heq
      rcases transferRequest_error heq with rfl | ⟨sessionId, rfl, -⟩
      · exact hshrunk (fun _ _ => id) (happend (by simp))
      · exact hshrunk (hdelete sessionId) (happend (by simp))
    · rename_i claim sessions heq
      obtain ⟨-, hsession, -, -, rfl⟩ := transferRequest_ok heq
      refine ⟨fun sessionId session hget => h.sessions sessionId session (hdelete _ sessionId session hget), ?_, h.issued⟩
      intro i claim' hi
      rw [Waits, List.getElem?_append] at hi
      split at hi
      · exact h.waiting i claim' hi
      · have hmem := List.mem_of_getElem? hi
        rw [List.mem_singleton, Stage.ciphertext.injEq] at hmem
        rw [hmem]
        exact h.sessions _ _ hsession
  | ciphertextBody i body remoteAddress now =>
    simp only [step]
    split
    · rename_i claim hi
      have hsessions : ∀ sessionId session,
          (r.resumeTransfer platform claim body remoteAddress now s.sessions).2.get sessionId = some session →
            s.sessions.get sessionId = some session := by
        rcases @resumeTransfer_sessions platform r claim body remoteAddress now s.sessions with heq | heq <;>
          rw [heq]
        · exact fun _ _ => id
        · exact hdelete _
      split
      · rename_i response sessions heq
        rw [heq] at hsessions
        exact hshrunk hsessions (hset i (by simp))
      · rename_i issued sessions heq
        rw [heq] at hsessions
        have hkept := hshrunk hsessions (hset i (by simp : ∀ claim, Stage.sink issued ≠ .ciphertext claim))
        obtain ⟨rfl, -, hreceived, hopen, hcore, transcript, htranscript, hmac⟩ := resumeTransfer_ok heq
        obtain ⟨hid, hchecked⟩ := h.waiting i issued.claim hi
        rw [receiptTranscript_core, Option.some.injEq] at htranscript
        refine ⟨hkept.sessions, hkept.waiting, List.forall_mem_cons.mpr ⟨?_, h.issued⟩⟩
        exact ⟨hid, hchecked, hreceived, hopen, ⟨_, now, hcore⟩, by rw [hmac, htranscript]⟩
    · exact h
  | sinkAnswers i persisted =>
    simp only [step]
    split
    · exact hshrunk (fun _ _ => id) (hset i (by simp))
    · exact h
  | unknownRequest => exact hshrunk (fun _ _ => id) (happend (by simp))

end ProofReceiver

/-! ## Receipts and what was sent -/

section
variable {platform : Platform}

theorem unambiguous_of_ascii {s : JsString} (h : Ascii s) : Unambiguous s :=
  ⟨wellFormed_of_ascii h, fun hmem => absurd (h _ hmem) (by decide)⟩

theorem ascii_of_accepts {pattern : Regex} (hpattern : ∀ u, pattern.uses u = true → u.toNat < 128) {s : JsString}
    (h : pattern.accepts s = true) : Ascii s :=
  fun u hu => hpattern u (((Regex.accepts_iff pattern s).mp h).uses u hu)

theorem ascii_sha256 {s : JsString} (h : validSha256 s = true) : Ascii s := by
  refine ascii_of_accepts (fun u hu => ?_) h
  simp only [sha256Pattern, Regex.uses, Regex.hex, CharClass.has, List.any_append, List.any_cons, List.any_nil,
    Bool.or_false, Bool.or_eq_true, Bool.and_eq_true, decide_eq_true_eq] at hu
  omega

theorem ascii_sessionId {s : JsString} (h : sessionIdPattern.accepts s = true) : Ascii s := by
  refine ascii_of_accepts (fun u hu => ?_) h
  simp only [sessionIdPattern, Regex.uses, Regex.hex, CharClass.has, List.any_append, List.any_cons, List.any_nil,
    Bool.or_false, Bool.or_eq_true, Bool.and_eq_true, decide_eq_true_eq] at hu
  omega

theorem int_of_bytes {i j : ℤ} (h : utf8Encode (JsNumber.int i).toText = utf8Encode (JsNumber.int j).toText) : i = j := by
  have htext := utf8Encode_injOn (wellFormed_of_ascii (ascii_toText _)) (wellFormed_of_ascii (ascii_toText _)) h
  exact JsNumber.int.inj (toText_injective htext)

/-- What both sides know of the fields of a receipt. -/
structure ReceiptCore.Valid (platform : Platform) (c : ReceiptCore) : Prop where
  sessionId : sessionIdPattern.accepts c.sessionId = true
  stateId : validStateId c.stateId = true
  stateHash : validSha256 c.stateHash = true
  payloadSha256 : validSha256 c.payloadSha256 = true
  receivedSha256 : validSha256 c.receivedSha256 = true
  source : validSha256 c.sourceHostFingerprint = true
  destination : validSha256 c.destinationHostFingerprint = true
  observedAt : ∃ now, c.observedAt = platform.toISOString now

theorem ReceiptCore.Valid.bar_not_mem {c : ReceiptCore} (h : c.Valid platform) : ∀ s ∈ c.parts, bar ∉ s := by
  obtain ⟨now, hnow⟩ := h.observedAt
  simp only [ReceiptCore.parts, List.forall_mem_cons, List.not_mem_nil, false_implies, implies_true, and_true]
  exact ⟨by decide, bar_not_mem_sessionId h.sessionId, bar_not_mem_stateId h.stateId, bar_not_mem_sha256 h.stateHash,
    bar_not_mem_int _, bar_not_mem_sha256 h.payloadSha256, bar_not_mem_sha256 h.receivedSha256, bar_not_mem_int _,
    bar_not_mem_int _, bar_not_mem_sha256 h.source, bar_not_mem_sha256 h.destination, bar_not_mem_boolText _,
    bar_not_mem_boolText _, bar_not_mem_boolText _, bar_not_mem_boolText _, bar_not_mem_boolText _, by decide, by decide,
    bar_not_mem_boolText _, bar_not_mem_boolText _, bar_not_mem_boolText _, hnow ▸ platform.toISOString_bar now⟩

/-- The fields of a genuine receipt are valid. -/
theorem ProofReceiver.Issued.Genuine.valid {r : ProofReceiver} {x : Issued} (h : Issued.Genuine platform r x) :
    x.core.Valid platform := by
  obtain ⟨loopback, now, hcore⟩ := h.core
  rw [hcore]
  exact ⟨h.sessionId, h.checked.valid.stateId, h.checked.valid.stateHash, h.checked.valid.payloadSha256,
    hex_of_pattern (platform.sha256_hex _), h.checked.valid.source, h.checked.valid.destination, now, rfl⟩

/-- What an accepted receipt says, in the order of its transcript. -/
theorem receiptParts_of_matches {hello : Hello} {t : Transfer} {receipt : Json}
    (h : receiptMatches hello t receipt = true) :
    (receiptParts receipt).take 7 = [some (js TWO_HOST_PROOF_SCHEMA), some t.sessionId, some hello.stateId,
      some hello.stateHash, some (JsNumber.int hello.generation).toText, joined (receipt.get "payloadSha256"),
      some hello.payloadSha256] := by
  simp only [receiptMatches, Bool.and_eq_true, Json.some_beq_str_iff, Json.some_beq_int_iff] at h
  obtain ⟨⟨⟨⟨⟨⟨⟨⟨⟨⟨⟨⟨⟨⟨⟨⟨⟨⟨⟨hschema, hid⟩, -⟩, -⟩, -⟩, -⟩, -⟩, -⟩, -⟩, -⟩, -⟩, -⟩, -⟩, -⟩, -⟩, -⟩, hsha⟩, hstateId⟩,
    hstateHash⟩, hgeneration⟩ := h
  simp only [receiptParts, List.take_succ_cons, List.take_zero, Json.opt_eq_of_beq hschema, hid, hsha, hstateId, hstateHash,
    hgeneration]
  rfl

/-- An issued receipt with the bytes of an accepted one says the same. -/
theorem says_of_bytes {r : ProofReceiver} {x : Issued} (hx : Issued.Genuine platform r x) {hello : Hello} {t : Transfer}
    {receipt : Json} {transcript : JsString} (hparts : receiptTranscript receipt = some transcript)
    (hmatches : receiptMatches hello t receipt = true)
    (hbytes : utf8Encode transcript = utf8Encode (joinBar x.core.parts)) :
    utf8Encode x.core.sessionId = utf8Encode t.sessionId ∧ utf8Encode x.core.stateId = utf8Encode hello.stateId ∧
      x.core.generation = hello.generation ∧ utf8Encode x.core.receivedSha256 = utf8Encode hello.payloadSha256 := by
  obtain ⟨fields, hfields, hlength, rfl⟩ := receiptTranscript_eq_some hparts
  have hsame := joinBar_bytes_inj hx.valid.bar_not_mem (by rw [hlength]; simp [ReceiptCore.parts]) (by simp [ReceiptCore.parts])
    hbytes.symm
  have htake := receiptParts_of_matches hmatches
  rw [hfields, ← List.map_take] at htake
  have hsays : (x.core.parts.take 7).map (some ∘ utf8Encode) = ((fields.take 7).map some).map (Option.map utf8Encode) := by
    rw [List.map_map, ← List.map_map, List.map_take, hsame, ← List.map_take, List.map_map]
    rfl
  rw [htake] at hsays
  simp only [ReceiptCore.parts, List.take_succ_cons, List.take_zero, List.map_cons, List.map_nil, List.cons.injEq,
    Function.comp_apply, Option.map_some, Option.some.injEq] at hsays
  obtain ⟨-, hid, hstateId, -, hgeneration, -, hreceived, -⟩ := hsays
  exact ⟨hid, hstateId, int_of_bytes hgeneration, hreceived⟩

end

end TwoMachine
