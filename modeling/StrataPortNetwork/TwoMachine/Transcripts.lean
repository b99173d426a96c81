import StrataPortNetwork.Js.Wire
import StrataPortNetwork.Native.Identity

/-! # Transcripts of the two-host proof

Sender and receiver join the fields of a proof and of its receipt with bars and authenticate
the bytes under the shared secret. The node cryptography, the ISO date and the engine's own
error texts are parameters with their documented laws.
-/
namespace TwoMachine
open Js
open Native (hex64 hexDecode)

def TWO_HOST_PROOF_SCHEMA : String := "kindred.sdpn.two-host-proof.v2"
def TWO_HOST_CIPHER : String := "AES-256-GCM"
def TRANSPORT_CLASS : String := "HTTP_TCP_AES_256_GCM_BUFFERED"

/-! ## Parameters -/

structure Platform where
  /-- The lower-case hexadecimal digest. -/
  sha256 : Bytes → JsString
  sha256_hex : ∀ bytes, hex64.accepts (sha256 bytes) = true
  /-- The lower-case hexadecimal HMAC-SHA-256 of a text under a key. -/
  hmacSha256 : Bytes → Bytes → JsString
  hmac_hex : ∀ key bytes, hex64.accepts (hmacSha256 key bytes) = true
  SessionKey : Type
  hkdf : Bytes → Bytes → Bytes → SessionKey
  /-- AES-256-GCM: ciphertext and tag for a key, a nonce, associated data and bytes. -/
  encrypt : SessionKey → Bytes → Bytes → Bytes → Bytes × Bytes
  encrypt_length : ∀ key nonce aad bytes, (encrypt key nonce aad bytes).1.length = bytes.length
  tag_length : ∀ key nonce aad bytes, (encrypt key nonce aad bytes).2.length = 16
  decrypt : SessionKey → Bytes → Bytes → Bytes → Bytes → Option Bytes
  decrypt_encrypt : ∀ key nonce aad bytes,
    decrypt key nonce aad (encrypt key nonce aad bytes).1 (encrypt key nonce aad bytes).2 = some bytes
  /-- `new Date(now).toISOString()`. -/
  toISOString : ℤ → JsString
  toISOString_bar : ∀ now, bar ∉ toISOString now
  /-- The message of the SyntaxError that `JSON.parse` throws on a text. -/
  syntaxError : JsString → JsString

/-! ## Checks -/

/-- `/^[0-9a-f]{64}$/i` -/
def sha256Pattern : Regex := .run (Regex.hex ++ [(65, 70)]) 64 64

def validSha256 (value : JsString) : Bool := sha256Pattern.accepts value

/-- `typeof value === "string" && pattern.test(value)`, with the string. -/
def stringField (pattern : Regex) (v : Option Json) : Option JsString :=
  match v with
  | some (.str s) => if pattern.accepts s then some s else none
  | _ => none

/-- A field that `validSha256` accepts. -/
def sha256Field (v : Option Json) : Option JsString := stringField sha256Pattern v

/-- `toLowerCase` on hexadecimal digits. -/
def toLowerCase (s : JsString) : JsString := s.map fun u => if 65 ≤ u.toNat ∧ u.toNat ≤ 90 then u + 32 else u

def safeEqualHex (left right : JsString) : Bool :=
  validSha256 left && validSha256 right && hexDecode left == hexDecode right

/-- `Number.isSafeInteger(value) && value >= 1`. -/
def positiveInteger (n : ℕ) : Bool := 1 ≤ n && n ≤ 9007199254740991

/-- `!/[|\r\n]/.test(stateId)` and its bounds. -/
def validStateId (stateId : JsString) : Bool :=
  1 ≤ stateId.length && stateId.length ≤ 512 && stateId.all fun u => u ≠ bar && u ≠ 13 && u ≠ 10

/-- `/^[0-9a-f-]{36}$/i` -/
def sessionIdPattern : Regex := .run (Regex.hex ++ [(65, 70), (45, 45)]) 36 36

/-! ## Transcripts -/

/-- The fields of a proof, beside the id of its session. -/
structure ProofFields where
  challenge : JsString
  sourceHostFingerprint : JsString
  destinationHostFingerprint : JsString
  stateId : JsString
  stateHash : JsString
  generation : ℤ
  payloadSha256 : JsString
  payloadBytes : ℤ
  deriving DecidableEq

def proofParts (sessionId : JsString) (p : ProofFields) : List JsString :=
  [js TWO_HOST_PROOF_SCHEMA, sessionId, p.challenge, p.sourceHostFingerprint, p.destinationHostFingerprint, p.stateId,
    p.stateHash, (JsNumber.int p.generation).toText, p.payloadSha256, (JsNumber.int p.payloadBytes).toText]

def proofTranscript (sessionId : JsString) (p : ProofFields) : JsString := joinBar (proofParts sessionId p)

/-- An element of an array as `join` prints it. -/
def joined (v : Option Json) : Option JsString :=
  match v with
  | none => some []
  | some v => if v.isNull then some [] else v.toStr?

/-- `String(value)`. -/
def stringOf (v : Option Json) : Option JsString :=
  match v with
  | none => some (js "undefined")
  | some v => v.toStr?

def boolText (value : Bool) : JsString := if value then js "true" else js "false"

/-- `boolText` of a field. -/
def boolOf (v : Option Json) : Option JsString := some (boolText (v.any Json.truthy))

def receiptParts (receipt : Json) : List (Option JsString) :=
  [joined (receipt.get "schemaVersion"), joined (receipt.get "sessionId"), joined (receipt.get "stateId"),
    joined (receipt.get "stateHash"), stringOf (receipt.get "generation"), joined (receipt.get "payloadSha256"),
    joined (receipt.get "receivedSha256"), stringOf (receipt.get "payloadBytes"),
    stringOf (receipt.get "ciphertextBytes"), joined (receipt.get "sourceHostFingerprint"),
    joined (receipt.get "destinationHostFingerprint"), boolOf (receipt.get "distinctHostFingerprints"),
    boolOf (receipt.get "loopbackObserved"), boolOf (receipt.get "authenticationVerified"),
    boolOf (receipt.get "integrityVerified"), boolOf (receipt.get "encryptedOnWire"), joined (receipt.get "cipher"),
    joined (receipt.get "transportClass"), boolOf (receipt.get "twoHostNetworkProofSatisfied"),
    boolOf (receipt.get "physicalMachineAttestationProven"), boolOf (receipt.get "productionReadyClaim"),
    joined (receipt.get "observedAt")]

/-- All of the strings, or `none` for the TypeError of a field that has no string. -/
def allSome : List (Option JsString) → Option (List JsString)
  | [] => some []
  | none :: _ => none
  | some s :: rest => (allSome rest).map (s :: ·)

def receiptTranscript (receipt : Json) : Option JsString := (allSome (receiptParts receipt)).map joinBar

section
variable (platform : Platform)

/-- `hmac(secret, text)`. -/
def hmac (secret text : JsString) : JsString := platform.hmacSha256 (utf8Encode secret) (utf8Encode text)

def deriveSessionKey (secret challenge sessionId : JsString) : platform.SessionKey :=
  platform.hkdf (utf8Encode secret) (hexDecode challenge) (utf8Encode (js "kindred-sdpn-sw06f|" ++ sessionId))

/-- `hostFingerprint()` over the printed description of the host. -/
def hostFingerprint (host : JsString) : JsString := platform.sha256 (utf8Encode host)

end

/-! ## What the transcripts bind -/

theorem stringField_eq_some {pattern : Regex} {v : Option Json} {s : JsString} :
    stringField pattern v = some s ↔ v = some (.str s) ∧ pattern.accepts s = true := by
  unfold stringField
  split
  · rename_i t
    split
    · rename_i hvalid
      rw [Option.some.injEq, Option.some.injEq, Json.str.injEq]
      exact ⟨fun h => ⟨h, h ▸ hvalid⟩, fun h => h.1⟩
    · rename_i hinvalid
      simp only [reduceCtorEq, false_iff, not_and, Option.some.injEq, Json.str.injEq]
      rintro rfl
      exact hinvalid
  · rename_i hno
    simp only [reduceCtorEq, false_iff, not_and]
    rintro rfl
    exact absurd rfl (hno s)

theorem allSome_eq_some {parts : List (Option JsString)} {fields : List JsString} :
    allSome parts = some fields ↔ parts = fields.map some := by
  induction parts generalizing fields with
  | nil => cases fields <;> simp [allSome]
  | cons part rest ih =>
    cases part with
    | none => cases fields <;> simp [allSome]
    | some s =>
      cases fields with
      | nil => simp [allSome]
      | cons t fields => simp [allSome, ih, and_comm]

theorem receiptTranscript_eq_some {receipt : Json} {text : JsString} (h : receiptTranscript receipt = some text) :
    ∃ fields, receiptParts receipt = fields.map some ∧ fields.length = 22 ∧ text = joinBar fields := by
  obtain ⟨fields, hfields, rfl⟩ := Option.map_eq_some_iff.mp h
  have hparts := allSome_eq_some.mp hfields
  refine ⟨fields, hparts, ?_, rfl⟩
  have hlength := congrArg List.length hparts
  rw [List.length_map] at hlength
  exact hlength.symm

theorem hex_of_pattern {s : JsString} (h : hex64.accepts s = true) : validSha256 s = true := by
  rw [validSha256, Regex.accepts_iff]
  rw [Regex.accepts_iff] at h
  cases h with
  | run hall hl hm =>
    refine .run ?_ hl hm
    intro u hu
    have := hall u hu
    simp only [CharClass.has, List.any_append, Bool.or_eq_true] at this ⊢
    exact Or.inl this

theorem bar_not_mem_sha256 {s : JsString} (h : validSha256 s = true) : bar ∉ s :=
  Regex.not_mem_of_accepts h (by decide)

theorem bar_not_mem_sessionId {s : JsString} (h : sessionIdPattern.accepts s = true) : bar ∉ s :=
  Regex.not_mem_of_accepts h (by decide)

theorem bar_not_mem_stateId {s : JsString} (h : validStateId s = true) : bar ∉ s := by
  simp only [validStateId, Bool.and_eq_true, List.all_eq_true, decide_eq_true_eq] at h
  intro hmem
  exact (h.2 bar hmem).1.1 rfl

theorem bar_not_mem_boolText (b : Bool) : bar ∉ boolText b := by
  cases b <;> decide

/-- What both sides check of the fields of a proof. -/
structure ProofFields.Valid (p : ProofFields) : Prop where
  challenge : validSha256 p.challenge = true
  source : validSha256 p.sourceHostFingerprint = true
  destination : validSha256 p.destinationHostFingerprint = true
  stateId : validStateId p.stateId = true
  stateHash : validSha256 p.stateHash = true
  payloadSha256 : validSha256 p.payloadSha256 = true

theorem bar_not_mem_proofParts {sessionId : JsString} {p : ProofFields} (hid : bar ∉ sessionId) (hp : p.Valid) :
    ∀ s ∈ proofParts sessionId p, bar ∉ s := by
  simp only [proofParts, List.forall_mem_cons, List.not_mem_nil, false_implies, implies_true, and_true]
  exact ⟨by decide, hid, bar_not_mem_sha256 hp.challenge, bar_not_mem_sha256 hp.source, bar_not_mem_sha256 hp.destination,
    bar_not_mem_stateId hp.stateId, bar_not_mem_sha256 hp.stateHash, bar_not_mem_int _, bar_not_mem_sha256 hp.payloadSha256,
    bar_not_mem_int _⟩

/-- A proof and a receipt never have the same bytes. -/
theorem proof_ne_receipt {sessionId text : JsString} {p : ProofFields} (hid : bar ∉ sessionId) (hp : p.Valid)
    {receipt : Json} (h : receiptTranscript receipt = some text) :
    utf8Encode (proofTranscript sessionId p) ≠ utf8Encode text := by
  intro hbytes
  obtain ⟨fields, -, hlength, rfl⟩ := receiptTranscript_eq_some h
  have hsame := joinBar_bytes_inj (bar_not_mem_proofParts hid hp) (by rw [hlength]; simp [proofParts]) (by simp [proofParts]) hbytes
  have := congrArg List.length hsame
  rw [List.length_map, List.length_map, hlength] at this
  simp [proofParts] at this

end TwoMachine
