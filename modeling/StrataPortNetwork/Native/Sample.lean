import StrataPortNetwork.Native.Session

/-! # A transparent instance of the cryptography

Digests are a polynomial hash, keys are bytes and session keys are the inputs they are
derived from. The instance satisfies the documented laws, so they are consistent, and
it makes every protocol function computable on concrete records.
-/
namespace Native.Sample
open Js

def hash (bytes : Bytes) : ℕ := bytes.foldl (fun acc b => (acc * 257 + b.toNat + 1) % 2 ^ 256) 0

def hexText (count n : ℕ) : JsString := (List.range count).map fun i => hexDigit (n / 16 ^ i % 16)

def digest (bytes : Bytes) : JsString := hexText 64 (hash bytes)

def digestBytes (count : ℕ) (bytes : Bytes) : Bytes :=
  (List.range count).map fun i => UInt8.ofNat (hash bytes / 256 ^ i % 256)

theorem hexText_accepts (count n : ℕ) : (Regex.run Regex.hex count count).accepts (hexText count n) = true := by
  rw [Regex.accepts_iff]
  refine Regex.Matches.run ?_ (by simp [hexText]) (by simp [hexText])
  intro u hu
  obtain ⟨i, -, rfl⟩ := List.mem_map.mp hu
  exact has_hexDigit (Nat.mod_lt _ (by omega))

theorem digest_accepts (bytes : Bytes) : (Regex.run Regex.hex 64 64).accepts (digest bytes) = true :=
  hexText_accepts 64 _

def keyType? : Bytes → Option JsString
  | [0, _] => some (js "ed25519")
  | [1, _] => some (js "x25519")
  | _ => none

def sign (key : UInt8) (message : Bytes) : Bytes := digestBytes 64 (key :: message)

def verify (message key signature : Bytes) : Bool :=
  match key with
  | [0, k] => signature == sign k message
  | _ => false

def diffieHellman (key : UInt8) : Bytes → Option UInt8
  | [1, k] => some (key + k)
  | _ => none

abbrev SessionKey := UInt8 × Bytes × Bytes

def tag (key : SessionKey) (nonce aad bytes : Bytes) : Bytes :=
  digestBytes 16 (key.1 :: (key.2.1 ++ key.2.2 ++ nonce ++ aad ++ bytes))

/-- The sample cryptography. -/
def crypto : Crypto where
  digest := digest
  digest_hex := digest_accepts
  keyType? := keyType?
  SigningKey := UInt8
  signingPublic key := [0, key]
  signingPublic_type _ := rfl
  signingPublic_length _ := by simp
  sign := sign
  sign_length _ _ := by simp [sign, digestBytes]
  verify := verify
  verify_sign _ _ := by simp [verify]
  AgreementKey := UInt8
  agreementPublic key := [1, key]
  agreementPublic_type _ := rfl
  agreementPublic_length _ := by simp
  Shared := UInt8
  diffieHellman := diffieHellman
  diffieHellman_comm key key' := by simp [diffieHellman, UInt8.add_comm]
  diffieHellman_public _ _ := rfl
  SessionKey := SessionKey
  hkdf shared salt info := (shared, salt, info)
  encrypt key nonce aad bytes := (bytes, tag key nonce aad bytes)
  encrypt_length _ _ _ _ := rfl
  tag_length _ _ _ _ := by simp [tag, digestBytes]
  decrypt key nonce aad ciphertext t := if t = tag key nonce aad ciphertext then some ciphertext else none
  decrypt_encrypt _ _ _ _ := by simp

/-! ## Two ports with records and policies -/

def first : Identity crypto := ⟨(1 : UInt8)⟩
def second : Identity crypto := ⟨(2 : UInt8)⟩

def now : ℤ := 1000000

def component (id : String) : Json :=
  .record [("id", .text id), ("version", .text "1.0.0"), ("evidenceStatus", .text "DECLARED")]

def peerRecord (identity : Identity crypto) (revision : ℤ) (now ttlMs : ℤ) : Json :=
  (signPeerRecord crypto identity (.int revision) now ttlMs (.arr [.text "native.materialize.v1"])
    (component "engine") (component "worker")).toOption.getD .null

/-- The body of a peer record. -/
def peerBody (identity : Identity crypto) (revision now ttlMs : ℤ) : Json :=
  .record [("schema", .text "kindred.sdpn.peer-record.v1"), ("portId", .str identity.id),
    ("publicKey", .str identity.publicKey), ("revision", .int revision), ("issuedAt", .int now),
    ("expiresAt", .int (now + ttlMs)), ("capabilities", .arr [.text "native.materialize.v1"]),
    ("tesseractEngine", component "engine"), ("boundWorker", component "worker")]

/-- The body passes a check when it is signed, and its snapshot passes it later and has the property. -/
def Passes (check : Json → ℤ → Outcome Unit) (body : Json) (issued now : ℤ) (p : Json → Bool) : Bool :=
  (check body issued).isOk && (ordered body).any fun copy => copy.truthy && (check copy now).isOk && p copy

theorem ok_of_isOk {x : Outcome Unit} (h : x.isOk = true) : x = .ok () := by
  cases x with
  | ok u => rfl
  | error e => exact absurd h Bool.false_ne_true

theorem passes_spec {check : Json → ℤ → Outcome Unit} {body : Json} {issued now : ℤ} {p : Json → Bool}
    (h : Passes check body issued now p = true) : check body issued = .ok () ∧ ∃ copy, ordered body = some copy ∧
      copy.truthy = true ∧ check copy now = .ok () ∧ p copy = true := by
  rw [Passes, Bool.and_eq_true, Option.any_eq_true] at h
  obtain ⟨hissued, copy, hcopy, hcheck⟩ := h
  simp only [Bool.and_eq_true] at hcheck
  exact ⟨ok_of_isOk hissued, copy, hcopy, hcheck.1.1, ok_of_isOk hcheck.1.2, hcheck.2⟩

/-- A sample record verifies, and its snapshot carries the id and the key of its port. -/
theorem peerRecord_signed {identity : Identity crypto} {revision issued ttlMs now : ℤ} {p : Json → Bool}
    (h : Passes (assertRecord crypto) (peerBody identity revision issued ttlMs) issued now p = true) : ∃ copy,
      identity.sign (peerBody identity revision issued ttlMs) = .ok (peerRecord identity revision issued ttlMs) ∧
      ordered (peerBody identity revision issued ttlMs) = some copy ∧
      verifyPeerRecord crypto (peerRecord identity revision issued ttlMs) now none = .ok copy ∧
      copy.get "portId" = some (.str identity.id) ∧ copy.get "publicKey" = some (.str identity.publicKey) ∧
      p copy = true := by
  obtain ⟨hissued, copy, hcopy, htruthy, hnow, hp⟩ := passes_spec h
  obtain ⟨record, hsign⟩ : ∃ record, identity.sign (peerBody identity revision issued ttlMs) = .ok record :=
    ⟨_, Identity.sign_eq_ok.mpr ⟨copy, hcopy, rfl⟩⟩
  have hrecord : peerRecord identity revision issued ttlMs = record := by
    have hsigned : signPeerRecord crypto identity (.int revision) issued ttlMs (.arr [.text "native.materialize.v1"])
        (component "engine") (component "worker") = .ok record := by
      rw [← hsign, signPeerRecord]
      rw [peerBody] at hissued
      rw [hissued]
      rfl
    rw [peerRecord, hsigned]
    rfl
  have hport : copy.get "portId" = some (.str identity.id) := by rw [get_ordered hcopy]; rfl
  have hkey : copy.get "publicKey" = some (.str identity.publicKey) := by rw [get_ordered hcopy]; rfl
  rw [hrecord]
  exact ⟨copy, hsign, hcopy, verifyPeerRecord_sign hsign hcopy htruthy hport hkey hnow, hport, hkey, hp⟩

def state : Json := .record [("stateSha256", .str (List.replicate 64 97)), ("maxBytes", .int 1024)]

def adapter : Json := .record [("id", .text "direct.pipe/v1"), ("substrate", .text "ANONYMOUS_PIPE"),
  ("underlyingIp", .bool false), ("underlyingRouting", .bool false)]

def policyFor (peer : Identity crypto) : NativeSessionPolicy :=
  ⟨[peer.id], [((canonicalDigest crypto adapter).toOption.getD [])], [List.replicate 64 97], 256, [],
    JsMap.empty⟩

end Native.Sample
