import StrataPortNetwork.TwoMachine.Sender
import StrataPortNetwork.Native.Sample

/-! # A transparent instance of the proof platform

Digests are the polynomial hash of the sample cryptography and session keys are the inputs
they are derived from, so the documented laws are consistent.
-/
namespace TwoMachine.Sample
open Js
open Native.Sample (digest digestBytes)

/-- `2026-10-12T00:00:00.000Z`. -/
def now : ℤ := 1791763200000

def tag (key : Bytes × Bytes × Bytes) (nonce aad bytes : Bytes) : Bytes :=
  digestBytes 16 (key.1 ++ key.2.1 ++ key.2.2 ++ nonce ++ aad ++ bytes)

def platform : Platform where
  sha256 := digest
  sha256_hex := Native.Sample.digest_accepts
  hmacSha256 key bytes := digest (key ++ bytes)
  hmac_hex _ _ := Native.Sample.hexText_accepts 64 _
  SessionKey := Bytes × Bytes × Bytes
  hkdf secret salt info := (secret, salt, info)
  encrypt key nonce aad bytes := (bytes, tag key nonce aad bytes)
  encrypt_length _ _ _ _ := rfl
  tag_length _ _ _ _ := by simp [tag, digestBytes]
  decrypt key nonce aad ciphertext t := if t = tag key nonce aad ciphertext then some ciphertext else none
  decrypt_encrypt _ _ _ _ := by simp
  toISOString _ := js "2026-10-12T00:00:00.000Z"
  toISOString_bar _ := by decide
  syntaxError _ := js "Unexpected token"

def secret : JsString := List.replicate 32 120

/-- A receiver for one session at a time. -/
def receiver : ProofReceiver where
  secret := secret
  secret_length := by decide
  maxBytes := 1024
  maxBytes_ok := by decide
  maxSessions := 1
  maxSessions_ok := by decide
  challengeTtlMs := 30000
  challengeTtlMs_ok := by decide
  host := js "{}"

/-- An id and a challenge of one hexadecimal digit. -/
def drawnOf (c : UInt16) (h : Regex.hex.has c = true) : Drawn where
  sessionId := List.replicate 36 c
  sessionId_uuid := by
    rw [Regex.accepts_iff]
    refine .run (fun u hu => ?_) (by simp) (by simp)
    rw [List.eq_of_mem_replicate hu]
    simp only [CharClass.has, List.any_append, Bool.or_eq_true]
    exact Or.inl h
  challenge := List.replicate 64 c
  challenge_hex := by
    rw [Native.hex64, Regex.accepts_iff]
    refine .run (fun u hu => ?_) (by simp) (by simp)
    rw [List.eq_of_mem_replicate hu]
    exact h

def firstDrawn : Drawn := drawnOf 97 (by decide)
def secondDrawn : Drawn := drawnOf 98 (by decide)

theorem drawn_ne : secondDrawn.sessionId ≠ firstDrawn.sessionId := by decide

/-- A call that sends one byte under a state id. -/
def callOf (stateId : JsString) : SendCall where
  port := 47831
  timeoutMs := 15000
  canonicalPayload := [1]
  stateId := stateId
  stateHash := platform.sha256 [1]
  generation := 0
  host := js "{}"

def iv : Bytes := List.replicate 12 7

end TwoMachine.Sample
