import StrataPortNetwork.Superstructure.Records
import StrataPortNetwork.Py.Canonical

/-! # Signers of canonical JSON

What the runtime relies on from a signer, and the development signer, which has it when its
keyed hash has no collisions.
-/
namespace Superstructure
open Py
open Js (Bytes)

/-- Signing is a function of the canonical JSON. -/
structure Signer.ReadsJson (signer : Signer) : Prop where
  sign_congr : ∀ {v v'}, canonicalJson v = canonicalJson v' → signer.sign v = signer.sign v'

/-- A signature verifies on the canonical JSON it was made for and on no other. -/
structure Signer.Ideal (signer : Signer) : Prop extends signer.ReadsJson where
  sign_json : ∀ {v s}, signer.sign v = .ok s → ∃ bytes, canonicalJson v = .ok bytes
  verify_iff : ∀ {v v' s}, signer.sign v = .ok s →
    (signer.verify v' s = .ok true ↔ canonicalJson v' = canonicalJson v)

/-! ## The development signer -/

def ascii (s : Str) : Bool := s.all fun c => c.val < 128

/-- `hmac.compare_digest(a, b)` of two strings. -/
def compareDigest (a b : Str) : Outcome Bool :=
  if ascii a && ascii b then pure (a == b)
  else throw ⟨.typeError, str "comparing strings with non-ASCII characters is not supported"⟩

/-- `DevelopmentHMACSigner(secret, key_id)`, for the keyed hash of its secret. -/
def developmentHMACSigner (hmac : Bytes → Str) (keyId : Str) : Signer where
  sign v := do
    let bytes ← canonicalJson v
    pure ⟨keyId, str "HMAC-SHA256", hmac bytes, str "development-only"⟩
  verify v signature := do
    let bytes ← canonicalJson v
    if signature.assurance = str "development-only" then compareDigest (hmac bytes) signature.value else pure false

theorem developmentHMACSigner_ideal {hmac : Bytes → Str} (hinj : Function.Injective hmac)
    (hascii : ∀ bytes, ascii (hmac bytes) = true) (keyId : Str) : (developmentHMACSigner hmac keyId).Ideal where
  sign_congr h := by simp only [developmentHMACSigner, h]
  sign_json h := by
    simp only [developmentHMACSigner, Js.bind_eq_ok] at h
    obtain ⟨bytes, hbytes, -⟩ := h
    exact ⟨bytes, hbytes⟩
  verify_iff {v v' s} h := by
    simp only [developmentHMACSigner, Js.bind_eq_ok, Js.pure_eq_ok] at h ⊢
    obtain ⟨bytes, hbytes, rfl⟩ := h
    simp only [if_true, compareDigest, hascii, Bool.and_self, Js.pure_eq_ok, beq_iff_eq, hbytes, hinj.eq_iff,
      exists_eq_right]

end Superstructure
