import StrataPortNetwork.Superstructure.Attempts
import StrataPortNetwork.Superstructure.Sample

/-! # Which attempts carry a valid signature

The child of a target is signed with the attempt number of the submitted envelope and the
dispatcher puts another number into it afterwards. The signature therefore verifies on the
attempt with that number alone, and a port rejects every other one.
-/
namespace Superstructure
open Py

/-! ## The attempt number in the signed form -/

/-- The attempt number is one entry among others that do not depend on it. -/
theorem ProductionEnvelope.unsigned_split (e : ProductionEnvelope) : ∃ before after : Entries,
    (∀ k : ℤ, { e with attempt := k }.unsigned = .dict (before ++ (str "attempt", .int k) :: after)) ∧
      ∀ v, ((before ++ (str "attempt", v) :: after).map Prod.fst).Nodup := by
  refine ⟨e.unsigned.items.take 37, e.unsigned.items.drop 38, fun k => rfl, fun v => ?_⟩
  simp [ProductionEnvelope.unsigned, Value.record, Value.items]

/-- Equal canonical JSON of two attempts means equal numbers. -/
theorem ProductionEnvelope.canonicalJson_attempt {e : ProductionEnvelope} {k k' : ℤ} {bytes : Js.Bytes}
    (h : canonicalJson { e with attempt := k }.unsigned = .ok bytes) :
    canonicalJson { e with attempt := k' }.unsigned = canonicalJson { e with attempt := k }.unsigned ↔ k' = k := by
  obtain ⟨before, after, hunsigned, hnodup⟩ := e.unsigned_split
  constructor
  · intro heq
    obtain ⟨text, htext', htext⟩ := canonicalText_of_canonicalJson (heq.trans h) h
    rw [hunsigned] at htext htext'
    have hint := canonicalText_entry (hnodup _) htext' htext
    exact decimal_injective (Except.ok.inj hint)
  · rintro rfl
    rfl

namespace RouteExecutionEngine
variable {platform : Platform} {engine : RouteExecutionEngine}

/-- An attempt is authentic exactly when its number is the attempt of the submitted envelope. -/
theorem attempt_authentic_iff (hsigner : engine.signer.Ideal) (letter : Str × Str) (envelope : ProductionEnvelope) :
    ∀ h ∈ (engine.execute platform letter envelope).2.handed,
      (engine.signer.verifies h.envelope.unsigned h.envelope.signatures = .ok true ↔
        (h.attempt : ℤ) = envelope.attempt) ∧
      ∀ port : ExternalExecutionPort, port.signer = engine.signer →
        envelope.originPort = str "strata-data-port-zero" →
        (port.authenticate h.envelope = .ok () ↔ (h.attempt : ℤ) = envelope.attempt) := by
  intro h hh
  obtain ⟨target, child, -, hchild, hfor⟩ := execute_handed platform engine letter envelope h hh
  obtain ⟨hash, signature, -, hfields, hsign⟩ := child_spec hchild
  have hattempt : child = { child with attempt := envelope.attempt } := by rw [hfields]
  have hverifies : engine.signer.verifies h.envelope.unsigned h.envelope.signatures = .ok true ↔
      (h.attempt : ℤ) = envelope.attempt := by
    obtain ⟨bytes, hbytes⟩ := hsigner.sign_json hsign
    have hsignatures : h.envelope.signatures = [signature] := by rw [hfor.envelope, hfields]
    rw [hsignatures, Signer.verifies, hsigner.verify_iff hsign, hfor.envelope]
    rw [hattempt] at hbytes ⊢
    exact ProductionEnvelope.canonicalJson_attempt hbytes
  refine ⟨hverifies, fun port hport horigin => ?_⟩
  have horigin' : h.envelope.originPort = str "strata-data-port-zero" := by rw [hfor.envelope, hfields, horigin]
  simp only [ExternalExecutionPort.authenticate, horigin', hport, decide_true, Js.bind_eq_ok, Js.ensure_eq_ok,
    exists_eq_right]
  constructor
  · rintro ⟨-, -, hok⟩
    exact hverifies.mp hok
  · intro hok
    exact ⟨(), trivial, hverifies.mpr hok⟩

end RouteExecutionEngine

namespace Sample

theorem lost_direct (attempt : ℕ) (hattempt : 1 ≤ attempt ∧ attempt ≤ 3) :
    ∃ h ∈ ((engine lost).execute platform letter direct).2.handed, h.index = 0 ∧ h.attempt = attempt := by
  have hrun : ¬ (RouteMode.direct = .direct ∧ ["p1"].length ≠ 1) ∧
      ¬ ((RouteMode.direct = .split ∨ RouteMode.direct = .multicast) ∧ ["p1"].length < 2) := by decide
  rw [direct]
  exact @lost_attempts .direct "p1" [] [] _ hrun direct_resolved jsonPayload_direct attempt hattempt

/-- When no attempt gets through, the second and the third are handed over under the first signature. -/
theorem retry_not_authentic :
    ¬ ∀ h ∈ ((engine lost).execute platform letter direct).2.handed,
      hmacSigner.verifies h.envelope.unsigned h.envelope.signatures = .ok true := by
  intro hall
  obtain ⟨h, hh, -, hsecond⟩ := lost_direct 2 (by omega)
  have hattempt := (RouteExecutionEngine.attempt_authentic_iff hmacSigner_ideal letter direct h hh).1.mp (hall h hh)
  rw [hsecond] at hattempt
  exact absurd hattempt (by decide)

/-- The first attempt carries the number of the submitted envelope. -/
theorem first_attempt_authentic : ∃ h ∈ ((engine lost).execute platform letter direct).2.handed,
    hmacSigner.verifies h.envelope.unsigned h.envelope.signatures = .ok true ∧
      (ExternalExecutionPort.mk (registration "p1") hmacSigner).authenticate h.envelope = .ok () := by
  obtain ⟨h, hh, -, hfirst⟩ := lost_direct 1 (by omega)
  have hattempt : (h.attempt : ℤ) = direct.attempt := by rw [hfirst]; rfl
  obtain ⟨hverifies, hport⟩ := RouteExecutionEngine.attempt_authentic_iff hmacSigner_ideal letter direct h hh
  exact ⟨h, hh, hverifies.mpr hattempt, (hport _ rfl rfl).mpr hattempt⟩

end Sample

end Superstructure
