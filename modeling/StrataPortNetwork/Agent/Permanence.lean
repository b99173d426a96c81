import StrataPortNetwork.Agent.Grants

/-! # Revocation is permanent

No operation brings a revoked grant or identity back, changes a field that revocation does
not set, or leaves a revoked grant with a child that is not revoked.
-/
namespace Agent.Gateway
open Js Transition
variable {date : DateApi} {g g' g'' : Gateway date}

def isRevokedIdentity (identity : Identity date) : Prop :=
  identity.1.get "lifecycle_state" = some (.text "revoked")

/-- What a registered grant keeps. -/
structure GrantKept (grant grant' : Grant date) : Prop where
  revoked : grant.hasStatus "revoked" = true → grant'.hasStatus "revoked" = true
  fields : ∀ name, name ≠ "status" → name ≠ "revoked_at" → grant'.value.get name = grant.value.get name

/-- What a registered identity keeps. -/
structure IdentityKept (identity identity' : Identity date) : Prop where
  revoked : isRevokedIdentity identity → isRevokedIdentity identity'
  fields : ∀ name, name ≠ "lifecycle_state" → name ≠ "health" → name ≠ "revoked_at" →
    identity'.1.get name = identity.1.get name

/-- What is registered stays registered, and keeps what it must. -/
structure Evolves (g g' : Gateway date) : Prop where
  grants : ∀ k grant, g.grants.get k = some grant → ∃ grant', g'.grants.get k = some grant' ∧ GrantKept grant grant'
  identities : ∀ k identity, g.identities.get k = some identity →
    ∃ identity', g'.identities.get k = some identity' ∧ IdentityKept identity identity'

theorem GrantKept.refl (grant : Grant date) : GrantKept grant grant := ⟨id, fun _ _ _ => rfl⟩
theorem IdentityKept.refl (identity : Identity date) : IdentityKept identity identity := ⟨id, fun _ _ _ _ => rfl⟩

theorem Evolves.refl (g : Gateway date) : Evolves g g :=
  ⟨fun _ grant h => ⟨grant, h, .refl grant⟩, fun _ identity h => ⟨identity, h, .refl identity⟩⟩

theorem Evolves.trans (h : Evolves g g') (h' : Evolves g' g'') : Evolves g g'' := by
  constructor
  · intro k grant hget
    obtain ⟨grant', hget', hkept⟩ := h.grants k grant hget
    obtain ⟨grant'', hget'', hkept'⟩ := h'.grants k grant' hget'
    refine ⟨grant'', hget'', fun hr => hkept'.revoked (hkept.revoked hr), fun name hs hr => ?_⟩
    exact (hkept'.fields name hs hr).trans (hkept.fields name hs hr)
  · intro k identity hget
    obtain ⟨identity', hget', hkept⟩ := h.identities k identity hget
    obtain ⟨identity'', hget'', hkept'⟩ := h'.identities k identity' hget'
    refine ⟨identity'', hget'', fun hr => hkept'.revoked (hkept.revoked hr), fun name hl hh hr => ?_⟩
    exact (hkept'.fields name hl hh hr).trans (hkept.fields name hl hh hr)

theorem IdentityStep.keeps {op : Operation} (h : IdentityStep g op g') {k : Json} {identity : Identity date}
    (hget : g.identities.get k = some identity) :
    ∃ identity', g'.identities.get k = some identity' ∧ IdentityKept identity identity' := by
  cases h with
  | same frame => exact ⟨identity, (frame k).trans hget, .refl identity⟩
  | registers new value_eq hnew write =>
    have hne : ¬ (new.agentId == k) = true := by
      intro hk
      rw [Registry.get_congr _ hk, hget] at hnew
      simp at hnew
    exact ⟨identity, by rw [write, if_neg hne, hget], .refl identity⟩
  | revokes old new effectiveAt found value_eq write =>
    by_cases hk : (new.agentId == k) = true
    · rw [found k hk] at hget
      cases Option.some.inj hget
      refine ⟨new, by rw [write, if_pos hk], ?_, ?_⟩
      · intro _
        rw [isRevokedIdentity, value_eq]
        simp [revokedIdentity]
      · intro name hlifecycle hhealth hrevokedAt
        rw [value_eq, get_revokedIdentity _ _ hlifecycle hhealth hrevokedAt]
    · exact ⟨identity, by rw [write, if_neg hk, hget], .refl identity⟩

theorem step_evolves (g : Gateway date) (op : Operation) : Evolves g (g.step op) := by
  constructor
  · intro k grant hget
    obtain ⟨grant', hget', hrevised⟩ := (step_grants g op).keeps hget
    exact ⟨grant', hget', hrevised.revoked, fun name hs hr => hrevised.get hs hr⟩
  · intro k identity hget
    exact (step_identities g op).keeps hget

theorem run_evolves (g : Gateway date) (ops : List Operation) : Evolves g (run step g ops) :=
  @run_invariant _ _ _ (Evolves g) (fun _ op h => h.trans (step_evolves _ op)) _ (.refl g) ops

theorem run_linked (refs : JsMap JsString (List Json)) (guard : ReplayGuard) (ops : List Operation) :
    Linked (run step (start date refs guard) ops) :=
  @run_invariant _ _ _ Linked (fun _ op h => step_linked h op) _ (start_linked refs guard) ops

/-- The grants below a revoked grant are revoked. -/
theorem Linked.below_revoked (h : Linked g) {k a : JsString} {grant ancestor : Grant date}
    (hget : g.grants.get k = some grant) (habove : Forest.Above g.parentOf k a)
    (hancestor : g.grants.get a = some ancestor) (hrevoked : ancestor.hasStatus "revoked" = true) :
    grant.hasStatus "revoked" = true := by
  have hdown : ∀ k a, g.parentOf k = some a → (∀ parent, g.grants.get a = some parent → parent.hasStatus "revoked" = true) →
      ∀ grant, g.grants.get k = some grant → grant.hasStatus "revoked" = true := by
    intro k a hk hparent grant hget
    obtain ⟨grant', hget', href⟩ := parentOf_eq_some.mp hk
    rw [hget] at hget'
    cases Option.some.inj hget'
    obtain ⟨parent, hfound, hlink⟩ := h.parents k grant a hget href
    exact hlink.down (hparent parent hfound)
  refine Forest.above_down (p := fun k => ∀ grant, g.grants.get k = some grant → grant.hasStatus "revoked" = true)
    hdown habove ?_ grant hget
  intro other hother
  rw [hancestor] at hother
  cases Option.some.inj hother
  exact hrevoked

/-- Whatever operations follow, returning or throwing, a revoked grant or identity stays
revoked and every other field stays; and a grant under a revoked parent is revoked. -/
theorem revocation_permanent (refs : JsMap JsString (List Json)) (guard : ReplayGuard) (before after : List Operation) :
    Evolves (run step (start date refs guard) before) (run step (start date refs guard) (before ++ after)) ∧
    ∀ k grant ref parent, (run step (start date refs guard) before).grants.get k = some grant →
      grant.parentRef = some ref → (run step (start date refs guard) before).grants.get ref = some parent →
      parent.hasStatus "revoked" = true → grant.hasStatus "revoked" = true := by
  constructor
  · rw [run_append]
    exact run_evolves _ after
  · intro k grant ref parent hget href hparent hrevoked
    obtain ⟨found, hfound, hlink⟩ := (run_linked refs guard before).parents k grant ref hget href
    rw [hparent] at hfound
    cases Option.some.inj hfound
    exact hlink.down hrevoked

end Agent.Gateway
