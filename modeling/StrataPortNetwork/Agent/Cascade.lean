import StrataPortNetwork.Agent.Atomicity
import Mathlib.Data.Finset.Card

/-! # The revocation cascade is exact

A revocation revokes its target grant, or the grants of its target agent, with every grant
below them that is not revoked yet, and nothing else. In a reachable state no chain leads
from a grant in force through a revoked one, so that the sweep over grants in force misses
nothing.
-/
namespace Agent.Gateway
open Js Transition
variable {date : DateApi} {g g' : Gateway date} {value notice result : Json} {now consumedAt : ℤ}

/-- A registered grant that is not revoked. -/
def InForce (g : Gateway date) (k : JsString) : Prop :=
  ∃ grant, g.grants.get k = some grant ∧ grant.hasStatus "revoked" = false

def IsRevoked (g : Gateway date) (k : JsString) : Prop :=
  ∃ grant, g.grants.get k = some grant ∧ grant.hasStatus "revoked" = true

/-- The target grant, or a grant of the target agent that is in force. -/
def Targeted (g : Gateway date) (notice : Json) (k : JsString) : Prop :=
  notice.get "target_type" = some (.text "agent") ∧ (∃ grant, g.grants.get k = some grant ∧
      (some grant.subject == notice.get "target_id") = true ∧ grant.hasStatus "revoked" = false) ∨
    notice.get "target_type" ≠ some (.text "agent") ∧ notice.get "target_id" = some (.str k)

/-! ## Chains of grants in force -/

theorem Reached.chain {k : JsString} (h : Reached g.grants notice k) :
    g.Targeted notice k ∨ g.InForce k ∧ ∃ target, g.Targeted notice target ∧ Forest.Above g.parentOf k target := by
  induction h with
  | @subject k grant htype hget hsubject hrevoked =>
    exact .inl (.inl ⟨htype, grant, hget, hsubject, hrevoked⟩)
  | @target k htype htarget =>
    exact .inl (.inr ⟨htype, htarget⟩)
  | @child k ref grant hget hrevoked href _ ih =>
    have hlink : g.parentOf k = some ref := parentOf_eq_some.mpr ⟨grant, hget, href⟩
    refine .inr ⟨⟨grant, hget, hrevoked⟩, ?_⟩
    rcases ih with htarget | ⟨-, target, htarget, habove⟩
    · exact ⟨ref, htarget, .single hlink⟩
    · exact ⟨target, htarget, .head hlink habove⟩

theorem reached_of_targeted {k : JsString} (h : g.Targeted notice k) : Reached g.grants notice k := by
  rcases h with ⟨htype, grant, hget, hsubject, hrevoked⟩ | ⟨htype, htarget⟩
  · exact .subject htype hget hsubject hrevoked
  · exact .target htype htarget

/-- All grants between a grant in force and one above it are in force. -/
theorem Linked.reached_of_above (h : Linked g) {k target : JsString} (hk : g.InForce k)
    (habove : Forest.Above g.parentOf k target) (htarget : g.Targeted notice target) : Reached g.grants notice k := by
  induction habove using Relation.TransGen.head_induction_on with
  | single hlink =>
    obtain ⟨grant, hget, hrevoked⟩ := hk
    obtain ⟨grant', hget', href⟩ := parentOf_eq_some.mp hlink
    rw [hget] at hget'
    cases Option.some.inj hget'
    exact .child hget hrevoked href (reached_of_targeted htarget)
  | head hlink _ ih =>
    obtain ⟨grant, hget, hrevoked⟩ := hk
    obtain ⟨grant', hget', href⟩ := parentOf_eq_some.mp hlink
    rw [hget] at hget'
    cases Option.some.inj hget'
    obtain ⟨parent, hparent, hlinked⟩ := h.parents _ grant _ hget href
    refine .child hget hrevoked href (ih ⟨parent, hparent, ?_⟩)
    rw [← Bool.not_eq_true]
    intro hdown
    rw [hlinked.down hdown] at hrevoked
    cases hrevoked

theorem Linked.reached_iff (h : Linked g) {k : JsString} : Reached g.grants notice k ↔
    g.Targeted notice k ∨ g.InForce k ∧ ∃ target, g.Targeted notice target ∧ Forest.Above g.parentOf k target := by
  refine ⟨Reached.chain, ?_⟩
  rintro (htarget | ⟨hk, target, htarget, habove⟩)
  · exact reached_of_targeted htarget
  · exact h.reached_of_above hk habove htarget

/-! ## The grants that become revoked -/

theorem grantIds_nodup (g : Gateway date) : (g.grants.values.map Grant.grantId).Nodup := by
  have hkeys : g.grants.values.map Grant.grantId = g.grants.map.entries.map Prod.fst := by
    rw [Registry.values, JsMap.values, List.map_map]
    refine List.map_congr_left fun e he => ?_
    have hget : g.grants.map.get e.1 = some e.2 := JsMap.get_of_mem he (BEq.refl _)
    exact eq_of_beq (g.grants.keyed e.1 e.2 hget)
  rw [hkeys]
  exact JsMap.nodup_keys _

theorem seeds_nodup {update : Option (Identity date)} {seeds : List JsString}
    (h : g.revocationTarget notice = .ok (update, seeds)) : seeds.Nodup := by
  unfold revocationTarget at h
  split at h
  · simp only [bind_eq_ok, pure_eq_ok, Prod.mk.injEq] at h
    obtain ⟨-, -, -, -, -, -, -, rfl⟩ := h
    exact g.grantIds_nodup.sublist (List.filter_sublist.map _)
  · simp only [bind_eq_ok, pure_eq_ok, Prod.mk.injEq] at h
    obtain ⟨-, -, -, -, -, rfl⟩ := h
    exact List.pairwise_singleton _ _

theorem inForce_of_targeted {update : Option (Identity date)} {seeds : List JsString} {k : JsString}
    (h : g.revocationTarget notice = .ok (update, seeds)) (hk : g.Targeted notice k) : g.InForce k := by
  rcases hk with ⟨-, grant, hget, -, hrevoked⟩ | ⟨hnot, htarget⟩
  · exact ⟨grant, hget, hrevoked⟩
  · rcases revocationTarget_ok h with ⟨id, old, new, htype, -⟩ | ⟨-, -, k', grant, hid, hget, hrevoked, -⟩
    · exact absurd htype hnot
    · rw [htarget] at hid
      cases hid
      exact ⟨grant, hget, hrevoked⟩

/-- What a revocation that returns has done. -/
structure CascadeExact (g g' : Gateway date) (notice result : Json) (revoked : Finset JsString) : Prop where
  chains : ∀ k, k ∈ revoked ↔ g.Targeted notice k ∨
    g.InForce k ∧ ∃ target, g.Targeted notice target ∧ Forest.Above g.parentOf k target
  becomes : ∀ k, k ∈ revoked ↔ g.InForce k ∧ g'.IsRevoked k
  others : ∀ k, k ∉ revoked → g'.grants.get k = g.grants.get k
  identities : ∀ k, g'.identities.get k ≠ g.identities.get k → notice.get "target_type" = some (.text "agent") ∧
    ∃ id, notice.get "target_id" = some id ∧ (id == k) = true
  counted : result.get "grants_revoked" = some (.int revoked.card)

theorem applyRevocation_exact (hlinked : Linked g) (h : g.applyRevocation value now consumedAt = (.ok result, g')) :
    ∃ revoked, CascadeExact g g' (field value "payload") result revoked := by
  obtain ⟨envelope, -, happlied⟩ := applyRevocation_returns h
  obtain ⟨envelope', notice, revocation, receipt, guard, hrequest, hplan, -, hresult, -⟩ := applyRevocation_ok h
  obtain ⟨-, -, -, -, hnotice, -⟩ := revocationRequest_ok hrequest
  obtain ⟨⟨seeds, affected, hplanned⟩, recordedAt, -, hreceipt, -⟩ := planRevocation_ok hplan
  rw [← hnotice] at happlied ⊢
  have hreached : ∀ k, k ∈ affected.toFinset ↔ Reached g.grants notice k := fun k => by
    rw [List.mem_toFinset]
    exact mem_affected_iff hplanned
  have hinForce : ∀ k, Reached g.grants notice k → g.InForce k := by
    intro k hk
    rcases hk.chain with htarget | ⟨hin, -⟩
    · exact inForce_of_targeted hplanned.target htarget
    · exact hin
  refine ⟨affected.toFinset, fun k => (hreached k).trans hlinked.reached_iff, fun k => ?_, fun k hk => ?_, fun k hk => ?_, ?_⟩
  · rw [hreached]
    constructor
    · intro hk
      obtain ⟨old, new, hold, hnew, hvalue⟩ := happlied.grants k hk
      exact ⟨hinForce k hk, new, hnew, revokedValue_revoked hvalue⟩
    · rintro ⟨⟨old, hold, hbefore⟩, new, hnew, hafter⟩
      by_contra hnot
      rw [happlied.others k hnot, hold] at hnew
      cases Option.some.inj hnew
      rw [hbefore] at hafter
      cases hafter
  · exact happlied.others k fun hin => hk ((hreached k).mpr hin)
  · by_cases htype : notice.get "target_type" = some (.text "agent")
    · obtain ⟨id, old, new, hid, hold, -, hwrite⟩ := happlied.identity htype
      refine ⟨htype, id, hid, ?_⟩
      by_contra hne
      exact hk (by rw [hwrite, if_neg hne])
    · exact absurd (happlied.identities htype k) hk
  · have hids := (grantUpdates_ok hplanned.updates).1
    have hlength : revocation.grantUpdates.length = affected.toFinset.card := by
      rw [List.toFinset_card_of_nodup (hplanned.cascade.nodup (seeds_nodup hplanned.target)), ← hids, List.length_map]
    rw [hresult, hreceipt, revocationReceipt, hlength]
    rfl

/-- In every reachable state a revocation that returns revokes its targets with all grants in
force below them, counts them and changes no other grant or identity; and the sweeps end,
whatever the grants and their order. -/
theorem revocation_cascade_exact (refs : JsMap JsString (List Json)) (guard : ReplayGuard) (ops : List Operation) :
    (∀ value now consumedAt result g',
      (run step (start date refs guard) ops).applyRevocation value now consumedAt = (.ok result, g') →
        ∃ revoked, CascadeExact (run step (start date refs guard) ops) g' (field value "payload") result revoked) ∧
    ∀ (grants : List (Grant date)) (targets : List JsString), Forest.Passes Grant.grantId cascadeParent 4096 grants targets
      (Forest.saturate Grant.grantId cascadeParent 4096 grants (grants.length + 1) targets) := by
  refine ⟨fun value now consumedAt result g' h => applyRevocation_exact (run_linked refs guard ops) h, fun grants targets => ?_⟩
  exact Forest.saturate_passes (Nat.lt_succ_of_le (Forest.pending_le grants targets))

end Agent.Gateway

/-! ## A chain of three grants -/

namespace Agent.Sample
open Gateway Transition

theorem cascade_revokes_chain : ∃ result g' revoked,
    (run step (start isoDate references guard) (staffing ++ delegating)).applyRevocation revocation.1 (at16 21) (at16 21) =
      (.ok result, g') ∧
    CascadeExact (run step (start isoDate references guard) (staffing ++ delegating)) g'
      (field revocation.1 "payload") result revoked := by
  have h : (delegated.applyRevocation revocation.1 (at16 21) (at16 21)).1.isOk = true := by decide +kernel
  obtain ⟨result, g', hok⟩ := accepts_of_isOk h
  rw [← run_delegating] at hok
  obtain ⟨revoked, hexact⟩ := (revocation_cascade_exact references guard (staffing ++ delegating)).1 _ _ _ _ _ hok
  exact ⟨result, g', revoked, hok, hexact⟩

end Agent.Sample
