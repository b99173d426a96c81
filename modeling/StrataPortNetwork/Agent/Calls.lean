import StrataPortNetwork.Agent.Gateway

/-! # What each gateway call can do

One inversion lemma per call, and from them what a step may write: a registry gains one
value it did not have, or a revocation rewrites one identity and a closed set of grants.
-/
namespace Agent
open Js
variable {date : DateApi}

theorem validated_ok {check : Json → Outcome Unit} {v : Json} {x : Validated check} (h : validated check v = .ok x) :
    x.1 = v := by
  unfold validated at h
  split at h
  · rw [← Except.ok.inj h]
  · simp at h

@[simp] theorem validated_self {check : Json → Outcome Unit} (x : Validated check) : validated check x.1 = .ok x := by
  unfold validated
  split
  · rfl
  · rename_i e he
    have hvalid := x.2
    rw [he] at hvalid
    simp at hvalid

@[simp] theorem require_eq_ok {reasonClass : String} {condition : Bool} {u : Unit} :
    require reasonClass condition = .ok u ↔ condition = true := ensure_eq_ok

@[simp] theorem requireTest_eq_ok {reasonClass : String} {pattern : Regex} {v : Option Json} {u : Unit} :
    requireTest reasonClass pattern v = .ok u ↔ pattern.test v = some true := ensureTest_eq_ok

theorem Grant.eq_of_value {grant grant' : Grant date} (h : grant.value = grant'.value) : grant = grant' := by
  obtain ⟨value, valid, grantId, named⟩ := grant
  obtain ⟨value', valid', grantId', named'⟩ := grant'
  have h : value = value' := h
  subst h
  have hid : grantId = grantId' := by simpa [named] using named'
  subst hid
  rfl

/-! ## The replay guard -/

namespace ReplayGuard
variable {guard guard' : ReplayGuard} {key : JsString} {expiresAt now : ℤ}

theorem consume_ok (h : guard.consume key expiresAt now = (.ok (), guard')) :
    (guard.prune now).has key = false ∧ guard'.entries = (guard.prune now).entries.set key expiresAt := by
  simp only [consume] at h
  split at h
  · simp at h
  · rename_i hfree
    split at h
    · simp at h
    · simp only [Prod.mk.injEq, true_and] at h
      exact ⟨by simpa using hfree, by rw [← h]⟩

theorem consume_error {e : Failure} (h : guard.consume key expiresAt now = (.error e, guard')) :
    guard' = guard.prune now := by
  simp only [consume] at h
  split at h
  · simp only [Prod.mk.injEq] at h
    exact h.2.symm
  · split at h
    · simp only [Prod.mk.injEq] at h
      exact h.2.symm
    · simp at h

/-- Pruning drops nothing that is unexpired later. -/
theorem prune_prune (guard : ReplayGuard) {now time : ℤ} (h : now ≤ time) :
    (guard.prune now).prune time = guard.prune time := by
  simp only [prune, JsMap.filter, List.filter_filter, mk.injEq, and_true, JsMap.mk.injEq]
  refine List.filter_congr fun e _ => ?_
  by_cases hlt : time < e.2
  · simp [hlt, h.trans_lt hlt]
  · simp [hlt]

theorem get_prune (guard : ReplayGuard) (now : ℤ) (key : JsString) :
    (guard.prune now).entries.get key = (guard.entries.get key).filter fun expiresAt => now < expiresAt :=
  JsMap.get_filter ..

end ReplayGuard

/-! ## Registrations -/

namespace Gateway
variable {g g' : Gateway date} {value result : Json}

theorem eq_of_sameText {existing : Option Json} {v w : Json} (h : sameText existing v = true)
    (hw : existing = some w) : w = v := by
  rw [sameText, hw, Option.all_some, beq_iff_eq] at h
  exact stringify_injective h

theorem registerIdentity_ok (h : g.registerIdentity value = .ok (result, g')) :
    ∃ identity : Identity date, identity.1 = value ∧ result = value ∧
      (∀ old, g.identities.get identity.agentId = some old → old = identity) ∧
      g' = { g with identities := g.identities.put identity } := by
  simp only [registerIdentity, bind_eq_ok, require_eq_ok, pure_eq_ok, Prod.mk.injEq] at h
  obtain ⟨identity, hvalid, ⟨⟩, hsame, hresult, hg⟩ := h
  refine ⟨identity, validated_ok hvalid, hresult ▸ validated_ok hvalid, ?_, hg.symm⟩
  intro old hold
  exact Subtype.ext (eq_of_sameText hsame (by rw [hold]; rfl))

theorem registerCapability_ok (h : g.registerCapability value = .ok (result, g')) :
    ∃ capability : Capability, g' = { g with capabilities := g.capabilities.put capability } := by
  simp only [registerCapability, bind_eq_ok, require_eq_ok, pure_eq_ok, Prod.mk.injEq] at h
  obtain ⟨capability, -, ⟨⟩, -, -, hg⟩ := h
  exact ⟨capability, hg.symm⟩

/-- The scope checks between a delegated grant and its parent. -/
structure Within (grant parent : Grant date) : Prop where
  level : levelAbove (grant.value.get "authority_level") (parent.value.get "authority_level") = false
  capabilityIds : subset (grant.value.get "capability_ids") (parent.value.get "capability_ids") = true
  messageTypes : subset (grant.value.get "message_types") (parent.value.get "message_types") = true
  budgetRefs : subset (grant.value.get "budget_refs") (parent.value.get "budget_refs") = true

theorem checkDelegation_ok {grant : Grant date} (h : g.checkDelegation grant = .ok ()) {ref : JsString}
    (href : grant.parentRef = some ref) :
    ∃ parent, g.grants.get ref = some parent ∧ parent.hasStatus "active" = true ∧ Within grant parent := by
  rw [checkDelegation, href] at h
  simp only [bind_eq_ok, orThrow_eq_ok, require_eq_ok, Bool.and_eq_true, Bool.not_eq_true'] at h
  obtain ⟨parent, hparent, ⟨⟩, hactive, ⟨⟨hlevel, hcapabilities⟩, htypes⟩, hbudgets⟩ := h
  exact ⟨parent, hparent, hactive, hlevel, hcapabilities, htypes, hbudgets⟩

/-- What a grant meets when it is registered. -/
structure Registration (g : Gateway date) (value : Json) (grant : Grant date) : Prop where
  value_eq : grant.value = value
  known : ∃ identity, g.identities.get grant.subject = some identity
  delegation : ∀ ref, grant.parentRef = some ref →
    ∃ parent, g.grants.get ref = some parent ∧ parent.hasStatus "active" = true ∧ Within grant parent
  same : ∀ old, g.grants.get grant.grantId = some old → old = grant

theorem declared_ok {identity : Identity date} {v : Validated (validateAuthorityGrant date)} {grant : Grant date}
    (h : declared identity v = .ok grant) : grant.value = v.1 := by
  unfold declared at h
  split at h
  · split at h
    · rw [← Except.ok.inj h]
    · simp at h
  · simp at h

theorem registerAuthorityGrant_ok (h : g.registerAuthorityGrant value = .ok (result, g')) :
    ∃ grant, Registration g value grant ∧ result = value ∧ g' = { g with grants := g.grants.put grant } := by
  simp only [registerAuthorityGrant, admitGrant, bind_eq_ok, orThrow_eq_ok, require_eq_ok, pure_eq_ok, Prod.mk.injEq] at h
  obtain ⟨v, hv, identity, hidentity, grant, hgrant, ⟨⟩, -, ⟨⟩, -, ⟨⟩, hdelegation, ⟨⟩, hsame, hresult, hg⟩ := h
  have hvalue : grant.value = value := (declared_ok hgrant).trans (validated_ok hv)
  refine ⟨grant, ⟨hvalue, ⟨identity, ?_⟩, fun ref href => checkDelegation_ok hdelegation href, ?_⟩,
    hresult ▸ hvalue, hg.symm⟩
  · rw [Grant.subject, declared_ok hgrant]
    exact hidentity
  · intro old hold
    exact Grant.eq_of_value (eq_of_sameText hsame (by rw [hold]; rfl))

/-! ## Acceptance -/

section
variable {envelope : Envelope date} {now consumedAt : ℤ}

/-- Accepting touches the guard only. -/
theorem acceptValidatedEnvelope_frame (g : Gateway date) (envelope : Envelope date) (now consumedAt : ℤ) :
    ∃ guard, (g.acceptValidatedEnvelope envelope now consumedAt).2 = { g with replayGuard := guard } := by
  unfold acceptValidatedEnvelope
  split
  · exact ⟨g.replayGuard, rfl⟩
  · exact ⟨_, rfl⟩
  · split <;> exact ⟨_, rfl⟩

theorem acceptValidatedEnvelope_ok (h : g.acceptValidatedEnvelope envelope now consumedAt = (.ok result, g')) :
    g.authorizeValidatedEnvelope envelope now = .ok () ∧ ∃ key guard, envelope.replayKey = some key ∧
      g.replayGuard.consume key envelope.expiresAt consumedAt = (.ok (), guard) ∧
      protocolReceipt envelope now = .ok result ∧ g' = { g with replayGuard := guard } := by
  unfold acceptValidatedEnvelope at h
  split at h
  · simp at h
  · simp at h
  · rename_i hauthorized hkey
    split at h
    · simp at h
    · rename_i guard hconsume
      simp only [Prod.mk.injEq] at h
      exact ⟨hauthorized, _, guard, hkey, hconsume, h.1, h.2.symm⟩

/-- A throw leaves the guard as it was, or pruned, unless it comes from the receipt. -/
theorem acceptValidatedEnvelope_error {e : Failure}
    (h : g.acceptValidatedEnvelope envelope now consumedAt = (.error e, g')) :
    g' = g ∨ g' = { g with replayGuard := g.replayGuard.prune consumedAt } ∨
      protocolReceipt envelope now = .error e := by
  unfold acceptValidatedEnvelope at h
  split at h
  · exact Or.inl (Prod.mk.inj h).2.symm
  · exact Or.inr (Or.inl (Prod.mk.inj h).2.symm)
  · split at h
    · rename_i guard hconsume
      rw [ReplayGuard.consume_error hconsume] at h
      exact Or.inr (Or.inl (Prod.mk.inj h).2.symm)
    · exact Or.inr (Or.inr (Prod.mk.inj h).1)

theorem acceptEnvelope_ok (h : g.acceptEnvelope value now consumedAt = (.ok result, g')) :
    ∃ envelope : Envelope date, envelope.1 = value ∧ envelope.hasType "revocation" = false ∧
      g.acceptValidatedEnvelope envelope now consumedAt = (.ok result, g') := by
  unfold acceptEnvelope at h
  split at h
  · simp at h
  · rename_i envelope hread
    split at h
    · simp at h
    · rename_i htype
      exact ⟨envelope, validated_ok hread, by simpa using htype, h⟩

theorem acceptEnvelope_frame (g : Gateway date) (value : Json) (now consumedAt : ℤ) :
    ∃ guard, (g.acceptEnvelope value now consumedAt).2 = { g with replayGuard := guard } := by
  unfold acceptEnvelope
  split
  · exact ⟨g.replayGuard, rfl⟩
  · split
    · exact ⟨g.replayGuard, rfl⟩
    · exact acceptValidatedEnvelope_frame ..

end

/-! ## Revocation -/

section
variable {envelope : Envelope date} {notice effectiveAt : Json} {now consumedAt : ℤ} {revocation : Revocation date}

/-- The gateway once the guard has been asked for a nonce. -/
def pruned (g : Gateway date) (now : ℤ) : Gateway date := { g with replayGuard := g.replayGuard.prune now }

theorem applyRevocation_ok (h : g.applyRevocation value now consumedAt = (.ok result, g')) :
    ∃ envelope notice revocation receipt guard, g.revocationRequest value now = .ok (envelope, notice) ∧
      (g.pruned now).planRevocation envelope notice now = .ok revocation ∧
      (g.pruned now).acceptValidatedEnvelope envelope now consumedAt =
        (.ok receipt, { g with replayGuard := guard }) ∧
      result = revocation.receipt ∧ g' = commit { g with replayGuard := guard } revocation := by
  unfold applyRevocation at h
  split at h
  · simp at h
  · rename_i envelope notice hrequest
    simp only at h
    split at h
    · simp at h
    · rename_i revocation hplan
      split at h
      · simp at h
      · rename_i receipt rest haccept
        obtain ⟨guard, hguard⟩ := acceptValidatedEnvelope_frame (g.pruned now) envelope now consumedAt
        have hrest : rest = { g with replayGuard := guard } := (congrArg Prod.snd haccept).symm.trans hguard
        subst hrest
        simp only [Prod.mk.injEq, Except.ok.injEq] at h
        exact ⟨envelope, notice, revocation, receipt, guard, hrequest, hplan, haccept, h.1.symm, h.2.symm⟩

theorem applyRevocation_error {e : Failure} (h : g.applyRevocation value now consumedAt = (.error e, g')) :
    g' = g ∨ g' = g.pruned now ∨ ∃ envelope notice revocation,
      (g.pruned now).planRevocation envelope notice now = .ok revocation ∧
      (g.pruned now).acceptValidatedEnvelope envelope now consumedAt = (.error e, g') := by
  unfold applyRevocation at h
  split at h
  · exact Or.inl (Prod.mk.inj h).2.symm
  · rename_i envelope notice hrequest
    simp only at h
    split at h
    · exact Or.inr (Or.inl (Prod.mk.inj h).2.symm)
    · rename_i revocation hplan
      split at h
      · rename_i e' rest haccept
        simp only [Prod.mk.injEq, Except.error.injEq] at h
        obtain ⟨rfl, rfl⟩ := h
        exact Or.inr (Or.inr ⟨envelope, notice, revocation, hplan, haccept⟩)
      · simp at h

/-- A revocation that throws touches the guard only. -/
theorem applyRevocation_error_frame {e : Failure} (h : g.applyRevocation value now consumedAt = (.error e, g')) :
    ∃ guard, g' = { g with replayGuard := guard } := by
  rcases applyRevocation_error h with rfl | rfl | ⟨envelope, notice, revocation, -, haccept⟩
  · exact ⟨g'.replayGuard, rfl⟩
  · exact ⟨_, rfl⟩
  · obtain ⟨guard, hguard⟩ := acceptValidatedEnvelope_frame (g.pruned now) envelope now consumedAt
    rw [haccept] at hguard
    exact ⟨guard, hguard⟩

theorem revocationRequest_ok (h : g.revocationRequest value now = .ok (envelope, notice)) :
    envelope.1 = value ∧ envelope.hasType "revocation" = true ∧ isComponent envelope.sender "brainstem" = true ∧
      g.authorizeValidatedEnvelope envelope now = .ok () ∧ notice = field value "payload" ∧
      validateRevocationNotice date notice = .ok () ∧ notice.get "effective_at" = value.get "timestamp" := by
  simp only [revocationRequest, bind_eq_ok, require_eq_ok, pure_eq_ok, Prod.mk.injEq, Bool.and_eq_true] at h
  obtain ⟨read, hread, ⟨⟩, htype, ⟨⟩, hroute, ⟨⟩, hauthorized, ⟨⟩, hnotice, ⟨⟩, ⟨⟨hsame, -⟩, -⟩, rfl, rfl⟩ := h
  have hvalue : read.1 = value := validated_ok hread
  exact ⟨hvalue, htype, hroute, hauthorized, by rw [hvalue], hnotice, by rw [← hvalue]; exact Json.opt_eq_of_beq hsame⟩

theorem revokedGrant_ok {grant update : Grant date} (h : revokedGrant grant effectiveAt = .ok update) :
    update.value = revokedValue grant.value effectiveAt ∧ update.grantId = grant.grantId := by
  unfold revokedGrant at h
  split at h
  · rw [← Except.ok.inj h]
    exact ⟨rfl, rfl⟩
  · simp at h

/-- Each affected grant has its update, and each update its grant. -/
theorem grantUpdates_ok {ids : List JsString} {updates : List (Grant date)}
    (h : g.grantUpdates effectiveAt ids = .ok updates) :
    updates.map Grant.grantId = ids ∧ ∀ update ∈ updates, ∃ old, g.grants.get update.grantId = some old ∧
      update.value = revokedValue old.value effectiveAt := by
  induction ids generalizing updates with
  | nil =>
    simp only [grantUpdates, pure_eq_ok] at h
    subst h
    simp
  | cons id rest ih =>
    simp only [grantUpdates, bind_eq_ok, orThrow_eq_ok, pure_eq_ok] at h
    obtain ⟨grant, hgrant, update, hupdate, others, hothers, rfl⟩ := h
    obtain ⟨hvalue, hid⟩ := revokedGrant_ok hupdate
    have hkey : grant.grantId = id := eq_of_beq (Registry.key_of_get hgrant)
    obtain ⟨hids, hall⟩ := ih hothers
    refine ⟨by rw [List.map_cons, hids, hid, hkey], List.forall_mem_cons.mpr ⟨⟨grant, ?_, hvalue⟩, hall⟩⟩
    rw [hid, hkey]
    exact hgrant

/-- A planned revocation: its target, and the least set of grants the revocation closes over. -/
structure Planned (g : Gateway date) (notice : Json) (revocation : Revocation date) (seeds affected : List JsString) :
    Prop where
  target : g.revocationTarget notice = .ok (revocation.identityUpdate, seeds)
  cascade : Forest.Saturated Grant.grantId cascadeParent g.grants.values seeds affected
  updates : g.grantUpdates (field notice "effective_at") affected = .ok revocation.grantUpdates
  revocationId : revocation.revocationId = field notice "revocation_id"
  fresh : g.revocations.has (field notice "revocation_id") = false

theorem planRevocation_free (h : g.planRevocation envelope notice now = .ok revocation) {key : JsString}
    (hkey : envelope.replayKey = some key) : g.replayGuard.has key = false := by
  simp only [planRevocation, bind_eq_ok, orThrow_eq_ok, require_eq_ok, Bool.not_eq_true'] at h
  obtain ⟨key', hkey', ⟨⟩, hfree, -⟩ := h
  rw [hkey] at hkey'
  cases Option.some.inj hkey'
  exact hfree

theorem planRevocation_ok (h : g.planRevocation envelope notice now = .ok revocation) :
    (∃ seeds affected, Planned g notice revocation seeds affected) ∧ ∃ recordedAt,
      date.toISOString now = some recordedAt ∧ revocation.receipt = revocationReceipt envelope notice
        revocation.identityUpdate.isSome revocation.grantUpdates.length recordedAt ∧
      validateRevocationReceipt date revocation.receipt = .ok () := by
  simp only [planRevocation, bind_eq_ok, orThrow_eq_ok, require_eq_ok, ensure_eq_ok, pure_eq_ok,
    Bool.not_eq_true'] at h
  obtain ⟨key, -, ⟨⟩, -, ⟨⟩, hfresh, ⟨⟩, -, ⟨identityUpdate, seeds⟩, htarget, affected, hcascade, updates, hupdates,
    recordedAt, hrecorded, ⟨⟩, hreceipt, rfl⟩ := h
  refine ⟨⟨seeds, affected, htarget, ?_, hupdates, rfl, hfresh⟩, recordedAt, hrecorded, rfl, hreceipt⟩
  exact Forest.saturate_spec hcascade (by have := @Forest.pending_le _ _ _ Grant.grantId g.grants.values seeds; omega)

end

end Gateway

end Agent
