import StrataPortNetwork.Agent.Calls
import StrataPortNetwork.Transition

/-! # What a step writes

Any operation leaves the grants as they are, or registers one it did not have, or revokes
a set of grants closed under their parent links; and likewise for the identities. The
invariants of runs are proved from these cases.
-/
namespace Agent.Gateway
open Js Transition
variable {date : DateApi} {g g' : Gateway date}

/-! ## Statuses and updates -/

def isRevoked (grant : Grant date) : Bool := grant.hasStatus "revoked"
def isActive (grant : Grant date) : Bool := grant.hasStatus "active"

theorem hasStatus_iff {grant : Grant date} {status : String} :
    grant.hasStatus status = true ↔ grant.value.get "status" = some (.text status) := by
  simp [Grant.hasStatus, Json.text]

theorem not_active_of_revoked {grant : Grant date} (h : grant.hasStatus "revoked" = true) :
    grant.hasStatus "active" = false := by
  rw [← Bool.not_eq_true, hasStatus_iff, hasStatus_iff.mp h]
  simp [Json.text]

/-- A revocation changes two fields of a grant. -/
theorem get_revokedValue (value effectiveAt : Json) {name : String} (hstatus : name ≠ "status")
    (hrevokedAt : name ≠ "revoked_at") : (revokedValue value effectiveAt).get name = value.get name := by
  simp [revokedValue, hstatus, hrevokedAt]

theorem revokedValue_revoked {update : Grant date} {value effectiveAt : Json}
    (h : update.value = revokedValue value effectiveAt) : update.hasStatus "revoked" = true := by
  rw [hasStatus_iff, h]
  simp [revokedValue]

theorem get_revokedIdentity (value effectiveAt : Json) {name : String} (hstate : name ≠ "lifecycle_state")
    (hhealth : name ≠ "health") (hrevokedAt : name ≠ "revoked_at") :
    (revokedIdentity value effectiveAt).get name = value.get name := by
  simp [revokedIdentity, hstate, hhealth, hrevokedAt]

/-! ## Grants -/

/-- The affected grants are rewritten as revoked, and no other grant changes. The affected
ones include each child that is not revoked yet. -/
structure Cascade (g g' : Gateway date) (affected : List JsString) (effectiveAt : Json) : Prop where
  inside : ∀ k ∈ affected, ∃ old new, g.grants.get k = some old ∧ g'.grants.get k = some new ∧
    new.value = revokedValue old.value effectiveAt
  outside : ∀ k, k ∉ affected → g'.grants.get k = g.grants.get k
  closed : ∀ k grant ref, g.grants.get k = some grant → grant.hasStatus "revoked" = false →
    grant.parentRef = some ref → ref ∈ affected → k ∈ affected

theorem get_grant_id {k : JsString} {grant : Grant date} (h : g.grants.get k = some grant) : grant.grantId = k :=
  eq_of_beq (Registry.key_of_get h)

theorem mem_grants {k : JsString} {grant : Grant date} (h : g.grants.get k = some grant) : grant ∈ g.grants.values :=
  Registry.mem_values_iff.mpr (by rw [get_grant_id h, h])

theorem commit_cascade {notice : Json} {revocation : Revocation date} {seeds affected : List JsString}
    (h : Planned g notice revocation seeds affected) (guard : ReplayGuard) :
    Cascade g (commit { g with replayGuard := guard } revocation) affected (field notice "effective_at") := by
  obtain ⟨hids, hall⟩ := grantUpdates_ok h.updates
  have hwritten : ∀ k, (∃ update ∈ revocation.grantUpdates, update.grantId = k ∧
      (revocation.grantUpdates.foldl Registry.put g.grants).get k = some update) ∨
      (∀ update ∈ revocation.grantUpdates, update.grantId ≠ k) ∧
        (revocation.grantUpdates.foldl Registry.put g.grants).get k = g.grants.get k :=
    fun k => Registry.get_foldl_put
  constructor
  · intro k hk
    rw [← hids] at hk
    obtain ⟨update, hmem, hid⟩ := List.mem_map.mp hk
    rcases hwritten k with ⟨new, hnew, hkey, hget⟩ | ⟨hnone, -⟩
    · obtain ⟨old, hold, hvalue⟩ := hall new hnew
      exact ⟨old, new, hkey ▸ hold, hget, hvalue⟩
    · exact absurd hid (hnone update hmem)
  · intro k hk
    rcases hwritten k with ⟨update, hmem, hid, -⟩ | ⟨-, hget⟩
    · refine absurd ?_ hk
      rw [← hids, ← hid]
      exact List.mem_map_of_mem hmem
    · exact hget
  · intro k grant ref hget hrevoked href hin
    rw [← get_grant_id hget]
    refine h.cascade.closed grant (mem_grants hget) ref hin ?_
    rw [cascadeParent, hrevoked]
    exact href

inductive GrantStep (g : Gateway date) : Operation → Gateway date → Prop
  | same {op : Operation} {g' : Gateway date} (frame : ∀ k, g'.grants.get k = g.grants.get k) : GrantStep g op g'
  | registers {value : Json} {g' : Gateway date} (grant : Grant date) (registration : Registration g value grant)
      (returns : ∃ result g'', g.registerAuthorityGrant value = .ok (result, g''))
      (new : g.grants.get grant.grantId = none)
      (write : ∀ k, g'.grants.get k = if grant.grantId = k then some grant else g.grants.get k) :
      GrantStep g (.registerAuthorityGrant value) g'
  | revokes {value : Json} {now consumedAt : ℤ} {g' : Gateway date} (affected : List JsString) (effectiveAt : Json)
      (cascade : Cascade g g' affected effectiveAt) : GrantStep g (.applyRevocation value now consumedAt) g'

theorem registered_cases (result : Outcome (Json × Gateway date)) :
    (∃ v g', result = .ok (v, g') ∧ g.registered result = g') ∨ g.registered result = g := by
  cases result with
  | ok r => exact Or.inl ⟨r.1, r.2, rfl, rfl⟩
  | error e => exact Or.inr rfl

theorem step_grants (g : Gateway date) (op : Operation) : GrantStep g op (g.step op) := by
  cases op with
  | registerIdentity value =>
    rcases registered_cases (g := g) (g.registerIdentity value) with ⟨v, g', hok, hg⟩ | hg
    · obtain ⟨identity, -, -, -, rfl⟩ := registerIdentity_ok hok
      exact .same fun k => by rw [step, hg]
    · exact .same fun k => by rw [step, hg]
  | registerCapability value =>
    rcases registered_cases (g := g) (g.registerCapability value) with ⟨v, g', hok, hg⟩ | hg
    · obtain ⟨capability, rfl⟩ := registerCapability_ok hok
      exact .same fun k => by rw [step, hg]
    · exact .same fun k => by rw [step, hg]
  | registerAuthorityGrant value =>
    rcases registered_cases (g := g) (g.registerAuthorityGrant value) with ⟨v, g', hok, hg⟩ | hg
    · obtain ⟨grant, hgrant, -, rfl⟩ := registerAuthorityGrant_ok hok
      have hwrite : ∀ k, (g.step (.registerAuthorityGrant value)).grants.get k =
          if grant.grantId = k then some grant else g.grants.get k := by
        intro k
        rw [step, hg]
        simp
      cases hold : g.grants.get grant.grantId with
      | none => exact .registers grant hgrant ⟨_, _, hok⟩ hold hwrite
      | some old =>
        refine .same fun k => ?_
        rw [hwrite]
        split
        · rename_i hk
          rw [← hk, hold, hgrant.same old hold]
        · rfl
    · exact .same fun k => by rw [step, hg]
  | acceptEnvelope value now consumedAt =>
    obtain ⟨guard, hg⟩ := acceptEnvelope_frame g value now consumedAt
    exact .same fun k => by rw [step, hg]
  | applyRevocation value now consumedAt =>
    rcases h : g.applyRevocation value now consumedAt with ⟨e | result, g'⟩
    · obtain ⟨guard, hg⟩ := applyRevocation_error_frame h
      exact .same fun k => by rw [step, h, hg]
    · have hstep : g.step (.applyRevocation value now consumedAt) = g' := congrArg Prod.snd h
      obtain ⟨envelope, notice, revocation, receipt, guard, -, hplan, -, -, rfl⟩ := applyRevocation_ok h
      obtain ⟨⟨seeds, affected, hplanned⟩, -⟩ := planRevocation_ok hplan
      have hcascade := commit_cascade hplanned guard
      rw [hstep]
      exact .revokes affected _ ⟨hcascade.inside, hcascade.outside, hcascade.closed⟩

/-! ## Identities -/

/-- The target of a revocation: an agent that is not in a final state, with all its
grants, or one grant. -/
theorem revocationTarget_ok {notice : Json} {update : Option (Identity date)} {seeds : List JsString}
    (h : g.revocationTarget notice = .ok (update, seeds)) :
    (∃ id old new, notice.get "target_type" = some (.text "agent") ∧ notice.get "target_id" = some id ∧
      g.identities.get id = some old ∧
      oneOf (old.1.get "lifecycle_state") ["revoked", "retired", "replaced"] = false ∧ update = some new ∧
      new.1 = revokedIdentity old.1 (field notice "effective_at") ∧
      ∀ k, k ∈ seeds ↔ ∃ grant, g.grants.get k = some grant ∧ (grant.subject == id) = true ∧
        grant.hasStatus "revoked" = false) ∨
    (notice.get "target_type" ≠ some (.text "agent") ∧ update = none ∧
      ∃ k grant, notice.get "target_id" = some (.str k) ∧ g.grants.get k = some grant ∧
        grant.hasStatus "revoked" = false ∧ seeds = [k]) := by
  unfold revocationTarget at h
  split at h
  · rename_i htype
    simp only [bind_eq_ok, orThrow_eq_ok, require_eq_ok, pure_eq_ok, Prod.mk.injEq, Option.bind_eq_some_iff,
      Bool.not_eq_true'] at h
    obtain ⟨old, ⟨id, hid, hold⟩, ⟨⟩, hterminal, new, hnew, hupdate, hseeds⟩ := h
    refine Or.inl ⟨id, old, new, by simpa [Json.text] using htype, hid, hold, hterminal, hupdate.symm,
      validated_ok hnew, ?_⟩
    have hkey : (old.agentId == id) = true := Registry.key_of_get hold
    intro k
    rw [← hseeds, List.mem_map]
    constructor
    · rintro ⟨grant, hmem, rfl⟩
      obtain ⟨hvalue, hcond⟩ := List.mem_filter.mp hmem
      rw [Bool.and_eq_true, Bool.not_eq_true'] at hcond
      exact ⟨grant, Registry.mem_values_iff.mp hvalue, PartialEquivBEq.trans hcond.1 hkey, hcond.2⟩
    · rintro ⟨grant, hget, hsubject, hrevoked⟩
      refine ⟨grant, List.mem_filter.mpr ⟨mem_grants hget, ?_⟩, get_grant_id hget⟩
      rw [PartialEquivBEq.trans hsubject (PartialEquivBEq.symm hkey), hrevoked]
      rfl
  · rename_i htype
    simp only [bind_eq_ok, orThrow_eq_ok, require_eq_ok, pure_eq_ok, Prod.mk.injEq, Bool.not_eq_true'] at h
    obtain ⟨grant, hgrant, ⟨⟩, hrevoked, hupdate, hseeds⟩ := h
    obtain ⟨k, hk, hget⟩ := Option.bind_eq_some_iff.mp hgrant
    refine Or.inr ⟨by simpa [Json.text] using htype, hupdate.symm, k, grant, Json.bind_str?_eq_some.mp hk, hget,
      hrevoked, ?_⟩
    rw [← hseeds, get_grant_id hget]

inductive IdentityStep (g : Gateway date) : Operation → Gateway date → Prop
  | same {op : Operation} {g' : Gateway date} (frame : ∀ k, g'.identities.get k = g.identities.get k) :
      IdentityStep g op g'
  | registers {value : Json} {g' : Gateway date} (identity : Identity date) (value_eq : identity.1 = value)
      (new : g.identities.get identity.agentId = none)
      (write : ∀ k, g'.identities.get k = if identity.agentId == k then some identity else g.identities.get k) :
      IdentityStep g (.registerIdentity value) g'
  | revokes {value : Json} {now consumedAt : ℤ} {g' : Gateway date} (old new : Identity date) (effectiveAt : Json)
      (found : ∀ k, (new.agentId == k) = true → g.identities.get k = some old)
      (value_eq : new.1 = revokedIdentity old.1 effectiveAt)
      (write : ∀ k, g'.identities.get k = if new.agentId == k then some new else g.identities.get k) :
      IdentityStep g (.applyRevocation value now consumedAt) g'

theorem revokedIdentity_agentId {old new : Identity date} {effectiveAt : Json}
    (h : new.1 = revokedIdentity old.1 effectiveAt) : new.agentId = old.agentId := by
  rw [Identity.agentId, Identity.agentId, field, field, h,
    get_revokedIdentity _ _ (by decide) (by decide) (by decide)]

theorem step_identities (g : Gateway date) (op : Operation) : IdentityStep g op (g.step op) := by
  cases op with
  | registerIdentity value =>
    rcases registered_cases (g := g) (g.registerIdentity value) with ⟨v, g', hok, hg⟩ | hg
    · obtain ⟨identity, hvalue, -, hsame, rfl⟩ := registerIdentity_ok hok
      have hwrite : ∀ k, (g.step (.registerIdentity value)).identities.get k =
          if identity.agentId == k then some identity else g.identities.get k := by
        intro k
        rw [step, hg]
        exact Registry.get_put ..
      cases hold : g.identities.get identity.agentId with
      | none => exact .registers identity hvalue hold hwrite
      | some old =>
        refine .same fun k => ?_
        rw [hwrite]
        split
        · rename_i hk
          rw [← Registry.get_congr _ hk, hold, hsame old hold]
        · rfl
    · exact .same fun k => by rw [step, hg]
  | registerCapability value =>
    rcases registered_cases (g := g) (g.registerCapability value) with ⟨v, g', hok, hg⟩ | hg
    · obtain ⟨capability, rfl⟩ := registerCapability_ok hok
      exact .same fun k => by rw [step, hg]
    · exact .same fun k => by rw [step, hg]
  | registerAuthorityGrant value =>
    rcases registered_cases (g := g) (g.registerAuthorityGrant value) with ⟨v, g', hok, hg⟩ | hg
    · obtain ⟨grant, -, -, rfl⟩ := registerAuthorityGrant_ok hok
      exact .same fun k => by rw [step, hg]
    · exact .same fun k => by rw [step, hg]
  | acceptEnvelope value now consumedAt =>
    obtain ⟨guard, hg⟩ := acceptEnvelope_frame g value now consumedAt
    exact .same fun k => by rw [step, hg]
  | applyRevocation value now consumedAt =>
    rcases h : g.applyRevocation value now consumedAt with ⟨e | result, g'⟩
    · obtain ⟨guard, hg⟩ := applyRevocation_error_frame h
      exact .same fun k => by rw [step, h, hg]
    · have hstep : g.step (.applyRevocation value now consumedAt) = g' := congrArg Prod.snd h
      obtain ⟨envelope, notice, revocation, receipt, guard, -, hplan, -, -, rfl⟩ := applyRevocation_ok h
      obtain ⟨⟨seeds, affected, hplanned⟩, -⟩ := planRevocation_ok hplan
      rw [hstep]
      rcases revocationTarget_ok hplanned.target with
        ⟨id, old, new, -, -, hold, -, hupdate, hvalue, -⟩ | ⟨-, hupdate, -⟩
      · refine .revokes old new _ ?_ hvalue fun k => ?_
        · intro k hk
          have hkey : (old.agentId == id) = true := Registry.key_of_get hold
          rw [revokedIdentity_agentId hvalue] at hk
          rw [← Registry.get_congr _ (PartialEquivBEq.trans (PartialEquivBEq.symm hkey) hk)]
          exact hold
        · simp only [commit, hupdate, Option.elim_some]
          exact Registry.get_put ..
      · refine .same fun k => ?_
        simp only [commit, hupdate, Option.elim_none]

/-! ## Calls on valid values -/

theorem step_registerIdentity (identity : Identity date) (h : g.identities.get identity.agentId = none) :
    g.step (.registerIdentity identity.1) = { g with identities := g.identities.put identity } := by
  have hok : g.registerIdentity identity.1 =
      .ok (identity.1, { g with identities := g.identities.put identity }) := by
    simp only [registerIdentity, bind_eq_ok, require_eq_ok, pure_eq_ok]
    exact ⟨identity, validated_self identity, (), by rw [h]; rfl, rfl⟩
  rw [step, hok, registered]

theorem step_registerCapability (capability : Capability)
    (h : g.capabilities.get capability.capabilityId = none) :
    g.step (.registerCapability capability.1) = { g with capabilities := g.capabilities.put capability } := by
  have hok : g.registerCapability capability.1 =
      .ok (capability.1, { g with capabilities := g.capabilities.put capability }) := by
    simp only [registerCapability, bind_eq_ok, require_eq_ok, pure_eq_ok]
    exact ⟨capability, validated_self capability, (), by rw [h]; rfl, rfl⟩
  rw [step, hok, registered]

theorem step_registerAuthorityGrant (grant : Grant date) (h : (g.admitGrant ⟨grant.value, grant.valid⟩).isOk = true) :
    g.step (.registerAuthorityGrant grant.value) = { g with grants := g.grants.put grant } := by
  cases hadmission : g.admitGrant ⟨grant.value, grant.valid⟩ with
  | error e =>
    rw [hadmission] at h
    simp [Except.isOk, Except.toBool] at h
  | ok r =>
    have hok : g.registerAuthorityGrant grant.value = .ok (r.1, r.2) := by
      rw [← hadmission, registerAuthorityGrant]
      exact congrArg (· >>= _) (validated_self (⟨grant.value, grant.valid⟩ : Validated (validateAuthorityGrant date)))
    obtain ⟨grant', registration, -, hg⟩ := registerAuthorityGrant_ok hok
    cases Grant.eq_of_value registration.value_eq
    rw [step, hok, registered, hg]

theorem acceptEnvelope_valid (envelope : Envelope date) (now consumedAt : ℤ)
    (h : envelope.hasType "revocation" = false) :
    g.acceptEnvelope envelope.1 now consumedAt = g.acceptValidatedEnvelope envelope now consumedAt := by
  simp [acceptEnvelope, Envelope.read, h]

end Agent.Gateway
