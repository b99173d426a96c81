import StrataPortNetwork.Agent.Permanence

/-! # Revocation is atomic

Every check of `applyRevocation` that can fail comes before its first write: the receipt
of the acceptance, the only check after the nonce is consumed, repeats ones the revocation
receipt has already passed.
-/
namespace Agent.Gateway
open Js Transition
variable {date : DateApi} {g g' : Gateway date} {envelope : Envelope date} {notice value result : Json}
  {now consumedAt : ℤ}

/-! ## The receipts -/

theorem exactKeys_record {fields : List (String × Json)} {names : List String} (h : fields.map Prod.fst = names)
    (reasonClass : String) : exactKeys (some (Json.record fields)) names reasonClass = .ok () := by
  have hkeys : ((fields.map fun f => (js f.1, f.2)).map Prod.fst) = names.map js := by
    rw [← h, List.map_map, List.map_map]
    rfl
  simp only [exactKeys, Json.record, hkeys, require_eq_ok, beq_self_eq_true]

/-- What a revocation receipt passes, the receipt of the acceptance passes. -/
theorem protocolReceipt_ok {identityChanged : Bool} {grantsRevoked : ℕ} {recordedAt : JsString}
    (hrecorded : date.toISOString now = some recordedAt)
    (hreceipt : validateRevocationReceipt date
      (revocationReceipt envelope notice identityChanged grantsRevoked recordedAt) = .ok ()) :
    ∃ receipt, protocolReceipt envelope now = .ok receipt := by
  simp only [validateRevocationReceipt, bind_eq_ok, timestamp, orThrow_eq_ok, require_eq_ok, requireTest_eq_ok]
    at hreceipt
  obtain ⟨-, -, -, -, -, -, recorded, hparsed, -, -, -, -, -, hmessage, -, hcorrelation, -⟩ := hreceipt
  simp only [revocationReceipt, Json.get_record, List.lookup_cons, String.reduceBEq] at hparsed hmessage hcorrelation
  have hvalid : validateProtocolReceipt date (acceptanceReceipt envelope recordedAt) = .ok () := by
    simp only [validateProtocolReceipt, bind_eq_ok, timestamp, orThrow_eq_ok, require_eq_ok, requireTest_eq_ok,
      acceptanceReceipt, Json.get_record, List.lookup_cons, String.reduceBEq, hmessage, hcorrelation, hparsed, pure_eq_ok]
    have hconsumed : (Json.bool true == Json.bool true) = true := rfl
    refine ⟨(), exactKeys_record rfl _, ?_⟩
    simp [Json.text, hconsumed]
  refine ⟨acceptanceReceipt envelope recordedAt, ?_⟩
  simp [protocolReceipt, hrecorded, hvalid]

/-! ## A revocation that throws -/

theorem accept_error_unexpired {e : Failure} (h : g.acceptValidatedEnvelope envelope now consumedAt = (.error e, g'))
    (hreceipt : ∃ receipt, protocolReceipt envelope now = .ok receipt) :
    g' = g ∨ g' = { g with replayGuard := g.replayGuard.prune consumedAt } := by
  rcases acceptValidatedEnvelope_error h with hg | hg | herror
  · exact Or.inl hg
  · exact Or.inr hg
  · obtain ⟨receipt, hok⟩ := hreceipt
    rw [hok] at herror
    simp at herror

/-- A throw at most prunes the guard, at the two readings of the clock. -/
theorem applyRevocation_throws {e : Failure} (h : g.applyRevocation value now consumedAt = (.error e, g')) :
    ∃ guard, g' = { g with replayGuard := guard } ∧
      ∀ time, now ≤ time → consumedAt ≤ time → guard.prune time = g.replayGuard.prune time := by
  rcases applyRevocation_error h with rfl | rfl | ⟨envelope, notice, revocation, hplan, haccept⟩
  · exact ⟨g'.replayGuard, rfl, fun _ _ _ => rfl⟩
  · exact ⟨_, rfl, fun time hnow _ => ReplayGuard.prune_prune _ hnow⟩
  · obtain ⟨-, recordedAt, hrecorded, hvalue, hvalid⟩ := planRevocation_ok hplan
    rw [hvalue] at hvalid
    rcases accept_error_unexpired haccept (protocolReceipt_ok hrecorded hvalid) with rfl | rfl
    · exact ⟨_, rfl, fun time hnow _ => ReplayGuard.prune_prune _ hnow⟩
    · refine ⟨_, rfl, fun time hnow hconsumed => ?_⟩
      exact (ReplayGuard.prune_prune _ hconsumed).trans (ReplayGuard.prune_prune _ hnow)

/-! ## A revocation that returns -/

/-- The grants a notice reaches: the target, or the target's own, and those below them
through grants that are not revoked yet. -/
inductive Reached (grants : Registry JsString (Grant date) Grant.grantId) (notice : Json) : JsString → Prop
  | subject {k : JsString} {grant : Grant date} (htype : notice.get "target_type" = some (.text "agent"))
      (hget : grants.get k = some grant) (hsubject : (some grant.subject == notice.get "target_id") = true)
      (hrevoked : grant.hasStatus "revoked" = false) : Reached grants notice k
  | target {k : JsString} (htype : notice.get "target_type" ≠ some (.text "agent"))
      (htarget : notice.get "target_id" = some (.str k)) : Reached grants notice k
  | child {k ref : JsString} {grant : Grant date} (hget : grants.get k = some grant)
      (hrevoked : grant.hasStatus "revoked" = false) (href : grant.parentRef = some ref)
      (hparent : Reached grants notice ref) : Reached grants notice k

/-- What is written when a revocation returns. -/
structure Applied (g g' : Gateway date) (envelope : Envelope date) (notice receipt : Json) : Prop where
  identity : notice.get "target_type" = some (.text "agent") → ∃ id old new, notice.get "target_id" = some id ∧
    g.identities.get id = some old ∧ new.1 = revokedIdentity old.1 (field notice "effective_at") ∧
      ∀ k, g'.identities.get k = if id == k then some new else g.identities.get k
  identities : notice.get "target_type" ≠ some (.text "agent") → ∀ k, g'.identities.get k = g.identities.get k
  grants : ∀ k, Reached g.grants notice k → ∃ old new, g.grants.get k = some old ∧ g'.grants.get k = some new ∧
    new.value = revokedValue old.value (field notice "effective_at")
  others : ∀ k, ¬ Reached g.grants notice k → g'.grants.get k = g.grants.get k
  record : g'.revocations.entries = g.revocations.entries ++ [(field notice "revocation_id", receipt)]
  nonce : ∃ key, envelope.replayKey = some key ∧ g'.replayGuard.entries.get key = some envelope.expiresAt

theorem mem_seeds_reached {revocation : Revocation date} {seeds affected : List JsString}
    (h : Planned g notice revocation seeds affected) {k : JsString} (hk : k ∈ seeds) : Reached g.grants notice k := by
  rcases revocationTarget_ok h.target with
    ⟨id, old, new, htype, hid, -, -, -, -, hseeds⟩ | ⟨htype, -, k', grant, hid, -, -, rfl⟩
  · obtain ⟨grant, hget, hsubject, hrevoked⟩ := (hseeds k).mp hk
    exact .subject htype hget (by rw [hid]; exact hsubject) hrevoked
  · cases List.mem_singleton.mp hk
    exact .target htype hid

/-- The cascade affects exactly the grants the notice reaches. -/
theorem mem_affected_iff {revocation : Revocation date} {seeds affected : List JsString}
    (h : Planned g notice revocation seeds affected) {k : JsString} : k ∈ affected ↔ Reached g.grants notice k := by
  constructor
  · refine h.cascade.least (Reached g.grants notice) (fun k hk => mem_seeds_reached h hk) ?_ k
    intro grant hmem ref href hparent
    rw [cascadeParent] at href
    split at href
    · simp at href
    · rename_i hrevoked
      exact .child (Registry.mem_values_iff.mp hmem) (by simpa using hrevoked) href hparent
  · intro hreached
    have hseeded : ∀ k ∈ seeds, k ∈ affected := h.cascade.keeps
    induction hreached with
    | @subject k grant htype hget hsubject hrevoked =>
      rcases revocationTarget_ok h.target with ⟨id, old, new, -, hid, -, -, -, -, hseeds⟩ | ⟨hnot, -⟩
      · rw [hid] at hsubject
        exact hseeded k ((hseeds k).mpr ⟨grant, hget, hsubject, hrevoked⟩)
      · exact absurd htype hnot
    | @target k htype htarget =>
      rcases revocationTarget_ok h.target with ⟨id, old, new, htype', -⟩ | ⟨-, -, k', grant, hid, -, -, rfl⟩
      · exact absurd htype' htype
      · rw [htarget] at hid
        simp only [Option.some.injEq, Json.str.injEq] at hid
        exact hseeded k (by simp [hid])
    | @child k ref grant hget hrevoked href _ ih =>
      rw [← get_grant_id hget]
      exact h.cascade.closed grant (mem_grants hget) ref ih (by rw [cascadeParent, hrevoked]; exact href)

/-- A registry entry under a new key is the last one. -/
theorem entries_set {κ β : Type} [BEq κ] {m : JsMap κ β} {k : κ} (h : m.has k = false) (v : β) :
    (m.set k v).entries = m.entries ++ [(k, v)] := by
  rw [JsMap.set, dif_neg (by simp [h])]

theorem applyRevocation_returns (h : g.applyRevocation value now consumedAt = (.ok result, g')) :
    ∃ envelope : Envelope date, envelope.1 = value ∧ Applied g g' envelope (field value "payload") result := by
  obtain ⟨envelope, notice, revocation, receipt, guard, hrequest, hplan, haccept, rfl, rfl⟩ := applyRevocation_ok h
  obtain ⟨hvalue, -, -, -, hnotice, -⟩ := revocationRequest_ok hrequest
  obtain ⟨⟨seeds, affected, hplanned⟩, -⟩ := planRevocation_ok hplan
  obtain ⟨-, key, guard', hkey, hconsume, -, hguard⟩ := acceptValidatedEnvelope_ok haccept
  have hcascade := commit_cascade hplanned guard
  refine ⟨envelope, hvalue, ?_⟩
  rw [← hnotice]
  have htarget := revocationTarget_ok hplanned.target
  constructor
  · intro htype
    rcases htarget with ⟨id, old, new, -, hid, hold, -, hupdate, hnew, -⟩ | ⟨hnot, -⟩
    · refine ⟨id, old, new, hid, hold, hnew, fun k => ?_⟩
      have hkey : (old.agentId == id) = true := Registry.key_of_get hold
      rw [commit, hupdate, Option.elim_some]
      refine (Registry.get_put ..).trans ?_
      rw [revokedIdentity_agentId hnew, BEq.congr_left hkey]
    · exact absurd htype hnot
  · intro htype k
    rcases htarget with ⟨id, old, new, htype', -⟩ | ⟨-, hupdate, -⟩
    · exact absurd htype' htype
    · rw [commit, hupdate, Option.elim_none]
  · intro k hk
    exact hcascade.inside k ((mem_affected_iff hplanned).mpr hk)
  · intro k hk
    exact hcascade.outside k fun hin => hk ((mem_affected_iff hplanned).mp hin)
  · rw [← hplanned.revocationId]
    refine entries_set ?_ revocation.receipt
    rw [hplanned.revocationId]
    exact hplanned.fresh
  · have hsame : guard = guard' := congrArg replayGuard hguard
    refine ⟨key, hkey, ?_⟩
    rw [show (commit { g with replayGuard := guard } revocation).replayGuard = guard' from hsame,
      (ReplayGuard.consume_ok hconsume).2]
    simp

/-- Whatever the state, the clock and the envelope, a revocation that throws leaves the
identities, the grants, the recorded revocations and the unexpired replay entries as they
were; one that returns has written all its updates. -/
theorem applyRevocation_atomic (g : Gateway date) (value : Json) (now consumedAt : ℤ) :
    match g.applyRevocation value now consumedAt with
    | (.error _, g') => g'.identities = g.identities ∧ g'.grants = g.grants ∧ g'.revocations = g.revocations ∧
        ∀ time, now ≤ time → consumedAt ≤ time → g'.replayGuard.prune time = g.replayGuard.prune time
    | (.ok receipt, g') =>
        ∃ envelope : Envelope date, envelope.1 = value ∧ Applied g g' envelope (field value "payload") receipt := by
  split
  · rename_i e g' h
    obtain ⟨guard, rfl, hguard⟩ := applyRevocation_throws h
    exact ⟨rfl, rfl, rfl, hguard⟩
  · rename_i receipt g' h
    exact applyRevocation_returns h

end Agent.Gateway
