import StrataPortNetwork.Agent.Acceptance
import StrataPortNetwork.Agent.Atomicity

/-! # Revoked agents

Once an agent is revoked, its identity stays revoked and its grants with all below them
stay revoked, so that nothing it sends, receives or stands behind is accepted. The only way
back in is a new active grant: registration never looks at the subject's lifecycle.
-/
namespace Agent
open Js Transition

namespace Gateway
variable {date : DateApi} {g g' : Gateway date} {value : Json} {now consumedAt : ℤ} {a : Json}

/-- Either call accepts the envelope. -/
def Accepts (g : Gateway date) (value : Json) (now consumedAt : ℤ) : Prop :=
  (∃ result g', g.acceptEnvelope value now consumedAt = (.ok result, g')) ∨
    ∃ result g', g.applyRevocation value now consumedAt = (.ok result, g')

/-- The envelope passes every check before the replay guard. -/
def ReachesGuard (g : Gateway date) (value : Json) (now : ℤ) : Prop :=
  ∃ envelope : Envelope date, envelope.1 = value ∧ g.authorizeValidatedEnvelope envelope now = .ok () ∧
    (envelope.hasType "revocation" = false ∨ isComponent envelope.sender "brainstem" = true)

/-- The principal is the given agent. -/
def IsAgent (principal : Json) (a : Json) : Prop := isAgent principal = true ∧ principal.get "id" = some a

/-- The agent has no active grant, and no accepted envelope has it as sender or recipient or
is authorised by a grant of its own or one below it. -/
structure StaysOut (a : Json) (g : Gateway date) : Prop where
  grants : ∀ k grant, g.grants.get k = some grant → grant.subject = a → grant.hasStatus "active" = false
  envelopes : ∀ value now consumedAt, g.Accepts value now consumedAt →
    ¬ IsAgent (field value "sender") a ∧ ¬ IsAgent (field value "recipient") a ∧
      ∀ k, isAgent (field value "sender") = true → Exercises value k →
        ∀ b grant, b = k ∨ Forest.Above g.parentOf k b → g.grants.get b = some grant → grant.subject ≠ a

/-- No active grant gets registered for the agent. -/
def RegistersNoActive (a : Json) (g : Gateway date) : Operation → Prop
  | .registerAuthorityGrant value => ∀ result g', g.registerAuthorityGrant value = .ok (result, g') →
    field value "subject_agent_id" = a → value.get "status" ≠ some (.text "active")
  | _ => True

/-- What a revocation leaves for good: the links between grants and the revoked identity. -/
structure Revoked (a : Json) (g : Gateway date) : Prop where
  linked : Linked g
  identity : ∃ identity, g.identities.get a = some identity ∧ isRevokedIdentity identity

def NoActive (a : Json) (g : Gateway date) : Prop :=
  ∀ k grant, g.grants.get k = some grant → grant.subject = a → grant.hasStatus "active" = false

/-! ## What follows from the state -/

theorem Accepts.reaches (h : g.Accepts value now consumedAt) : g.ReachesGuard value now := by
  rcases h with ⟨result, g', h⟩ | ⟨result, g', h⟩
  · obtain ⟨envelope, hvalue, htype, haccept⟩ := acceptEnvelope_ok h
    exact ⟨envelope, hvalue, (acceptValidatedEnvelope_ok haccept).1, Or.inl htype⟩
  · obtain ⟨envelope, notice, revocation, receipt, guard, hrequest, -⟩ := applyRevocation_ok h
    obtain ⟨hvalue, -, hroute, hauthorized, -⟩ := revocationRequest_ok hrequest
    exact ⟨envelope, hvalue, hauthorized, Or.inr hroute⟩

theorem not_agent_of_component {principal : Json} {component : String} (h : isComponent principal component = true) :
    isAgent principal = false := by
  simp only [isComponent, Bool.and_eq_true, Json.text, Json.some_beq_str_iff] at h
  rw [isAgent, h.1, ← Bool.not_eq_true, Json.text, Json.some_beq_str_iff]
  simp

/-- A revoked agent is no active agent. -/
theorem Revoked.not_active (h : Revoked a g) {identity : Identity date} {principal : Json}
    (hactive : g.requireActiveAgent (principal.get "id") = .ok identity) : ¬ IsAgent principal a := by
  rintro ⟨-, hid⟩
  obtain ⟨hfound, hstate⟩ := requireActiveAgent_ok hactive
  obtain ⟨revoked, hrevoked, hstate'⟩ := h.identity
  rw [hid, Option.bind_some, hrevoked] at hfound
  cases Option.some.inj hfound
  rw [isRevokedIdentity, hstate] at hstate'
  simp [Json.text] at hstate'

theorem staysOut_iff (h : Revoked a g) : StaysOut a g ↔ NoActive a g := by
  constructor
  · exact StaysOut.grants
  · intro hnone
    refine ⟨hnone, fun value now consumedAt haccepts => ?_⟩
    obtain ⟨envelope, rfl, hauthorized, hroute⟩ := haccepts.reaches
    obtain ⟨-, hsender, hrecipient⟩ := authorizeValidatedEnvelope_ok hauthorized
    have hplain : isAgent (field envelope.1 "sender") = true → envelope.hasType "revocation" = false := by
      intro hagent
      rcases hroute with htype | hcomponent
      · exact htype
      · have hnot : isAgent (field envelope.1 "sender") = false := not_agent_of_component hcomponent
        rw [hnot] at hagent
        simp at hagent
    refine ⟨fun hagent => ?_, fun hagent => ?_, fun k hagent hk b grant hb hget hsubject => ?_⟩
    · obtain ⟨identity, hactive, -⟩ := authorizeAgentEnvelope_ok (hsender hagent.1) (hplain hagent.1)
      exact h.not_active hactive hagent
    · obtain ⟨identity, hactive⟩ := hrecipient hagent.1
      exact h.not_active hactive hagent
    · obtain ⟨identity, -, ⟨huncovered, hdiscovery⟩ | ⟨k', exercised, hexercised⟩⟩ :=
        authorizeAgentEnvelope_ok (hsender hagent) (hplain hagent)
      · rcases hk.2 with htype | hasks
        · rw [Envelope.hasType_iff.mpr htype] at hdiscovery
          simp at hdiscovery
        · rw [huncovered.2] at hasks
          simp at hasks
      · have hkey : k' = k := by simpa [hk.1] using hexercised.named.symm
        subst hkey
        have hactive : grant.hasStatus "active" = true := by
          rcases hb with rfl | habove
          · rw [hexercised.found] at hget
            cases Option.some.inj hget
            exact hexercised.active
          · obtain ⟨ancestor, hancestor, hactive⟩ :=
              h.linked.active_above hexercised.found hexercised.active habove
            rw [hget] at hancestor
            cases Option.some.inj hancestor
            exact hactive
        rw [hnone b grant hget hsubject] at hactive
        simp at hactive

/-! ## Steps after the revocation -/

theorem step_revoked (h : Revoked a g) (op : Operation) : Revoked a (g.step op) := by
  obtain ⟨identity, hget, hrevoked⟩ := h.identity
  obtain ⟨identity', hget', hkept⟩ := (step_evolves g op).identities a identity hget
  exact ⟨step_linked h.linked op, identity', hget', hkept.revoked hrevoked⟩

theorem step_noActive (h : NoActive a g) (op : Operation) : NoActive a (g.step op) ↔ RegistersNoActive a g op := by
  have hstep := step_grants g op
  constructor
  · intro hafter
    cases op with
    | registerAuthorityGrant value =>
      intro result g' hok hsubject hstatus
      obtain ⟨grant, registration, -, rfl⟩ := registerAuthorityGrant_ok hok
      have hgrant : (g.step (.registerAuthorityGrant value)).grants.get grant.grantId = some grant := by
        rw [step, hok]
        exact (Registry.get_put ..).trans (if_pos (BEq.refl _))
      rw [← registration.value_eq] at hsubject hstatus
      have hinactive := hafter _ grant hgrant hsubject
      rw [hasStatus_iff.mpr hstatus] at hinactive
      simp at hinactive
    | _ => trivial
  · intro hok k grant' hget' hsubject
    rcases hstep.origin hget' with ⟨grant, hget, rfl | ⟨effectiveAt, hvalue⟩⟩ |
      ⟨value, rfl, registration, ⟨result, g'', hreturns⟩, -⟩
    · exact h k grant' hget hsubject
    · exact not_active_of_revoked (revokedValue_revoked hvalue)
    · rw [← Bool.not_eq_true, hasStatus_iff, registration.value_eq]
      refine hok result g'' hreturns ?_
      rw [← registration.value_eq]
      exact hsubject

/-- A revocation of an agent revokes its identity and all its grants. -/
theorem applyRevocation_agent {result : Json} (hlinked : Linked g)
    (h : g.applyRevocation value now consumedAt = (.ok result, g'))
    (htype : (field value "payload").get "target_type" = some (.text "agent"))
    (ha : (field value "payload").get "target_id" = some a) : Revoked a g' ∧ NoActive a g' := by
  have hg' : g' = g.step (.applyRevocation value now consumedAt) := by rw [step, h]
  obtain ⟨envelope, -, happlied⟩ := applyRevocation_returns h
  obtain ⟨id, old, new, hid, hold, hnew, hwrite⟩ := happlied.identity htype
  rw [ha] at hid
  cases Option.some.inj hid
  have hself : (a == a) = true := by
    have hkey : (old.agentId == a) = true := Registry.key_of_get hold
    exact PartialEquivBEq.trans (PartialEquivBEq.symm hkey) hkey
  refine ⟨⟨hg' ▸ step_linked hlinked _, new, by rw [hwrite, if_pos hself], ?_⟩, ?_⟩
  · rw [isRevokedIdentity, hnew]
    simp [revokedIdentity]
  · intro k grant' hget' hsubject
    by_cases hreached : Reached g.grants (field value "payload") k
    · obtain ⟨before, after, -, hafter, hvalue⟩ := happlied.grants k hreached
      rw [hget'] at hafter
      cases Option.some.inj hafter
      exact not_active_of_revoked (revokedValue_revoked hvalue)
    · rw [happlied.others k hreached] at hget'
      refine not_active_of_revoked ?_
      by_contra hrevoked
      refine hreached (.subject htype hget' ?_ (by simpa using hrevoked))
      rw [ha, hsubject]
      exact hself

/-- After a successful revocation of an agent, the agent stays out in every later state
exactly when no active grant gets registered for it. -/
theorem revoked_agent_stays_out_iff (refs : JsMap JsString (List Json)) (guard : ReplayGuard)
    (before : List Operation) {result : Json}
    (h : (run step (start date refs guard) before).applyRevocation value now consumedAt = (.ok result, g'))
    (htype : (field value "payload").get "target_type" = some (.text "agent"))
    (ha : (field value "payload").get "target_id" = some a) (after : List Operation) :
    Always step (StaysOut a) g' after ↔ Steps step (RegistersNoActive a) g' after := by
  obtain ⟨hrevoked, hnone⟩ := applyRevocation_agent (run_linked refs guard before) h htype ha
  refine @always_iff_steps _ _ _ (Revoked a) _ _ (fun g op h => step_revoked h op) ?_ _ hrevoked
    ((staysOut_iff hrevoked).mpr hnone) after
  intro g op hrevoked hout
  rw [staysOut_iff (step_revoked hrevoked op)]
  exact step_noActive ((staysOut_iff hrevoked).mp hout) op

end Gateway

/-! ## A revoked worker -/

namespace Sample
open Gateway

theorem revokes_worker : ∃ result g',
    (run step (start isoDate references guard) staffing).applyRevocation revocation.1 (at16 21) (at16 21) =
      (.ok result, g') ∧ (g'.admitGrant ⟨root.value, root.valid⟩).isOk = true := by
  rw [run_staffing]
  have h : (staffed.applyRevocation revocation.1 (at16 21) (at16 21)).1.isOk = true ∧
      ((staffed.applyRevocation revocation.1 (at16 21) (at16 21)).2.admitGrant ⟨root.value, root.valid⟩).isOk = true := by
    decide +kernel
  obtain ⟨result, g', hok⟩ := accepts_of_isOk h.1
  rw [hok] at h
  exact ⟨result, g', hok, h.2⟩

theorem targets_worker : (field revocation.1 "payload").get "target_type" = some (.text "agent") ∧
    (field revocation.1 "payload").get "target_id" = some (.text workerId) := by
  simp [revocation, revocationValue, envelope, field, List.lookup_cons, Json.text]

/-- Registering the revoked worker anew does not let it back in. -/
theorem reregistered_worker_stays_out : ∃ result g',
    (run step (start isoDate references guard) staffing).applyRevocation revocation.1 (at16 21) (at16 21) =
      (.ok result, g') ∧ Always step (StaysOut (.text workerId)) g' [.registerIdentity worker.1] := by
  obtain ⟨result, g', h, -⟩ := revokes_worker
  exact ⟨result, g', h, (revoked_agent_stays_out_iff references guard staffing h targets_worker.1 targets_worker.2
    [.registerIdentity worker.1]).mpr ⟨trivial, trivial⟩⟩

/-- A grant that the revoked worker had declared gets registered, and is active. -/
theorem revoked_worker_gets_grant : ∃ result g',
    (run step (start isoDate references guard) staffing).applyRevocation revocation.1 (at16 21) (at16 21) =
      (.ok result, g') ∧ ¬ StaysOut (.text workerId) (g'.step (.registerAuthorityGrant root.value)) := by
  obtain ⟨result, g', h, hadmission⟩ := revokes_worker
  refine ⟨result, g', h, fun hout => ?_⟩
  rw [step_registerAuthorityGrant root hadmission] at hout
  have hget : (g'.grants.put root).get root.grantId = some root := by simp
  have hinactive := hout.grants root.grantId root hget (by simp [Grant.subject, root, grantValue, field, List.lookup_cons])
  revert hinactive
  decide +kernel

end Sample

end Agent
