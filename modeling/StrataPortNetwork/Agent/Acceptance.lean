import StrataPortNetwork.Agent.Permanence

/-! # Authority behind accepted envelopes

What an accepted agent envelope has been checked against: an active agent, and, except for
a health or status message that asks for no capability, an active grant of the sender's
with its authentication reference, and that grant's parent.
-/
namespace Agent
open Js Transition
variable {date : DateApi}

/-! ## Validated envelopes and times -/

theorem validateEnvelope_type {envelope : Json} (h : validateEnvelope date envelope = .ok ()) :
    oneOf (envelope.get "message_type") MESSAGE_TYPES = true := by
  simp only [validateEnvelope, bind_eq_ok, require_eq_ok, Bool.and_eq_true] at h
  obtain ⟨-, -, -, -, -, -, -, htype, -⟩ := h
  exact htype.1

/-- The types that a capability is neither required for nor forbidden to. -/
theorem type_of_optional {v : Option Json} (h : oneOf v MESSAGE_TYPES = true) (hdiscovery : v ≠ some (.text "discovery"))
    (hrevocation : v ≠ some (.text "revocation")) (hcapability : oneOf v capabilityMessageTypes = false) :
    v = some (.text "health") ∨ v = some (.text "status") := by
  obtain ⟨s, hs, hv⟩ := List.any_eq_true.mp h
  rw [Json.text, Json.some_beq_str_iff] at hv
  subst hv
  have hnot : s ∉ capabilityMessageTypes := by
    intro hmem
    rw [oneOf, List.any_eq_false] at hcapability
    exact hcapability s hmem (by rw [Json.text, Json.some_beq_str_iff])
  have hmember : s ∈ MESSAGE_TYPES ∧ s ∉ capabilityMessageTypes := ⟨hs, hnot⟩
  have hd : s ≠ "discovery" := fun he => hdiscovery (by rw [he]; rfl)
  have hr : s ≠ "revocation" := fun he => hrevocation (by rw [he]; rfl)
  have hall : ∀ s ∈ MESSAGE_TYPES, s ∉ capabilityMessageTypes → s ≠ "discovery" → s ≠ "revocation" →
      s = "health" ∨ s = "status" := by decide
  rcases hall s hs hnot hd hr with rfl | rfl
  · exact Or.inl rfl
  · exact Or.inr rfl

theorem Envelope.hasType_iff {envelope : Envelope date} {messageType : String} :
    envelope.hasType messageType = true ↔ envelope.1.get "message_type" = some (.text messageType) :=
  Json.some_beq_str_iff

/-! ## What authorisation checks -/

namespace Gateway
variable {g : Gateway date} {identity : Identity date} {envelope : Envelope date} {now : ℤ}

theorem requireActiveAgent_ok {id : Option Json} (h : g.requireActiveAgent id = .ok identity) :
    id.bind g.identities.get = some identity ∧ identity.1.get "lifecycle_state" = some (.text "active") := by
  simp only [requireActiveAgent, bind_eq_ok, orThrow_eq_ok, require_eq_ok, pure_eq_ok, Json.text,
    Json.some_beq_str_iff] at h
  obtain ⟨found, hfound, ⟨⟩, hactive, rfl⟩ := h
  exact ⟨hfound, hactive⟩

/-- The grant behind an envelope: the sender's own, with its reference, in force, and with
a parent in force if it has one. -/
structure Exercised (g : Gateway date) (identity : Identity date) (envelope : Envelope date) (now : ℤ) (k : JsString)
    (grant : Grant date) : Prop where
  named : envelope.1.get "authority_ref" = some (.str k)
  found : g.grants.get k = some grant
  subject : (grant.subject == identity.agentId) = true
  authentication : envelope.1.get "authentication_ref" = grant.value.get "authentication_ref"
  active : grant.hasStatus "active" = true
  issued : grant.issuedAt ≤ now
  unexpired : now < grant.expiresAt
  parent : ∀ ref, grant.parentRef = some ref →
    ∃ parent, g.grants.get ref = some parent ∧ parent.hasStatus "active" = true ∧ now < parent.expiresAt

theorem exercisedGrant_ok {grant : Grant date} (h : g.exercisedGrant identity envelope = .ok grant) :
    ∃ k, envelope.1.get "authority_ref" = some (.str k) ∧ g.grants.get k = some grant ∧
      (grant.subject == identity.agentId) = true ∧
      envelope.1.get "authentication_ref" = grant.value.get "authentication_ref" := by
  simp only [exercisedGrant, bind_eq_ok, orThrow_eq_ok, require_eq_ok, pure_eq_ok] at h
  obtain ⟨found, hfound, ⟨⟩, hsubject, ⟨⟩, hreference, rfl⟩ := h
  obtain ⟨k, hk, hget⟩ := Option.bind_eq_some_iff.mp hfound
  exact ⟨k, Json.bind_str?_eq_some.mp hk, hget, hsubject, Json.opt_eq_of_beq hreference⟩

theorem parentRef_of_isNull {grant : Grant date} (h : isNull (grant.value.get "parent_grant_ref") = true) :
    grant.parentRef = none := by
  rw [Grant.parentRef]
  cases hv : grant.value.get "parent_grant_ref" with
  | none => rfl
  | some v =>
    rw [hv] at h
    cases v <;> simp_all [isNull, Json.isNull, Json.str?]

theorem authorizeDiscovery_ok (h : g.authorizeDiscovery identity envelope now = .ok ()) :
    ∃ k grant, Exercised g identity envelope now k grant := by
  simp only [authorizeDiscovery, bind_eq_ok, require_eq_ok, Bool.and_eq_true, Bool.not_eq_true',
    decide_eq_false_iff_not, not_lt, not_le] at h
  obtain ⟨⟨⟩, -, grant, hgrant, ⟨⟨⟨⟨⟨⟨hactive, hissued⟩, hunexpired⟩, -⟩, -⟩, -⟩, -⟩, hnull⟩ := h
  obtain ⟨k, hnamed, hfound, hsubject, hauthentication⟩ := exercisedGrant_ok hgrant
  refine ⟨k, grant, hnamed, hfound, hsubject, hauthentication, hactive, hissued, hunexpired, ?_⟩
  intro ref href
  rw [parentRef_of_isNull hnull] at href
  simp at href

theorem checkParent_ok {grant : Grant date} (h : g.checkParent grant now = .ok ()) {ref : JsString}
    (href : grant.parentRef = some ref) :
    ∃ parent, g.grants.get ref = some parent ∧ parent.hasStatus "active" = true ∧ now < parent.expiresAt := by
  rw [checkParent, href] at h
  simp only [bind_eq_ok, orThrow_eq_ok, require_eq_ok, Bool.and_eq_true, Bool.not_eq_true',
    decide_eq_false_iff_not, not_le] at h
  obtain ⟨parent, hparent, hactive, hunexpired⟩ := h
  exact ⟨parent, hparent, hactive, hunexpired⟩

theorem authorizeCapability_ok (h : g.authorizeCapability identity envelope now = .ok ()) :
    ∃ k grant, Exercised g identity envelope now k grant := by
  simp only [authorizeCapability, bind_eq_ok, orThrow_eq_ok, require_eq_ok, Bool.and_eq_true, Bool.not_eq_true',
    decide_eq_false_iff_not, not_lt, not_le] at h
  obtain ⟨capability, -, ⟨⟩, -, ⟨⟩, -, grant, hgrant, ⟨⟩, ⟨⟨⟨hactive, hissued⟩, hunexpired⟩, -⟩, ⟨⟩, -, ⟨⟩, -, ⟨⟩,
    hparent, -⟩ := h
  obtain ⟨k, hnamed, hfound, hsubject, hauthentication⟩ := exercisedGrant_ok hgrant
  exact ⟨k, grant, hnamed, hfound, hsubject, hauthentication, hactive, hissued, hunexpired,
    fun ref href => checkParent_ok hparent href⟩

/-- A health or status message that asks for no capability. -/
def Uncovered (envelope : Json) : Prop :=
  (envelope.get "message_type" = some (.text "health") ∨ envelope.get "message_type" = some (.text "status")) ∧
    isNull (envelope.get "requested_capability") = true

/-- An agent's envelope is covered by a grant, or it is a message no grant is looked up for. -/
theorem authorizeAgentEnvelope_ok (h : g.authorizeAgentEnvelope envelope now = .ok ())
    (htype : envelope.hasType "revocation" = false) :
    ∃ identity, g.requireActiveAgent (envelope.sender.get "id") = .ok identity ∧
      (Uncovered envelope.1 ∧ envelope.hasType "discovery" = false ∨
        ∃ k grant, Exercised g identity envelope now k grant) := by
  simp only [authorizeAgentEnvelope, bind_eq_ok, require_eq_ok, Bool.not_eq_true'] at h
  obtain ⟨identity, hidentity, ⟨⟩, -, ⟨⟩, -, h⟩ := h
  refine ⟨identity, hidentity, ?_⟩
  split at h
  · exact Or.inr (authorizeDiscovery_ok h)
  · rename_i hdiscovery
    simp only [bind_eq_ok, require_eq_ok, Bool.not_eq_true'] at h
    obtain ⟨⟨⟩, hrequired, h⟩ := h
    split at h
    · rename_i hlacks
      rw [hlacks, Bool.and_true] at hrequired
      refine Or.inl ⟨⟨?_, hlacks⟩, by simpa using hdiscovery⟩
      refine type_of_optional (validateEnvelope_type envelope.2) ?_ ?_ hrequired
      · exact fun he => hdiscovery (Envelope.hasType_iff.mpr he)
      · intro he
        rw [Envelope.hasType_iff.mpr he] at htype
        simp at htype
    · exact Or.inr (authorizeCapability_ok h)

theorem authorizeValidatedEnvelope_ok (h : g.authorizeValidatedEnvelope envelope now = .ok ()) :
    now < envelope.expiresAt ∧
      (isAgent envelope.sender = true → g.authorizeAgentEnvelope envelope now = .ok ()) ∧
      (isAgent envelope.recipient = true → ∃ identity, g.requireActiveAgent (envelope.recipient.get "id") = .ok identity) := by
  have hrecipient : ∀ {u : Unit}, (if isAgent envelope.recipient then do
      let _ ← g.requireActiveAgent (envelope.recipient.get "id")
    else pure () : Outcome Unit) = .ok u → isAgent envelope.recipient = true →
      ∃ identity, g.requireActiveAgent (envelope.recipient.get "id") = .ok identity := by
    intro u h hagent
    rw [if_pos hagent] at h
    simp only [bind_eq_ok] at h
    obtain ⟨identity, hidentity, -⟩ := h
    exact ⟨identity, hidentity⟩
  simp only [authorizeValidatedEnvelope, bind_eq_ok, require_eq_ok, decide_eq_true_eq] at h
  obtain ⟨⟨⟩, -, ⟨⟩, hfresh, h⟩ := h
  split at h
  · simp only [bind_eq_ok] at h
    obtain ⟨⟨⟩, hsender, h⟩ := h
    exact ⟨hfresh, fun _ => hsender, hrecipient h⟩
  · rename_i hcomponent
    simp only [bind_eq_ok] at h
    obtain ⟨⟨⟩, -, h⟩ := h
    exact ⟨hfresh, fun hagent => absurd hagent hcomponent, hrecipient h⟩

/-- An accepted agent envelope comes from an active agent, and is covered or uncovered. -/
theorem acceptEnvelope_agent {value result : Json} {consumedAt : ℤ} {g' : Gateway date}
    (h : g.acceptEnvelope value now consumedAt = (.ok result, g')) (hagent : isAgent (field value "sender") = true) :
    ∃ (envelope : Envelope date) (identity : Identity date), envelope.1 = value ∧
      (field value "sender").get "id" = some identity.agentId ∧
      identity.1.get "lifecycle_state" = some (.text "active") ∧
      g.identities.get identity.agentId = some identity ∧
      (Uncovered value ∧ value.get "message_type" ≠ some (.text "discovery") ∨
        ∃ k grant, Exercised g identity envelope now k grant) := by
  obtain ⟨envelope, hvalue, htype, haccept⟩ := acceptEnvelope_ok h
  obtain ⟨hauthorized, -⟩ := acceptValidatedEnvelope_ok haccept
  obtain ⟨-, hsender, -⟩ := authorizeValidatedEnvelope_ok hauthorized
  have hfrom : envelope.sender = field value "sender" := by rw [Envelope.sender, hvalue]
  obtain ⟨identity, hidentity, hcases⟩ := authorizeAgentEnvelope_ok (hsender (by rw [hfrom]; exact hagent)) htype
  obtain ⟨hfound, hactive⟩ := requireActiveAgent_ok hidentity
  obtain ⟨id, hid, hget⟩ := Option.bind_eq_some_iff.mp hfound
  have hkey : identity.agentId = id := Json.eq_of_beq (Registry.key_of_get hget)
  refine ⟨envelope, identity, hvalue, by rw [← hfrom, hid, hkey], hactive, by rw [hkey, hget], ?_⟩
  rcases hcases with ⟨huncovered, hdiscovery⟩ | hexercised
  · rw [hvalue] at huncovered
    refine Or.inl ⟨huncovered, fun he => ?_⟩
    rw [← hvalue] at he
    rw [Envelope.hasType_iff.mpr he] at hdiscovery
    simp at hdiscovery
  · exact Or.inr hexercised

/-! ## Authentication -/

/-- The envelope shows the reference of a registered grant of its sender's, in force. -/
def Authenticated (g : Gateway date) (value : Json) (now : ℤ) : Prop :=
  ∃ k grant, g.grants.get k = some grant ∧ (field value "sender").get "id" = some grant.subject ∧
    grant.hasStatus "active" = true ∧ grant.issuedAt ≤ now ∧ now < grant.expiresAt ∧
    value.get "authentication_ref" = grant.value.get "authentication_ref"

/-- Whatever agent envelope is accepted in a reachable state, unless it is a health or
status message that asks for no capability, it is authenticated. -/
theorem accepted_authenticated (refs : JsMap JsString (List Json)) (guard : ReplayGuard) (ops : List Operation)
    {value result : Json} {now consumedAt : ℤ} {g' : Gateway date}
    (h : (run step (start date refs guard) ops).acceptEnvelope value now consumedAt = (.ok result, g'))
    (hagent : isAgent (field value "sender") = true) (hcovered : ¬ Uncovered value) :
    Authenticated (run step (start date refs guard) ops) value now := by
  obtain ⟨envelope, identity, hvalue, hid, -, -, ⟨huncovered, -⟩ | ⟨k, grant, hexercised⟩⟩ :=
    acceptEnvelope_agent h hagent
  · exact absurd huncovered hcovered
  · refine ⟨k, grant, hexercised.found, ?_, hexercised.active, hexercised.issued, hexercised.unexpired, ?_⟩
    · rw [hid, Json.eq_of_beq hexercised.subject]
    · rw [← hvalue]
      exact hexercised.authentication

/-! ## Chains in force -/

/-- The grant under which the envelope asks for discovery or a capability. -/
def Exercises (value : Json) (k : JsString) : Prop :=
  value.get "authority_ref" = some (.str k) ∧
    (value.get "message_type" = some (.text "discovery") ∨ isNull (value.get "requested_capability") = false)

/-- The grant and all its ancestors are registered, active and unexpired. -/
def ChainLive (g : Gateway date) (now : ℤ) (k : JsString) : Prop :=
  ∀ a, a = k ∨ Forest.Above g.parentOf k a →
    ∃ grant, g.grants.get a = some grant ∧ grant.hasStatus "active" = true ∧ now < grant.expiresAt

/-- No ancestor beyond the parent has expired. -/
def DistantUnexpired (g : Gateway date) (now : ℤ) (k : JsString) : Prop :=
  ∀ p a grant, g.parentOf k = some p → Forest.Above g.parentOf p a → g.grants.get a = some grant →
    now < grant.expiresAt

/-- Every ancestor of an active grant is registered and active. -/
theorem Linked.active_above (h : Linked g) {k a : JsString} {grant : Grant date} (hget : g.grants.get k = some grant)
    (hactive : grant.hasStatus "active" = true) (habove : Forest.Above g.parentOf k a) :
    ∃ ancestor, g.grants.get a = some ancestor ∧ ancestor.hasStatus "active" = true := by
  have hregistered : ∃ ancestor, g.grants.get a = some ancestor ∧
      (ancestor.hasStatus "active" = true ∨ ancestor.hasStatus "revoked" = true) := by
    obtain ⟨b, -, hb⟩ := Relation.TransGen.tail'_iff.mp habove
    obtain ⟨child, hchild, href⟩ := parentOf_eq_some.mp hb
    obtain ⟨parent, hparent, hlink⟩ := h.parents b child a hchild href
    exact ⟨parent, hparent, hlink.delegated⟩
  obtain ⟨ancestor, hancestor, hstatus | hrevoked⟩ := hregistered
  · exact ⟨ancestor, hancestor, hstatus⟩
  · have hgone := h.below_revoked hget habove hancestor hrevoked
    rw [not_active_of_revoked hgone] at hactive
    simp at hactive

/-- An agent envelope accepted in a reachable state exercises a grant whose whole chain is
active and unexpired exactly when no ancestor beyond the parent has expired. -/
theorem accepted_chain_live_iff (refs : JsMap JsString (List Json)) (guard : ReplayGuard) (ops : List Operation)
    {value result : Json} {now consumedAt : ℤ} {g' : Gateway date} {k : JsString}
    (h : (run step (start date refs guard) ops).acceptEnvelope value now consumedAt = (.ok result, g'))
    (hagent : isAgent (field value "sender") = true) (hk : Exercises value k) :
    ChainLive (run step (start date refs guard) ops) now k ↔
      DistantUnexpired (run step (start date refs guard) ops) now k := by
  have hlinked := @run_linked date refs guard ops
  generalize run step (start date refs guard) ops = g at h hlinked
  obtain ⟨envelope, identity, hvalue, -, -, -, ⟨huncovered, hdiscovery⟩ | ⟨k', grant, hexercised⟩⟩ :=
    acceptEnvelope_agent h hagent
  · rcases hk.2 with htype | hasks
    · exact absurd htype hdiscovery
    · rw [huncovered.2] at hasks
      simp at hasks
  · have hkey : k' = k := by
      have hnamed := hexercised.named
      rw [hvalue, hk.1] at hnamed
      simpa using hnamed.symm
    subst hkey
    constructor
    · intro hlive p a ancestor hp habove hancestor
      obtain ⟨found, hfound, -, hunexpired⟩ := hlive a (Or.inr (Relation.TransGen.head hp habove))
      rw [hancestor] at hfound
      cases Option.some.inj hfound
      exact hunexpired
    · rintro hdistant a (rfl | habove)
      · exact ⟨grant, hexercised.found, hexercised.active, hexercised.unexpired⟩
      · obtain ⟨ancestor, hancestor, hactive⟩ := hlinked.active_above hexercised.found hexercised.active habove
        refine ⟨ancestor, hancestor, hactive, ?_⟩
        obtain ⟨p, hp, rfl | hbeyond⟩ := Forest.above_cases habove
        · obtain ⟨child, hchild, href⟩ := parentOf_eq_some.mp hp
          rw [hexercised.found] at hchild
          cases Option.some.inj hchild
          obtain ⟨parent, hparent, -, hunexpired⟩ := hexercised.parent p href
          rw [hancestor] at hparent
          cases Option.some.inj hparent
          exact hunexpired
        · exact hdistant p a ancestor hp hbeyond hancestor

end Gateway

/-! ## Sample acceptances -/

namespace Sample
open Gateway

theorem accepts_request (minute : ℤ) (h : minute = 21 ∨ minute = 23) :
    ∃ result g', (run step (start isoDate references guard) (staffing ++ delegating)).acceptEnvelope request.1
      (at16 minute) (at16 minute) = (.ok result, g') := by
  rw [run_delegating, acceptEnvelope_valid _ _ _ (by decide +kernel)]
  rcases h with rfl | rfl <;> exact accepts_of_isOk (by decide +kernel)

theorem exercises_leaf : Exercises request.1 leaf.grantId :=
  ⟨by simp [request, requestValue, envelope, leaf, List.lookup_cons, Json.text], Or.inr (by decide +kernel)⟩

/-- While the root grant is in force, and no one is beyond it, the chain is live. -/
theorem live_chain_meets : ∃ result g',
    (run step (start isoDate references guard) (staffing ++ delegating)).acceptEnvelope request.1 (at16 21) (at16 21) =
      (.ok result, g') ∧
    (ChainLive (run step (start isoDate references guard) (staffing ++ delegating)) (at16 21) leaf.grantId ↔
      DistantUnexpired (run step (start isoDate references guard) (staffing ++ delegating)) (at16 21) leaf.grantId) := by
  obtain ⟨result, g', h⟩ := accepts_request 21 (Or.inl rfl)
  exact ⟨result, g', h, accepted_chain_live_iff references guard _ h (by decide +kernel) exercises_leaf⟩

/-- One minute after the root grant has expired, a request under the leaf is accepted. -/
theorem expired_root_accepted :
    (∃ result g', (run step (start isoDate references guard) (staffing ++ delegating)).acceptEnvelope request.1
      (at16 23) (at16 23) = (.ok result, g')) ∧ isAgent (field request.1 "sender") = true ∧
    Exercises request.1 leaf.grantId ∧
    ¬ ChainLive (run step (start isoDate references guard) (staffing ++ delegating)) (at16 23) leaf.grantId := by
  refine ⟨accepts_request 23 (Or.inr rfl), by decide +kernel, exercises_leaf, ?_⟩
  rw [run_delegating]
  intro hlive
  have hleaf : delegated.parentOf leaf.grantId = some middle.grantId :=
    parentOf_eq_some.mpr ⟨_, get_leaf, parentRef_leaf⟩
  have hmiddle : delegated.parentOf middle.grantId = some root.grantId :=
    parentOf_eq_some.mpr ⟨_, get_middle, parentRef_middle⟩
  obtain ⟨ancestor, hancestor, -, hunexpired⟩ := hlive root.grantId
    (Or.inr (Relation.TransGen.head hleaf (Relation.TransGen.single hmiddle)))
  rw [get_root] at hancestor
  cases Option.some.inj hancestor
  revert hunexpired
  decide +kernel

/-- The request is authenticated by the leaf grant. -/
theorem request_authenticated : ∃ result g',
    (run step (start isoDate references guard) (staffing ++ delegating)).acceptEnvelope request.1 (at16 21) (at16 21) =
      (.ok result, g') ∧
    Authenticated (run step (start isoDate references guard) (staffing ++ delegating)) request.1 (at16 21) := by
  obtain ⟨result, g', h⟩ := accepts_request 21 (Or.inl rfl)
  refine ⟨result, g', h, accepted_authenticated references guard _ h (by decide +kernel) ?_⟩
  rintro ⟨-, hnull⟩
  revert hnull
  decide +kernel

/-- A status message under a forged reference, where no grant is registered at all. -/
theorem forged_status_accepted :
    (∃ result g', (run step (start isoDate references guard) staffing).acceptEnvelope status.1 (at16 21) (at16 21) =
      (.ok result, g')) ∧ isAgent (field status.1 "sender") = true ∧
    ¬ Authenticated (run step (start isoDate references guard) staffing) status.1 (at16 21) := by
  rw [run_staffing]
  refine ⟨?_, by decide +kernel, ?_⟩
  · rw [acceptEnvelope_valid _ _ _ (by decide +kernel)]
    exact accepts_of_isOk (by decide +kernel)
  · rintro ⟨k, grant, hget, -⟩
    rw [show staffed.grants.get k = none from Registry.get_empty k] at hget
    simp at hget

end Sample

end Agent
