import StrataPortNetwork.Agent.Completeness
import StrataPortNetwork.Agent.Acceptance

/-! # Proposals at a fresh gateway

A gateway with nothing registered takes the capability, the identity and the grant of a proposal
and accepts its envelope; the brainstem approves the envelope with its receipt when the values
repeated in it are the same.
-/
namespace Agent
open Js Discovery Gateway

/-- A gateway that was just constructed. -/
def Gateway.Fresh {date : DateApi} (g : Gateway date) : Prop := ∃ refs maxReplay, Gateway.create date refs maxReplay = .ok g

theorem Gateway.Fresh.start {date : DateApi} {g : Gateway date} (h : g.Fresh) :
    ∃ refs guard, g = Gateway.start date refs guard ∧ guard.entries = JsMap.empty ∧ 1 ≤ guard.maxEntries := by
  obtain ⟨refs, maxReplay, hcreate⟩ := h
  have hguard : ∀ guard, ReplayGuard.create maxReplay = .ok guard → guard.entries = JsMap.empty ∧ 1 ≤ guard.maxEntries := by
    intro guard hguard
    rw [ReplayGuard.create] at hguard
    split at hguard
    all_goals
      simp only [bind_eq_ok, ensure_eq_ok, decide_eq_true_eq, pure_eq_ok] at hguard
      obtain ⟨most, -, ⟨⟩, hmost, rfl⟩ := hguard
      exact ⟨rfl, hmost⟩
  simp only [Gateway.create, bind_eq_ok, pure_eq_ok] at hcreate
  obtain ⟨map, -, guard, hcreated, rfl⟩ := hcreate
  exact ⟨map, guard, rfl, hguard guard hcreated⟩

section
variable {date : DateApi} {g : Gateway date}

theorem registerCapability_new (capability : Capability) (h : g.capabilities.get capability.capabilityId = none) :
    g.registerCapability capability.1 = .ok (capability.1, { g with capabilities := g.capabilities.put capability }) := by
  simp only [registerCapability, bind_eq_ok, require_eq_ok, pure_eq_ok]
  exact ⟨capability, validated_self capability, (), by rw [h]; rfl, rfl⟩

theorem registerIdentity_new (identity : Identity date) (h : g.identities.get identity.agentId = none) :
    g.registerIdentity identity.1 = .ok (identity.1, { g with identities := g.identities.put identity }) := by
  simp only [registerIdentity, bind_eq_ok, require_eq_ok, pure_eq_ok]
  exact ⟨identity, validated_self identity, (), by rw [h]; rfl, rfl⟩

theorem declared_eq {identity : Identity date} {grant : Grant date}
    (h : includes ((field identity.1 "authority").get "grant_refs") (some (.str grant.grantId)) = true) :
    declared identity ⟨grant.value, grant.valid⟩ = .ok grant := by
  obtain ⟨value, valid, grantId, named⟩ := grant
  unfold declared
  split
  · rename_i id hid
    obtain rfl : grantId = id := by simpa using named.symm.trans hid
    rw [if_pos h]
  · rename_i hother
    exact absurd named (hother grantId)

/-- A root grant of a registered identity, for registered capabilities that the identity has. -/
theorem registerAuthorityGrant_new {identity : Identity date} {grant : Grant date}
    (hidentity : g.identities.get grant.subject = some identity)
    (hdeclared : includes ((field identity.1 "authority").get "grant_refs") (some (.str grant.grantId)) = true)
    (hlevel : levelAbove (grant.value.get "authority_level") ((field identity.1 "authority").get "ceiling") = false)
    (hcapabilities : ∀ capabilityId ∈ items (grant.value.get "capability_ids"),
      includes (identity.1.get "capabilities") (some capabilityId) = true ∧
        includes (identity.1.get "prohibited_capabilities") (some capabilityId) = false ∧ g.capabilities.has capabilityId = true)
    (hroot : grant.parentRef = none) (hnew : g.grants.get grant.grantId = none) :
    g.registerAuthorityGrant grant.value = .ok (grant.value, { g with grants := g.grants.put grant }) := by
  have hvalid : validated (validateAuthorityGrant date) grant.value = .ok ⟨grant.value, grant.valid⟩ :=
    validated_self (⟨grant.value, grant.valid⟩ : Validated (validateAuthorityGrant date))
  have hdelegation : g.checkDelegation grant = .ok () := by
    rw [checkDelegation, hroot]
    rfl
  rw [registerAuthorityGrant, hvalid]
  change g.admitGrant ⟨grant.value, grant.valid⟩ = _
  simp only [admitGrant, bind_eq_ok, orThrow_eq_ok, require_eq_ok, pure_eq_ok, List.all_eq_true, Bool.and_eq_true, Bool.not_eq_true']
  refine ⟨identity, hidentity, grant, declared_eq hdeclared, (), hlevel, (), fun c hc => ?_, (), hdelegation, (), ?_, rfl⟩
  · obtain ⟨hhas, hprohibited, hregistered⟩ := hcapabilities c hc
    exact ⟨⟨hhas, hprohibited⟩, hregistered⟩
  · rw [hnew]
    rfl

/-- A proposal that an agent sends to the brainstem, for a capability within its scope and under a root grant of its own. -/
structure Covers (g : Gateway date) (identity : Identity date) (capability : Capability) (grant : Grant date)
    (envelope : Envelope date) (now : ℤ) : Prop where
  type : envelope.1.get "message_type" = some (.text "proposal")
  sender : envelope.sender = principal "agent" identity.agentId
  recipient : envelope.recipient = principal "runtime_component" (.text "brainstem")
  sent : envelope.sentAt = now
  fresh : now < envelope.expiresAt
  agent : ∃ s, identity.agentId = .str s
  identified : g.identities.get identity.agentId = some identity
  active : identity.1.get "lifecycle_state" = some (.text "active")
  requested : envelope.1.get "requested_capability" = capability.1.get "capability_id"
  named : capability.1.get "capability_id" = some capability.capabilityId
  notNull : capability.capabilityId.isNull = false
  registered : g.capabilities.get capability.capabilityId = some capability
  held : includes (identity.1.get "capabilities") (some capability.capabilityId) = true
  permitted : includes (identity.1.get "prohibited_capabilities") (some capability.capabilityId) = false
  allowed : includes ((field identity.1 "execution_scope").get "allowed_capabilities") (some capability.capabilityId) = true
  agentClass : includes (capability.1.get "allowed_agent_classes") (identity.1.get "agent_class") = true
  classification : includes (capability.1.get "data_classifications") (envelope.1.get "data_classification") = true
  authority : envelope.1.get "authority_ref" = some (.str grant.grantId)
  found : g.grants.get grant.grantId = some grant
  subject : (grant.subject == identity.agentId) = true
  authentication : ∃ s, envelope.1.get "authentication_ref" = some (.str s) ∧ grant.value.get "authentication_ref" = some (.str s)
  status : grant.hasStatus "active" = true
  issued : grant.issuedAt = now
  unexpired : now < grant.expiresAt
  granted : includes (grant.value.get "capability_ids") (some capability.capabilityId) = true
  messageType : includes (grant.value.get "message_types") (some (.text "proposal")) = true
  level : levelAbove (capability.1.get "required_authority") (grant.value.get "authority_level") = false
  undelegated : envelope.1.get "delegation_ref" = some .null ∧ grant.value.get "parent_grant_ref" = some .null
  unbudgeted : envelope.1.get "budget_ref" = some .null

theorem field_of_get {v w : Json} {name : String} (h : v.get name = some w) : field v name = w := by
  rw [field, h, Option.getD_some]

theorem parentRef_null {grant : Grant date} (h : grant.value.get "parent_grant_ref" = some .null) : grant.parentRef = none := by
  rw [Grant.parentRef, h]
  rfl

variable {identity : Identity date} {capability : Capability} {grant : Grant date} {envelope : Envelope date} {now : ℤ}

theorem Covers.authorizeCapability (h : Covers g identity capability grant envelope now) :
    g.authorizeCapability identity envelope now = .ok () := by
  obtain ⟨s, hauthentication, hgrant⟩ := h.authentication
  have hexercised : g.exercisedGrant identity envelope = .ok grant := by
    simp only [exercisedGrant, Gateway.grantOf, h.authority, Option.bind_some, Json.str?, h.found, bind_eq_ok, orThrow_eq_ok,
      require_eq_ok, h.subject, hauthentication, hgrant, pure_eq_ok, true_and, exists_const, Option.some.injEq, exists_eq_left']
    exact ⟨Json.some_beq_str_iff.mpr rfl, trivial⟩
  have hparent : g.checkParent grant now = .ok () := by
    rw [checkParent, parentRef_null h.undelegated.2]
    rfl
  have hlacks : envelope.lacks "authority_ref" = false ∧ envelope.lacks "budget_ref" = true := by
    rw [Envelope.lacks, Envelope.lacks, h.authority, h.unbudgeted]
    exact ⟨rfl, rfl⟩
  have hnull : (some Json.null == some Json.null) = true := by decide
  simp only [Gateway.authorizeCapability, bind_eq_ok, orThrow_eq_ok, require_eq_ok, h.requested, h.named, Option.bind_some, h.registered,
    Option.some.injEq, exists_eq_left', h.held, h.permitted, h.allowed, h.agentClass, h.classification, hlacks, hexercised,
    Except.ok.injEq, h.status, h.issued, h.sent, h.granted, Envelope.type, h.type, h.messageType, h.level, h.undelegated, hnull, hparent,
    Bool.and_eq_true, Bool.not_eq_true', decide_eq_false_iff_not, lt_irrefl, not_le.mpr h.unexpired, Bool.true_or, not_false_iff,
    Bool.not_false, and_self, exists_const]

theorem Covers.authorizeAgentEnvelope (h : Covers g identity capability grant envelope now) :
    g.authorizeAgentEnvelope envelope now = .ok () := by
  obtain ⟨s, hauthentication, -⟩ := h.authentication
  have hlacks : envelope.lacks "authentication_ref" = false ∧ envelope.lacks "requested_capability" = false := by
    rw [Envelope.lacks, Envelope.lacks, hauthentication, h.requested, h.named]
    exact ⟨rfl, h.notNull⟩
  have hid : envelope.sender.get "id" = some identity.agentId := h.sender ▸ Json.get_record _ _
  have hactive : g.requireActiveAgent (envelope.sender.get "id") = .ok identity := by
    simp only [requireActiveAgent, hid, Option.bind_some, h.identified, h.active, bind_eq_ok, orThrow_eq_ok, require_eq_ok, pure_eq_ok,
      Option.some.injEq, exists_eq_left', exists_const, and_true]
    exact Json.some_beq_str_iff.mpr rfl
  have hdirect : oneOf (some (.text "proposal")) directAgentExecutionTypes = false := by decide
  have hdiscovery : envelope.hasType "discovery" = false := by
    rw [Envelope.hasType, Envelope.type, h.type]
    decide
  simp only [Gateway.authorizeAgentEnvelope, hactive, bind_eq_ok, Except.ok.injEq, exists_eq_left', require_eq_ok, Envelope.type, h.type,
    hdirect, hlacks, hdiscovery, Bool.and_false, Bool.not_false, if_false, Bool.false_eq_true, h.authorizeCapability, exists_const, and_true]

theorem Covers.authorizeValidatedEnvelope (h : Covers g identity capability grant envelope now) :
    g.authorizeValidatedEnvelope envelope now = .ok () := by
  have hsender : isAgent envelope.sender = true := by
    rw [h.sender, isAgent, principal, Json.get_record]
    exact Json.some_beq_str_iff.mpr rfl
  have hrecipient : isAgent envelope.recipient = false := by
    rw [h.recipient]
    decide
  have hskew : now ≤ now + MAX_FUTURE_SKEW_MS := by
    rw [MAX_FUTURE_SKEW_MS]
    omega
  simp only [Gateway.authorizeValidatedEnvelope, bind_eq_ok, require_eq_ok, h.sent, decide_eq_true_eq, hskew, h.fresh, hsender,
    hrecipient, if_true, if_false, Bool.false_eq_true, h.authorizeAgentEnvelope, pure_eq_ok, exists_const, and_true]

/-- A proposal that is covered is accepted where no nonce was seen, and its receipt repeats its ids. -/
theorem Covers.accepted (h : Covers g identity capability grant envelope now) {messageId correlationId : Json}
    (hmessageId : envelope.1.get "message_id" = some messageId) (hcorrelationId : envelope.1.get "correlation_id" = some correlationId)
    {acceptedAt : JsString} (haccepted : date.toISOString now = some acceptedAt)
    (hparse : parseDate date (some (.str acceptedAt)) = some now)
    (hentries : g.replayGuard.entries = JsMap.empty) (hmost : 1 ≤ g.replayGuard.maxEntries) :
    ∃ g', g.acceptEnvelope envelope.1 now now = (.ok (acceptanceReceipt envelope acceptedAt), g') ∧
      validateProtocolReceipt date (acceptanceReceipt envelope acceptedAt) = .ok () := by
  have htype : envelope.hasType "revocation" = false := by
    rw [Envelope.hasType, Envelope.type, h.type]
    decide
  have hvalid := envelope.2
  simp only [validateEnvelope, bind_eq_ok, requireTest_eq_ok] at hvalid
  obtain ⟨-, -, -, -, -, hmessage, -, -, -, hcorrelation, -, -, -, hnonce, -⟩ := hvalid
  rw [hmessageId] at hmessage
  rw [hcorrelationId] at hcorrelation
  have hreceipt : validateProtocolReceipt date (acceptanceReceipt envelope acceptedAt) = .ok () := by
    have hget : ∀ name, (acceptanceReceipt envelope acceptedAt).get name = _ := fun name => Json.get_record _ _
    have hkeys : exactKeys (some (acceptanceReceipt envelope acceptedAt)) PROTOCOL_RECEIPT_FIELDS "protocol_receipt_fields_invalid" =
      .ok () := exactKeys_record rfl _
    have htrue : (some (Json.bool true) == some (Json.bool true)) = true := by decide
    simp only [validateProtocolReceipt, hkeys, hget, List.lookup_cons, String.reduceBEq, field, hmessageId, hcorrelationId,
      Option.getD_some, bind_eq_ok, require_eq_ok, requireTest_eq_ok, hmessage, hcorrelation, some_text_beq, htrue, timestamp,
      orThrow_eq_ok, hparse, pure_eq_ok, Bool.and_self, exists_const, Option.some.injEq, exists_eq_left', true_and]
  have hkey : ∃ key, envelope.replayKey = some key := by
    obtain ⟨agentId, hagent⟩ := h.agent
    have hsender : joinKey ((field envelope.1 "sender").get "principal_type") ((field envelope.1 "sender").get "id") =
        some (js "agent" ++ js ":" ++ agentId) := by
      rw [show field envelope.1 "sender" = principal "agent" identity.agentId from h.sender, hagent]
      rfl
    rw [Envelope.replayKey, replayKeyOf, hsender, Option.bind_some, joinKey]
    cases hget : envelope.1.get "nonce" with
    | none => exact ⟨_, rfl⟩
    | some nonce =>
      rw [hget, Regex.test, Option.map_eq_some_iff] at hnonce
      obtain ⟨s, hs, -⟩ := hnonce
      have htext : (some nonce).elim (some (js "undefined")) Json.toStr? = some s := hs
      rw [htext]
      exact ⟨_, rfl⟩
  obtain ⟨key, hkey⟩ := hkey
  have hprotocol : protocolReceipt envelope now = .ok (acceptanceReceipt envelope acceptedAt) := by
    simp [protocolReceipt, haccepted, hreceipt]
  have hconsume : ∃ guard, g.replayGuard.consume key envelope.expiresAt now = (.ok (), guard) := by
    have hprune : (g.replayGuard.prune now).entries = JsMap.empty := by
      rw [ReplayGuard.prune, hentries]
      rfl
    have hroom : ¬ g.replayGuard.maxEntries ≤ (g.replayGuard.prune now).entries.size := by
      rw [hprune]
      exact not_le.mpr (Int.lt_of_lt_of_le Int.zero_lt_one hmost)
    have hnew : (g.replayGuard.prune now).has key = false := by
      rw [ReplayGuard.has, hprune]
      rfl
    have hsame : (g.replayGuard.prune now).maxEntries = g.replayGuard.maxEntries := rfl
    rw [ReplayGuard.consume, hnew, hsame, if_neg Bool.false_ne_true, if_neg hroom]
    exact ⟨_, rfl⟩
  obtain ⟨guard, hconsume⟩ := hconsume
  refine ⟨{ g with replayGuard := guard }, ?_, hreceipt⟩
  rw [acceptEnvelope_valid _ _ _ htype, acceptValidatedEnvelope, h.authorizeValidatedEnvelope, hkey]
  simp only [hconsume, hprotocol]

end

/-! ## Proposals of companions -/

section
variable {engine : Engine} {options : CompanionOptions} {request : Request} {capabilityId owner action risk contract : String}
  {seed : JsString} {now : ℤ} {period : Period}

/-- A proposal that its envelope carries is accepted at a fresh gateway. -/
theorem accepted_of_carried (hsound : options.Sound engine.date) (hrequest : request.IsProposal capabilityId)
    (hissued : toISOString now = some period.issuedAt) (hexpires : toISOString (now + 120000) = some period.expiresAt)
    (hcarried : request.Carried) (hcapability : validateCapability (proposalCapability capabilityId owner action risk contract) = .ok ())
    {g : Gateway engine.date} (hfresh : g.Fresh) :
    ∃ g₁ g₂ g₃ g₄ receipt,
      g.registerCapability (proposalCapability capabilityId owner action risk contract) =
        .ok (proposalCapability capabilityId owner action risk contract, g₁) ∧
      g₁.registerIdentity (proposalArtifacts engine options request capabilityId seed period).identity =
        .ok ((proposalArtifacts engine options request capabilityId seed period).identity, g₂) ∧
      g₂.registerAuthorityGrant (proposalArtifacts engine options request capabilityId seed period).grant =
        .ok ((proposalArtifacts engine options request capabilityId seed period).grant, g₃) ∧
      g₃.acceptEnvelope (proposalArtifacts engine options request capabilityId seed period).envelope now now = (.ok receipt, g₄) ∧
      validateProtocolReceipt engine.date receipt = .ok () ∧
      receipt.get "message_id" = some (.str (js "kindred-message-" ++ engine.digestOf (js "message" ++ 58 :: seed))) ∧
      receipt.get "correlation_id" = some request.correlationId ∧ receipt.get "accepted_at" = some (.str period.issuedAt) := by
  generalize hart : proposalArtifacts engine options request capabilityId seed period = art
  have hgrantValue : art.grant = grantOf request (.str options.agentId) (engine.digestOf (js "grant" ++ 58 :: seed))
    (engine.digestOf (js "authref" ++ 58 :: seed)) period.issuedAt period.expiresAt := hart ▸ rfl
  have hidentityValue : art.identity = options.identity [.text capabilityId] [field art.grant "grant_id"] [] := hart ▸ rfl
  have henvelopeValue : art.envelope = envelopeOf request (.str options.agentId) art.grant (engine.digestOf (js "message" ++ 58 :: seed))
    (engine.digestOf (js "nonce" ++ 58 :: seed)) period.issuedAt period.expiresAt := hart ▸ rfl
  have hgrantId : art.grant.get "grant_id" = some (.str (js "kindred-grant-" ++ engine.digestOf (js "grant" ++ 58 :: seed))) :=
    hgrantValue ▸ Json.get_record _ _
  have hgrantIdField : field art.grant "grant_id" = .str (js "kindred-grant-" ++ engine.digestOf (js "grant" ++ 58 :: seed)) := by
    rw [field, hgrantId, Option.getD_some]
  have hvalidGrant : validateAuthorityGrant engine.date art.grant = .ok () :=
    hgrantValue ▸ valid_grantOf engine hrequest hsound.agent hissued hexpires _ _
  have hvalidIdentity : validateAgentIdentity engine.date art.identity = .ok () :=
    hart ▸ @valid_proposalIdentity engine options request capabilityId seed period hsound hrequest
  have hvalidEnvelope : validateEnvelope engine.date art.envelope = .ok () :=
    henvelopeValue ▸ (validateEnvelope_envelopeOf_iff engine hrequest hsound.agent hissued hexpires _ _ _ _ hgrantValue).mpr hcarried
  let capability : Capability := ⟨_, hcapability⟩
  let identity : Identity engine.date := ⟨art.identity, hvalidIdentity⟩
  let grant : Grant engine.date := ⟨art.grant, hvalidGrant, _, hgrantId⟩
  let envelope : Envelope engine.date := ⟨art.envelope, hvalidEnvelope⟩
  obtain ⟨refs, guard, rfl, hentries, hmost⟩ := hfresh.start
  have htext : ∀ s : String, (Json.text s == .text s) = true := fun s => (Json.str_beq_str (js s) (js s)).mpr rfl
  have hsingle : ∀ v : Json, (v == v) = true → includes (some (.arr [v])) (some v) = true := fun v hv => by
    rw [includes, Option.any_some, List.contains_iff_exists_mem_beq]
    exact ⟨v, List.mem_singleton.mpr rfl, hv⟩
  have hidentityGet : ∀ name, identity.1.get name = _ := fun name => (congrArg (Json.get · name) hidentityValue).trans (Json.get_record _ _)
  have hgrantGet : ∀ name, grant.value.get name = _ := fun name => (congrArg (Json.get · name) hgrantValue).trans (Json.get_record _ _)
  have henvelopeGet : ∀ name, envelope.1.get name = _ := fun name =>
    (congrArg (Json.get · name) henvelopeValue).trans (Json.get_record _ _)
  have hcapabilityGet : ∀ name, capability.1.get name = _ := fun name => Json.get_record _ _
  have hagentId : identity.agentId = .str options.agentId := field_of_get (hidentityGet "agent_id")
  have hcapabilityId : capability.capabilityId = .text capabilityId := field_record _ _
  have hsubject : grant.subject = .str options.agentId := field_of_get (hgrantGet "subject_agent_id")
  have hauthority : field identity.1 "authority" = .record [("issuer_component", .text "brainstem"),
      ("grant_refs", .arr [field art.grant "grant_id"]), ("ceiling", .text "user_delegated")] :=
    field_of_get (hidentityGet "authority")
  have hsame : (identity.agentId == .str options.agentId) = true := hagentId ▸ (Json.str_beq_str _ _).mpr rfl
  have hcapabilities : identity.1.get "capabilities" = some (.arr [.text capabilityId]) := hidentityGet "capabilities"
  have hprohibited : includes (identity.1.get "prohibited_capabilities") (some (.text capabilityId)) = false := by
    change includes (art.identity.get "prohibited_capabilities") _ = false
    rw [hidentityValue] at hvalidIdentity ⊢
    exact (validateAgentIdentity_identity_iff.mp hvalidIdentity).2.2.2 _ (List.mem_singleton.mpr rfl)
  have hidentified : (Registry.empty.put identity : Registry Json (Identity engine.date) Identity.agentId).get (.str options.agentId) =
      some identity := by
    rw [Registry.get_put, if_pos hsame]
  have hregistered : (Registry.empty.put capability : Registry Json Capability Capability.capabilityId).get (.text capabilityId) =
      some capability := by
    rw [Registry.get_put, if_pos (hcapabilityId ▸ htext _)]
  have hlevel : levelAbove (some (.text "user_delegated")) (some (.text "user_delegated")) = false := by decide
  have hparent : grant.value.get "parent_grant_ref" = some .null := hgrantGet "parent_grant_ref"
  have hclassification : envelope.1.get "data_classification" = some (.text "confidential") :=
    (henvelopeGet "data_classification").trans (congrArg (fun s => some (Json.text s)) hrequest.classification)
  have htype : envelope.1.get "message_type" = some (.text "proposal") :=
    (henvelopeGet "message_type").trans (congrArg (fun s => some (Json.text s)) hrequest.messageType)
  have hrequested : envelope.1.get "requested_capability" = some (.text capabilityId) :=
    (henvelopeGet "requested_capability").trans (congrArg some hrequest.capability)
  have hauthorityRef : envelope.1.get "authority_ref" = some (.str grant.grantId) :=
    (henvelopeGet "authority_ref").trans (congrArg some hgrantIdField)
  have hauthentication : envelope.1.get "authentication_ref" =
      some (.str (js "kindred-authref-" ++ engine.digestOf (js "authref" ++ 58 :: seed))) :=
    (henvelopeGet "authentication_ref").trans (congrArg some (field_of_get (hgrantGet "authentication_ref")))
  have hcapabilityIds : grant.value.get "capability_ids" = some (.arr [.text capabilityId]) :=
    (hgrantGet "capability_ids").trans (congrArg (fun ids => some (Json.arr ids)) hrequest.capabilityIds)
  have hmessageTypes : grant.value.get "message_types" = some (.arr [.text "proposal"]) :=
    (hgrantGet "message_types").trans (congrArg (fun s => some (Json.arr [.text s])) hrequest.messageType)
  have hsent : envelope.sentAt = now := timeOf_iso (henvelopeGet "timestamp") hissued
  have hexpiry : envelope.expiresAt = now + 120000 := timeOf_iso (henvelopeGet "expires_at") hexpires
  have hissuedAt : grant.issuedAt = now := timeOf_iso (hgrantGet "issued_at") hissued
  have hexpiresAt : grant.expiresAt = now + 120000 := timeOf_iso (hgrantGet "expires_at") hexpires
  let g₁ : Gateway engine.date := { Gateway.start engine.date refs guard with capabilities := Registry.empty.put capability }
  let g₂ : Gateway engine.date := { g₁ with identities := Registry.empty.put identity }
  let g₃ : Gateway engine.date := { g₂ with grants := Registry.empty.put grant }
  have hcapabilityRegistered : (Gateway.start engine.date refs guard).registerCapability capability.1 = .ok (capability.1, g₁) :=
    registerCapability_new capability rfl
  have hidentityRegistered : g₁.registerIdentity identity.1 = .ok (identity.1, g₂) := registerIdentity_new identity rfl
  have hgrantRegistered : g₂.registerAuthorityGrant grant.value = .ok (grant.value, g₃) := by
    refine registerAuthorityGrant_new (hsubject ▸ hidentified) ?_ ?_ ?_ (parentRef_null hparent) rfl
    · rw [hauthority, Json.get_record]
      change includes (some (.arr [field art.grant "grant_id"])) _ = true
      rw [hgrantIdField]
      exact hsingle _ ((Json.str_beq_str _ _).mpr rfl)
    · rw [hauthority, Json.get_record, hgrantGet "authority_level"]
      exact hlevel
    · intro c hc
      rw [hcapabilityIds] at hc
      obtain rfl := List.mem_singleton.mp hc
      refine ⟨hcapabilities ▸ hsingle _ (htext _), hprohibited, ?_⟩
      exact JsMap.has_iff.mpr ⟨capability, hregistered⟩
  have hcovers : Covers g₃ identity capability grant envelope now := {
    type := htype
    sender := (field_of_get (henvelopeGet "sender")).trans (congrArg (principal "agent") hagentId.symm)
    recipient := field_of_get (henvelopeGet "recipient")
    sent := hsent
    fresh := by omega
    agent := ⟨_, hagentId⟩
    identified := hagentId ▸ hidentified
    active := hidentityGet "lifecycle_state"
    requested := hrequested.trans (hcapabilityGet "capability_id").symm
    named := (hcapabilityGet "capability_id").trans (congrArg some hcapabilityId.symm)
    notNull := by rw [hcapabilityId]; rfl
    registered := hcapabilityId ▸ hregistered
    held := by rw [hcapabilityId, hcapabilities]; exact hsingle _ (htext _)
    permitted := hcapabilityId ▸ hprohibited
    allowed := by
      rw [hcapabilityId, show field identity.1 "execution_scope" = _ from field_of_get (hidentityGet "execution_scope"), Json.get_record]
      exact hsingle _ (htext _)
    agentClass := by
      rw [hcapabilityGet "allowed_agent_classes", hidentityGet "agent_class"]
      exact hsingle _ (htext _)
    classification := by
      rw [hcapabilityGet "data_classifications", hclassification]
      exact hsingle _ (htext _)
    authority := hauthorityRef
    found := by rw [Registry.get_put, if_pos (beq_self_eq_true _)]
    subject := hsubject ▸ hagentId ▸ (Json.str_beq_str _ _).mpr rfl
    authentication := ⟨_, hauthentication, hgrantGet "authentication_ref"⟩
    status := by
      rw [Grant.hasStatus, hgrantGet "status"]
      exact some_text_beq _
    issued := hissuedAt
    unexpired := by omega
    granted := by rw [hcapabilityId, hcapabilityIds]; exact hsingle _ (htext _)
    messageType := by rw [hmessageTypes]; exact hsingle _ (htext _)
    level := by
      rw [hcapabilityGet "required_authority", hgrantGet "authority_level"]
      exact hlevel
    undelegated := ⟨henvelopeGet "delegation_ref", hparent⟩
    unbudgeted := henvelopeGet "budget_ref"
  }
  obtain ⟨g₄, haccepted, hreceipt⟩ := hcovers.accepted (henvelopeGet "message_id") (henvelopeGet "correlation_id") hissued
    (dateParse_toISOString engine.otherDate hissued) hentries hmost
  refine ⟨g₁, g₂, g₃, g₄, _, hcapabilityRegistered, hidentityRegistered, hgrantRegistered, haccepted, hreceipt, ?_, ?_,
    Json.get_record _ _⟩
  · exact (Json.get_record _ _).trans (congrArg some (field_of_get (henvelopeGet "message_id")))
  · exact (Json.get_record _ _).trans (congrArg some (field_of_get (henvelopeGet "correlation_id")))

end

/-! ## Approvals -/

namespace Brainstem
variable {engine : Engine} {kind : Kind} {input : Input} {now : ℚ}

theorem inspect_allowed (henvelope : validateEnvelope engine.date input.envelope = .ok ())
    (hproposal : kind.validateProposal engine input.payload = .ok ()) (hroute : kind.routeValid input.envelope = true)
    (hreceipt : validateAdmissionReceipt engine.date input.protocolReceipt input.envelope now = true)
    (hidentity : validateAgentIdentity engine.date input.identity = .ok ())
    (hactive : input.identity.get "lifecycle_state" = some (.text "active"))
    (hscope : kind.scopeValid input.identity input.envelope = true) :
    inspect engine kind input now = ⟨some input.envelope, kind.allowed⟩ := by
  have hok : ∀ {x : Outcome Unit}, x = .ok () → x.isOk = true := by
    rintro x rfl
    rfl
  simp only [inspect, hok henvelope, hok hproposal, hroute, hreceipt, hok hidentity, hactive, some_text_beq, hscope, Bool.and_self,
    Bool.not_true, Bool.false_eq_true, if_false]

theorem fallback_passes {pattern : Regex} (hproper : Proper pattern) {v : Json} (h : pattern.test (some v) = some true) (default : String) :
    fallback pattern (some v) default = .ok v := by
  have hnull : v.isNull = false := by
    cases v with
    | null =>
      have hfalse : pattern.test (some .null) = some false := congrArg some hproper.null
      rw [hfalse] at h
      cases h
    | bool _ | num _ | str _ | arr _ | obj _ => rfl
  exact fallback_tested hnull h

/-- An allowed proposal is approved. -/
theorem decide_allowed (hkind : kind = communication ∨ kind = memory) (hnow : input.now = some now)
    (hinspected : inspect engine kind input now = ⟨some input.envelope, kind.allowed⟩) {messageId : JsString} {correlationId : Json}
    (hmessageId : input.envelope.get "message_id" = some (.str messageId))
    (hcorrelationId : input.envelope.get "correlation_id" = some correlationId) {decidedAt : JsString}
    (hdecided : isoText engine.date now = some decidedAt) :
    ∃ decision, decide engine kind input = .ok decision ∧ isApproved decision = true := by
  obtain ⟨happroved, -⟩ := inspect_reason hkind hinspected
  obtain ⟨-, happrovable, -, -⟩ := happroved (beq_self_eq_true _)
  have hvalid := happrovable.envelope
  simp only [validateEnvelope, bind_eq_ok, requireTest_eq_ok, hmessageId, hcorrelationId] at hvalid
  obtain ⟨-, -, -, -, -, hmessage, -, -, -, hcorrelation, -⟩ := hvalid
  have hmessageAccepts : messageIdPattern.accepts messageId = true := by simpa using hmessage
  have htexts : ∀ v ∈ [.str messageId, correlationId, .text kind.allowed], elementText? v = some (textIn v) := by
    simp only [List.forall_mem_cons, List.not_mem_nil, false_implies, implies_true, and_true]
    exact ⟨rfl, (elementText_of_test proper_reference.null hcorrelation).1, rfl⟩
  have hdigest : digest engine kind.label [.str messageId, correlationId, .text kind.allowed] =
      .ok (engine.digestOf (seedOf kind.label [.str messageId, correlationId, .text kind.allowed])) := by
    rw [digest, digestText_eq htexts]
    rfl
  have hdecision := validateDecision_decisionOf hkind (fun _ : true = true => ⟨rfl, happrovable⟩) (fun h => absurd h (by decide))
    hmessageAccepts hcorrelation (seedOf kind.label [.str messageId, correlationId, .text kind.allowed]) hdecided
  refine ⟨_, decide_eq_ok_iff.mpr ⟨now, .str messageId, correlationId,
    engine.digestOf (seedOf kind.label [.str messageId, correlationId, .text kind.allowed]), decidedAt, hnow, ?_, ?_, ?_, hdecided,
    hdecision, ?_⟩, isApproved_decisionOf hkind⟩
  · exact hmessageId ▸ fallback_passes proper_messageId hmessage _
  · exact hcorrelationId ▸ fallback_passes proper_reference hcorrelation _
  · rw [hinspected, Option.bind_some, Option.bind_some, hmessageId, hcorrelationId]
    exact hdigest
  · rw [hinspected, Option.bind_some, Option.bind_some, hmessageId, hcorrelationId, beq_self_eq_true]
    rfl

/-- What is approved was routed as its kind asks. -/
theorem route_of_approved (hkind : kind = communication ∨ kind = memory) {decision : Json}
    (hdecision : decide engine kind input = .ok decision) (happroved : isApproved decision = true) :
    Approvable engine kind input := by
  obtain ⟨now, message, correlation, decisionDigest, decidedAt, -, -, -, -, -, -, rfl⟩ := decide_eq_ok_iff.mp hdecision
  rw [isApproved_decisionOf hkind] at happroved
  obtain ⟨hallowed, -⟩ := @inspect_reason engine kind input now hkind _ rfl
  exact (hallowed happroved).2.1

end Brainstem

end Agent
