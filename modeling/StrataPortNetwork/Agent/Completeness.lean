import StrataPortNetwork.Agent.Companions

/-! # Proposals that are approved

A proposal that passes its own validator goes into an envelope, through a fresh gateway and before
the brainstem, and each of them validates it again. It is approved exactly when its references are
strings, its content has no line breaks and its time and its companion are what the later checks take.
-/
namespace Agent
open Js Discovery Check

/-! ## Times -/

section
variable {engine : Engine}

/-- A time value is written as it is. -/
theorem isoText_int (now : ℤ) : isoText engine.date now = toISOString now := by
  have hcast : (-(maxTime : ℚ) ≤ (now : ℚ) ∧ (now : ℚ) ≤ maxTime) ↔ now.natAbs ≤ maxTime := by
    have hbounds : (-(maxTime : ℤ) ≤ now ∧ now ≤ maxTime) ↔ now.natAbs ≤ maxTime := by omega
    rw [← hbounds]
    norm_cast
  rw [isoText]
  split
  · have hwhole : (if (0 : ℚ) ≤ now then Rat.floor now else Rat.ceil now) = now := by
      split
      · exact Rat.floor_intCast now
      · exact Rat.ceil_intCast now
    rw [hwhole]
    rfl
  · rename_i hrange
    rw [hcast, ← toISOString_isSome, Option.not_isSome_iff_eq_none] at hrange
    exact hrange.symm

/-- Both times of a proposal are in the range of dates. -/
def Dated (now : ℤ) : Prop := -(maxTime : ℤ) ≤ now ∧ now + 120000 ≤ maxTime

theorem periodOf_int_iff {now : ℤ} {period : Period} : periodOf engine (now : ℚ) = .ok period ↔
    toISOString now = some period.issuedAt ∧ toISOString (now + 120000) = some period.expiresAt := by
  have hlater : (now : ℚ) + TTL_MS = ((now + 120000 : ℤ) : ℚ) := by
    rw [TTL_MS]
    push_cast
    norm_num
  obtain ⟨issuedAt, expiresAt⟩ := period
  simp only [periodOf, hlater, isoText_int, bind_eq_ok, orThrow_eq_ok, pure_eq_ok, Period.mk.injEq]
  constructor
  · rintro ⟨_, hissued, _, hexpires, rfl, rfl⟩
    exact ⟨hissued, hexpires⟩
  · rintro ⟨hissued, hexpires⟩
    exact ⟨_, hissued, _, hexpires, rfl, rfl⟩

theorem exists_period_iff {now : ℤ} : (∃ period : Period, toISOString now = some period.issuedAt ∧
    toISOString (now + 120000) = some period.expiresAt) ↔ Dated now := by
  have hrange : ∀ t : ℤ, (∃ s, toISOString t = some s) ↔ t.natAbs ≤ maxTime := fun t => by
    rw [← Option.isSome_iff_exists, toISOString_isSome]
  have hdated : Dated now ↔ now.natAbs ≤ maxTime ∧ (now + 120000).natAbs ≤ maxTime := by
    rw [Dated]
    omega
  rw [hdated, ← hrange, ← hrange]
  exact ⟨fun ⟨p, hissued, hexpires⟩ => ⟨⟨_, hissued⟩, _, hexpires⟩, fun ⟨⟨_, hissued⟩, _, hexpires⟩ => ⟨⟨_, _⟩, hissued, hexpires⟩⟩

theorem timestamp_iso {t : ℤ} {s : JsString} (h : toISOString t = some s) (reasonClass : String) :
    timestamp engine.date (some (.str s)) reasonClass = .ok t := by
  rw [timestamp, orThrow_eq_ok]
  exact dateParse_toISOString engine.otherDate h

theorem timeOf_iso {v : Json} {name : String} {t : ℤ} {s : JsString} (hv : v.get name = some (.str s)) (h : toISOString t = some s) :
    timeOf engine.date v name = t := by
  have hparse : parseDate engine.date (some (.str s)) = some t := dateParse_toISOString engine.otherDate h
  rw [timeOf, hv, hparse, Option.getD_some]

end

/-! ## Envelopes -/

/-- The parts of a request that proposals have in common. -/
structure Request.IsProposal (request : Request) (capabilityId : String) : Prop where
  labels : request.labels = ("grant", "authref", "message", "nonce")
  capabilityIds : request.capabilityIds = [.text capabilityId]
  messageType : request.messageType = "proposal"
  classification : request.classification = "confidential"
  capability : request.capability = .text capabilityId
  accepted : capabilityIdPattern.accepts (js capabilityId) = true
  bounded : boundedString (some (.text capabilityId)) 3 128 = true
  permission : boundedString (some (.text request.permission)) 3 128 = true
  permitted : capabilityId ∉ ["direct_memory_commit", "direct_tool_execution", "direct_value_movement", "founder_authority"]

/-- What the validator of envelopes leaves to the proposal. -/
structure Request.Carried (request : Request) : Prop where
  correlation : opaqueReferencePattern.test (some request.correlationId) = some true
  causation : nullableReference (some request.causationId) (some opaqueReferencePattern) = true
  evidence : uniqueStrings (some (.arr request.evidenceRefs)) 64 0 = true
  isRecord : request.payload.isRecord = true
  payload : validatePayload request.payload 0 = .ok ()
  size : (utf8Encode (stringify request.payload)).length ≤ MAX_PAYLOAD_BYTES

theorem some_text_beq (s : String) : (some (Json.text s) == some (.text s)) = true := Json.some_beq_str_iff.mpr rfl

/-- The units of a reference. -/
theorem units_of_reference {s : JsString} (h : opaqueReferencePattern.accepts s = true) : 8 ≤ s.length ∧ s.length ≤ 128 ∧
    ∀ u ∈ s, 45 ≤ u.toNat ∧ u.toNat ≤ 122 ∧ u.toNat ≠ 92 := by
  obtain ⟨first, rest, rfl, hfirst, hrest⟩ := Regex.matches_seq.mp ((Regex.accepts_iff _ _).mp h)
  obtain ⟨hfirstUnits, hone, hone'⟩ := Regex.matches_run.mp hfirst
  obtain ⟨hrestUnits, hleast, hmost⟩ := Regex.matches_run.mp hrest
  rw [List.length_append]
  refine ⟨by omega, by omega, fun u hu => ?_⟩
  have hmem : (Regex.upper ++ Regex.lower ++ Regex.digits ++ [(46, 46), (95, 95), (58, 58), (45, 45)] : CharClass).has u = true := by
    rcases List.mem_append.mp hu with hu | hu
    · rw [CharClass.has, List.any_append]
      exact Bool.or_eq_true_iff.mpr (.inl (hfirstUnits u hu))
    · exact hrestUnits u hu
  simp only [Regex.upper, Regex.lower, Regex.digits, CharClass.has, List.cons_append, List.nil_append, List.any_cons, List.any_nil,
    Bool.or_eq_true, Bool.and_eq_true, decide_eq_true_eq, Bool.or_false] at hmem
  omega

/-- What can stand as a reference is bounded. -/
theorem bounded_of_reference {s : JsString} (h : opaqueReferencePattern.accepts s = true) :
    boundedString (some (.str s)) 3 128 = true := by
  obtain ⟨hleast, hmost, hunits⟩ := units_of_reference h
  refine boundedString_str.mpr ⟨by omega, hmost, fun u hu => ?_⟩
  have := hunits u hu
  omega

theorem nullableReference_str {pattern : Regex} {s : JsString} (hreference : opaqueReferencePattern.accepts s = true)
    (h : pattern.accepts s = true) : nullableReference (some (.str s)) (some pattern) = true := by
  simp [nullableReference, bounded_of_reference hreference, h]

section
variable (engine : Engine) {request : Request} {capabilityId : String} {agentId : JsString} {now : ℤ} {period : Period}
  (hrequest : request.IsProposal capabilityId) (hagent : agentIdPattern.accepts agentId = true)
  (hissued : toISOString now = some period.issuedAt) (hexpires : toISOString (now + 120000) = some period.expiresAt)
include hrequest hagent hissued hexpires

/-- The grant of a proposal passes its validator. -/
theorem valid_grantOf (grantText authrefText : JsString) : validateAuthorityGrant engine.date (grantOf request (.str agentId)
    (engine.digestOf grantText) (engine.digestOf authrefText) period.issuedAt period.expiresAt) = .ok () := by
  have hget : ∀ name, (grantOf request (.str agentId) (engine.digestOf grantText) (engine.digestOf authrefText) period.issuedAt
      period.expiresAt).get name = _ := fun name => Json.get_record _ _
  have hkeys : exactKeys (some (grantOf request (.str agentId) (engine.digestOf grantText) (engine.digestOf authrefText) period.issuedAt
    period.expiresAt)) AUTHORITY_GRANT_FIELDS "authority_grant_fields_invalid" = .ok () := Gateway.exactKeys_record rfl _
  have hid : grantIdPattern.accepts (js "kindred-grant-" ++ engine.digestOf grantText) = true :=
    engine.accepts_digest "kindred-grant-" (by decide) (by decide) grantText
  have hauthref : authenticationReferencePattern.accepts (js "kindred-authref-" ++ engine.digestOf authrefText) = true :=
    engine.accepts_digest "kindred-authref-" (by decide) (by decide) authrefText
  have hissuer : boundedString (some (.text "kindred-component-brainstem")) 8 128 = true := by decide +kernel
  have hmembers : membersOf (some (.arr [.text "proposal"])) MESSAGE_TYPES = true ∧ uniqueStrings (some (.arr [])) 64 0 = true := by
    decide +kernel
  have hlevels : "user_delegated" ∈ AUTHORITY_LEVELS ∧ "active" ∈ ["active", "suspended", "revoked"] := by decide
  have hactive : (some (Json.text "active") == some (.text "revoked")) = false := by decide
  have hnull : nullableReference (some .null) (some grantIdPattern) = true ∧ isNull (some .null) = true := ⟨rfl, rfl⟩
  have hnone : optionalTimestamp engine.date (some .null) "authority_grant_timestamp_invalid" = .ok () := rfl
  have hlater : now < now + 120000 := by omega
  rw [validateAuthorityGrant_eq, Check.runAll_eq_ok]
  simp only [grantChecks, List.forall_mem_cons, Check.run, hkeys, hget, List.lookup_cons, String.reduceBEq, require_eq_ok, requireTest_eq_ok,
    some_text_beq, test_str, hid, hauthref, hagent, hissuer, hmembers, hrequest.capabilityIds, hrequest.messageType, uniqueStrings_single,
    hrequest.bounded, hrequest.permission, hlevels, oneOf_text, hactive, hnull, hnone, Bool.and_eq_true, bind_eq_ok,
    timestamp_iso hissued, timestamp_iso hexpires, Except.ok.injEq, exists_eq_left', hlater, decide_true, Bool.not_true, beq_self_eq_true,
    true_and, List.not_mem_nil, false_implies, implies_true]

/-- The envelope of a proposal passes its validator exactly when it can carry the proposal. -/
theorem validateEnvelope_envelopeOf_iff {grant : Json} (grantText authrefText messageText nonceText : JsString)
    (hgrant : grant = grantOf request (.str agentId) (engine.digestOf grantText) (engine.digestOf authrefText) period.issuedAt
      period.expiresAt) : validateEnvelope engine.date (envelopeOf request (.str agentId) grant (engine.digestOf messageText)
        (engine.digestOf nonceText) period.issuedAt period.expiresAt) = .ok () ↔ request.Carried := by
  have hget : ∀ name, (envelopeOf request (.str agentId) grant (engine.digestOf messageText) (engine.digestOf nonceText) period.issuedAt
      period.expiresAt).get name = _ := fun name => Json.get_record _ _
  have hkeys : exactKeys (some (envelopeOf request (.str agentId) grant (engine.digestOf messageText) (engine.digestOf nonceText)
      period.issuedAt period.expiresAt)) ENVELOPE_FIELDS "envelope_fields_invalid" = .ok () := Gateway.exactKeys_record rfl _
  have hgrantId : field grant "grant_id" = .str (js "kindred-grant-" ++ engine.digestOf grantText) := hgrant ▸ field_record _ _
  have hauthref : field grant "authentication_ref" = .str (js "kindred-authref-" ++ engine.digestOf authrefText) :=
    hgrant ▸ field_record _ _
  have hid : messageIdPattern.accepts (js "kindred-message-" ++ engine.digestOf messageText) = true :=
    engine.accepts_digest "kindred-message-" (by decide) (by decide) messageText
  have hgrantRef : nullableReference (some (.str (js "kindred-grant-" ++ engine.digestOf grantText))) (some grantIdPattern) = true := by
    have haccepts : grantIdPattern.accepts (js "kindred-grant-" ++ engine.digestOf grantText) = true :=
      engine.accepts_digest "kindred-grant-" (by decide) (by decide) grantText
    exact nullableReference_str (reference_of_id (by decide) (by decide) (by decide) (by decide) haccepts) haccepts
  have hauthentication : nullableReference (some (.str (js "kindred-authref-" ++ engine.digestOf authrefText)))
      (some authenticationReferencePattern) = true := by
    have haccepts : authenticationReferencePattern.accepts (js "kindred-authref-" ++ engine.digestOf authrefText) = true :=
      engine.accepts_digest "kindred-authref-" (by decide) (by decide) authrefText
    exact nullableReference_str (reference_of_id (by decide) (by decide) (by decide) (by decide) haccepts) haccepts
  have hnonce : noncePattern.accepts (engine.digestOf nonceText) = true :=
    (Regex.accepts_iff _ _).mpr (.run (engine.digestOf_units nonceText) (by simp) (by simp))
  have hcapability : nullableReference (some (.text capabilityId)) (some capabilityIdPattern) = true := by
    have htest : capabilityIdPattern.test (some (.text capabilityId)) = some true := congrArg some hrequest.accepted
    simp [nullableReference, hrequest.bounded, htest]
  have hnull : ∀ pattern, nullableReference (some .null) pattern = true := fun _ => rfl
  have hmembers : "proposal" ∈ MESSAGE_TYPES ∧ "confidential" ∈ DATA_CLASSIFICATIONS := by decide
  have hsender : validatePrincipal (some (principal "agent" (.str agentId))) = .ok () := by
    have htype : (principal "agent" (.str agentId)).get "principal_type" = some (.text "agent") := Json.get_record _ _
    have htest : agentIdPattern.test ((principal "agent" (.str agentId)).get "id") = some true := congrArg some hagent
    have hmember : "agent" ∈ ["agent", "runtime_component"] := by decide
    simp only [validatePrincipal, Option.getD_some, bind_eq_ok, require_eq_ok, htype, some_text_beq, oneOf_text, hmember, if_true,
      requireTest_eq_ok, htest, and_true]
    exact ⟨(), Gateway.exactKeys_record rfl _, (), trivial⟩
  have hrecipient : validatePrincipal (some (principal "runtime_component" (.text "brainstem"))) = .ok () := by decide +kernel
  have hlater : now < now + 120000 ∧ now + 120000 - now ≤ MAX_ENVELOPE_TTL_MS := by
    rw [MAX_ENVELOPE_TTL_MS]
    omega
  generalize envelopeOf request (.str agentId) grant (engine.digestOf messageText) (engine.digestOf nonceText) period.issuedAt
    period.expiresAt = v at hget hkeys
  simp only [validateEnvelope, hkeys, hget, List.lookup_cons, String.reduceBEq, bind_eq_ok, require_eq_ok, requireTest_eq_ok,
    some_text_beq, test_str, hid, hgrantId, hgrantRef, hauthref, hauthentication, hnonce, hrequest.messageType, hrequest.classification,
    hrequest.capability, hcapability, hnull, hmembers, oneOf_text, hsender, hrecipient, Bool.and_eq_true, timestamp_iso hissued,
    timestamp_iso hexpires, Except.ok.injEq, exists_eq_left', hlater, decide_eq_true_eq, Option.getD_some, true_and, and_true,
    exists_const]
  constructor
  · rintro ⟨hcorrelation, hcausation, hevidence, hrecord, ⟨⟩, hpayload, hsize⟩
    exact ⟨hcorrelation, hcausation, hevidence, hrecord, hpayload, hsize⟩
  · rintro ⟨hcorrelation, hcausation, hevidence, hrecord, hpayload, hsize⟩
    exact ⟨hcorrelation, hcausation, hevidence, hrecord, (), hpayload, hsize⟩

end

/-! ## Artifacts -/

/-- What is created for a proposal of a bare companion. -/
def proposalArtifacts (engine : Engine) (options : CompanionOptions) (request : Request) (capabilityId : String) (seed : JsString)
    (period : Period) : Artifacts :=
  let digestOf := fun label : String => engine.digestOf (js label ++ 58 :: seed)
  let grant := grantOf request (.str options.agentId) (digestOf "grant") (digestOf "authref") period.issuedAt period.expiresAt
  ⟨grant, options.identity [.text capabilityId] [field grant "grant_id"] [],
    envelopeOf request (.str options.agentId) grant (digestOf "message") (digestOf "nonce") period.issuedAt period.expiresAt⟩

section
variable {engine : Engine} {options : CompanionOptions} {request : Request} {capabilityId : String} {seed : JsString} {now : ℤ}
  {period : Period} (hsound : options.Sound engine.date) (hrequest : request.IsProposal capabilityId)
  (hissued : toISOString now = some period.issuedAt) (hexpires : toISOString (now + 120000) = some period.expiresAt)
include hsound hrequest hissued hexpires

omit hissued hexpires in
/-- The identity that declares the grant passes its validator. -/
theorem valid_proposalIdentity : validateAgentIdentity engine.date
    (proposalArtifacts engine options request capabilityId seed period).identity = .ok () := by
  have hgrantId : field (proposalArtifacts engine options request capabilityId seed period).grant "grant_id" =
      .str (js "kindred-grant-" ++ engine.digestOf (js "grant" ++ 58 :: seed)) := field_record _ _
  have hbounded : boundedString (some (.str (js "kindred-grant-" ++ engine.digestOf (js "grant" ++ 58 :: seed)))) 3 128 = true := by
    have haccepts : grantIdPattern.accepts (js "kindred-grant-" ++ engine.digestOf (js "grant" ++ 58 :: seed)) = true :=
      engine.accepts_digest "kindred-grant-" (by decide) (by decide) _
    exact bounded_of_reference (reference_of_id (by decide) (by decide) (by decide) (by decide) haccepts)
  refine validateAgentIdentity_identity_iff.mpr ⟨hsound, ?_, ?_, ?_⟩
  · rw [uniqueStrings_single]
    exact hrequest.bounded
  · rw [uniqueStrings_single, show grantOf request _ _ _ _ _ = (proposalArtifacts engine options request capabilityId seed period).grant
      from rfl, hgrantId]
    exact hbounded
  · rw [List.forall_mem_singleton]
    have hget : (options.identity [.text capabilityId] [field (grantOf request (.str options.agentId)
        (engine.digestOf (js "grant" ++ 58 :: seed)) (engine.digestOf (js "authref" ++ 58 :: seed)) period.issuedAt period.expiresAt)
        "grant_id"] []).get "prohibited_capabilities" = some (.arr (["direct_memory_commit", "direct_tool_execution",
          "direct_value_movement", "founder_authority"].map Json.text)) := Json.get_record _ _
    rw [hget, includes, Option.any_some, items, Option.bind_some, Json.items?, Option.getD_some, ← Bool.not_eq_true,
      List.contains_iff_exists_mem_beq]
    rintro ⟨v, hv, heq⟩
    obtain ⟨name, hname, rfl⟩ := List.mem_map.mp hv
    rw [Json.text, Json.text, Json.str_beq_str, js_inj] at heq
    exact hrequest.permitted (heq ▸ hname)

/-- The artifacts of a proposal are created exactly when its envelope can carry it. -/
theorem createArtifacts_iff {artifacts : Artifacts} : createArtifacts engine request (.str options.agentId) seed period
    (fun grant => scopedIdentity (options.identity [] [] []) grant (.text capabilityId)) = .ok artifacts ↔
      request.Carried ∧ artifacts = proposalArtifacts engine options request capabilityId seed period := by
  have hdigest : ∀ label, digest engine label [.str seed] = .ok (engine.digestOf (js label ++ 58 :: seed)) := fun label => by
    have := digest_strings engine label [seed]
    simpa using this
  have hgrant := valid_grantOf engine hrequest hsound.agent hissued hexpires (js "grant" ++ 58 :: seed) (js "authref" ++ 58 :: seed)
  have hidentity := @valid_proposalIdentity engine options request capabilityId seed period hsound hrequest
  have henvelope := validateEnvelope_envelopeOf_iff engine hrequest hsound.agent hissued hexpires (js "grant" ++ 58 :: seed)
    (js "authref" ++ 58 :: seed) (js "message" ++ 58 :: seed) (js "nonce" ++ 58 :: seed) rfl
  simp only [createArtifacts, hrequest.labels, hdigest, bind_eq_ok, pure_eq_ok, Except.ok.injEq, exists_eq_left', hgrant,
    scopedIdentity_identity]
  constructor
  · rintro ⟨⟨⟩, -, ⟨⟩, -, ⟨⟩, hvalid, rfl⟩
    exact ⟨henvelope.mp hvalid, rfl⟩
  · rintro ⟨hcarried, rfl⟩
    exact ⟨(), trivial, (), hidentity, (), henvelope.mpr hcarried, rfl⟩

end

end Agent
