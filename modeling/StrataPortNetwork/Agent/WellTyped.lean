import StrataPortNetwork.Agent.Sample

/-! # What the validators guarantee of the types of fields

`RegExp.prototype.test` turns its argument into a text first. A validator that tests a
pattern without asking for a string therefore lets an array with one matching text pass, and
throws a TypeError for an object that has no text.
-/
namespace Agent
open Js

/-! ## Validators as lists of checks -/

/-- A check of a validator: one that looks at the value itself, or the test of a pattern on a
property that is coerced. -/
inductive Check
  | plain (result : Outcome Unit)
  | tests (reasonClass : String) (pattern : Regex) (v : Option Json)

/-- An `AgentProtocolError`. -/
def Rejects (r : Outcome Unit) : Prop := ∃ reasonClass retryable, r = .error (.rejected reasonClass retryable)

def IsString (v : Option Json) : Prop := ∃ s, v = some (.str s)

namespace Check

def run : Check → Outcome Unit
  | plain result => result
  | tests reasonClass pattern v => requireTest reasonClass pattern v

/-- The checks one after the other, up to the first failure. -/
def runAll : List Check → Outcome Unit
  | [] => pure ()
  | c :: rest => do
    c.run
    runAll rest

/-- The check does not coerce. -/
def OnString : Check → Prop
  | plain _ => True
  | tests _ _ v => IsString v

/-- A property that is no string gets to its test, and either has no text, or its text matches
and no later check rejects. -/
def Slips (checks : List Check) : Prop :=
  ∃ before reasonClass pattern v after, checks = before ++ tests reasonClass pattern v :: after ∧
    (∀ c ∈ before, c.run = .ok ()) ∧ ¬ IsString v ∧
    (pattern.test v = none ∨ pattern.test v = some true ∧ ¬ Rejects (runAll after))

/-- The checks that do not test patterns throw nothing but `AgentProtocolError`, as long as
every property tested before is a string. -/
def PlainRejects (checks : List Check) : Prop :=
  ∀ before result after, checks = before ++ plain result :: after → (∀ c ∈ before, c.run = .ok () ∧ c.OnString) →
    result = .ok () ∨ Rejects result

theorem runAll_append {before after : List Check} (h : ∀ c ∈ before, c.run = .ok ()) :
    runAll (before ++ after) = runAll after := by
  induction before with
  | nil => rfl
  | cons c before ih =>
    rw [List.cons_append, runAll, h c List.mem_cons_self]
    exact ih fun b hb => h b (List.mem_cons_of_mem c hb)

theorem runAll_ok {checks : List Check} (h : ∀ c ∈ checks, c.run = .ok ()) : runAll checks = .ok () := by
  have hall : runAll (checks ++ []) = runAll [] := runAll_append h
  rwa [List.append_nil] at hall

/-- All checks pass, or the first one that fails decides. -/
theorem runAll_cases (checks : List Check) : (∀ c ∈ checks, c.run = .ok ()) ∨
    ∃ before c after e, checks = before ++ c :: after ∧ (∀ b ∈ before, b.run = .ok ()) ∧ c.run = .error e ∧
      runAll checks = .error e := by
  induction checks with
  | nil => exact .inl (by simp)
  | cons c rest ih =>
    cases hrun : c.run with
    | error e => exact .inr ⟨[], c, rest, e, rfl, by simp, hrun, by rw [runAll, hrun]; rfl⟩
    | ok u =>
      rcases ih with hall | ⟨before, d, after, e, rfl, hbefore, hd, herror⟩
      · exact .inl (List.forall_mem_cons.mpr ⟨hrun, hall⟩)
      · refine .inr ⟨c :: before, d, after, e, rfl, List.forall_mem_cons.mpr ⟨hrun, hbefore⟩, hd, ?_⟩
        rw [runAll, hrun]
        exact herror

theorem not_rejects_of_slips {checks : List Check} (h : Slips checks) : ¬ Rejects (runAll checks) := by
  obtain ⟨before, reasonClass, pattern, v, after, rfl, hbefore, -, htest⟩ := h
  rw [runAll_append hbefore, runAll, run, requireTest, ensureTest]
  rcases htest with htest | ⟨htest, hafter⟩
  · rw [htest]
    rintro ⟨_, _, h⟩
    cases h
  · rw [htest]
    exact hafter

/-- Where a property is coerced and the validator does not reject, a property slips through. -/
theorem slips_of_coerced {checks : List Check} (hrun : ¬ Rejects (runAll checks)) {before after : List Check} {c : Check}
    (hchecks : checks = before ++ c :: after) (hbefore : ∀ b ∈ before, b.run = .ok ()) (hc : c.run = .ok ())
    (hcoerced : ¬ c.OnString) : Slips checks := by
  cases c with
  | plain result => exact absurd trivial hcoerced
  | tests reasonClass pattern v =>
    have htest : pattern.test v = some true := ensureTest_eq_ok.mp hc
    refine ⟨before, reasonClass, pattern, v, after, hchecks, hbefore, hcoerced, .inr ⟨htest, ?_⟩⟩
    rw [hchecks, runAll_append hbefore, runAll, hc] at hrun
    exact hrun

/-- The validator rejects, or it accepts and has tested strings only, exactly when nothing
slips through. -/
theorem wellTyped_iff {checks : List Check} (hplain : PlainRejects checks) :
    (Rejects (runAll checks) ∨ runAll checks = .ok () ∧ ∀ c ∈ checks, c.OnString) ↔ ¬ Slips checks := by
  constructor
  · rintro (hrejects | ⟨-, hstrings⟩) hslips
    · exact not_rejects_of_slips hslips hrejects
    · obtain ⟨before, reasonClass, pattern, v, after, rfl, -, hv, -⟩ := hslips
      exact hv (hstrings _ (List.mem_append_right _ List.mem_cons_self))
  · intro hslips
    by_cases hrejects : Rejects (runAll checks)
    · exact .inl hrejects
    rcases runAll_cases checks with hall | ⟨before, c, after, e, hchecks, hbefore, hc, herror⟩
    · refine .inr ⟨runAll_ok hall, fun c hc => ?_⟩
      by_contra hcoerced
      obtain ⟨before, after, hsplit⟩ := List.append_of_mem hc
      refine hslips (slips_of_coerced hrejects hsplit (fun b hb => hall b ?_) (hall c hc) hcoerced)
      exact hsplit ▸ List.mem_append_left _ hb
    · exfalso
      by_cases hstrings : ∀ b ∈ before, b.OnString
      · cases c with
        | plain result =>
          rcases hplain before result after hchecks fun b hb => ⟨hbefore b hb, hstrings b hb⟩ with hok | hreject
          · rw [run, hok] at hc
            cases hc
          · rw [run] at hc
            rw [hc] at hreject
            exact hrejects (herror ▸ hreject)
        | tests reasonClass pattern v =>
          rw [run, requireTest, ensureTest] at hc
          split at hc
          · cases hc
          · exact hrejects (herror ▸ hc ▸ ⟨reasonClass, false, rfl⟩)
          · rename_i htest
            refine hslips ⟨before, reasonClass, pattern, v, after, hchecks, hbefore, ?_, .inl htest⟩
            rintro ⟨s, rfl⟩
            rw [test_str] at htest
            cases htest
      · push Not at hstrings
        obtain ⟨b, hb, hcoerced⟩ := hstrings
        obtain ⟨before', after', rfl⟩ := List.append_of_mem hb
        have hsplit : checks = before' ++ b :: (after' ++ c :: after) := by
          rw [hchecks, List.append_assoc, List.cons_append]
        exact hslips (slips_of_coerced hrejects hsplit (fun d hd => hbefore d (List.mem_append_left _ hd)) (hbefore b hb) hcoerced)

/-- Checks that throw nothing but `AgentProtocolError` by themselves. -/
theorem plainRejects_of_forall {checks : List Check} (h : ∀ result, plain result ∈ checks → result = .ok () ∨ Rejects result) :
    PlainRejects checks :=
  fun _ result _ hchecks _ => h result (hchecks ▸ List.mem_append_right _ List.mem_cons_self)

end Check

open Check

/-! ## The checks of each validator -/

/-- The timestamp of a property that is not null. -/
def optionalTimestamp (date : DateApi) (v : Option Json) (reasonClass : String) : Outcome Unit :=
  if isNull v then pure ()
  else do
    let _ ← timestamp date v reasonClass

def capabilityChecks (capability : Json) : List Check := [
  .plain (exactKeys (some capability) CAPABILITY_FIELDS "capability_fields_invalid"),
  .plain (require "capability_invalid" (capability.get "contract_version" == some (.text "kindred.agent.capability.v1"))),
  .tests "capability_invalid" capabilityIdPattern (capability.get "capability_id"),
  .tests "capability_invalid" versionPattern (capability.get "version"),
  .plain (require "capability_invalid" (oneOf (capability.get "owner_component") RUNTIME_COMPONENTS &&
    oneOf (capability.get "action_type") ["communication", "reasoning", "memory_proposal", "tool", "settlement"] &&
    membersOf (capability.get "allowed_agent_classes") AGENT_CLASSES &&
    oneOf (capability.get "required_authority") AUTHORITY_LEVELS &&
    oneOf (capability.get "risk_ceiling") ["low", "medium", "high", "critical"] &&
    membersOf (capability.get "data_classifications") DATA_CLASSIFICATIONS &&
    oneOf (capability.get "execution_mode") ["proposal_only", "governed_local_reversible", "governed_external"] &&
    capability.get "provider_contact" == some (.text "mediated_only") &&
    capability.get "memory_commit" == some (.text "brainstem_only") &&
    capability.get "settlement" == some (.text "retrobank_mandate_only") &&
    (capability.get "compensation_required").any Json.isBool &&
    boundedString (capability.get "input_contract_ref") 3 256 &&
    boundedString (capability.get "output_contract_ref") 3 256))]

def grantChecks (date : DateApi) (grant : Json) : List Check := [
  .plain (exactKeys (some grant) AUTHORITY_GRANT_FIELDS "authority_grant_fields_invalid"),
  .plain (require "authority_grant_invalid"
    (grant.get "contract_version" == some (.text "kindred.agent.authority-grant.v1"))),
  .tests "authority_grant_invalid" grantIdPattern (grant.get "grant_id"),
  .tests "authority_grant_invalid" agentIdPattern (grant.get "subject_agent_id"),
  .plain (require "authority_grant_invalid" (grant.get "issuer_component" == some (.text "brainstem") &&
    boundedString (grant.get "issuer_id") 8 128)),
  .tests "authority_grant_invalid" authenticationReferencePattern (grant.get "authentication_ref"),
  .plain (require "authority_grant_invalid" (oneOf (grant.get "authority_level") AUTHORITY_LEVELS &&
    uniqueStrings (grant.get "capability_ids") 64 0 && membersOf (grant.get "message_types") MESSAGE_TYPES &&
    uniqueStrings (grant.get "permissions") 64 0 && uniqueStrings (grant.get "budget_refs") 64 0 &&
    nullableReference (grant.get "parent_grant_ref") (some grantIdPattern) &&
    oneOf (grant.get "status") ["active", "suspended", "revoked"])),
  .plain (do
    let issuedAt ← timestamp date (grant.get "issued_at") "authority_grant_timestamp_invalid"
    let expiresAt ← timestamp date (grant.get "expires_at") "authority_grant_timestamp_invalid"
    require "authority_grant_timestamp_invalid" (issuedAt < expiresAt)),
  .plain (optionalTimestamp date (grant.get "revoked_at") "authority_grant_timestamp_invalid"),
  .plain (require "authority_grant_status_invalid"
    ((grant.get "status" == some (.text "revoked")) == !isNull (grant.get "revoked_at")))]

def principalChecks (v : Option Json) : List Check := [
  .plain (exactKeys v ["principal_type", "id"] "principal_invalid"),
  .plain (require "principal_invalid" (oneOf ((v.getD .null).get "principal_type") ["agent", "runtime_component"])),
  if (v.getD .null).get "principal_type" == some (.text "agent") then
    .tests "principal_invalid" agentIdPattern ((v.getD .null).get "id")
  else .plain (require "runtime_component_unknown" (oneOf ((v.getD .null).get "id") RUNTIME_COMPONENTS))]

def envelopeChecks (date : DateApi) (envelope : Json) : List Check := [
  .plain (exactKeys (some envelope) ENVELOPE_FIELDS "envelope_fields_invalid"),
  .plain (require "envelope_invalid"
    (envelope.get "contract_version" == some (.text "kindred.agent.message-envelope.v1"))),
  .tests "envelope_invalid" messageIdPattern (envelope.get "message_id"),
  .plain (require "envelope_invalid" (oneOf (envelope.get "message_type") MESSAGE_TYPES &&
    nullableReference (envelope.get "authority_ref") (some grantIdPattern))),
  .tests "envelope_invalid" opaqueReferencePattern (envelope.get "correlation_id"),
  .plain (require "envelope_invalid" (nullableReference (envelope.get "causation_id") (some opaqueReferencePattern))),
  .tests "envelope_invalid" noncePattern (envelope.get "nonce"),
  .plain (require "envelope_invalid" (oneOf (envelope.get "data_classification") DATA_CLASSIFICATIONS &&
    nullableReference (envelope.get "requested_capability") (some capabilityIdPattern) &&
    nullableReference (envelope.get "budget_ref") none && uniqueStrings (envelope.get "evidence_refs") 64 0 &&
    nullableReference (envelope.get "authentication_ref") (some authenticationReferencePattern) &&
    nullableReference (envelope.get "delegation_ref") (some grantIdPattern)))] ++
  principalChecks (envelope.get "sender") ++ principalChecks (envelope.get "recipient") ++ [
  .plain (do
    let sentAt ← timestamp date (envelope.get "timestamp") "envelope_timestamp_invalid"
    let expiresAt ← timestamp date (envelope.get "expires_at") "envelope_timestamp_invalid"
    require "envelope_expiration_invalid" (sentAt < expiresAt && expiresAt - sentAt ≤ MAX_ENVELOPE_TTL_MS)),
  .plain (require "payload_invalid" ((envelope.get "payload").getD .null).isRecord),
  .plain (validatePayload ((envelope.get "payload").getD .null) 0),
  .plain (require "payload_capacity_exceeded"
    ((utf8Encode (stringify ((envelope.get "payload").getD .null))).length ≤ MAX_PAYLOAD_BYTES))]

/-- The checks of an identity up to the bound on living companions. -/
def identityChecks (date : DateApi) (identity : Json) : List Check :=
  let lineage := (identity.get "lineage").getD .null
  let authority := (identity.get "authority").getD .null
  let memory := (identity.get "memory_scope").getD .null
  let execution := (identity.get "execution_scope").getD .null
  let provider := (identity.get "provider_scope").getD .null
  [.plain (exactKeys (some identity) IDENTITY_FIELDS "identity_fields_invalid"),
  .plain (require "identity_invalid" (identity.get "contract_version" == some (.text "kindred.agent.identity.v1"))),
  .tests "identity_invalid" agentIdPattern (identity.get "agent_id"),
  .tests "identity_invalid" tenantIdPattern (identity.get "tenant_id"),
  .plain (require "identity_invalid" (oneOf (identity.get "agent_class") AGENT_CLASSES &&
    boundedString (identity.get "owner_id") 8 128 && boundedString (identity.get "creator_id") 8 128)),
  .tests "identity_invalid" versionPattern (identity.get "version"),
  .plain (require "identity_invalid" (boundedString (identity.get "purpose") 1 512 &&
    uniqueStrings (identity.get "capabilities") 64 0 && uniqueStrings (identity.get "prohibited_capabilities") 64 0 &&
    uniqueStrings (identity.get "permissions") 64 0 && uniqueStrings (identity.get "budget_refs") 64 0 &&
    oneOf (identity.get "lifecycle_state") ["registered", "active", "suspended", "revoked", "retired", "replaced"] &&
    oneOf (identity.get "health") ["healthy", "degraded", "unavailable", "unknown"] &&
    uniqueStrings (identity.get "evidence_refs") 64 0)),
  .plain (require "identity_capability_conflict"
    (!(items (identity.get "capabilities")).any fun c => includes (identity.get "prohibited_capabilities") (some c))),
  .plain (exactKeys (identity.get "lineage") ["parent_agent_id", "replaces_agent_id"] "identity_lineage_invalid"),
  .plain (require "identity_lineage_invalid" (nullableReference (lineage.get "parent_agent_id") (some agentIdPattern) &&
    nullableReference (lineage.get "replaces_agent_id") (some agentIdPattern) &&
    !(lineage.get "parent_agent_id" == identity.get "agent_id") &&
    !(lineage.get "replaces_agent_id" == identity.get "agent_id"))),
  .plain (exactKeys (identity.get "authority") ["issuer_component", "grant_refs", "ceiling"] "identity_authority_invalid"),
  .plain (require "identity_authority_invalid" (authority.get "issuer_component" == some (.text "brainstem") &&
    uniqueStrings (authority.get "grant_refs") 64 0 && oneOf (authority.get "ceiling") AUTHORITY_LEVELS)),
  .plain (exactKeys (identity.get "memory_scope") ["namespace_refs", "write_mode"] "identity_memory_scope_invalid"),
  .plain (require "identity_memory_scope_invalid" (uniqueStrings (memory.get "namespace_refs") 64 0 &&
    memory.get "write_mode" == some (.text "proposal_only"))),
  .plain (exactKeys (identity.get "execution_scope") ["mode", "allowed_capabilities"] "identity_execution_scope_invalid"),
  .plain (require "identity_execution_scope_invalid" (execution.get "mode" == some (.text "proposal_only") &&
    uniqueStrings (execution.get "allowed_capabilities") 64 0 &&
    subset (execution.get "allowed_capabilities") (identity.get "capabilities"))),
  .plain (exactKeys (identity.get "provider_scope") ["mode", "provider_refs"] "identity_provider_scope_invalid"),
  .plain (require "identity_provider_scope_invalid" (provider.get "mode" == some (.text "mediated_only") &&
    uniqueStrings (provider.get "provider_refs") 64 0)),
  .plain (require "identity_reference_invalid" (nullableReference (identity.get "economic_mandate_ref") none &&
    nullableReference (identity.get "replacement_agent_id") (some agentIdPattern))),
  .plain (do
    let _ ← timestamp date (identity.get "created_at") "identity_timestamp_invalid"),
  .plain (optionalTimestamp date (identity.get "revoked_at") "identity_timestamp_invalid"),
  .plain (require "identity_lifecycle_invalid"
    ((identity.get "lifecycle_state" == some (.text "revoked")) == !isNull (identity.get "revoked_at") &&
      (identity.get "lifecycle_state" == some (.text "replaced")) == !isNull (identity.get "replacement_agent_id")))]

/-! ## The validators run their checks -/

theorem bind_pure_unit (r : Outcome Unit) : (do r; pure ()) = r := by
  cases r <;> rfl

theorem runAll_cons (c : Check) (rest : List Check) : runAll (c :: rest) = (do c.run; runAll rest) := rfl

theorem runAll_append_eq (before after : List Check) : runAll (before ++ after) = (do runAll before; runAll after) := by
  induction before with
  | nil => rfl
  | cons c before ih => rw [List.cons_append, runAll, runAll, ih, bind_assoc]

theorem validateCapability_eq (capability : Json) : validateCapability capability = runAll (capabilityChecks capability) := by
  simp only [capabilityChecks, runAll, run, bind_pure_unit, validateCapability]

theorem validateAuthorityGrant_eq (date : DateApi) (grant : Json) :
    validateAuthorityGrant date grant = runAll (grantChecks date grant) := by
  simp only [grantChecks, runAll, run, bind_pure_unit, validateAuthorityGrant, optionalTimestamp, bind_assoc]
  split <;> simp only [pure_bind, bind_assoc]

theorem validatePrincipal_eq (v : Option Json) : validatePrincipal v = runAll (principalChecks v) := by
  simp only [principalChecks, runAll, validatePrincipal]
  split <;> simp only [run, bind_pure_unit]

theorem validateEnvelope_eq (date : DateApi) (envelope : Json) :
    validateEnvelope date envelope = runAll (envelopeChecks date envelope) := by
  rw [envelopeChecks, runAll_append_eq, runAll_append_eq, runAll_append_eq, ← validatePrincipal_eq, ← validatePrincipal_eq]
  simp only [runAll, run, bind_pure_unit, validateEnvelope, bind_assoc]

theorem validateAgentIdentity_eq (date : DateApi) (identity : Json) :
    validateAgentIdentity date identity = runAll (identityChecks date identity ++ [.plain (companionBoundary identity)]) := by
  rw [runAll_append_eq]
  simp only [identityChecks, runAll, run, bind_pure_unit, validateAgentIdentity, optionalTimestamp, bind_assoc, pure_bind]
  split <;> simp only [pure_bind, bind_assoc]

/-! ## The types of fields -/

/-- What a field of a validated value holds. -/
inductive Kind
  | text
  | matching (pattern : Regex)
  /-- A string, matching the pattern where there is one, or null. -/
  | reference (pattern : Option Regex)
  | texts
  | date
  | optionalDate

def Kind.Holds (date : DateApi) (v : Option Json) : Kind → Prop
  | text => IsString v
  | matching pattern => ∃ s, v = some (.str s) ∧ pattern.accepts s = true
  | reference pattern => v = some .null ∨ ∃ s, v = some (.str s) ∧ ∀ p ∈ pattern, p.accepts s = true
  | texts => ∃ items, v = some (.arr items) ∧ ∀ item ∈ items, IsString (some item)
  | .date => (parseDate date v).isSome = true
  | optionalDate => v = some .null ∨ (parseDate date v).isSome = true

/-- `value.a.b` for the path `["a", "b"]`. -/
def fieldAt (v : Json) (path : List String) : Option Json := path.foldl (fun found name => found.bind (·.get name)) (some v)

def Typed (date : DateApi) (kinds : List (List String × Kind)) (v : Json) : Prop :=
  ∀ f ∈ kinds, f.2.Holds date (fieldAt v f.1)

/-- The identifiers, references, versions and timestamps of an identity. -/
def identityKinds : List (List String × Kind) := [
  (["contract_version"], .text), (["agent_id"], .matching agentIdPattern), (["tenant_id"], .matching tenantIdPattern),
  (["owner_id"], .text), (["creator_id"], .text), (["version"], .matching versionPattern),
  (["lineage", "parent_agent_id"], .reference (some agentIdPattern)),
  (["lineage", "replaces_agent_id"], .reference (some agentIdPattern)), (["capabilities"], .texts),
  (["prohibited_capabilities"], .texts), (["budget_refs"], .texts), (["evidence_refs"], .texts),
  (["authority", "grant_refs"], .texts), (["memory_scope", "namespace_refs"], .texts),
  (["execution_scope", "allowed_capabilities"], .texts), (["provider_scope", "provider_refs"], .texts),
  (["economic_mandate_ref"], .reference none), (["replacement_agent_id"], .reference (some agentIdPattern)),
  (["created_at"], .date), (["revoked_at"], .optionalDate)]

def capabilityKinds : List (List String × Kind) := [
  (["contract_version"], .text), (["capability_id"], .matching capabilityIdPattern), (["version"], .matching versionPattern),
  (["input_contract_ref"], .text), (["output_contract_ref"], .text)]

def grantKinds : List (List String × Kind) := [
  (["contract_version"], .text), (["grant_id"], .matching grantIdPattern),
  (["subject_agent_id"], .matching agentIdPattern), (["issuer_id"], .text),
  (["authentication_ref"], .matching authenticationReferencePattern), (["capability_ids"], .texts), (["budget_refs"], .texts),
  (["parent_grant_ref"], .reference (some grantIdPattern)), (["issued_at"], .date), (["expires_at"], .date),
  (["revoked_at"], .optionalDate)]

/-- The id of an agent matches its pattern, a component's id is one of the known names. -/
def principalKind (v : Option Json) : Kind :=
  if (v.getD .null).get "principal_type" == some (.text "agent") then .matching agentIdPattern else .text

def envelopeKinds (envelope : Json) : List (List String × Kind) := [
  (["contract_version"], .text), (["message_id"], .matching messageIdPattern),
  (["sender", "id"], principalKind (envelope.get "sender")), (["recipient", "id"], principalKind (envelope.get "recipient")),
  (["authority_ref"], .reference (some grantIdPattern)), (["correlation_id"], .matching opaqueReferencePattern),
  (["causation_id"], .reference (some opaqueReferencePattern)), (["nonce"], .matching noncePattern),
  (["timestamp"], .date), (["expires_at"], .date), (["requested_capability"], .reference (some capabilityIdPattern)),
  (["budget_ref"], .reference none), (["evidence_refs"], .texts),
  (["authentication_ref"], .reference (some authenticationReferencePattern)),
  (["delegation_ref"], .reference (some grantIdPattern))]

section
variable {date : DateApi} {v : Option Json}

theorem matching_of_test {pattern : Regex} (htest : pattern.test v = some true) (hv : IsString v) :
    (Kind.matching pattern).Holds date v := by
  obtain ⟨s, rfl⟩ := hv
  exact ⟨s, rfl, by simpa using htest⟩

theorem isString_of_matching {pattern : Regex} (h : (Kind.matching pattern).Holds date v) : IsString v := by
  obtain ⟨s, hs, -⟩ := h
  exact ⟨s, hs⟩

theorem isString_of_bounded {least most : ℕ} (h : boundedString v least most = true) : IsString v := by
  unfold boundedString at h
  split at h
  · exact ⟨_, rfl⟩
  · cases h

theorem isString_of_text {text : String} (h : (v == some (.text text)) = true) : IsString v :=
  ⟨js text, Json.some_beq_str_iff.mp h⟩

theorem reference_of_nullable {pattern : Option Regex} (h : nullableReference v pattern = true) :
    (Kind.reference pattern).Holds date v := by
  rw [nullableReference, Bool.or_eq_true, Bool.and_eq_true] at h
  rcases h with h | ⟨hbounded, hpattern⟩
  · left
    cases v with
    | none => cases h
    | some v => cases v <;> first | rfl | cases h
  · right
    obtain ⟨s, rfl⟩ := isString_of_bounded hbounded
    refine ⟨s, rfl, fun p hp => ?_⟩
    rw [hp] at hpattern
    simpa using hpattern

theorem texts_of_unique {most least : ℕ} (h : uniqueStrings v most least = true) : Kind.texts.Holds date v := by
  unfold uniqueStrings at h
  split at h
  · rename_i items
    simp only [Bool.and_eq_true, List.all_eq_true] at h
    exact ⟨items, rfl, fun item hitem => isString_of_bounded (h.2 item hitem)⟩
  · cases h

theorem date_of_timestamp {reasonClass : String} {t : ℤ} (h : timestamp date v reasonClass = .ok t) :
    Kind.date.Holds date v := by
  rw [timestamp, orThrow_eq_ok] at h
  rw [Kind.Holds, h]
  rfl

theorem optionalDate_of_timestamp {reasonClass : String} (h : optionalTimestamp date v reasonClass = .ok ()) :
    Kind.optionalDate.Holds date v := by
  unfold optionalTimestamp at h
  split at h
  · rename_i hnull
    left
    cases v with
    | none => cases hnull
    | some v => cases v <;> first | rfl | cases hnull
  · simp only [bind_eq_ok] at h
    obtain ⟨t, ht, -⟩ := h
    exact .inr (date_of_timestamp ht)

/-! ## What passes all checks -/

theorem capability_typed_iff {capability : Json} (h : ∀ c ∈ capabilityChecks capability, c.run = .ok ()) :
    Typed date capabilityKinds capability ↔ ∀ c ∈ capabilityChecks capability, c.OnString := by
  simp only [capabilityChecks, List.forall_mem_cons, run, require_eq_ok, requireTest_eq_ok, Bool.and_eq_true] at h
  obtain ⟨-, hversion, hid, hv, ⟨⟨-, hinput⟩, houtput⟩, -⟩ := h
  simp only [Typed, capabilityKinds, capabilityChecks, List.forall_mem_cons, OnString, fieldAt, List.foldl_cons,
    List.foldl_nil, Option.bind_some, true_and]
  constructor
  · rintro ⟨-, hcapability, hnumber, -⟩
    exact ⟨isString_of_matching hcapability, isString_of_matching hnumber, by simp⟩
  · rintro ⟨hcapability, hnumber, -⟩
    exact ⟨isString_of_text hversion, matching_of_test hid hcapability, matching_of_test hv hnumber,
      isString_of_bounded hinput, isString_of_bounded houtput, by simp⟩

theorem grant_typed_iff {grant : Json} (h : ∀ c ∈ grantChecks date grant, c.run = .ok ()) :
    Typed date grantKinds grant ↔ ∀ c ∈ grantChecks date grant, c.OnString := by
  simp only [grantChecks, List.forall_mem_cons, run, require_eq_ok, requireTest_eq_ok, Bool.and_eq_true, bind_eq_ok] at h
  obtain ⟨-, hversion, hid, hsubject, ⟨-, hissuer⟩, hauthentication, ⟨⟨⟨⟨⟨⟨-, hcapabilities⟩, -⟩, -⟩, hbudgets⟩, hparent⟩, -⟩,
    ⟨issuedAt, hissued, expiresAt, hexpires, -⟩, hrevoked, -⟩ := h
  simp only [Typed, grantKinds, grantChecks, List.forall_mem_cons, OnString, fieldAt, List.foldl_cons, List.foldl_nil,
    Option.bind_some, true_and]
  constructor
  · rintro ⟨-, hgrant, hagent, -, hreference, -⟩
    refine ⟨isString_of_matching hgrant, isString_of_matching hagent, isString_of_matching hreference, ?_⟩
    simp
  · rintro ⟨hgrant, hagent, hreference, -⟩
    exact ⟨isString_of_text hversion, matching_of_test hid hgrant, matching_of_test hsubject hagent,
      isString_of_bounded hissuer, matching_of_test hauthentication hreference, texts_of_unique hcapabilities,
      texts_of_unique hbudgets, reference_of_nullable hparent, date_of_timestamp hissued, date_of_timestamp hexpires,
      optionalDate_of_timestamp hrevoked, by simp⟩

/-- The properties of a principal that has its keys. -/
theorem get_of_exactKeys {fields : List String} {reasonClass : String} (h : exactKeys v fields reasonClass = .ok ())
    (name : String) : (v.getD .null).get name = v.bind (·.get name) := by
  cases v with
  | none => cases h
  | some v => rfl

theorem isString_of_oneOf {set : List String} (h : oneOf v set = true) : IsString v := by
  rw [oneOf, List.any_eq_true] at h
  obtain ⟨s, -, hs⟩ := h
  exact isString_of_text hs

theorem principal_typed_iff (h : ∀ c ∈ principalChecks v, c.run = .ok ()) :
    (principalKind v).Holds date (v.bind (·.get "id")) ↔ ∀ c ∈ principalChecks v, c.OnString := by
  simp only [principalChecks, List.forall_mem_cons] at h ⊢
  obtain ⟨hkeys, -, hid, -⟩ := h
  have hget : (v.getD .null).get "id" = v.bind (·.get "id") := get_of_exactKeys hkeys "id"
  rw [principalKind]
  split at hid
  · rename_i hagent
    rw [if_pos hagent, if_pos hagent]
    simp only [run, requireTest_eq_ok, hget] at hid
    simp only [OnString, hget, true_and]
    exact ⟨fun h => ⟨isString_of_matching h, by simp⟩, fun h => matching_of_test hid h.1⟩
  · rename_i hcomponent
    rw [if_neg hcomponent, if_neg hcomponent]
    simp only [run, require_eq_ok, hget] at hid
    simp only [OnString, true_and, Kind.Holds]
    exact iff_of_true (isString_of_oneOf hid) (by simp)

theorem envelope_typed_iff {envelope : Json} (h : ∀ c ∈ envelopeChecks date envelope, c.run = .ok ()) :
    Typed date (envelopeKinds envelope) envelope ↔ ∀ c ∈ envelopeChecks date envelope, c.OnString := by
  simp only [envelopeChecks, List.forall_mem_append] at h ⊢
  obtain ⟨⟨⟨h, hsender⟩, hrecipient⟩, hrest⟩ := h
  simp only [List.forall_mem_cons, run, require_eq_ok, requireTest_eq_ok, Bool.and_eq_true, bind_eq_ok] at h hrest
  obtain ⟨-, hversion, hid, ⟨-, hauthority⟩, hcorrelation, hcausation, hnonce,
    ⟨⟨⟨⟨⟨-, hcapability⟩, hbudget⟩, hevidence⟩, hauthentication⟩, hdelegation⟩, -⟩ := h
  obtain ⟨⟨sentAt, hsent, expiresAt, hexpires, -⟩, -⟩ := hrest
  have hsenderTyped : (principalKind _).Holds date _ ↔ ∀ c ∈ principalChecks _, c.OnString := principal_typed_iff hsender
  rw [← hsenderTyped, ← principal_typed_iff hrecipient]
  simp only [Typed, envelopeKinds, List.forall_mem_cons, OnString, fieldAt, List.foldl_cons,
    List.foldl_nil, Option.bind_some, true_and]
  constructor
  · rintro ⟨-, hmessage, hfrom, hto, -, hopaque, -, honce, -⟩
    refine ⟨⟨⟨⟨isString_of_matching hmessage, isString_of_matching hopaque, isString_of_matching honce, ?_⟩, hfrom⟩, hto⟩, ?_⟩
    · simp
    · simp
  · rintro ⟨⟨⟨⟨hmessage, hopaque, honce, -⟩, hfrom⟩, hto⟩, -⟩
    exact ⟨isString_of_text hversion, matching_of_test hid hmessage, hfrom, hto, reference_of_nullable hauthority,
      matching_of_test hcorrelation hopaque, reference_of_nullable hcausation, matching_of_test hnonce honce,
      date_of_timestamp hsent, date_of_timestamp hexpires, reference_of_nullable hcapability, reference_of_nullable hbudget,
      texts_of_unique hevidence, reference_of_nullable hauthentication, reference_of_nullable hdelegation, by simp⟩

theorem identity_typed_iff {identity : Json} (h : ∀ c ∈ identityChecks date identity, c.run = .ok ()) :
    Typed date identityKinds identity ↔ ∀ c ∈ identityChecks date identity, c.OnString := by
  simp only [identityChecks, List.forall_mem_cons, run, require_eq_ok, requireTest_eq_ok, Bool.and_eq_true, bind_eq_ok] at h
  obtain ⟨-, hversion, hid, htenant, ⟨⟨-, howner⟩, hcreator⟩, hnumber,
    ⟨⟨⟨⟨⟨⟨⟨-, hcapabilities⟩, hprohibited⟩, -⟩, hbudgets⟩, -⟩, -⟩, hevidence⟩, -, hlineage,
    ⟨⟨⟨hparent, hreplaces⟩, -⟩, -⟩, hauthority, ⟨⟨-, hgrants⟩, -⟩, hmemory, ⟨hnamespaces, -⟩, hexecution, ⟨⟨-, hallowed⟩, -⟩,
    hprovider, ⟨-, hproviders⟩, ⟨hmandate, hreplacement⟩, ⟨createdAt, hcreated, -⟩, hrevoked, -⟩ := h
  rw [get_of_exactKeys hlineage] at hparent hreplaces
  rw [get_of_exactKeys hauthority] at hgrants
  rw [get_of_exactKeys hmemory] at hnamespaces
  rw [get_of_exactKeys hexecution] at hallowed
  rw [get_of_exactKeys hprovider] at hproviders
  simp only [Typed, identityKinds, identityChecks, List.forall_mem_cons, OnString, fieldAt, List.foldl_cons, List.foldl_nil,
    Option.bind_some, true_and]
  constructor
  · rintro ⟨-, hagent, hholder, -, -, hnamed, -⟩
    refine ⟨isString_of_matching hagent, isString_of_matching hholder, isString_of_matching hnamed, ?_⟩
    simp
  · rintro ⟨hagent, hholder, hnamed, -⟩
    exact ⟨isString_of_text hversion, matching_of_test hid hagent, matching_of_test htenant hholder,
      isString_of_bounded howner, isString_of_bounded hcreator, matching_of_test hnumber hnamed,
      reference_of_nullable hparent, reference_of_nullable hreplaces, texts_of_unique hcapabilities,
      texts_of_unique hprohibited, texts_of_unique hbudgets, texts_of_unique hevidence, texts_of_unique hgrants,
      texts_of_unique hnamespaces, texts_of_unique hallowed, texts_of_unique hproviders, reference_of_nullable hmandate,
      reference_of_nullable hreplacement, date_of_timestamp hcreated, optionalDate_of_timestamp hrevoked, by simp⟩

end

/-! ## What the other checks throw -/

/-- Passes, or throws an `AgentProtocolError`. -/
def Typical {α : Type} (r : Outcome α) : Prop :=
  (∃ x, r = .ok x) ∨ ∃ reasonClass retryable, r = .error (.rejected reasonClass retryable)

namespace Typical

theorem pure {α : Type} (x : α) : Typical (.ok x) := .inl ⟨x, rfl⟩

theorem bind {α β : Type} {r : Outcome α} {k : α → Outcome β} (hr : Typical r) (hk : ∀ x, Typical (k x)) :
    Typical (r >>= k) := by
  rcases hr with ⟨x, rfl⟩ | ⟨reasonClass, retryable, rfl⟩
  · exact hk x
  · exact .inr ⟨reasonClass, retryable, rfl⟩

theorem require (reasonClass : String) (condition : Bool) : Typical (require reasonClass condition) := by
  cases condition
  · exact .inr ⟨reasonClass, false, rfl⟩
  · exact pure ()

theorem timestamp (date : DateApi) (v : Option Json) (reasonClass : String) : Typical (timestamp date v reasonClass) := by
  rw [Agent.timestamp]
  cases parseDate date v with
  | none => exact .inr ⟨reasonClass, false, rfl⟩
  | some t => exact pure t

theorem exactKeys (v : Option Json) (fields : List String) (reasonClass : String) :
    Typical (exactKeys v fields reasonClass) := require reasonClass _

theorem unit {r : Outcome Unit} (h : Typical r) : r = .ok () ∨ Rejects r := by
  rcases h with ⟨_, h⟩ | h
  · exact .inl h
  · exact .inr h

end Typical

mutual

theorem typical_payload : (v : Json) → (depth : ℕ) → Typical (validatePayload v depth)
  | .null, depth => by
    rw [validatePayload]
    exact (Typical.require _ _).bind fun _ => .pure ()
  | .bool _, depth => by
    rw [validatePayload]
    exact (Typical.require _ _).bind fun _ => .pure ()
  | .num _, depth => by
    rw [validatePayload]
    exact (Typical.require _ _).bind fun _ => .pure ()
  | .str _, depth => by
    rw [validatePayload]
    exact (Typical.require _ _).bind fun _ => .require _ _
  | .arr items, depth => by
    rw [validatePayload]
    exact (Typical.require _ _).bind fun _ => (Typical.require _ _).bind fun _ => typical_items items (depth + 1)
  | .obj fields, depth => by
    rw [validatePayload]
    exact (Typical.require _ _).bind fun _ => (Typical.require _ _).bind fun _ => typical_fields fields (depth + 1)

theorem typical_items : (items : List Json) → (depth : ℕ) → Typical (validateItems items depth)
  | [], depth => by
    rw [validateItems]
    exact .pure ()
  | v :: rest, depth => by
    rw [validateItems]
    exact (typical_payload v depth).bind fun _ => typical_items rest depth

theorem typical_fields : (fields : Fields) → (depth : ℕ) → Typical (validateFields fields depth)
  | [], depth => by
    rw [validateFields]
    exact .pure ()
  | f :: rest, depth => by
    rw [validateFields]
    exact (Typical.require _ _).bind fun _ => (typical_payload f.2 depth).bind fun _ => typical_fields rest depth

end

theorem typical_optional (date : DateApi) (v : Option Json) (reasonClass : String) :
    Typical (optionalTimestamp date v reasonClass) := by
  rw [optionalTimestamp]
  split
  · exact .pure ()
  · exact (Typical.timestamp date v reasonClass).bind fun _ => .pure ()

section
variable (date : DateApi)

theorem plainRejects_capability (capability : Json) : PlainRejects (capabilityChecks capability) := by
  refine plainRejects_of_forall fun result hresult => Typical.unit ?_
  simp only [capabilityChecks, List.mem_cons, Check.plain.injEq, reduceCtorEq, List.not_mem_nil, or_false, false_or] at hresult
  rcases hresult with rfl | rfl | rfl
  · exact .exactKeys _ _ _
  all_goals exact .require _ _

theorem plainRejects_grant (grant : Json) : PlainRejects (grantChecks date grant) := by
  refine plainRejects_of_forall fun result hresult => Typical.unit ?_
  simp only [grantChecks, List.mem_cons, Check.plain.injEq, reduceCtorEq, List.not_mem_nil, or_false, false_or] at hresult
  rcases hresult with rfl | rfl | rfl | rfl | rfl | rfl | rfl
  · exact .exactKeys _ _ _
  · exact .require _ _
  · exact .require _ _
  · exact .require _ _
  · exact (Typical.timestamp date _ _).bind fun _ => (Typical.timestamp date _ _).bind fun _ => .require _ _
  · exact typical_optional date _ _
  · exact .require _ _

theorem typical_principal {v : Option Json} {result : Outcome Unit} (hresult : Check.plain result ∈ principalChecks v) :
    Typical result := by
  simp only [principalChecks, List.mem_cons, Check.plain.injEq, List.not_mem_nil, or_false] at hresult
  rcases hresult with rfl | rfl | hid
  · exact .exactKeys _ _ _
  · exact .require _ _
  · split at hid
    · cases hid
    · cases hid
      exact .require _ _

theorem plainRejects_envelope (envelope : Json) : PlainRejects (envelopeChecks date envelope) := by
  refine plainRejects_of_forall fun result hresult => Typical.unit ?_
  rw [envelopeChecks, List.mem_append, List.mem_append, List.mem_append] at hresult
  rcases hresult with ((hresult | hsender) | hrecipient) | hresult
  · simp only [List.mem_cons, Check.plain.injEq, reduceCtorEq, List.not_mem_nil, or_false, false_or] at hresult
    rcases hresult with rfl | rfl | rfl | rfl | rfl
    · exact .exactKeys _ _ _
    all_goals exact .require _ _
  · exact typical_principal hsender
  · exact typical_principal hrecipient
  · simp only [List.mem_cons, Check.plain.injEq, List.not_mem_nil, or_false] at hresult
    rcases hresult with rfl | rfl | rfl | rfl
    · exact (Typical.timestamp date _ _).bind fun _ => (Typical.timestamp date _ _).bind fun _ => .require _ _
    · exact .require _ _
    · exact typical_payload _ _
    · exact .require _ _

theorem typical_identity {identity : Json} {result : Outcome Unit}
    (hresult : Check.plain result ∈ identityChecks date identity) : Typical result := by
  simp only [identityChecks, List.mem_cons, Check.plain.injEq, reduceCtorEq, List.not_mem_nil, or_false, false_or] at hresult
  rcases hresult with rfl | rfl | rfl | rfl | rfl | rfl | rfl | rfl | rfl | rfl | rfl | rfl | rfl | rfl | rfl | rfl |
    rfl | rfl | rfl
  all_goals first
    | exact .exactKeys _ _ _
    | exact .require _ _
    | exact typical_optional date _ _
    | exact (Typical.timestamp date _ _).bind fun _ => .pure ()

/-- The bound on companions reads the owner and the agent as texts. -/
theorem typical_companion {identity : Json} (howner : IsString (identity.get "owner_id"))
    (hagent : IsString (identity.get "agent_id")) : Typical (companionBoundary identity) := by
  obtain ⟨owner, howner⟩ := howner
  obtain ⟨agent, hagent⟩ := hagent
  rw [companionBoundary, howner, hagent]
  split
  · exact (Typical.require _ _).bind fun _ => (Typical.pure _).bind fun _ => (Typical.require _ _).bind fun _ =>
      (Typical.pure _).bind fun _ => .require _ _
  · exact .pure ()

theorem plainRejects_identity (identity : Json) :
    PlainRejects (identityChecks date identity ++ [.plain (companionBoundary identity)]) := by
  intro before result after hchecks hbefore
  by_cases hmem : Check.plain result ∈ identityChecks date identity
  · exact (typical_identity date hmem).unit
  · -- The last check: all others have passed before it.
    have hlast : identityChecks date identity = before ∧ result = companionBoundary identity := by
      rcases List.append_eq_append_iff.mp hchecks with ⟨rest, rfl, hrest⟩ | ⟨rest, hidentity, hrest⟩
      · cases rest with
        | nil => exact ⟨(List.append_nil _).symm, (Check.plain.inj (List.cons.inj hrest).1).symm⟩
        | cons c rest => exact absurd (List.cons.inj hrest).2 (by simp)
      · cases rest with
        | nil => exact ⟨hidentity.trans (List.append_nil _), Check.plain.inj (List.cons.inj hrest).1⟩
        | cons c rest =>
          rw [List.cons_append, List.cons.injEq] at hrest
          exact absurd (hidentity ▸ hrest.1 ▸ List.mem_append_right _ List.mem_cons_self) hmem
    obtain ⟨rfl, rfl⟩ := hlast
    have htyped : Typed date identityKinds identity :=
      (identity_typed_iff fun c hc => (hbefore c hc).1).mpr fun c hc => (hbefore c hc).2
    exact (typical_companion (htyped (["owner_id"], .text) (by simp [identityKinds]))
      (isString_of_matching (htyped (["agent_id"], .matching agentIdPattern) (by simp [identityKinds])))).unit

end

/-! ## When the validators are well typed -/

/-- The validator throws an `AgentProtocolError`, or returns a copy with fields of their kinds. -/
def WellTyped (date : DateApi) (kinds : List (List String × Kind)) (v : Json) (validated : Outcome Unit) : Prop :=
  Rejects validated ∨ validated = .ok () ∧ Typed date kinds v

theorem wellTyped_runAll_iff {date : DateApi} {kinds : List (List String × Kind)} {v : Json} {checks : List Check}
    (hplain : PlainRejects checks)
    (htyped : (∀ c ∈ checks, c.run = .ok ()) → (Typed date kinds v ↔ ∀ c ∈ checks, c.OnString)) :
    WellTyped date kinds v (runAll checks) ↔ ¬ Slips checks := by
  rw [WellTyped, ← Check.wellTyped_iff hplain]
  refine or_congr_right (and_congr_right fun hrun => htyped ?_)
  rcases runAll_cases checks with hall | ⟨-, -, -, e, -, -, -, herror⟩
  · exact hall
  · rw [hrun] at herror
    cases herror

/-- Each validator either throws an `AgentProtocolError` or returns identifiers, references,
versions, nonces and timestamps of their types, as long as no property that is only tested
with a pattern is a value whose text slips through. -/
theorem validators_well_typed_iff (date : DateApi) (v : Json) :
    (WellTyped date identityKinds v (validateAgentIdentity date v) ↔
      ¬ Slips (identityChecks date v ++ [.plain (companionBoundary v)])) ∧
    (WellTyped date grantKinds v (validateAuthorityGrant date v) ↔ ¬ Slips (grantChecks date v)) ∧
    (WellTyped date (envelopeKinds v) v (validateEnvelope date v) ↔ ¬ Slips (envelopeChecks date v)) ∧
    (WellTyped date capabilityKinds v (validateCapability v) ↔ ¬ Slips (capabilityChecks v)) := by
  rw [validateAgentIdentity_eq, validateAuthorityGrant_eq, validateEnvelope_eq, validateCapability_eq]
  refine ⟨wellTyped_runAll_iff (plainRejects_identity date v) fun h => ?_,
    wellTyped_runAll_iff (plainRejects_grant date v) grant_typed_iff,
    wellTyped_runAll_iff (plainRejects_envelope date v) envelope_typed_iff,
    wellTyped_runAll_iff (plainRejects_capability v) capability_typed_iff⟩
  rw [List.forall_mem_append] at h
  rw [identity_typed_iff h.1, List.forall_mem_append]
  exact (and_iff_left (by simp [OnString])).symm

namespace Sample

/-- The sample capability with another identifier. -/
def renamed (id : Json) : Json := capabilityValue.set "capability_id" id

def wrappedId : Json := .arr [.text capabilityId]

theorem get_renamed (id : Json) : (renamed id).get "capability_id" = some id := rfl

/-- An array of one text is accepted for an identifier, and an object without a text ends the
validation in a TypeError. -/
theorem capability_slips :
    (validateCapability (renamed wrappedId) = .ok () ∧
      ¬ WellTyped isoDate capabilityKinds (renamed wrappedId) (validateCapability (renamed wrappedId))) ∧
    validateCapability (renamed (.record [("toString", .null)])) = .error .typeError ∧
    ¬ WellTyped isoDate capabilityKinds (renamed (.record [("toString", .null)]))
      (validateCapability (renamed (.record [("toString", .null)]))) := by
  have haccepted : validateCapability (renamed wrappedId) = .ok () := ok_of_isOk (by decide +kernel)
  have hthrown : validateCapability (renamed (.record [("toString", .null)])) = .error .typeError := by
    decide +kernel
  refine ⟨⟨haccepted, ?_⟩, hthrown, ?_⟩
  · rintro (⟨_, _, h⟩ | ⟨-, htyped⟩)
    · cases haccepted.symm.trans h
    · have hid := htyped (["capability_id"], .matching capabilityIdPattern) (by simp [capabilityKinds])
      obtain ⟨s, hs⟩ := isString_of_matching hid
      cases (get_renamed wrappedId).symm.trans hs
  · rintro (⟨_, _, h⟩ | ⟨h, -⟩) <;> cases hthrown.symm.trans h

end Sample

end Agent
