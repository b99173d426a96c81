import StrataPortNetwork.Agent.Atomicity
import StrataPortNetwork.Agent.Payloads
import StrataPortNetwork.Agent.Separation

/-! # Identities of living companions

`createLivingCompanionIdentity` makes the identity of a companion from its aggregate: the id of the
agent and the namespace of its memory come from the id of the companion.
-/
namespace Agent
open Js

/-- The options of `createLivingCompanionIdentity`. -/
structure CompanionOptions where
  companion : Json
  accountId : Option Json
  tenantId : Option Json
  capabilities : Option Json
  grantRefs : Option Json
  budgetRefs : Option Json
  economicMandateRef : Option Json

/-- The code points of a string. -/
def characters : JsString → List JsString
  | [] => []
  | [u] => [[u]]
  | u :: v :: rest => if isHighSurrogate u && isLowSurrogate v then [u, v] :: characters rest else [u] :: characters (v :: rest)

/-- `[...(value ?? [])]`. -/
def spread (v : Option Json) : Outcome (List Json) :=
  match v.getD .null with
  | .null => .ok []
  | .arr items => .ok items
  | .str s => .ok ((characters s).map .str)
  | .bool _ | .num _ | .obj _ => .error .typeError

namespace CompanionOptions
variable (options : CompanionOptions)

/-- The id of the companion, which is a string where an identity is made. -/
def companionId : JsString := ((options.companion.get "id").bind Json.str?).getD []

/-- The id without the head `local-companion-`, which `replace` takes away. -/
def suffix : JsString :=
  if (js "local-companion-").isPrefixOf options.companionId then options.companionId.drop "local-companion-".length
  else options.companionId

def agentId : JsString := js "kindred-agent-companion-" ++ options.suffix
def namespaceRef : JsString := js "companion:" ++ options.companionId

/-- The checks on the aggregate. -/
def aggregateValid : Bool :=
  let companion := options.companion
  let permissions := field companion "permissions"
  companion.isRecord && companion.get "contract_version" == some (.text "kindred.companion.aggregate.v1") &&
    boundedString (companion.get "id") 12 96 && companion.get "owner_account_id" == options.accountId &&
    permissions.get "owner_account_only" == some (.bool true) && permissions.get "provider_access" == some (.bool false) &&
    oneOf (companion.get "lifecycle_state") ["companion_active", "companion_offline"] &&
    (field companion "provenance").get "historical_data_status" == some (.text "unavailable_not_fabricated")

/-- The identity before its validation. -/
def identity (capabilities grantRefs budgetRefs : List Json) : Json :=
  .record [("contract_version", .text "kindred.agent.identity.v1"), ("agent_id", .str options.agentId),
    ("tenant_id", options.tenantId.getD .null), ("agent_class", .text "living_companion"),
    ("owner_id", options.accountId.getD .null), ("creator_id", .text "kindred-component-brainstem"), ("version", .text "1.0.0"),
    ("lineage", .record [("parent_agent_id", .null), ("replaces_agent_id", .null)]),
    ("purpose", .text "Maintain an owner-bound living companion presence without sovereign authority."),
    ("capabilities", .arr capabilities),
    ("prohibited_capabilities", .arr [.text "direct_memory_commit", .text "direct_tool_execution", .text "direct_value_movement",
      .text "founder_authority"]),
    ("permissions", .arr [.text "companion.communicate", .text "companion.memory.propose"]),
    ("authority", .record [("issuer_component", .text "brainstem"), ("grant_refs", .arr grantRefs),
      ("ceiling", .text "user_delegated")]),
    ("budget_refs", .arr budgetRefs), ("lifecycle_state", .text "active"),
    ("health", .text (if options.companion.get "lifecycle_state" == some (.text "companion_active") then "healthy" else "degraded")),
    ("evidence_refs", .arr []),
    ("memory_scope", .record [("namespace_refs", .arr [.str options.namespaceRef]), ("write_mode", .text "proposal_only")]),
    ("execution_scope", .record [("mode", .text "proposal_only"), ("allowed_capabilities", .arr capabilities)]),
    ("provider_scope", .record [("mode", .text "mediated_only"), ("provider_refs", .arr [])]),
    ("economic_mandate_ref", options.economicMandateRef.getD .null), ("replacement_agent_id", .null),
    ("created_at", field options.companion "adopted_at"), ("revoked_at", .null)]

end CompanionOptions

/-- `createLivingCompanionIdentity(options)`. -/
def createLivingCompanionIdentity (date : DateApi) (options : CompanionOptions) : Outcome Json := do
  require "companion_aggregate_invalid" options.aggregateValid
  requireTest "companion_aggregate_invalid" tenantIdPattern options.tenantId
  let capabilities ← spread options.capabilities
  let grantRefs ← spread options.grantRefs
  let budgetRefs ← spread options.budgetRefs
  let identity := options.identity capabilities grantRefs budgetRefs
  validateAgentIdentity date identity
  pure identity

/-- No capabilities, grants or budgets are given. -/
structure CompanionOptions.Bare (options : CompanionOptions) : Prop where
  capabilities : spread options.capabilities = .ok []
  grantRefs : spread options.grantRefs = .ok []
  budgetRefs : spread options.budgetRefs = .ok []

/-! ## What is valid about them -/

/-- What the validator of identities leaves to the options. -/
structure CompanionOptions.Sound (date : DateApi) (options : CompanionOptions) : Prop where
  agent : agentIdPattern.accepts options.agentId = true
  tenant : tenantIdPattern.test (some (options.tenantId.getD .null)) = some true
  owner : boundedString (some (options.accountId.getD .null)) 8 128 = true
  owned : startsWith (some (options.accountId.getD .null)) "kindred-account-" = .ok true
  namespaceRef : boundedString (some (.str options.namespaceRef)) 3 128 = true
  mandate : nullableReference (some (options.economicMandateRef.getD .null)) none = true
  created : ∃ t, timestamp date (some (field options.companion "adopted_at")) "identity_timestamp_invalid" = .ok t

variable {date : DateApi} {options : CompanionOptions} {identity : Json}

/-- An identity that was made is one that its validator accepts. -/
theorem identity_of_created (h : createLivingCompanionIdentity date options = .ok identity) (hbare : options.Bare) :
    identity = options.identity [] [] [] ∧ validateAgentIdentity date (options.identity [] [] []) = .ok () := by
  simp only [createLivingCompanionIdentity, bind_eq_ok, pure_eq_ok, hbare.capabilities, hbare.grantRefs, hbare.budgetRefs,
    Except.ok.injEq, exists_eq_left'] at h
  obtain ⟨-, -, -, -, ⟨⟩, hvalid, rfl⟩ := h
  exact ⟨rfl, hvalid⟩

theorem uniqueStrings_single (v : Json) : uniqueStrings (some (.arr [v])) 64 0 = boundedString (some v) 3 128 := by
  simp [uniqueStrings, Json.allDistinct]

theorem Check.runAll_eq_ok {checks : List Check} : Check.runAll checks = .ok () ↔ ∀ c ∈ checks, c.run = .ok () := by
  induction checks with
  | nil => simp [Check.runAll]
  | cons c rest ih =>
    rw [Check.runAll, bind_eq_ok, List.forall_mem_cons, ← ih]
    constructor
    · rintro ⟨_, hc, hrest⟩
      exact ⟨hc, hrest⟩
    · rintro ⟨hc, hrest⟩
      exact ⟨(), hc, hrest⟩

@[simp] theorem oneOf_text {s : String} {set : List String} : oneOf (some (.text s)) set = true ↔ s ∈ set := by
  rw [oneOf, List.any_eq_true]
  constructor
  · rintro ⟨t, ht, heq⟩
    rw [Json.text, Json.text, Json.some_beq_str_iff, Option.some.injEq, Json.str.injEq, js_inj] at heq
    exact heq ▸ ht
  · exact fun hs => ⟨s, hs, Json.some_beq_str_iff.mpr rfl⟩

/-- Strings contain themselves. -/
theorem subset_self {items : List Json} (h : uniqueStrings (some (.arr items)) 64 0 = true) :
    subset (some (.arr items)) (some (.arr items)) = true := by
  simp only [uniqueStrings, Bool.and_eq_true, List.all_eq_true] at h
  refine List.all_eq_true.mpr fun v hv => List.contains_iff_exists_mem_beq.mpr ⟨v, hv, ?_⟩
  obtain ⟨s, hs⟩ := isString_of_bounded (h.2 v hv)
  cases hs
  exact (Json.str_beq_str s s).mpr rfl

/-- The validator leaves to the options what is sound about them, and the lists that an identity declares. -/
theorem validateAgentIdentity_identity_iff {capabilities grantRefs : List Json} :
    validateAgentIdentity date (options.identity capabilities grantRefs []) = .ok () ↔ options.Sound date ∧
      uniqueStrings (some (.arr capabilities)) 64 0 = true ∧ uniqueStrings (some (.arr grantRefs)) 64 0 = true ∧
        ∀ c ∈ capabilities, includes ((options.identity capabilities grantRefs []).get "prohibited_capabilities") (some c) = false := by
  have hget : ∀ name, (options.identity capabilities grantRefs []).get name = _ := fun name => Json.get_record _ _
  have hkeys : exactKeys (some (options.identity capabilities grantRefs [])) IDENTITY_FIELDS "identity_fields_invalid" = .ok () :=
    Gateway.exactKeys_record rfl _
  have htext : ∀ s : String, (some (Json.text s) == some (.text s)) = true := fun _ => Json.some_beq_str_iff.mpr rfl
  have hempty : uniqueStrings (some (.arr [])) 64 0 = true := rfl
  have htexts : uniqueStrings (some (.arr [.text "direct_memory_commit", .text "direct_tool_execution", .text "direct_value_movement",
        .text "founder_authority"])) 64 0 = true ∧
      uniqueStrings (some (.arr [.text "companion.communicate", .text "companion.memory.propose"])) 64 0 = true ∧
      boundedString (some (.text "kindred-component-brainstem")) 8 128 = true ∧
      boundedString (some (.text "Maintain an owner-bound living companion presence without sovereign authority.")) 1 512 = true ∧
      versionPattern.test (some (.text "1.0.0")) = some true := by decide +kernel
  have hnull : ∀ pattern, nullableReference (some .null) pattern = true := fun _ => rfl
  have hne : ∀ s : JsString, (some Json.null == some (.str s)) = false := fun _ => rfl
  have hstates : (some (Json.text "active") == some (.text "revoked")) = false ∧ (some (Json.text "active") == some (.text "replaced")) = false := by
    decide
  have hnone : optionalTimestamp date (some .null) "identity_timestamp_invalid" = .ok () := rfl
  have hisNull : isNull (some .null) = true := rfl
  have hclass : "living_companion" ∈ AGENT_CLASSES ∧ "user_delegated" ∈ AUTHORITY_LEVELS ∧
      "active" ∈ ["registered", "active", "suspended", "revoked", "retired", "replaced"] := by decide
  have hhealth : ∀ b : Bool, (if b = true then "healthy" else "degraded") ∈ ["healthy", "degraded", "unavailable", "unknown"] := by decide
  have hceiling : (some (Json.text "user_delegated") == some (Json.text "founder_delegated")) = false ∧
      includes (some (.arr [.text "companion.communicate", .text "companion.memory.propose"])) (some (.text "founder_authority")) = false := by
    decide
  have hnamed : startsWith (some (.str options.agentId)) "kindred-agent-companion-" = .ok true := by
    have hpfx : (js "kindred-agent-companion-").isPrefixOf options.agentId = true :=
      List.isPrefixOf_iff_prefix.mpr ⟨options.suffix, rfl⟩
    change pure ((js "kindred-agent-companion-").isPrefixOf options.agentId) = Except.ok true
    rw [hpfx]
    rfl
  rw [validateAgentIdentity_eq, Check.runAll_eq_ok, List.forall_mem_append]
  simp only [identityChecks, List.forall_mem_cons, Check.run, hkeys, hget, List.lookup_cons, String.reduceBEq, require_eq_ok,
    requireTest_eq_ok, Option.getD_some, Json.get_record, htext, htexts, hempty, hnull, hne, hstates, hnone,
    hisNull, Bool.and_eq_true, oneOf_text, uniqueStrings_single, hclass, hhealth, companionBoundary, if_true, Option.bind_some, bind_eq_ok,
    hceiling, hnamed, true_and, and_true, List.not_mem_nil, false_implies, implies_true, pure_eq_ok, Bool.not_false, beq_self_eq_true,
    Except.ok.injEq, Bool.not_true, exists_eq_left', exists_const, Bool.not_eq_true', List.any_eq_false, items, Json.items?, Option.getD_some]
  constructor
  · rintro ⟨⟨hagent, htenant, howner, hcapabilities, hprohibited, -, -, hgrants, -, hnamespace, -, -, -, hmandate, hcreated⟩, -, howned, rfl⟩
    exact ⟨⟨by simpa using hagent, htenant, howner, howned, hnamespace, hmandate, hcreated⟩, hcapabilities, hgrants,
      fun c hc => Bool.eq_false_iff.mpr (hprohibited c hc)⟩
  · rintro ⟨hsound, hcapabilities, hgrants, hprohibited⟩
    exact ⟨⟨congrArg some hsound.agent, hsound.tenant, hsound.owner, hcapabilities, fun c hc => Bool.eq_false_iff.mp (hprohibited c hc),
      Gateway.exactKeys_record rfl _, Gateway.exactKeys_record rfl _, hgrants, Gateway.exactKeys_record rfl _, hsound.namespaceRef,
      Gateway.exactKeys_record rfl _, ⟨hcapabilities, subset_self hcapabilities⟩, Gateway.exactKeys_record rfl _, hsound.mandate,
      hsound.created⟩, true, hsound.owned, rfl⟩

/-- A property that a record has keeps its place. -/
theorem set_record {fields : List (String × Json)} {name : String} (h : name ∈ fields.map Prod.fst) (v : Json) :
    (Json.record fields).set name v = .record (fields.map fun f => if f.1 = name then (name, v) else f) := by
  have hmem : js name ∈ (fields.map fun f => (js f.1, f.2)).map Prod.fst := by
    rw [List.map_map]
    exact List.mem_map.mpr ((List.mem_map.mp h).imp fun f hf => ⟨hf.1, congrArg js hf.2⟩)
  have hfield : ∀ f : String × Json, (if js f.1 = js name then (js name, v) else (js f.1, f.2)) =
      (js (if f.1 = name then (name, v) else f).1, (if f.1 = name then (name, v) else f).2) := by
    intro f
    by_cases hname : f.1 = name
    · rw [if_pos hname, if_pos (congrArg js hname)]
    · rw [if_neg hname, if_neg (hname ∘ js_inj.mp)]
  rw [Json.set, Json.setField, Json.record, Json.fields, if_pos hmem, Json.record, List.map_map, List.map_map]
  exact congrArg Json.obj (List.map_congr_left fun f _ => hfield f)

theorem field_record (fields : List (String × Json)) (name : String) :
    field (.record fields) name = (fields.lookup name).getD .null := by
  rw [field, Json.get_record]

/-- The identity that declares the grant of a proposal. -/
theorem scopedIdentity_identity (grant : Json) (capabilityId : String) :
    scopedIdentity (options.identity [] [] []) grant (.text capabilityId) =
      options.identity [.text capabilityId] [field grant "grant_id"] [] := by
  have hauthority : field (options.identity [] [] []) "authority" = .record [("issuer_component", .text "brainstem"),
      ("grant_refs", .arr []), ("ceiling", .text "user_delegated")] := field_record _ _
  have hexecution : field (options.identity [] [] []) "execution_scope" = .record [("mode", .text "proposal_only"),
      ("allowed_capabilities", .arr [])] := field_record _ _
  rw [scopedIdentity, hauthority, hexecution, set_record (by simp), set_record (by simp), CompanionOptions.identity,
    set_record (by simp), set_record (by simp), set_record (by simp), set_record (by simp)]
  simp only [List.map_cons, List.map_nil, String.reduceEq, if_true, if_false]
  rfl

end Agent
