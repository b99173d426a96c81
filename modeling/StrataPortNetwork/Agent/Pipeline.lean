import StrataPortNetwork.Agent.Approval

/-! # From a valid proposal to its approval

What a proposal of either kind has to be, beyond what its own validator asks, for the artifacts to
be created, accepted at a fresh gateway and approved by the brainstem.
-/
namespace Agent
open Js Discovery Brainstem

/-! ## Payloads of proposals -/

/-- Text that JSON writes as it is. -/
def PlainText (s : JsString) : Prop := ∀ u ∈ s, 32 ≤ u.toNat ∧ u.toNat < 127 ∧ u.toNat ≠ 34 ∧ u.toNat ≠ 92

instance (s : JsString) : Decidable (PlainText s) := List.decidableBAll _ s

theorem bounded_text {s : String} {least most : ℕ} (h : least ≤ (js s).length ∧ (js s).length ≤ most ∧ PlainText (js s)) :
    boundedString (some (.text s)) least most = true :=
  boundedString_str.mpr ⟨h.1, h.2.1, fun u hu => ⟨(h.2.2 u hu).1, by have := (h.2.2 u hu).2.1; omega⟩⟩

/-- A value of a proposal other than its content. -/
structure Slight (v : Json) : Prop where
  safe : TreeSafe v 1
  short : weight (stringify v) ≤ 130

theorem treeSafe_of_validated {v : Json} (h : validatePayload v 1 = .ok ()) : TreeSafe v 1 := (validatePayload_eq_ok v 1).mp h

theorem slight_plain {s : JsString} (hlength : s.length ≤ 128) (h : PlainText s) : Slight (.str s) := by
  constructor
  · refine treeSafe_of_validated ?_
    have hbounded : boundedString (some (.str s)) 0 4096 = true :=
      boundedString_str.mpr ⟨Nat.zero_le _, by omega, fun u hu => ⟨(h u hu).1, by have := (h u hu).2.1; omega⟩⟩
    simp [validatePayload, hbounded]
  · have hplain := weight_quote_plain fun u hu => ⟨(h u hu).1, by have := (h u hu).2.1; omega, (h u hu).2.2⟩
    rw [stringify, hplain]
    omega

theorem slight_null : Slight .null := ⟨treeSafe_of_validated (by simp [validatePayload]), by decide⟩

theorem slight_bool (b : Bool) : Slight (.bool b) :=
  ⟨treeSafe_of_validated (by simp [validatePayload]), by cases b <;> decide⟩

theorem slight_num {x : JsNumber} (h : x.toText.length ≤ 130) : Slight (.num x) := by
  refine ⟨treeSafe_of_validated (by simp [validatePayload]), ?_⟩
  rw [stringify, weight_of_ascii (ascii_toText x)]
  exact h

theorem slight_reference {s : JsString} (h : opaqueReferencePattern.accepts s = true) : Slight (.str s) := by
  obtain ⟨-, hmost, hunits⟩ := units_of_reference h
  refine slight_plain hmost fun u hu => ?_
  have := hunits u hu
  omega

/-- The names of a proposal's fields, which are plain and harmless. -/
structure NameSafe (name : String) : Prop where
  key : KeySafe (js name)
  short : (js name).length ≤ 27
  plain : PlainText (js name)

theorem weight_name {name : String} (h : NameSafe name) {v : Json} {n : ℕ} (hv : weight (stringify v) ≤ n) :
    weight (fieldText (js name, v)) + 1 ≤ 31 + n := by
  have hkey := weight_quote_plain fun u hu => ⟨(h.plain u hu).1, by have := (h.plain u hu).2.1; omega, (h.plain u hu).2.2⟩
  have hcolon : unitBytes 58 = 1 := rfl
  have hshort := h.short
  simp only [fieldText, weight_append, weight_cons, hcolon, hkey]
  omega

section
variable {before after : List (String × Json)} {content : JsString}
  (hnames : ∀ name ∈ ((before ++ after).map Prod.fst), NameSafe name) (hslight : ∀ f ∈ before ++ after, Slight f.2)
  (hcount : before.length + after.length ≤ 20)
include hnames hslight hcount

/-- Slight values and a content of the length that proposals allow are within the size of a payload. -/
theorem payload_size (hname : NameSafe "content") (hcontent : content.length ≤ 4096) :
    (utf8Encode (stringify (.record (before ++ ("content", .str content) :: after)))).length ≤ MAX_PAYLOAD_BYTES := by
  have hsum : ∀ fields : List (String × Json), (∀ f ∈ fields, NameSafe f.1 ∧ Slight f.2) →
      ((fields.map fun f => (js f.1, f.2)).map fun f => weight (fieldText f) + 1).sum ≤ 161 * fields.length := by
    intro fields hall
    induction fields with
    | nil => simp
    | cons f rest ih =>
      have hrest := ih fun f' hf' => hall f' (List.mem_cons_of_mem f hf')
      obtain ⟨hsafe, hvalue⟩ := hall f List.mem_cons_self
      have hfirst := weight_name hsafe hvalue.short
      simp only [List.map_cons, List.sum_cons, List.length_cons] at hrest ⊢
      omega
  have hall : ∀ f ∈ before ++ after, NameSafe f.1 ∧ Slight f.2 := fun f hf => ⟨hnames f.1 (List.mem_map_of_mem hf), hslight f hf⟩
  have hbefore := hsum before fun f hf => hall f (List.mem_append_left after hf)
  have hafter := hsum after fun f hf => hall f (List.mem_append_right before hf)
  have htext : weight (stringify (.str content)) ≤ 24578 := by
    have := weight_quote_le content
    rw [stringify]
    omega
  have hmiddle := weight_name hname htext
  have hbytes := utf8Encode_length_le_weight (stringify (.record (before ++ ("content", .str content) :: after)))
  have hobject := weight_obj_le ((before ++ ("content", .str content) :: after).map fun f => (js f.1, f.2))
  simp only [List.map_append, List.map_cons, List.sum_append, List.sum_cons] at hobject
  simp only [Json.record, List.map_append, List.map_cons] at hbytes ⊢
  rw [MAX_PAYLOAD_BYTES]
  omega

/-- Such a payload is valid exactly when its content has no control characters. -/
theorem payload_valid_iff (hname : NameSafe "content") (hcontent : content.length ≤ 4096) :
    validatePayload (.record (before ++ ("content", .str content) :: after)) 0 = .ok () ↔ Printable content := by
  have htext : TreeSafe (.str content) 1 ↔ Printable content := by
    rw [← validatePayload_eq_ok]
    simp [validatePayload, boundedString_str, hcontent]
  rw [validatePayload_eq_ok, Json.record, treeSafe_obj, ← htext]
  have hlength : ((before ++ ("content", .str content) :: after).map fun f => (js f.1, f.2)).length ≤ 128 := by
    rw [List.length_map, List.length_append, List.length_cons]
    omega
  constructor
  · rintro ⟨-, -, hall⟩
    exact (hall (js "content", .str content) (List.mem_map.mpr ⟨("content", .str content), by simp, rfl⟩)).2
  · intro hsafe
    refine ⟨Nat.zero_le _, hlength, List.forall_mem_map.mpr fun f hf => ?_⟩
    rcases List.mem_append.mp hf with hf | hf
    · exact ⟨(hnames f.1 (List.mem_map_of_mem (List.mem_append_left after hf))).key, (hslight f (List.mem_append_left after hf)).safe⟩
    · rcases List.mem_cons.mp hf with rfl | hf
      · exact ⟨hname.key, hsafe⟩
      · exact ⟨(hnames f.1 (List.mem_map_of_mem (List.mem_append_right before hf))).key,
          (hslight f (List.mem_append_right before hf)).safe⟩

end

theorem nameSafe {name : String} (h : name ∈ COMPANION_COMMUNICATION_PROPOSAL_FIELDS ++ COMPANION_MEMORY_PROPOSAL_FIELDS) :
    NameSafe name := by
  have hall : ((COMPANION_COMMUNICATION_PROPOSAL_FIELDS ++ COMPANION_MEMORY_PROPOSAL_FIELDS).all fun name =>
      boundedString (some (.str (js name))) 1 128 && !(forbiddenPayloadKeys.map js).contains (toLowerCase (js name)) &&
        Decidable.decide ((js name).length ≤ 27 ∧ PlainText (js name))) = true := by decide +kernel
  have hname := List.all_eq_true.mp hall name h
  rw [Bool.and_eq_true, decide_eq_true_eq] at hname
  exact ⟨require_key_iff.mp (require_eq_ok.mpr hname.1), hname.2.1, hname.2.2⟩

/-- A reference is a string or a number, unless it is an array that is written as one. -/
theorem slight_of_test {v : Json} (h : opaqueReferencePattern.test (some v) = some true) (harray : v.items? = none) :
    Slight v ∧ (v == v) = true := by
  rw [Regex.test, Option.map_eq_some_iff] at h
  obtain ⟨s, hs, haccepts⟩ := h
  have hplain : ∀ {text : String}, some (js text) = some s → opaqueReferencePattern.accepts (js text) = true := by
    rintro text ⟨⟩
    exact haccepts
  cases v with
  | str t =>
    obtain rfl : t = s := Option.some.inj hs
    exact ⟨slight_reference haccepts, (Json.str_beq_str t t).mpr rfl⟩
  | num x =>
    obtain rfl : x.toText = s := Option.some.inj hs
    obtain ⟨-, hmost, -⟩ := units_of_reference haccepts
    exact ⟨slight_num (by omega), decide_eq_true rfl⟩
  | arr items => cases harray
  | null => exact absurd (hplain hs) (by decide)
  | bool b => cases b with
    | true => exact absurd (hplain hs) (by decide)
    | false => exact absurd (hplain hs) (by decide)
  | obj fields =>
    change (if js "toString" ∈ fields.map Prod.fst then none else some (js "[object Object]")) = some s at hs
    split at hs
    · cases hs
    · exact absurd (hplain hs) (by decide)

/-- A control character that the validators of proposals allow and that of payloads does not. -/
def isBreak (u : UInt16) : Bool := u == 9 || u == 10 || u == 13

theorem printable_iff {engine : Engine} {content : JsString} (h : contentValid engine (some (.str content)) = true) :
    Printable content ↔ content.any isBreak = false := by
  simp only [contentValid, Bool.and_eq_true, Bool.not_eq_true', List.any_eq_false] at h
  obtain ⟨-, hsafe⟩ := h
  have hvalue : ∀ {u v : UInt16}, u.toNat = v.toNat → u = v := UInt16.toNat.inj
  simp only [Printable, List.any_eq_false, isBreak, Bool.or_eq_true, beq_iff_eq, not_or]
  refine forall_congr' fun u => forall_congr' fun hu => ?_
  have hunit := hsafe u hu
  simp only [isUnsafe, Bool.or_eq_true, Bool.and_eq_true, decide_eq_true_eq, beq_iff_eq, not_or, not_and, ne_eq, Classical.not_not]
    at hunit
  constructor
  · rintro ⟨hlow, -⟩
    refine ⟨⟨?_, ?_⟩, ?_⟩ <;> rintro rfl <;> exact absurd hlow (by decide)
  · rintro ⟨⟨hnine, hten⟩, hthirteen⟩
    refine ⟨?_, fun h => hunit.2 (hvalue h)⟩
    by_contra hlow
    exact hthirteen (hunit.1 ⟨⟨by omega, hnine⟩, hten⟩)

/-! ## Requests of proposals -/

theorem slight_text {s : String} (h : (js s).length ≤ 128 ∧ PlainText (js s)) : Slight (.text s) := slight_plain h.1 h.2

/-- What an id with a head is: a plain reference. -/
theorem slight_of_id {head : String} {least most : ℕ} {v : Json} (hhead : (js head).head?.any (CharClass.has (Regex.upper ++
      Regex.lower ++ Regex.digits)) = true) (htail : (js head).tail.all referenceClass.has = true) (hleast : 8 ≤ (js head).length + least)
    (hmost : (js head).length + most ≤ 128) (h : (Regex.seq (.text head) (.run idClass least most)).test (some v) = some true)
    (hv : IsString (some v)) : Slight v ∧ boundedString (some v) 3 128 = true ∧ opaqueReferencePattern.test (some v) = some true := by
  obtain ⟨s, ⟨⟩⟩ := hv
  rw [test_str, Option.some.injEq] at h
  have hreference := reference_of_id hhead htail hleast hmost h
  exact ⟨slight_reference hreference, bounded_of_reference hreference, congrArg some hreference⟩

section
variable {engine : Engine} {request : Request} {before after : List (String × Json)} {content : JsString}

/-- An envelope carries a proposal when its references are references and its content has no breaks. -/
theorem carried_iff (hpayload : request.payload = .record (before ++ ("content", .str content) :: after))
    (hnames : ∀ name ∈ ((before ++ after).map Prod.fst), NameSafe name) (hslight : ∀ f ∈ before ++ after, Slight f.2)
    (hcount : before.length + after.length ≤ 20) (hcontent : contentValid engine (some (.str content)) = true) : request.Carried ↔
      opaqueReferencePattern.test (some request.correlationId) = some true ∧
        nullableReference (some request.causationId) (some opaqueReferencePattern) = true ∧
        uniqueStrings (some (.arr request.evidenceRefs)) 64 0 = true ∧ content.any isBreak = false := by
  have hname : NameSafe "content" := nameSafe (by decide)
  have hlength : content.length ≤ 4096 := by
    simp only [contentValid, Bool.and_eq_true, decide_eq_true_eq] at hcontent
    exact hcontent.1.1.2
  have hvalid := payload_valid_iff hnames hslight hcount hname hlength
  have hsize := payload_size hnames hslight hcount hname hlength
  rw [printable_iff hcontent, ← hpayload] at hvalid
  rw [← hpayload] at hsize
  constructor
  · exact fun h => ⟨h.correlation, h.causation, h.evidence, hvalid.mp h.payload⟩
  · rintro ⟨hcorrelation, hcausation, hevidence, hbreaks⟩
    exact ⟨hcorrelation, hcausation, hevidence, hpayload ▸ rfl, hvalid.mpr hbreaks, hsize⟩

end

theorem accepts_capabilityId {name : JsString}
    (hunits : name.all (CharClass.has (Regex.lower ++ Regex.digits ++ [(95, 95), (46, 46), (45, 45)])) = true)
    (hleast : 3 ≤ name.length) (hmost : name.length ≤ 96) :
    capabilityIdPattern.accepts (js "kindred.capability." ++ (name ++ (js ".v" ++ js "1"))) = true := by
  have hversion : (Regex.plus Regex.digits).Matches (js "1") := (Regex.accepts_iff _ _).mp (by decide)
  exact (Regex.accepts_iff _ _).mpr (.seq (.lit _) (.seq (.run (List.all_eq_true.mp hunits) hleast hmost) (.seq (.lit _) hversion)))

theorem accepts_communicationId : capabilityIdPattern.accepts (js COMPANION_COMMUNICATION_CAPABILITY_ID) = true := by
  have hid : js COMPANION_COMMUNICATION_CAPABILITY_ID =
      js "kindred.capability." ++ (js "companion.communication-proposal" ++ (js ".v" ++ js "1")) := by decide
  rw [hid]
  exact accepts_capabilityId (by decide) (by decide) (by decide)

theorem accepts_memoryId : capabilityIdPattern.accepts (js COMPANION_MEMORY_PROPOSAL_CAPABILITY_ID) = true := by
  have hid : js COMPANION_MEMORY_PROPOSAL_CAPABILITY_ID =
      js "kindred.capability." ++ (js "companion.memory-proposal" ++ (js ".v" ++ js "1")) := by decide
  rw [hid]
  exact accepts_capabilityId (by decide) (by decide) (by decide)

theorem isProposal_communication (input : CommunicationInput) :
    (communicationRequest input).IsProposal COMPANION_COMMUNICATION_CAPABILITY_ID where
  labels := rfl
  capabilityIds := rfl
  messageType := rfl
  classification := rfl
  capability := rfl
  accepted := accepts_communicationId
  bounded := bounded_text (by decide)
  permission := bounded_text (s := "companion.communicate") (by decide)
  permitted := by decide

theorem isProposal_memory (input : MemoryInput) : (memoryRequest input).IsProposal COMPANION_MEMORY_PROPOSAL_CAPABILITY_ID where
  labels := rfl
  capabilityIds := rfl
  messageType := rfl
  classification := rfl
  capability := rfl
  accepted := accepts_memoryId
  bounded := bounded_text (by decide)
  permission := bounded_text (s := "companion.memory.propose") (by decide)
  permitted := by decide

/-- The capabilities of proposals pass their validator. -/
theorem valid_proposalCapability {id owner action risk contract : String} (hid : capabilityIdPattern.accepts (js id) = true)
    (howner : owner ∈ RUNTIME_COMPONENTS) (haction : action ∈ ["communication", "reasoning", "memory_proposal", "tool", "settlement"])
    (hrisk : risk ∈ ["low", "medium", "high", "critical"]) (hcontract : boundedString (some (.text contract)) 3 256 = true) :
    validateCapability (proposalCapability id owner action risk contract) = .ok () := by
  have hget : ∀ name, (proposalCapability id owner action risk contract).get name = _ := fun name => Json.get_record _ _
  have hkeys : exactKeys (some (proposalCapability id owner action risk contract)) CAPABILITY_FIELDS "capability_fields_invalid" = .ok () :=
    Gateway.exactKeys_record rfl _
  have hversion : versionPattern.test (some (.text "1.0.0")) = some true := by decide
  have hclasses : membersOf (some (.arr [.text "living_companion"])) AGENT_CLASSES = true := by decide
  have hdata : membersOf (some (.arr [.text "confidential"])) DATA_CLASSIFICATIONS = true := by decide
  have hreceipt : boundedString (some (.text "contracts/agent/v1/protocol-receipt.schema.json")) 3 256 = true := bounded_text (by decide)
  have hmembers : "user_delegated" ∈ AUTHORITY_LEVELS ∧
      "proposal_only" ∈ ["proposal_only", "governed_local_reversible", "governed_external"] := by decide
  have hidTest : capabilityIdPattern.test (some (.text id)) = some true := congrArg some hid
  simp only [validateCapability, hkeys, hget, List.lookup_cons, String.reduceBEq, bind_eq_ok, require_eq_ok, requireTest_eq_ok,
    some_text_beq, hidTest, hversion, hclasses, hdata, hreceipt, hmembers, howner, haction, hrisk, hcontract, oneOf_text, Option.any_some, Json.isBool,
    Bool.and_eq_true, and_self, exists_const]

theorem valid_proposalCapabilities : validateCapability communicationCapability = .ok () ∧
    validateCapability memoryProposalCapability = .ok () :=
  ⟨valid_proposalCapability accepts_communicationId (by decide) (by decide) (by decide) (bounded_text (by decide)),
    valid_proposalCapability accepts_memoryId (by decide) (by decide) (by decide) (bounded_text (by decide))⟩

/-- The references of a communication proposal are strings and its content is one line. -/
structure CommunicationInput.Fits (input : CommunicationInput) : Prop where
  consent : IsString (some input.consentReceiptRef)
  message : IsString (some input.userMessageId)
  unbroken : (textIn input.content).any isBreak = false

theorem communication_carried_iff {engine : Engine} {input : CommunicationInput} {agentId : JsString}
    (hagent : field input.identity "agent_id" = .str agentId) (hclient : input.clientMessageId.items? = none)
    (h : validateCompanionCommunicationProposal engine (communicationProposal input) = .ok ()) :
    (communicationRequest input).Carried ↔ input.Fits := by
  have hget : ∀ name, (communicationProposal input).get name = _ := fun name => Json.get_record _ _
  simp only [validateCompanionCommunicationProposal, bind_eq_ok, requireTest_eq_ok, require_eq_ok, Bool.and_eq_true, hget,
    List.lookup_cons, String.reduceBEq] at h
  obtain ⟨-, -, -, -, -, hconsent, -, hcompanion, -, hmessage, -, hclientTest, ⟨hcontent, -⟩, -⟩ := h
  obtain ⟨content, hcontentText⟩ := string_of_contentValid hcontent
  obtain ⟨hclientSlight, -⟩ := slight_of_test hclientTest hclient
  have hprincipal : Slight (field input.identity "agent_id") :=
    (slight_of_id (by decide) (by decide) (by decide) (by decide) hcompanion ⟨agentId, congrArg some hagent⟩).1
  have hcarried : IsString (some input.consentReceiptRef) → IsString (some input.userMessageId) → ((communicationRequest input).Carried ↔
      opaqueReferencePattern.test (some input.clientMessageId) = some true ∧
        nullableReference (some input.userMessageId) (some opaqueReferencePattern) = true ∧
        uniqueStrings (some (.arr [input.consentReceiptRef])) 64 0 = true ∧ content.any isBreak = false) := by
    intro hconsentString hmessageString
    refine @carried_iff engine (communicationRequest input) [("contract_version", .text "kindred.agent.companion-communication-proposal.v1"),
      ("purpose", .text "companion_chat"), ("consent_receipt_ref", input.consentReceiptRef),
      ("companion_principal_id", field input.identity "agent_id"), ("user_message_id", input.userMessageId),
      ("client_message_id", input.clientMessageId)] [("response_mode", .text "brainstem_decision_required"),
      ("provider_contact_requested", .bool false), ("memory_write_requested", .bool false), ("tool_execution_requested", .bool false),
      ("settlement_requested", .bool false), ("external_effects", .bool false)] content ?_ ?_ ?_ ?_ ?_
    · rw [← hcontentText]
      rfl
    · have hfields : ∀ name ∈ ["contract_version", "purpose", "consent_receipt_ref", "companion_principal_id", "user_message_id",
          "client_message_id", "response_mode", "provider_contact_requested", "memory_write_requested", "tool_execution_requested",
          "settlement_requested", "external_effects"], name ∈ COMPANION_COMMUNICATION_PROPOSAL_FIELDS := by decide
      exact fun name hname => nameSafe (List.mem_append_left _ (hfields name hname))
    · simp only [List.cons_append, List.nil_append, List.forall_mem_cons, List.not_mem_nil, false_implies, implies_true, and_true]
      exact ⟨slight_text (by decide), slight_text (by decide),
        (slight_of_id (by decide) (by decide) (by decide) (by decide) hconsent hconsentString).1, hprincipal,
        (slight_of_id (by decide) (by decide) (by decide) (by decide) hmessage hmessageString).1, hclientSlight, slight_text (by decide),
        slight_bool false, slight_bool false, slight_bool false, slight_bool false, slight_bool false⟩
    · simp
    · exact hcontentText ▸ hcontent
  have htext : textIn input.content = content := hcontentText ▸ rfl
  constructor
  · intro hall
    have hconsentString : IsString (some input.consentReceiptRef) := isString_of_bounded (uniqueStrings_single _ ▸ hall.evidence)
    have hmessageString : IsString (some input.userMessageId) := by
      have hreference : nullableReference (some input.userMessageId) (some opaqueReferencePattern) = true := hall.causation
      rw [nullableReference, Bool.or_eq_true, Bool.and_eq_true] at hreference
      rcases hreference with hnull | ⟨hbounded, -⟩
      · cases hv : input.userMessageId with
        | null =>
          rw [hv] at hmessage
          exact absurd hmessage (by decide)
        | bool _ | num _ | str _ | arr _ | obj _ =>
          rw [hv] at hnull
          cases hnull
      · exact isString_of_bounded hbounded
    exact ⟨hconsentString, hmessageString, htext ▸ ((hcarried hconsentString hmessageString).mp hall).2.2.2⟩
  · rintro ⟨hconsentString, hmessageString, hbreaks⟩
    obtain ⟨-, hboundedMessage, hreference⟩ := slight_of_id (by decide) (by decide) (by decide) (by decide) hmessage hmessageString
    obtain ⟨-, hboundedConsent, -⟩ := slight_of_id (by decide) (by decide) (by decide) (by decide) hconsent hconsentString
    refine (hcarried hconsentString hmessageString).mpr ⟨hclientTest, ?_, ?_, htext ▸ hbreaks⟩
    · simp [nullableReference, hboundedMessage, hreference]
    · rw [uniqueStrings_single]
      exact hboundedConsent

/-- The consent receipt of a memory proposal is a string and its content is one line. -/
structure MemoryInput.Fits (input : MemoryInput) : Prop where
  consent : IsString (some input.consentReceiptRef)
  unbroken : (textIn (field input.memory "content")).any isBreak = false

theorem slight_oneOf {v : Json} {set : List String} (h : oneOf (some v) set = true)
    (hset : ∀ s ∈ set, (js s).length ≤ 128 ∧ PlainText (js s)) : Slight v := by
  obtain ⟨s, hs, heq⟩ := List.any_eq_true.mp h
  obtain rfl := Option.some.inj (Json.some_beq_str_iff.mp heq)
  exact slight_text (hset s hs)

/-- A version is a reference with its head, and a number of few digits. -/
theorem version_reference {v : Json} {version : ℤ} (h : v.safeInteger? = some version) (hpos : 1 ≤ version) :
    opaqueReferencePattern.accepts (js "memory-version:" ++ versionText v) = true ∧ Slight v := by
  cases v with
  | num x =>
    cases x with
    | int i =>
      have hi : i.natAbs ≤ 9007199254740991 ∧ i = version := by simpa [Json.safeInteger?, JsNumber.safeInteger?] using h
      have htext : (JsNumber.int i).toText = natText i.natAbs := by
        have hsign : ¬ i < 0 := by omega
        have hsmall : i.natAbs < 10 ^ 21 := by omega
        rw [JsNumber.toText, unsignedText, if_pos hsmall, if_neg hsign, List.nil_append]
      have hdigits : ∀ u ∈ natText i.natAbs, idClass.has u = true := by
        intro u hu
        have hdigit := natText_digits i.natAbs u hu
        simp only [isDigit, Bool.and_eq_true, decide_eq_true_eq] at hdigit
        exact List.any_eq_true.mpr ⟨(48, 57), by decide, by simpa using hdigit⟩
      have hlength : (natText i.natAbs).length ≤ 16 := by
        rw [natText, length_padText, digitCount]
        exact Nat.log_lt_of_lt_pow (by omega) (by omega)
      have hversionText : versionText (.num (.int i)) = natText i.natAbs := htext
      have haccepts : (Regex.seq (.text "memory-version:") (.run idClass 0 16)).accepts
          (js "memory-version:" ++ versionText (.num (.int i))) = true := by
        rw [hversionText]
        exact (Regex.accepts_iff _ _).mpr (.seq (Regex.matches_lit.mpr rfl) (.run hdigits (Nat.zero_le _) hlength))
      refine ⟨reference_of_id (by decide) (by decide) (by decide) (by decide) haccepts, slight_num ?_⟩
      rw [htext]
      omega
    | frac => cases h
  | null | bool _ | str _ | arr _ | obj _ => cases h

theorem memory_carried_iff {engine : Engine} {input : MemoryInput} {agentId : JsString}
    (hagent : field input.identity "agent_id" = .str agentId) (hclient : input.clientRequestId.items? = none)
    (h : validateCompanionMemoryProposal engine (memoryProposal input) = .ok ()) :
    (memoryRequest input).Carried ↔ input.Fits := by
  have hget : ∀ name, (memoryProposal input).get name = _ := fun name => Json.get_record _ _
  simp only [validateCompanionMemoryProposal, bind_eq_ok, requireTest_eq_ok, require_eq_ok, orThrow_eq_ok, Bool.and_eq_true, hget,
    List.lookup_cons, String.reduceBEq, Option.bind_some, decide_eq_true_eq] at h
  obtain ⟨-, -, -, -, -, hconsent, -, hcompanion, -, hclientTest, -, hnamespace, version, hversion, -,
    ⟨⟨⟨⟨⟨⟨⟨⟨⟨⟨hpos, -⟩, hcategory⟩, hcontent⟩, hkind⟩, hreference⟩, hretention⟩, haccess⟩, -⟩, -⟩, -⟩, companion, hcompanionText, htarget⟩ := h
  obtain ⟨content, hcontentText⟩ := string_of_contentValid hcontent
  obtain ⟨hclientSlight, -⟩ := slight_of_test hclientTest hclient
  obtain ⟨hversionAccepts, hversionSlight⟩ := version_reference hversion hpos
  have hcausation : nullableReference (some (memoryRequest input).causationId) (some opaqueReferencePattern) = true :=
    nullableReference_str hversionAccepts hversionAccepts
  have htargetText : input.targetNamespaceRef = .str (js "companion:local-companion-" ++
      companion.drop "kindred-agent-companion-".length) := Option.some.inj (Json.some_beq_str_iff.mp htarget)
  obtain ⟨htargetSlight, htargetBounded, -⟩ :=
    slight_of_id (by decide) (by decide) (by decide) (by decide) hnamespace ⟨_, congrArg some htargetText⟩
  have hprincipal : Slight (field input.identity "agent_id") :=
    (slight_of_id (by decide) (by decide) (by decide) (by decide) hcompanion ⟨agentId, congrArg some hagent⟩).1
  have hcompanionAccess : Slight (field input.memory "companion_access") := by
    cases hv : field input.memory "companion_access" with
    | bool b => exact slight_bool b
    | null | num _ | str _ | arr _ | obj _ =>
      rw [hv] at haccess
      cases haccess
  have hsourceReference : Slight (field (field input.memory "source") "reference") := by
    cases hv : field (field input.memory "source") "reference" with
    | null => exact slight_null
    | bool _ | num _ | str _ | arr _ | obj _ =>
      rw [hv] at hreference
      cases hreference
  have hsourceKind : Slight (field (field input.memory "source") "kind") := by
    rw [Option.some.inj (Json.some_beq_str_iff.mp hkind)]
    exact slight_text (by decide)
  have hcarried : IsString (some input.consentReceiptRef) → ((memoryRequest input).Carried ↔
      opaqueReferencePattern.test (some input.clientRequestId) = some true ∧
        nullableReference (some (memoryRequest input).causationId) (some opaqueReferencePattern) = true ∧
        uniqueStrings (some (.arr [input.consentReceiptRef, input.targetNamespaceRef])) 64 0 = true ∧ content.any isBreak = false) := by
    intro hconsentString
    refine @carried_iff engine (memoryRequest input) [("contract_version", .text "kindred.agent.companion-memory-proposal.v1"),
      ("purpose", .text "companion_memory"), ("consent_receipt_ref", input.consentReceiptRef),
      ("companion_principal_id", field input.identity "agent_id"), ("client_request_id", input.clientRequestId),
      ("target_namespace_ref", input.targetNamespaceRef), ("expected_memory_version", input.expectedMemoryVersion),
      ("mutation", .text "append_unverified"), ("category", field input.memory "category")]
      [("source_kind", field (field input.memory "source") "kind"), ("source_reference", field (field input.memory "source") "reference"),
        ("retention", field input.memory "retention"), ("companion_access", field input.memory "companion_access"),
        ("verification", .text "unverified"), ("commit_policy", .text "brainstem_decision_required"), ("memory_mutated", .bool false),
        ("provider_contact_requested", .bool false), ("tool_execution_requested", .bool false), ("settlement_requested", .bool false),
        ("external_effects", .bool false)] content ?_ ?_ ?_ ?_ ?_
    · rw [← hcontentText]
      rfl
    · have hfields : ∀ name ∈ ["contract_version", "purpose", "consent_receipt_ref", "companion_principal_id", "client_request_id",
          "target_namespace_ref", "expected_memory_version", "mutation", "category", "source_kind", "source_reference", "retention",
          "companion_access", "verification", "commit_policy", "memory_mutated", "provider_contact_requested", "tool_execution_requested",
          "settlement_requested", "external_effects"], name ∈ COMPANION_MEMORY_PROPOSAL_FIELDS := by decide
      exact fun name hname => nameSafe (List.mem_append_right _ (hfields name hname))
    · simp only [List.cons_append, List.nil_append, List.forall_mem_cons, List.not_mem_nil, false_implies, implies_true, and_true]
      exact ⟨slight_text (by decide), slight_text (by decide),
        (slight_of_id (by decide) (by decide) (by decide) (by decide) hconsent hconsentString).1, hprincipal, hclientSlight,
        htargetSlight, hversionSlight, slight_text (by decide), slight_oneOf hcategory (by decide), hsourceKind, hsourceReference,
        slight_oneOf hretention (by decide), hcompanionAccess, slight_text (by decide), slight_text (by decide), slight_bool false,
        slight_bool false, slight_bool false, slight_bool false, slight_bool false⟩
    · simp
    · exact hcontentText ▸ hcontent
  have htext : textIn (field input.memory "content") = content := hcontentText ▸ rfl
  constructor
  · intro hall
    have hevidence : uniqueStrings (some (.arr [input.consentReceiptRef, input.targetNamespaceRef])) 64 0 = true := hall.evidence
    have hconsentString : IsString (some input.consentReceiptRef) := by
      simp only [uniqueStrings, Bool.and_eq_true, List.all_eq_true, List.forall_mem_cons] at hevidence
      exact isString_of_bounded hevidence.2.1
    exact ⟨hconsentString, htext ▸ ((hcarried hconsentString).mp hall).2.2.2⟩
  · rintro ⟨hconsentString, hbreaks⟩
    obtain ⟨-, hboundedConsent, -⟩ := slight_of_id (by decide) (by decide) (by decide) (by decide) hconsent hconsentString
    refine (hcarried hconsentString).mpr ⟨hclientTest, hcausation, ?_, htext ▸ hbreaks⟩
    have hdifferent : (input.consentReceiptRef == input.targetNamespaceRef) = false := by
      obtain ⟨consent, hconsentText⟩ := hconsentString
      rw [hconsentText, test_str, Option.some.injEq] at hconsent
      rw [Option.some.inj hconsentText, htargetText, ← Bool.not_eq_true, Json.str_beq_str]
      exact @ne_of_heads _ (js "companion:local-companion-") _ _ (prefix_of_accepts hconsent) ⟨_, rfl⟩ (by decide) (by decide)
    simp [uniqueStrings, Json.allDistinct, hboundedConsent, htargetBounded, hdifferent]

/-! ## Creation -/

section
variable {engine : Engine} {options : CompanionOptions} {now : ℤ} {created : Json × Artifacts}

theorem agentId_identity : field (options.identity [] [] []) "agent_id" = .str options.agentId := field_record _ _

/-- A bare companion asks for nothing when it has no mandate. -/
theorem scopeEmpty_identity : scopeEmpty (options.identity [] [] []) = (options.economicMandateRef.getD .null).isNull := by
  have hauthority : field (options.identity [] [] []) "authority" = .record [("issuer_component", .text "brainstem"),
      ("grant_refs", .arr []), ("ceiling", .text "user_delegated")] := field_record _ _
  have hexecution : field (options.identity [] [] []) "execution_scope" = .record [("mode", .text "proposal_only"),
      ("allowed_capabilities", .arr [])] := field_record _ _
  have hprovider : field (options.identity [] [] []) "provider_scope" = .record [("mode", .text "mediated_only"),
      ("provider_refs", .arr [])] := field_record _ _
  have hclass : (some (Json.text "living_companion") == some (.text "living_companion")) = true := some_text_beq _
  rw [scopeEmpty, hauthority, hexecution, hprovider]
  simp only [CompanionOptions.identity, Json.get_record, List.lookup_cons, String.reduceBEq, hclass, allEmpty, items, Option.bind_some,
    Json.items?, Option.getD_some, List.all_cons, List.all_nil, List.length_nil, beq_self_eq_true, Bool.and_self, Bool.true_and, isNull,
    Option.any_some]

theorem periodOf_ok_iff {period : Period} : periodOf engine (now : ℚ) = .ok period ↔
    toISOString now = some period.issuedAt ∧ toISOString (now + 120000) = some period.expiresAt := periodOf_int_iff

/-- A communication proposal of a bare companion is created exactly when it has no mandate, its time is a date and its envelope can
carry it. -/
theorem communication_created_iff {input : CommunicationInput} (hsound : options.Sound engine.date)
    (hvalid : validateAgentIdentity engine.date (options.identity [] [] []) = .ok ()) (hidentity : input.identity = options.identity [] [] [])
    (hnow : input.now = some (now : ℚ))
    (hproposal : validateCompanionCommunicationProposal engine (communicationProposal input) = .ok ()) :
    createCompanionCommunicationArtifacts engine input = .ok created ↔ (options.economicMandateRef.getD .null).isNull = true ∧
      (communicationRequest input).Carried ∧ ∃ period : Period, toISOString now = some period.issuedAt ∧
        toISOString (now + 120000) = some period.expiresAt ∧ created = (communicationCapability, proposalArtifacts engine options
          (communicationRequest input) COMPANION_COMMUNICATION_CAPABILITY_ID
          (engine.digestOf (seedOf "companion-communication" input.fields)) period) := by
  have hseed : communicationSeedText input = .ok (seedOf "companion-communication" input.fields) := by
    have htests := hproposal
    simp only [validateCompanionCommunicationProposal, bind_eq_ok, requireTest_eq_ok] at htests
    obtain ⟨-, -, -, -, -, hconsent, -, hcompanion, -, -, -, hclient, -⟩ := htests
    refine digestText_eq ?_ _
    simp only [List.forall_mem_cons, List.not_mem_nil, false_implies, implies_true, and_true]
    exact ⟨(elementText_of_test (by decide) hcompanion).1, (elementText_of_test (by decide) hconsent).1,
      (elementText_of_test (by decide) hclient).1⟩
  simp only [createCompanionCommunicationArtifacts, hidentity, hvalid, scopeEmpty_identity, hproposal, hnow, hseed,
    valid_proposalCapabilities.1, bind_eq_ok, require_eq_ok, orThrow_eq_ok, pure_eq_ok, periodOf_ok_iff, agentId_identity,
    Except.ok.injEq, Option.some.injEq, exists_eq_left', exists_const, true_and]
  constructor
  · rintro ⟨hmandate, period, ⟨hissued, hexpires⟩, artifacts, hartifacts, rfl⟩
    obtain ⟨hcarried, rfl⟩ := (createArtifacts_iff hsound (isProposal_communication input) hissued hexpires).mp hartifacts
    exact ⟨hmandate, hcarried, period, hissued, hexpires, rfl⟩
  · rintro ⟨hmandate, hcarried, period, hissued, hexpires, rfl⟩
    exact ⟨hmandate, period, ⟨hissued, hexpires⟩, _,
      (createArtifacts_iff hsound (isProposal_communication input) hissued hexpires).mpr ⟨hcarried, rfl⟩, rfl⟩

/-- The companion is one of the local ones, whose memories have the namespace that memory proposals name. -/
def CompanionOptions.IsLocal (options : CompanionOptions) : Prop := js "local-companion-" <+: options.companionId

theorem namespaceRef_eq_iff : js "companion:local-companion-" ++ options.agentId.drop "kindred-agent-companion-".length =
    options.namespaceRef ↔ options.IsLocal := by
  have hdrop : options.agentId.drop "kindred-agent-companion-".length = options.suffix := by
    have hlength : "kindred-agent-companion-".length = (js "kindred-agent-companion-").length := by decide
    rw [hlength, CompanionOptions.agentId, List.drop_left]
  have hhead : js "companion:local-companion-" = js "companion:" ++ js "local-companion-" := by decide
  rw [hdrop, hhead, CompanionOptions.namespaceRef, List.append_assoc, List.append_cancel_left_eq, CompanionOptions.IsLocal]
  constructor
  · exact fun h => ⟨options.suffix, h⟩
  · intro hprefix
    have hlength : "local-companion-".length = (js "local-companion-").length := by decide
    rw [CompanionOptions.suffix, if_pos (List.isPrefixOf_iff_prefix.mpr hprefix), hlength]
    exact List.prefix_append_drop hprefix |>.symm

theorem memoryScopeValid_identity {input : MemoryInput} (hidentity : input.identity = options.identity [] [] []) :
    memoryScopeValid input = ((options.economicMandateRef.getD .null).isNull && Json.str options.namespaceRef == input.targetNamespaceRef) := by
  have hmemory : field (options.identity [] [] []) "memory_scope" = .record [("namespace_refs", .arr [.str options.namespaceRef]),
      ("write_mode", .text "proposal_only")] := field_record _ _
  have hactive : (options.identity [] [] []).get "lifecycle_state" = some (.text "active") := Json.get_record _ _
  have hpermissions : includes ((options.identity [] [] []).get "permissions") (some (.text "companion.memory.propose")) = true := by
    rw [show (options.identity [] [] []).get "permissions" = some (.arr [.text "companion.communicate", .text "companion.memory.propose"])
      from Json.get_record _ _]
    decide
  rw [memoryScopeValid, hidentity, scopeEmpty_identity, hmemory, hactive, hpermissions, Json.get_record, some_text_beq, Bool.and_true,
    Bool.and_true]
  rfl

/-- A valid proposal of a companion names the namespace of the companion when it is local. -/
theorem targets_namespace_iff {input : MemoryInput} (hidentity : input.identity = options.identity [] [] [])
    (hproposal : validateCompanionMemoryProposal engine (memoryProposal input) = .ok ()) :
    (Json.str options.namespaceRef == input.targetNamespaceRef) = true ↔ options.IsLocal := by
  have hget : ∀ name, (memoryProposal input).get name = _ := fun name => Json.get_record _ _
  simp only [validateCompanionMemoryProposal, bind_eq_ok, requireTest_eq_ok, require_eq_ok, orThrow_eq_ok, hget, List.lookup_cons,
    String.reduceBEq, Option.bind_some] at hproposal
  obtain ⟨-, -, -, -, -, -, -, -, -, -, -, -, -, -, -, -, companion, hcompanion, htarget⟩ := hproposal
  rw [hidentity, agentId_identity] at hcompanion
  obtain rfl : options.agentId = companion := Option.some.inj hcompanion
  rw [Option.some.inj (Json.some_beq_str_iff.mp htarget), Json.str_beq_str, eq_comm, namespaceRef_eq_iff]

/-- A memory proposal of a bare companion is created exactly when it has no mandate and is local, its time is a date and its envelope
can carry it. -/
theorem memory_created_iff {input : MemoryInput} (hsound : options.Sound engine.date)
    (hvalid : validateAgentIdentity engine.date (options.identity [] [] []) = .ok ()) (hidentity : input.identity = options.identity [] [] [])
    (hnow : input.now = some (now : ℚ)) (hproposal : validateCompanionMemoryProposal engine (memoryProposal input) = .ok ()) :
    createCompanionMemoryProposalArtifacts engine input = .ok created ↔ (options.economicMandateRef.getD .null).isNull = true ∧
      options.IsLocal ∧ (memoryRequest input).Carried ∧ ∃ period : Period, toISOString now = some period.issuedAt ∧
        toISOString (now + 120000) = some period.expiresAt ∧ created = (memoryProposalCapability, proposalArtifacts engine options
          (memoryRequest input) COMPANION_MEMORY_PROPOSAL_CAPABILITY_ID
          (engine.digestOf (seedOf "companion-memory-proposal" input.fields)) period) := by
  have htests := hproposal
  have hget : ∀ name, (memoryProposal input).get name = _ := fun name => Json.get_record _ _
  simp only [validateCompanionMemoryProposal, bind_eq_ok, requireTest_eq_ok, require_eq_ok, orThrow_eq_ok, Bool.and_eq_true, hget,
    List.lookup_cons, String.reduceBEq, Option.bind_some, decide_eq_true_eq] at htests
  obtain ⟨-, -, -, -, -, hconsent, -, hcompanion, -, hclient, -, -, version, hversion, -,
    ⟨⟨⟨⟨⟨⟨⟨⟨⟨⟨hpos, -⟩, -⟩, hcontent⟩, -⟩, -⟩, -⟩, -⟩, -⟩, -⟩, -⟩, -⟩ := htests
  have hseed : memorySeedText input = .ok (seedOf "companion-memory-proposal" input.fields) := by
    obtain ⟨content, hcontentText⟩ := string_of_contentValid hcontent
    obtain ⟨hexpected, hversionText⟩ := Delimited.of_version hversion hpos
    have hsame : ([field input.identity "agent_id", input.consentReceiptRef, input.clientRequestId,
        .str (versionText input.expectedMemoryVersion), field input.memory "content"].map textIn) = input.fields.map textIn := by
      rw [MemoryInput.fields, hversionText]
      rfl
    rw [seedOf, ← hsame, ← seedOf]
    refine digestText_eq ?_ _
    simp only [List.forall_mem_cons, List.not_mem_nil, false_implies, implies_true, and_true]
    exact ⟨(elementText_of_test (by decide) hcompanion).1, (elementText_of_test (by decide) hconsent).1,
      (elementText_of_test (by decide) hclient).1, rfl, hcontentText ▸ rfl⟩
  have hnamespace := targets_namespace_iff hidentity hproposal
  simp only [createCompanionMemoryProposalArtifacts, memoryScopeValid_identity hidentity, hidentity, hvalid, hproposal, hnow, hseed,
    valid_proposalCapabilities.2, bind_eq_ok, require_eq_ok, orThrow_eq_ok, pure_eq_ok, periodOf_ok_iff, agentId_identity, Bool.and_eq_true,
    hnamespace, Except.ok.injEq, Option.some.injEq, exists_eq_left', exists_const, true_and]
  constructor
  · rintro ⟨⟨hmandate, hlocal⟩, period, ⟨hissued, hexpires⟩, artifacts, hartifacts, rfl⟩
    obtain ⟨hcarried, rfl⟩ := (createArtifacts_iff hsound (isProposal_memory input) hissued hexpires).mp hartifacts
    exact ⟨hmandate, hlocal, hcarried, period, hissued, hexpires, rfl⟩
  · rintro ⟨hmandate, hlocal, hcarried, period, hissued, hexpires, rfl⟩
    exact ⟨⟨hmandate, hlocal⟩, period, ⟨hissued, hexpires⟩, _,
      (createArtifacts_iff hsound (isProposal_memory input) hissued hexpires).mpr ⟨hcarried, rfl⟩, rfl⟩

end

/-! ## Acceptance and approval -/

/-- What was created for a proposal is registered and accepted at the gateway, and its envelope is approved with its receipt. -/
def Passes (engine : Engine) (kind : Brainstem.Kind) (g : Gateway engine.date) (created : Outcome (Json × Artifacts)) (now : ℤ) : Prop :=
  ∃ capability artifacts g₁ g₂ g₃ g₄ receipt decision, created = .ok (capability, artifacts) ∧
    g.registerCapability capability = .ok (capability, g₁) ∧ g₁.registerIdentity artifacts.identity = .ok (artifacts.identity, g₂) ∧
    g₂.registerAuthorityGrant artifacts.grant = .ok (artifacts.grant, g₃) ∧
    g₃.acceptEnvelope artifacts.envelope now now = (.ok receipt, g₄) ∧
    Brainstem.decide engine kind ⟨artifacts.envelope, receipt, artifacts.identity, some (now : ℚ)⟩ = .ok decision ∧ isApproved decision = true

section
variable {engine : Engine} {options : CompanionOptions} {request : Request} {capabilityId owner action risk contract : String}
  {seed : JsString} {now : ℤ} {period : Period} {kind : Brainstem.Kind}

theorem validateAdmissionReceipt_fresh {receipt envelope : Json} {messageId : JsString} {correlationId : Json}
    (hissued : toISOString now = some period.issuedAt) (hexpires : toISOString (now + 120000) = some period.expiresAt)
    (hreceipt : validateProtocolReceipt engine.date receipt = .ok ()) (hmessage : receipt.get "message_id" = some (.str messageId))
    (hmessage' : envelope.get "message_id" = some (.str messageId)) (hcorrelation : receipt.get "correlation_id" = some correlationId)
    (hcorrelation' : envelope.get "correlation_id" = some correlationId) (hsame : (correlationId == correlationId) = true)
    (haccepted : receipt.get "accepted_at" = some (.str period.issuedAt)) (htimestamp : envelope.get "timestamp" = some (.str period.issuedAt))
    (hexpiry : envelope.get "expires_at" = some (.str period.expiresAt)) :
    validateAdmissionReceipt engine.date receipt envelope (now : ℚ) = true := by
  have hok : (validateProtocolReceipt engine.date receipt).isOk = true := by
    rw [hreceipt]
    rfl
  have hlater : now < now + 120000 := by omega
  have hids : (some (Json.str messageId) == some (.str messageId)) = true := Json.some_beq_str_iff.mpr rfl
  have hcorrelations : (some correlationId == some correlationId) = true := hsame
  simp only [validateAdmissionReceipt, hok, hmessage, hmessage', hids, hcorrelation, hcorrelation', hcorrelations,
    timeOf_iso haccepted hissued, timeOf_iso htimestamp hissued, timeOf_iso hexpiry hexpires, hlater, lt_irrefl, decide_true, decide_false,
    Bool.not_false, Bool.and_self]

/-- The identity of a proposal has the scope that both kinds ask for. -/
theorem scopedTo_proposal {permission : String}
    (hpermission : permission ∈ ["companion.communicate", "companion.memory.propose"])
    (hmandate : (options.economicMandateRef.getD .null).isNull = true)
    (hcompanion : request.payload.get "companion_principal_id" = some (.str options.agentId)) :
    scopedTo (proposalArtifacts engine options request capabilityId seed period).identity
      (proposalArtifacts engine options request capabilityId seed period).envelope capabilityId permission = true := by
  generalize hart : proposalArtifacts engine options request capabilityId seed period = art
  obtain ⟨grantId, hgrantId⟩ : ∃ grantId, field art.grant "grant_id" = .str grantId := by
    refine ⟨js "kindred-grant-" ++ engine.digestOf (js "grant" ++ 58 :: seed), ?_⟩
    rw [← hart]
    exact field_record _ _
  have hidentity : art.identity = options.identity [.text capabilityId] [.str grantId] [] := by
    rw [← hgrantId, ← hart]
    rfl
  have hget : ∀ name, art.identity.get name = _ := fun name => (congrArg (Json.get · name) hidentity).trans (Json.get_record _ _)
  have hsender : field art.envelope "sender" = principal "agent" (.str options.agentId) := hart ▸ field_record _ _
  have hpayload : field art.envelope "payload" = request.payload := hart ▸ field_record _ _
  have hauthorityRef : art.envelope.get "authority_ref" = some (.str grantId) := by
    rw [← hgrantId, ← hart]
    exact Json.get_record _ _
  have hauthority : field art.identity "authority" = .record [("issuer_component", .text "brainstem"), ("grant_refs", .arr [.str grantId]),
      ("ceiling", .text "user_delegated")] := hidentity ▸ field_record _ _
  have hexecution : field art.identity "execution_scope" = .record [("mode", .text "proposal_only"),
      ("allowed_capabilities", .arr [.text capabilityId])] := hidentity ▸ field_record _ _
  have hprovider : field art.identity "provider_scope" = .record [("mode", .text "mediated_only"), ("provider_refs", .arr [])] :=
    hidentity ▸ field_record _ _
  have hprincipal : (principal "agent" (.str options.agentId)).get "id" = some (.str options.agentId) := Json.get_record _ _
  have hstr : ∀ s : JsString, (some (Json.str s) == some (.str s)) = true := fun s => Json.some_beq_str_iff.mpr rfl
  have hincludes : includes (some (.arr [.text "companion.communicate", .text "companion.memory.propose"])) (some (.text permission)) = true := by
    simp only [List.mem_cons, List.not_mem_nil, or_false] at hpermission
    rcases hpermission with rfl | rfl <;> decide
  simp only [scopedTo, hget, hsender, hpayload, hauthorityRef, hauthority, hexecution, hprovider, hprincipal, hcompanion, List.lookup_cons,
    String.reduceBEq, Json.get_record, hstr, some_text_beq, hincludes, onlyItem, items, Option.bind_some, Json.items?, Option.getD_some,
    allEmpty, List.all_cons, List.all_nil, List.length_nil, beq_self_eq_true, Bool.and_self, isNull, Option.any_some, hmandate]

theorem routedAsProposal_proposal (hrequest : request.IsProposal capabilityId) :
    routedAsProposal (proposalArtifacts engine options request capabilityId seed period).envelope capabilityId = true := by
  generalize hart : proposalArtifacts engine options request capabilityId seed period = art
  have henvelope : art.envelope = envelopeOf request (.str options.agentId) art.grant (engine.digestOf (js "message" ++ 58 :: seed))
    (engine.digestOf (js "nonce" ++ 58 :: seed)) period.issuedAt period.expiresAt := hart ▸ rfl
  have hget : ∀ name, art.envelope.get name = _ := fun name => (congrArg (Json.get · name) henvelope).trans (Json.get_record _ _)
  have hsender : isAgent (field art.envelope "sender") = true := by
    rw [show field art.envelope "sender" = principal "agent" (.str options.agentId) from henvelope ▸ field_record _ _, isAgent, principal,
      Json.get_record]
    exact some_text_beq _
  have hrecipient : isComponent (field art.envelope "recipient") "brainstem" = true := by
    rw [show field art.envelope "recipient" = principal "runtime_component" (.text "brainstem") from henvelope ▸ field_record _ _]
    decide
  simp only [routedAsProposal, hget, hsender, hrecipient, hrequest.messageType, hrequest.capability, hrequest.classification,
    List.lookup_cons, String.reduceBEq, some_text_beq, Bool.and_self]

/-- A proposal that was created is accepted and approved, when it has the route and the scope of its kind. -/
theorem passes_of_created (hkind : kind = communication ∨ kind = memory) (hsound : options.Sound engine.date)
    (hrequest : request.IsProposal capabilityId) (hissued : toISOString now = some period.issuedAt)
    (hexpires : toISOString (now + 120000) = some period.expiresAt) (hcarried : request.Carried)
    (hcapability : validateCapability (proposalCapability capabilityId owner action risk contract) = .ok ())
    {g : Gateway engine.date} (hfresh : g.Fresh) {created : Outcome (Json × Artifacts)}
    (hcreated : created = .ok (proposalCapability capabilityId owner action risk contract,
      proposalArtifacts engine options request capabilityId seed period))
    (hproposal : kind.validateProposal engine request.payload = .ok ()) (hsame : (request.correlationId == request.correlationId) = true)
    (hroute : kind.routeValid (proposalArtifacts engine options request capabilityId seed period).envelope = true)
    (hscope : kind.scopeValid (proposalArtifacts engine options request capabilityId seed period).identity
      (proposalArtifacts engine options request capabilityId seed period).envelope = true) : Passes engine kind g created now := by
  obtain ⟨g₁, g₂, g₃, g₄, receipt, hcapabilityRegistered, hidentityRegistered, hgrantRegistered, haccepted, hreceipt, hmessage, hcorrelation,
    hacceptedAt⟩ := @accepted_of_carried engine options request capabilityId owner action risk contract seed now period hsound hrequest
      hissued hexpires hcarried hcapability g hfresh
  have hvalidIdentity := @valid_proposalIdentity engine options request capabilityId seed period hsound hrequest
  generalize hart : proposalArtifacts engine options request capabilityId seed period = art at *
  have henvelope : art.envelope = envelopeOf request (.str options.agentId) art.grant (engine.digestOf (js "message" ++ 58 :: seed))
    (engine.digestOf (js "nonce" ++ 58 :: seed)) period.issuedAt period.expiresAt := hart ▸ rfl
  have hgrant : art.grant = grantOf request (.str options.agentId) (engine.digestOf (js "grant" ++ 58 :: seed))
    (engine.digestOf (js "authref" ++ 58 :: seed)) period.issuedAt period.expiresAt := hart ▸ rfl
  have hvalidEnvelope : validateEnvelope engine.date art.envelope = .ok () := by
    rw [henvelope]
    exact (validateEnvelope_envelopeOf_iff engine hrequest hsound.agent hissued hexpires _ _ _ _ hgrant).mpr hcarried
  have hget : ∀ name, art.envelope.get name = _ := fun name => (congrArg (Json.get · name) henvelope).trans (Json.get_record _ _)
  have hpayload : field art.envelope "payload" = request.payload := henvelope ▸ field_record _ _
  have hactive : art.identity.get "lifecycle_state" = some (.text "active") := hart ▸ Json.get_record _ _
  have hadmitted : validateAdmissionReceipt engine.date receipt art.envelope (now : ℚ) = true :=
    validateAdmissionReceipt_fresh hissued hexpires hreceipt hmessage (hget "message_id") hcorrelation (hget "correlation_id") hsame
      hacceptedAt (hget "timestamp") (hget "expires_at")
  have hinspected := @inspect_allowed engine kind ⟨art.envelope, receipt, art.identity, some (now : ℚ)⟩ (now : ℚ) hvalidEnvelope
    (show kind.validateProposal engine (field art.envelope "payload") = .ok () from hpayload.symm ▸ hproposal) hroute hadmitted
    hvalidIdentity hactive hscope
  obtain ⟨decision, hdecision, happroved⟩ := decide_allowed hkind rfl hinspected (hget "message_id") (hget "correlation_id")
    (show isoText engine.date (now : ℚ) = some period.issuedAt by rw [isoText_int, hissued])
  exact ⟨_, art, g₁, g₂, g₃, g₄, receipt, decision, hcreated, hcapabilityRegistered, hidentityRegistered, hgrantRegistered, haccepted,
    hdecision, happroved⟩

end

/-! ## The pipeline -/

section
variable {engine : Engine} {options : CompanionOptions} {identity : Json} {now : ℤ} {g : Gateway engine.date}

/-- What is approved was routed with the client's id as its correlation, which is then no array. -/
theorem client_of_passes {kind : Brainstem.Kind} (hkind : kind = communication ∨ kind = memory) {capability : Json} {artifacts : Artifacts}
    (h : Passes engine kind g (.ok (capability, artifacts)) now) {v : Json} (hv : artifacts.envelope.get "correlation_id" = some v) :
    v.items? = none := by
  obtain ⟨_, _, g₁, g₂, g₃, g₄, receipt, decision, hcreated, -, -, -, -, hdecision, happroved⟩ := h
  obtain ⟨rfl, rfl⟩ := Prod.mk.inj (Except.ok.inj hcreated)
  have hroute := (route_of_approved hkind hdecision happroved).route
  have hself : ∀ {name : String}, (artifacts.envelope.get "correlation_id" ==
      (field artifacts.envelope "payload").get name) = true → v.items? = none := by
    intro name hsame
    rw [hv] at hsame
    cases v with
    | arr items =>
      cases hget : (field artifacts.envelope "payload").get name with
      | none =>
        rw [hget] at hsame
        cases hsame
      | some w =>
        rw [hget] at hsame
        cases w <;> cases hsame
    | null | bool _ | num _ | str _ | obj _ => rfl
  rcases hkind with rfl | rfl
  · simp only [communication, Bool.and_eq_true] at hroute
    exact hself hroute.1.1.2
  · simp only [memory, Bool.and_eq_true] at hroute
    exact hself hroute.1.1.1.2

theorem same_string {v : Option Json} (h : IsString v) : (v == v) = true := by
  obtain ⟨s, rfl⟩ := h
  exact Json.some_beq_str_iff.mpr rfl

theorem includes_of_mem {items : List Json} {v : Json} (h : v ∈ items) (hv : IsString (some v)) :
    includes (some (.arr items)) (some v) = true := by
  rw [includes, Option.any_some, List.contains_iff_exists_mem_beq]
  exact ⟨v, h, same_string hv⟩

/-- The conditions that both kinds have in common: no mandate, and a time that is a date. -/
structure Ready (options : CompanionOptions) (now : ℤ) : Prop where
  mandate : (options.economicMandateRef.getD .null).isNull = true
  dated : Dated now

theorem period_of_dated (h : Dated now) : ∃ period : Period, toISOString now = some period.issuedAt ∧
    toISOString (now + 120000) = some period.expiresAt := exists_period_iff.mpr h

theorem communication_passes_iff (hcreated : createLivingCompanionIdentity engine.date options = .ok identity) (hbare : options.Bare)
    (hfresh : g.Fresh) {input : CommunicationInput} (hidentity : input.identity = identity) (hnow : input.now = some (now : ℚ))
    (hproposal : validateCompanionCommunicationProposal engine (communicationProposal input) = .ok ()) :
    Passes engine communication g (createCompanionCommunicationArtifacts engine input) now ↔
      Ready options now ∧ input.clientMessageId.items? = none ∧ input.Fits := by
  obtain ⟨rfl, hvalid⟩ := identity_of_created hcreated hbare
  obtain ⟨hsound, -⟩ := validateAgentIdentity_identity_iff.mp hvalid
  have hagent : field input.identity "agent_id" = .str options.agentId := hidentity ▸ agentId_identity
  have hiff := fun created => @communication_created_iff engine options now created input hsound hvalid hidentity hnow hproposal
  constructor
  · intro h
    obtain ⟨capability, artifacts, -, -, -, -, -, -, hmade, -⟩ := id h
    obtain ⟨hmandate, hcarried, period, hissued, hexpires, hartifacts⟩ := (hiff _).mp hmade
    obtain ⟨rfl, rfl⟩ := Prod.mk.inj hartifacts
    rw [hmade] at h
    have hclient : input.clientMessageId.items? = none := client_of_passes (.inl rfl) h (Json.get_record _ _)
    exact ⟨⟨hmandate, exists_period_iff.mp ⟨period, hissued, hexpires⟩⟩, hclient,
      (communication_carried_iff hagent hclient hproposal).mp hcarried⟩
  · rintro ⟨⟨hmandate, hdated⟩, hclient, hfits⟩
    obtain ⟨period, hissued, hexpires⟩ := period_of_dated hdated
    have hcarried := (communication_carried_iff hagent hclient hproposal).mpr hfits
    have hmade := (hiff _).mpr ⟨hmandate, hcarried, period, hissued, hexpires, rfl⟩
    have hrequest := isProposal_communication input
    obtain ⟨-, hself⟩ := slight_of_test hcarried.correlation hclient
    have hpayload : ∀ name, (communicationProposal input).get name = _ := fun name => Json.get_record _ _
    refine passes_of_created (.inl rfl) hsound hrequest hissued hexpires hcarried valid_proposalCapabilities.1 hfresh hmade hproposal hself
      ?_ (scopedTo_proposal (by decide) hmandate ((hpayload _).trans (congrArg some hagent)))
    have hrouted := @routedAsProposal_proposal engine options (communicationRequest input) COMPANION_COMMUNICATION_CAPABILITY_ID
      (engine.digestOf (seedOf "companion-communication" input.fields)) period hrequest
    generalize hart : proposalArtifacts engine options (communicationRequest input) COMPANION_COMMUNICATION_CAPABILITY_ID
      (engine.digestOf (seedOf "companion-communication" input.fields)) period = art at hrouted ⊢
    have hpayloadField : field art.envelope "payload" = communicationProposal input := hart ▸ field_record _ _
    have hcorrelation : art.envelope.get "correlation_id" = some input.clientMessageId := hart ▸ Json.get_record _ _
    have hcausation : art.envelope.get "causation_id" = some input.userMessageId := hart ▸ Json.get_record _ _
    have hevidence : art.envelope.get "evidence_refs" = some (.arr [input.consentReceiptRef]) := hart ▸ Json.get_record _ _
    have hclientSame : (some input.clientMessageId == some input.clientMessageId) = true := hself
    simp only [communication, hrouted, hpayloadField, hcorrelation, hcausation, hevidence, hpayload, List.lookup_cons, String.reduceBEq,
      hclientSame, same_string hfits.message, Bool.true_and]
    exact includes_of_mem List.mem_cons_self hfits.consent

theorem memory_passes_iff (hcreated : createLivingCompanionIdentity engine.date options = .ok identity) (hbare : options.Bare)
    (hfresh : g.Fresh) {input : MemoryInput} (hidentity : input.identity = identity) (hnow : input.now = some (now : ℚ))
    (hproposal : validateCompanionMemoryProposal engine (memoryProposal input) = .ok ()) :
    Passes engine memory g (createCompanionMemoryProposalArtifacts engine input) now ↔
      Ready options now ∧ options.IsLocal ∧ input.clientRequestId.items? = none ∧ input.Fits := by
  obtain ⟨rfl, hvalid⟩ := identity_of_created hcreated hbare
  obtain ⟨hsound, -⟩ := validateAgentIdentity_identity_iff.mp hvalid
  have hagent : field input.identity "agent_id" = .str options.agentId := hidentity ▸ agentId_identity
  have hiff := fun created => @memory_created_iff engine options now created input hsound hvalid hidentity hnow hproposal
  constructor
  · intro h
    obtain ⟨capability, artifacts, -, -, -, -, -, -, hmade, -⟩ := id h
    obtain ⟨hmandate, hlocal, hcarried, period, hissued, hexpires, hartifacts⟩ := (hiff _).mp hmade
    obtain ⟨rfl, rfl⟩ := Prod.mk.inj hartifacts
    rw [hmade] at h
    have hclient : input.clientRequestId.items? = none := client_of_passes (.inr rfl) h (Json.get_record _ _)
    exact ⟨⟨hmandate, exists_period_iff.mp ⟨period, hissued, hexpires⟩⟩, hlocal, hclient,
      (memory_carried_iff hagent hclient hproposal).mp hcarried⟩
  · rintro ⟨⟨hmandate, hdated⟩, hlocal, hclient, hfits⟩
    obtain ⟨period, hissued, hexpires⟩ := period_of_dated hdated
    have hcarried := (memory_carried_iff hagent hclient hproposal).mpr hfits
    have hmade := (hiff _).mpr ⟨hmandate, hlocal, hcarried, period, hissued, hexpires, rfl⟩
    have hrequest := isProposal_memory input
    obtain ⟨-, hself⟩ := slight_of_test hcarried.correlation hclient
    have hpayload : ∀ name, (memoryProposal input).get name = _ := fun name => Json.get_record _ _
    have hscoped := @scopedTo_proposal engine options (memoryRequest input) COMPANION_MEMORY_PROPOSAL_CAPABILITY_ID
      (engine.digestOf (seedOf "companion-memory-proposal" input.fields)) period _
      (show "companion.memory.propose" ∈ ["companion.communicate", "companion.memory.propose"] by decide) hmandate
      ((hpayload _).trans (congrArg some hagent))
    have hrouted := @routedAsProposal_proposal engine options (memoryRequest input) COMPANION_MEMORY_PROPOSAL_CAPABILITY_ID
      (engine.digestOf (seedOf "companion-memory-proposal" input.fields)) period hrequest
    have htarget := (targets_namespace_iff hidentity hproposal).mpr hlocal
    refine passes_of_created (.inr rfl) hsound hrequest hissued hexpires hcarried valid_proposalCapabilities.2 hfresh hmade hproposal hself
      ?_ ?_
    all_goals
      generalize hart : proposalArtifacts engine options (memoryRequest input) COMPANION_MEMORY_PROPOSAL_CAPABILITY_ID
        (engine.digestOf (seedOf "companion-memory-proposal" input.fields)) period = art at hrouted hscoped ⊢
      have hpayloadField : field art.envelope "payload" = memoryProposal input := hart ▸ field_record _ _
    · have hcorrelation : art.envelope.get "correlation_id" = some input.clientRequestId := hart ▸ Json.get_record _ _
      have hcausation : art.envelope.get "causation_id" =
          some (.str (js "memory-version:" ++ versionText input.expectedMemoryVersion)) := hart ▸ Json.get_record _ _
      have hevidence : art.envelope.get "evidence_refs" = some (.arr [input.consentReceiptRef, input.targetNamespaceRef]) :=
        hart ▸ Json.get_record _ _
      have hversion : field (memoryProposal input) "expected_memory_version" = input.expectedMemoryVersion := field_record _ _
      have hclientSame : (some input.clientRequestId == some input.clientRequestId) = true := hself
      simp only [memory, hrouted, hpayloadField, hcorrelation, hcausation, hevidence, hversion, hpayload, List.lookup_cons,
        String.reduceBEq, hclientSame, same_string ⟨_, rfl⟩, Bool.true_and, Bool.and_eq_true]
      exact ⟨includes_of_mem List.mem_cons_self hfits.consent,
        includes_of_mem (List.mem_cons_of_mem _ List.mem_cons_self) ⟨_, congrArg some (Json.eq_of_beq htarget).symm⟩⟩
    · have hmemory : field art.identity "memory_scope" = .record [("namespace_refs", .arr [.str options.namespaceRef]),
          ("write_mode", .text "proposal_only")] := hart ▸ field_record _ _
      simp only [memory, hscoped, hmemory, hpayloadField, hpayload, List.lookup_cons, String.reduceBEq, Json.get_record, some_text_beq,
        onlyItem, items, Option.bind_some, Json.items?, Option.getD_some, Bool.true_and]
      exact htarget

/-- A valid proposal of a bare companion is created, accepted at a fresh gateway and approved exactly when the companion has no
mandate, the time and two minutes later are dates, the client's id is no array, the references are strings and the content has no
tab, line feed or carriage return; a memory proposal asks for a local companion as well. -/
theorem proposals_pass_iff (engine : Engine) {options : CompanionOptions} {identity : Json}
    (hcreated : createLivingCompanionIdentity engine.date options = .ok identity) (hbare : options.Bare) {g : Gateway engine.date}
    (hfresh : g.Fresh) (now : ℤ) :
    (∀ input : CommunicationInput, input.identity = identity → input.now = some (now : ℚ) →
      validateCompanionCommunicationProposal engine (communicationProposal input) = .ok () →
        (Passes engine communication g (createCompanionCommunicationArtifacts engine input) now ↔
          Ready options now ∧ input.clientMessageId.items? = none ∧ input.Fits)) ∧
    ∀ input : MemoryInput, input.identity = identity → input.now = some (now : ℚ) →
      validateCompanionMemoryProposal engine (memoryProposal input) = .ok () →
        (Passes engine memory g (createCompanionMemoryProposalArtifacts engine input) now ↔
          Ready options now ∧ options.IsLocal ∧ input.clientRequestId.items? = none ∧ input.Fits) :=
  ⟨fun _ hidentity hnow hproposal => communication_passes_iff hcreated hbare hfresh hidentity hnow hproposal,
    fun _ hidentity hnow hproposal => memory_passes_iff hcreated hbare hfresh hidentity hnow hproposal⟩

end

namespace Sample

/-- A local companion that was adopted at the start of 1970. -/
def mossOptions : CompanionOptions where
  companion := .record [("contract_version", .text "kindred.companion.aggregate.v1"), ("id", .str (js "local-companion-" ++ js "moss0001")),
    ("owner_account_id", .text "kindred-account-owner0001"),
    ("permissions", .record [("owner_account_only", .bool true), ("provider_access", .bool false)]),
    ("lifecycle_state", .text "companion_active"),
    ("provenance", .record [("historical_data_status", .text "unavailable_not_fabricated")]),
    ("adopted_at", .text "1970-01-01T00:00:00.000Z")]
  accountId := some (.text "kindred-account-owner0001")
  tenantId := some (.text "kindred-tenant-owner0001")
  capabilities := none
  grantRefs := none
  budgetRefs := none
  economicMandateRef := none

def helloInput (identity : Json) : CommunicationInput where
  identity := identity
  consentReceiptRef := .str (js "consent-receipt-" ++ js "aaaaaaaaaaaaaaaaaaaa")
  userMessageId := .str (js "chat-message-" ++ js "aaaaaaaa")
  clientMessageId := .text "aaaaaaaa"
  content := .text "hello"
  now := some ((0 : ℤ) : ℚ)

theorem accepts_head {head tail : String} {least most : ℕ} (hunits : (js tail).all idClass.has = true)
    (hlength : least ≤ (js tail).length ∧ (js tail).length ≤ most) :
    (Regex.seq (.text head) (.run idClass least most)).accepts (js head ++ js tail) = true :=
  (Regex.accepts_iff _ _).mpr (.seq (.lit _) (.run (List.all_eq_true.mp hunits) hlength.1 hlength.2))

theorem moss_agentId : mossOptions.agentId = js "kindred-agent-" ++ js "companion-moss0001" := by decide

theorem moss_sound : mossOptions.Sound endsEngine.date where
  agent := by
    rw [moss_agentId]
    exact accepts_head (by decide) (by decide)
  tenant := by
    have hid : js "kindred-tenant-owner0001" = js "kindred-tenant-" ++ js "owner0001" := by decide
    change some (tenantIdPattern.accepts (js "kindred-tenant-owner0001")) = some true
    rw [hid]
    exact congrArg some (accepts_head (by decide) (by decide))
  owner := bounded_text (s := "kindred-account-owner0001") (by decide)
  owned := by decide
  namespaceRef := by decide
  mandate := rfl
  created := by
    have hstart : toISOString 0 = some (js "1970-01-01T00:00:00.000Z") := by decide
    exact ⟨0, timestamp_iso hstart _⟩

theorem moss_created : createLivingCompanionIdentity endsEngine.date mossOptions = .ok (mossOptions.identity [] [] []) := by
  have haggregate : mossOptions.aggregateValid = true := by decide
  have hempty : uniqueStrings (some (.arr [])) 64 0 = true := rfl
  have hvalid := validateAgentIdentity_identity_iff.mpr ⟨moss_sound, hempty, hempty, fun c hc => absurd hc List.not_mem_nil⟩
  have htenant : tenantIdPattern.test mossOptions.tenantId = some true := moss_sound.tenant
  simp only [createLivingCompanionIdentity, bind_eq_ok, require_eq_ok, requireTest_eq_ok, haggregate, htenant, pure_eq_ok]
  exact ⟨(), trivial, (), trivial, [], rfl, [], rfl, [], rfl, (), hvalid, rfl⟩

theorem hello_valid : validateCompanionCommunicationProposal endsEngine
    (communicationProposal (helloInput (mossOptions.identity [] [] []))) = .ok () := by
  generalize hinput : helloInput (mossOptions.identity [] [] []) = input
  have hget : ∀ name, (communicationProposal input).get name = _ := fun name => Json.get_record _ _
  have hkeys : exactKeys (some (communicationProposal input)) COMPANION_COMMUNICATION_PROPOSAL_FIELDS "proposal_fields_invalid" = .ok () :=
    Gateway.exactKeys_record rfl _
  have hconsent : consentReceiptPattern.test (some input.consentReceiptRef) = some true :=
    hinput ▸ congrArg some (accepts_head (by decide) (by decide))
  have hcompanion : companionPrincipalPattern.test (some (field input.identity "agent_id")) = some true := by
    have hid : mossOptions.agentId = js "kindred-agent-companion-" ++ js "moss0001" := by decide
    have hown : field input.identity "agent_id" = .str mossOptions.agentId := hinput ▸ agentId_identity
    rw [hown, hid]
    exact congrArg some (accepts_head (by decide) (by decide))
  have hmessage : userMessagePattern.test (some input.userMessageId) = some true :=
    hinput ▸ congrArg some (accepts_head (by decide) (by decide))
  have hclient : opaqueReferencePattern.test (some input.clientMessageId) = some true := hinput ▸ (by decide)
  have hcontent : contentValid endsEngine (some input.content) = true := hinput ▸ (by decide)
  have hfalse : (some (Json.bool false) == some (.bool false)) = true := by decide
  simp only [validateCompanionCommunicationProposal, hkeys, hget, List.lookup_cons, String.reduceBEq, bind_eq_ok, require_eq_ok,
    requireTest_eq_ok, some_text_beq, hconsent, hcompanion, hmessage, hclient, hcontent, Bool.and_self, allFalse, List.all_cons,
    List.all_nil, hfalse, exists_const, and_self]

/-- A greeting of a local companion passes. -/
theorem hello_passes : ∃ identity g, createLivingCompanionIdentity endsEngine.date mossOptions = .ok identity ∧
    Passes endsEngine communication g (createCompanionCommunicationArtifacts endsEngine (helloInput identity)) 0 := by
  have hbare : mossOptions.Bare := ⟨rfl, rfl, rfl⟩
  have hgateway : (Gateway.create endsEngine.date [] none).isOk = true := by decide
  obtain ⟨g, hg⟩ := exists_ok hgateway
  refine ⟨_, g, moss_created, ((proposals_pass_iff endsEngine moss_created hbare ⟨_, _, hg⟩ 0).1 _ rfl rfl hello_valid).mpr
    ⟨⟨rfl, by decide, by decide⟩, rfl, ⟨_, rfl⟩, ⟨_, rfl⟩, by decide⟩⟩

end Sample

end Agent
