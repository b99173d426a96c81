import StrataPortNetwork.Agent.Decisions
import StrataPortNetwork.Js.Buffers

/-! # When the brainstem decides

A decision shows the references of the envelope it was asked about. Whatever the envelope is, its
references are tested by patterns, which turn them into texts first: a decision is returned, with
references that are strings, unless one of them is no string and its text matches or is missing.
-/
namespace Agent
open Js Discovery

/-! ## Digests as parts of ids -/

theorem decodeSextets_length_le (sextets : List ℕ) : (decodeSextets sextets).length ≤ sextets.length := by
  fun_induction decodeSextets sextets with
  | case1 a b c d rest ih =>
    simp only [List.length_cons]
    omega
  | case2 | case3 | case4 => simp

/-- The text of some bytes is no shorter than they are. -/
theorem length_le_base64UrlEncode (bytes : Bytes) : bytes.length ≤ (base64UrlEncode bytes).length := by
  have hdecode : base64Decode (base64UrlEncode bytes) = bytes := base64Decode_urlEncode bytes
  calc bytes.length = (base64Decode (base64UrlEncode bytes)).length := by rw [hdecode]
    _ ≤ _ := decodeSextets_length_le _
    _ ≤ _ := List.length_filterMap_le _ _
    _ ≤ _ := (List.takeWhile_sublist _).length_le

namespace Engine
variable (engine : Engine)

@[simp] theorem digestOf_length (text : JsString) : (engine.digestOf text).length = 32 := by
  have hlength := length_le_base64UrlEncode (engine.sha256 (utf8Encode text))
  rw [engine.sha256_length] at hlength
  rw [digestOf, List.length_take]
  omega

theorem digestOf_units (text : JsString) : ∀ u ∈ engine.digestOf text, idClass.has u = true := by
  intro u hu
  have hchar := isUrlChar_of_mem (List.mem_of_mem_take hu)
  simp only [isUrlChar, Bool.or_eq_true, Bool.and_eq_true, decide_eq_true_eq, beq_iff_eq] at hchar
  simp only [idClass, CharClass.has, List.any_cons, List.any_nil, Bool.or_eq_true, Bool.and_eq_true, decide_eq_true_eq,
    Bool.or_false]
  omega

/-- A digest makes an id of any head. -/
theorem accepts_digest (head : String) {least most : ℕ} (hleast : least ≤ 32) (hmost : 32 ≤ most) (text : JsString) :
    (Regex.seq (.text head) (.run idClass least most)).accepts (js head ++ engine.digestOf text) = true := by
  rw [Regex.accepts_iff]
  exact .seq (.lit _) (.run (engine.digestOf_units text) (by rw [digestOf_length]; exact hleast)
    (by rw [digestOf_length]; exact hmost))

end Engine

theorem joined_strings (texts : List JsString) : joined? (texts.map Json.str) = some ([58].intercalate texts) := by
  have hmap : (texts.map Json.str).mapM elementText? = some texts := by
    induction texts with
    | nil => rfl
    | cons s rest ih => simp [List.mapM_cons, ih, elementText?, Json.isNull, Json.toStr?]
  rw [joined?, hmap]
  rfl

theorem digest_strings (engine : Engine) (label : String) (texts : List JsString) :
    digest engine label (texts.map Json.str) = .ok (engine.digestOf (js label ++ 58 :: [58].intercalate texts)) := by
  rw [digest, digestText, joined_strings]
  rfl

namespace Brainstem

/-! ## References of an envelope -/

/-- A reference that is a string, or that has a text which does not match. -/
def Plain (pattern : Regex) (v : Option Json) : Prop :=
  ∀ u, v = some u → IsString (some u) ∨ ∃ s, u.toStr? = some s ∧ pattern.accepts s = false

/-- Absent and null references do not pass. -/
structure Proper (pattern : Regex) : Prop where
  empty : pattern.accepts [] = false
  null : pattern.accepts (js "null") = false

theorem proper_messageId : Proper messageIdPattern := ⟨by decide, by decide⟩
theorem proper_reference : Proper opaqueReferencePattern := ⟨by decide, by decide⟩

variable {pattern : Regex} {v : Option Json} {default : String}

theorem fallback_absent (hproper : Proper pattern) (h : v.all Json.isNull = true) :
    fallback pattern v default = .ok (.text default) := by
  have hempty : pattern.test (some (.text "")) = some false := congrArg some hproper.empty
  rw [fallback, if_pos h, hempty]
  rfl

theorem fallback_tested {u : Json} (h : u.isNull = false) {passes : Bool} (htest : pattern.test (some u) = some passes) :
    fallback pattern (some u) default = .ok (if passes then u else .text default) := by
  have hnull : ¬ (some u).all Json.isNull = true := by simp [h]
  rw [fallback, if_neg hnull, Option.getD_some, htest]
  rfl

/-- A plain reference is shown if it matches, or else the default. -/
theorem fallback_plain (hproper : Proper pattern) (hdefault : pattern.accepts (js default) = true) (h : Plain pattern v) :
    ∃ s, fallback pattern v default = .ok (.str s) ∧ pattern.accepts s = true := by
  cases habsent : v.all Json.isNull with
  | true => exact ⟨js default, fallback_absent hproper habsent, hdefault⟩
  | false =>
    obtain ⟨u, rfl⟩ : ∃ u, v = some u := by
      cases v with
      | none => cases habsent
      | some u => exact ⟨u, rfl⟩
    have hnull : u.isNull = false := habsent
    rcases h u rfl with ⟨s, hs⟩ | ⟨s, hs, hfalse⟩
    · cases hs
      cases haccepts : pattern.accepts s with
      | true => exact ⟨s, fallback_tested hnull (congrArg some haccepts), haccepts⟩
      | false => exact ⟨js default, fallback_tested hnull (congrArg some haccepts), hdefault⟩
    · have htest : pattern.test (some u) = some false := by rw [Regex.test, hs, Option.map_some, hfalse]
      exact ⟨js default, fallback_tested hnull htest, hdefault⟩

/-- A reference that is not plain is shown as it is. -/
theorem fallback_not_plain (hproper : Proper pattern) (h : ¬ Plain pattern v) {w : Json}
    (hw : fallback pattern v default = .ok w) : v = some w ∧ ¬ IsString (some w) := by
  simp only [Plain, not_forall, not_or, not_exists, not_and, Bool.not_eq_false] at h
  obtain ⟨u, rfl, hstring, haccepts⟩ := h
  have hnull : u.isNull = false := by
    cases u with
    | null =>
      have := haccepts (js "null") rfl
      rw [hproper.null] at this
      cases this
    | bool _ | num _ | str _ | arr _ | obj _ => rfl
  cases hs : u.toStr? with
  | none =>
    have hthrows : fallback pattern (some u) default = .error .typeError := by
      have habsent : ¬ (some u).all Json.isNull = true := by simp [hnull]
      rw [fallback, if_neg habsent, Option.getD_some, Regex.test, hs]
      rfl
    rw [hthrows] at hw
    cases hw
  | some s =>
    have htest : pattern.test (some u) = some true := by rw [Regex.test, hs, Option.map_some, haccepts s hs]
    rw [fallback_tested hnull htest] at hw
    cases hw
    exact ⟨rfl, hstring⟩

/-! ## What an inspection finds -/

section
variable {engine : Engine} {kind : Kind} {input : Input} {now : ℚ}

/-- The reasons of denials after the proposal was read. -/
def laterReasons : List String := ["route_invalid", "admission_receipt_invalid", "authority_scope_invalid", "principal_inactive"]

/-- An inspection stops at the envelope and its proposal, or finds them valid; where it allows the proposal, the receipt
and the identity are valid too. -/
theorem inspect_cases (engine : Engine) (kind : Kind) (input : Input) (now : ℚ) :
    inspect engine kind input now = ⟨none, "proposal_contract_invalid"⟩ ∨
    validateEnvelope engine.date input.envelope = .ok () ∧ kind.validateProposal engine input.payload = .ok () ∧
      ∃ reason, inspect engine kind input now = ⟨some input.envelope, reason⟩ ∧ (reason ∈ laterReasons ∨
        reason = kind.allowed ∧ kind.routeValid input.envelope = true ∧
          validateProtocolReceipt engine.date input.protocolReceipt = .ok () ∧
          validateAgentIdentity engine.date input.identity = .ok ()) := by
  have hok : ∀ {x : Outcome Unit}, x.isOk = true → x = .ok () := fun h => Sample.ok_of_isOk h
  unfold inspect
  simp only [Bool.not_eq_true', Bool.and_eq_false_iff]
  split
  · exact .inl rfl
  · rename_i hvalid
    simp only [not_or, Bool.not_eq_false] at hvalid
    refine .inr ⟨hok hvalid.1, hok hvalid.2, ?_⟩
    split
    · exact ⟨_, rfl, .inl (by decide)⟩
    · rename_i hroute
      split
      · exact ⟨_, rfl, .inl (by decide)⟩
      · rename_i hreceipt
        split
        · exact ⟨_, rfl, .inl (by decide)⟩
        · rename_i hidentity
          split
          · exact ⟨_, rfl, .inl (by decide)⟩
          · split
            · exact ⟨_, rfl, .inl (by decide)⟩
            · rw [Bool.not_eq_false] at hroute hreceipt hidentity
              simp only [validateAdmissionReceipt, Bool.and_eq_true] at hreceipt
              exact ⟨_, rfl, .inr ⟨rfl, hroute, hok hreceipt.1.1.1.1.1, hok hidentity⟩⟩

/-! ## The evidence of a decision -/

theorem prefix_of_accepts {head : String} {rest : Regex} {s : JsString} (h : (Regex.seq (.text head) rest).accepts s = true) :
    js head <+: s := by
  obtain ⟨t, u, rfl, ht, -⟩ := Regex.matches_seq.mp ((Regex.accepts_iff _ _).mp h)
  rw [Regex.matches_lit.mp ht]
  exact ⟨u, rfl⟩

/-- Texts with different heads, neither of which begins the other, are different. -/
theorem ne_of_heads {head head' s t : JsString} (hs : head <+: s) (ht : head' <+: t) (h : ¬ head <+: head') (h' : ¬ head' <+: head) :
    s ≠ t := by
  rintro rfl
  rcases List.prefix_or_prefix_of_prefix hs ht with hp | hp
  · exact h hp
  · exact h' hp

/-- The references of a proposal that its envelope shows as evidence are strings. -/
theorem string_of_evidence {date : DateApi} {envelope : Json} (h : validateEnvelope date envelope = .ok ()) {v : Option Json}
    (hincludes : includes (envelope.get "evidence_refs") v = true) : IsString v := by
  simp only [validateEnvelope, bind_eq_ok, require_eq_ok, Bool.and_eq_true] at h
  obtain ⟨-, -, -, -, -, -, -, -, -, -, -, -, -, -, -, ⟨⟨⟨⟨⟨-, -⟩, -⟩, hevidence⟩, -⟩, -⟩, -⟩ := h
  have hkind : Kind.texts.Holds date (envelope.get "evidence_refs") := texts_of_unique hevidence
  obtain ⟨refs, hrefs, hstrings⟩ := hkind
  cases v with
  | none => cases hincludes
  | some u =>
    rw [includes, hrefs, Option.any_some, List.contains_iff_exists_mem_beq] at hincludes
    obtain ⟨w, hw, heq⟩ := hincludes
    rw [Json.eq_of_beq heq]
    exact hstrings w hw

/-- A proposal that may be approved, with the envelope that carries it. -/
structure Approvable (engine : Engine) (kind : Kind) (input : Input) : Prop where
  envelope : validateEnvelope engine.date input.envelope = .ok ()
  proposal : kind.validateProposal engine input.payload = .ok ()
  route : kind.routeValid input.envelope = true

/-- The evidence of an approval. -/
theorem Approvable.evidence (hkind : kind = communication ∨ kind = memory) (h : Approvable engine kind input) :
    ∃ refs : List JsString, kind.evidence.map (field input.payload) = refs.map Json.str ∧ refs.length ≤ 3 ∧ refs.Nodup ∧
      ∀ ref ∈ refs, opaqueReferencePattern.accepts ref = true ∧ ¬ js "kindred-message-" <+: ref := by
  have hstring : ∀ {name : String}, includes (input.envelope.get "evidence_refs") (input.payload.get name) = true →
      ∃ s, input.payload.get name = some (.str s) := fun hincludes => string_of_evidence h.envelope hincludes
  have hroute := h.route
  have hproposal := h.proposal
  rcases hkind with rfl | rfl
  · simp only [communication, Bool.and_eq_true] at hroute
    obtain ⟨consent, hconsent⟩ := hstring hroute.2
    simp only [communication, validateCompanionCommunicationProposal, bind_eq_ok, requireTest_eq_ok] at hproposal
    obtain ⟨-, -, -, -, ⟨⟩, htest, -⟩ := hproposal
    rw [hconsent, test_str, Option.some.injEq] at htest
    refine ⟨[consent], ?_, by simp, by simp, ?_⟩
    · simp [communication, field, hconsent]
    · simp only [List.mem_singleton, forall_eq]
      refine ⟨reference_of_id (by decide) (by decide) (by decide) (by decide) htest, fun hprefix => ?_⟩
      exact ne_of_heads hprefix (prefix_of_accepts htest) (by decide) (by decide) rfl
  · simp only [memory, Bool.and_eq_true] at hroute
    obtain ⟨consent, hconsent⟩ := hstring hroute.1.2
    obtain ⟨target, htarget⟩ := hstring hroute.2
    simp only [memory, validateCompanionMemoryProposal, bind_eq_ok, requireTest_eq_ok] at hproposal
    obtain ⟨-, -, -, -, ⟨⟩, htest, -, -, -, -, ⟨⟩, htarget', -⟩ := hproposal
    rw [hconsent, test_str, Option.some.injEq] at htest
    rw [htarget, test_str, Option.some.injEq] at htarget'
    refine ⟨[consent, target], ?_, by simp, ?_, ?_⟩
    · simp [memory, field, hconsent, htarget]
    · simpa using ne_of_heads (prefix_of_accepts htest) (prefix_of_accepts htarget') (by decide) (by decide)
    · simp only [List.mem_cons, List.not_mem_nil, or_false, forall_eq_or_imp, forall_eq]
      refine ⟨⟨reference_of_id (by decide) (by decide) (by decide) (by decide) htest, fun hprefix => ?_⟩,
        reference_of_id (by decide) (by decide) (by decide) (by decide) htarget', fun hprefix => ?_⟩
      · exact ne_of_heads hprefix (prefix_of_accepts htest) (by decide) (by decide) rfl
      · exact ne_of_heads hprefix (prefix_of_accepts htarget') (by decide) (by decide) rfl

/-- The references that a decision shows, of an approval or of a denial. -/
theorem evidenceOf_valid (hkind : kind = communication ∨ kind = memory) {reason : String} {approved : Bool}
    (happroved : approved = true → Approvable engine kind input) (hdenied : approved = false → reason ∈ denialReasons)
    {messageId : JsString} (hmessage : messageIdPattern.accepts messageId = true) :
    ∃ refs : List JsString, evidenceOf kind input.payload (.str messageId) reason approved = refs.map Json.str ∧
      1 ≤ refs.length ∧ refs.length ≤ 4 ∧ refs.Nodup ∧ ∀ ref ∈ refs, opaqueReferencePattern.accepts ref = true := by
  have hreference := reference_of_messageId hmessage
  have hhead : js "kindred-message-" <+: messageId := prefix_of_accepts hmessage
  cases approved with
  | true =>
    obtain ⟨refs, hrefs, hlength, hnodup, hall⟩ := (happroved rfl).evidence hkind
    refine ⟨messageId :: refs, ?_, by simp, by rw [List.length_cons]; omega, ?_,
      List.forall_mem_cons.mpr ⟨hreference, fun ref hmem => (hall ref hmem).1⟩⟩
    · rw [evidenceOf, if_pos rfl, hrefs, List.map_cons]
    · exact List.nodup_cons.mpr ⟨fun hmem => (hall messageId hmem).2 hhead, hnodup⟩
  | false =>
    have hreasons : ∀ reason ∈ denialReasons, opaqueReferencePattern.accepts (js ("brainstem-reason:" ++ reason)) = true ∧
        ¬ js "kindred-message-" <+: js ("brainstem-reason:" ++ reason) := by decide +kernel
    obtain ⟨haccepts, hother⟩ := hreasons reason (hdenied rfl)
    refine ⟨[messageId, js ("brainstem-reason:" ++ reason)], rfl, by simp, by simp, ?_, ?_⟩
    · simp only [List.nodup_cons, List.mem_singleton, List.not_mem_nil, not_false_iff, List.nodup_nil, and_true]
      rintro rfl
      exact hother hhead
    · simp [hreference, haccepts]

theorem allDistinct_strings {refs : List JsString} (h : refs.Nodup) : Json.allDistinct (refs.map Json.str) = true := by
  rw [Json.allDistinct, decide_eq_true_eq, List.pairwise_map]
  refine h.imp fun hne => ?_
  rw [← Bool.not_eq_true, Json.str_beq_str]
  exact hne

/-! ## Decisions pass their validators -/

section
variable {payload messageId correlationId : Json} {decisionDigest : JsString} {reason : String} {approved : Bool}
  {evidence : List Json} {decidedAt : JsString}

/-- The fields that every decision has. -/
theorem get_decisionOf (hkind : kind = communication ∨ kind = memory) {decision : Json}
    (hdecision : decision = decisionOf kind payload messageId correlationId decisionDigest reason approved evidence decidedAt) :
    hasExactKeys (some decision) kind.fields = true ∧ decision.get "contract_version" = some (.text kind.contractVersion) ∧
      decision.get "decision_id" = some (.str (js "brainstem-decision-" ++ decisionDigest)) ∧
      decision.get "proposal_message_id" = some messageId ∧ decision.get "correlation_id" = some correlationId ∧
      decision.get "decision" = some (.text (if approved then "approved" else "denied")) ∧
      decision.get "reason_class" = some (.text reason) ∧ decision.get "authority_component" = some (.text "brainstem") ∧
      decision.get "evidence_refs" = some (.arr evidence) ∧ decision.get "decided_at" = some (.str decidedAt) := by
  subst hdecision
  rcases hkind with rfl | rfl
  · exact ⟨hasExactKeys_record rfl, Json.get_record _ _, Json.get_record _ _, Json.get_record _ _, Json.get_record _ _,
      Json.get_record _ _, Json.get_record _ _, Json.get_record _ _, Json.get_record _ _, Json.get_record _ _⟩
  · exact ⟨hasExactKeys_record rfl, Json.get_record _ _, Json.get_record _ _, Json.get_record _ _, Json.get_record _ _,
      Json.get_record _ _, Json.get_record _ _, Json.get_record _ _, Json.get_record _ _, Json.get_record _ _⟩

theorem isApproved_decisionOf (hkind : kind = communication ∨ kind = memory) :
    isApproved (decisionOf kind payload messageId correlationId decisionDigest reason approved evidence decidedAt) = approved := by
  rw [isApproved, (get_decisionOf hkind rfl).2.2.2.2.2.1]
  cases approved with
  | true => exact Json.some_beq_str_iff.mpr rfl
  | false => rfl

theorem flagsValid_decisionOf (hkind : kind = communication ∨ kind = memory) : kind.flagsValid
    (decisionOf kind payload messageId correlationId decisionDigest reason approved evidence decidedAt) = true := by
  have hfalse : ((some (Json.bool false)) == some (Json.bool false)) = true := by decide
  rcases hkind with rfl | rfl
  · simp only [communication, allFalse, decisionOf, Json.get_record, List.cons_append, List.nil_append, List.lookup_cons, String.reduceBEq,
      List.all_cons, List.all_nil, hfalse, Bool.and_true]
  · simp only [memory, allFalse, decisionOf, Json.get_record, List.cons_append, List.nil_append, List.lookup_cons, String.reduceBEq,
      List.all_cons, List.all_nil, hfalse, Bool.and_true, Option.any_some, Json.isBool]

theorem oneOf_of_mem {set : List String} (h : reason ∈ set) : oneOf (some (.text reason)) set = true :=
  List.any_eq_true.mpr ⟨reason, h, Json.some_beq_str_iff.mpr rfl⟩

/-- The policy of an approval and of a denial. -/
theorem policyValid_decisionOf (hkind : kind = communication ∨ kind = memory)
    (happroved : approved = true → reason = kind.allowed ∧ kind.validateProposal engine payload = .ok ())
    (hdenied : approved = false → reason ∈ denialReasons) :
    kind.policyValid (decisionOf kind payload messageId correlationId decisionDigest reason approved evidence decidedAt) = .ok () := by
  have htext : ∀ s : String, (some (Json.text s) == some (Json.text s)) = true := fun _ => Json.some_beq_str_iff.mpr rfl
  have hbool : ∀ b : Bool, (some (Json.bool b) == some (Json.bool b)) = true := by decide
  rcases hkind with rfl | rfl
  · change (if isApproved _ then _ else _) = _
    rw [isApproved_decisionOf (.inl rfl)]
    cases approved with
    | true =>
      obtain ⟨rfl, -⟩ := happroved rfl
      simp only [if_true, communication, decisionOf, Json.get_record, List.cons_append, List.nil_append, List.lookup_cons,
        String.reduceBEq, require_eq_ok, htext, hbool, Bool.and_true]
    | false =>
      simp only [Bool.false_eq_true, if_false, communication, decisionOf, Json.get_record, List.cons_append, List.nil_append,
        List.lookup_cons, String.reduceBEq, require_eq_ok, oneOf_of_mem (hdenied rfl), hbool, Bool.and_true, Bool.true_and]
      rfl
  · change (if isApproved _ then _ else _) = _
    rw [isApproved_decisionOf (.inr rfl)]
    cases approved with
    | true =>
      obtain ⟨rfl, hproposal⟩ := happroved rfl
      simp only [memory, validateCompanionMemoryProposal, bind_eq_ok, require_eq_ok, requireTest_eq_ok, orThrow_eq_ok,
        Bool.and_eq_true, decide_eq_true_eq] at hproposal
      obtain ⟨⟨⟩, hkeys, -, -, -, -, -, -, -, -, ⟨⟩, htarget, version, hversion, ⟨⟩, ⟨⟨⟨⟨⟨⟨⟨⟨⟨⟨hpositive, hmutation⟩, -⟩, -⟩, -⟩, -⟩, -⟩, -⟩, -⟩,
        -⟩, -⟩, -⟩ := hproposal
      have hfield : ∀ name ∈ COMPANION_MEMORY_PROPOSAL_FIELDS, some (field payload name) = payload.get name :=
        fun name hmem => some_field (isSome_of_exactKeys hkeys hmem)
      simp only [if_true, memory, memoryApprovalValid, decisionOf, Json.get_record, List.cons_append, List.nil_append, List.lookup_cons,
        String.reduceBEq, bind_eq_ok, require_eq_ok, requireTest_eq_ok, orThrow_eq_ok, htext, hbool, Bool.and_true,
        Bool.and_eq_true, decide_eq_true_eq, hfield "target_namespace_ref" (by decide),
        hfield "expected_memory_version" (by decide), hfield "mutation" (by decide)]
      exact ⟨(), trivial, (), htarget, version, hversion, hpositive, hmutation⟩
    | false =>
      simp only [Bool.false_eq_true, if_false, memory, decisionOf, Json.get_record, List.cons_append, List.nil_append, List.lookup_cons,
        String.reduceBEq, require_eq_ok, oneOf_of_mem (hdenied rfl), hbool, Bool.and_true, Bool.true_and]
      rfl

end

/-- What is put together from a finding and two references that match their patterns passes the validator of its kind. -/
theorem validateDecision_decisionOf (hkind : kind = communication ∨ kind = memory) {reason : String} {approved : Bool}
    (happroved : approved = true → reason = kind.allowed ∧ Approvable engine kind input)
    (hdenied : approved = false → reason ∈ denialReasons) {messageId : JsString} {correlationId : Json}
    (hmessage : messageIdPattern.accepts messageId = true) (hcorrelation : opaqueReferencePattern.test (some correlationId) = some true)
    (text : JsString) {decidedAt : JsString} (hdecided : isoText engine.date now = some decidedAt) :
    validateDecision engine kind (decisionOf kind input.payload (.str messageId) correlationId (engine.digestOf text) reason
      approved (evidenceOf kind input.payload (.str messageId) reason approved) decidedAt) = .ok () := by
  obtain ⟨refs, hrefs, hleast, hmost, hnodup, hall⟩ := evidenceOf_valid hkind (fun h => (happroved h).2) hdenied hmessage
  generalize hdecision : decisionOf kind input.payload (.str messageId) correlationId (engine.digestOf text) reason
    approved (evidenceOf kind input.payload (.str messageId) reason approved) decidedAt = decision
  have hflags : kind.flagsValid decision = true := hdecision ▸ flagsValid_decisionOf hkind
  have hpolicy : kind.policyValid decision = .ok () := hdecision ▸
    policyValid_decisionOf hkind (fun h => ⟨(happroved h).1, (happroved h).2.proposal⟩) hdenied
  obtain ⟨hkeys, hversion, hid, hmessageId, hcorrelationId, houtcome, -, hauthority, hevidence, hdecidedAt⟩ :=
    get_decisionOf hkind hdecision.symm
  have hidAccepts : decisionIdPattern.accepts (js "brainstem-decision-" ++ engine.digestOf text) = true :=
    engine.accepts_digest "brainstem-decision-" (by decide) (by decide) text
  have hname : oneOf (some (.text (if approved then "approved" else "denied"))) ["approved", "denied"] = true :=
    oneOf_of_mem (by cases approved <;> decide)
  have hreferences : ∀ reference ∈ refs.map Json.str, requireTest kind.invalid opaqueReferencePattern (some reference) = .ok () := by
    refine List.forall_mem_map.mpr fun ref hmem => ?_
    rw [requireTest_eq_ok, test_str, hall ref hmem]
  simp only [validateDecision, bind_eq_ok, require_eq_ok, requireTest_eq_ok, orThrow_eq_ok, Bool.and_eq_true, hkeys, hversion, hid,
    hmessageId, hcorrelationId, houtcome, hauthority, hflags, hevidence, hrefs, hdecidedAt, hname, hpolicy, test_str, hidAccepts,
    hmessage, hcorrelation]
  refine ⟨(), ⟨trivial, Json.some_beq_str_iff.mpr rfl⟩, (), trivial, (), trivial, (), trivial, (),
    ⟨⟨trivial, Json.some_beq_str_iff.mpr rfl⟩, trivial⟩, refs.map Json.str, rfl, (), ⟨⟨?_, ?_⟩, allDistinct_strings hnodup⟩, (),
    ensureAll_eq_ok.mpr hreferences, (), parse_isoText hdecided, trivial⟩
  · simpa using hleast
  · simpa using hmost

/-! ## Totality -/

/-- A decision is returned that its validator accepts, its references are strings, and it denies whatever comes with an
envelope, a receipt or an identity that is not valid. -/
structure Decided (engine : Engine) (kind : Kind) (input : Input) (decision : Json) : Prop where
  returned : decide engine kind input = .ok decision
  valid : validateDecision engine kind decision = .ok ()
  message : IsString (decision.get "proposal_message_id")
  correlation : IsString (decision.get "correlation_id")
  denied : validateEnvelope engine.date input.envelope ≠ .ok () ∨
    validateProtocolReceipt engine.date input.protocolReceipt ≠ .ok () ∨
    validateAgentIdentity engine.date input.identity ≠ .ok () → decision.get "decision" = some (.text "denied")

/-- What an inspection gives for the decision. -/
theorem inspect_reason (hkind : kind = communication ∨ kind = memory) {inspected : Inspected}
    (hinspected : inspect engine kind input now = inspected) :
    ((inspected.reason == kind.allowed) = true → inspected.reason = kind.allowed ∧ Approvable engine kind input ∧
      validateProtocolReceipt engine.date input.protocolReceipt = .ok () ∧
      validateAgentIdentity engine.date input.identity = .ok ()) ∧
    ((inspected.reason == kind.allowed) = false → inspected.reason ∈ denialReasons) := by
  have hallowed : kind.allowed ∉ denialReasons := by
    rcases hkind with rfl | rfl <;> decide
  have hlater : ∀ reason ∈ laterReasons, reason ∈ denialReasons := by decide
  have hfirst : "proposal_contract_invalid" ∈ denialReasons := by decide
  rw [beq_iff_eq, beq_eq_false_iff_ne]
  rcases inspect_cases engine kind input now with h | ⟨henvelope, hproposal, reason, h, hreason⟩
  · obtain rfl := h.symm.trans hinspected
    exact ⟨fun heq => absurd (heq ▸ hfirst) hallowed, fun _ => hfirst⟩
  · obtain rfl := h.symm.trans hinspected
    rcases hreason with hreason | ⟨hreason, hroute, hreceipt, hidentity⟩
    · exact ⟨fun heq => absurd (heq ▸ hlater reason hreason) hallowed, fun _ => hlater reason hreason⟩
    · exact ⟨fun _ => ⟨hreason, ⟨henvelope, hproposal, hroute⟩, hreceipt, hidentity⟩, fun hne => absurd hreason hne⟩

/-- The reference a decision shows: that of the envelope it could read, or else the fallback. -/
theorem shown_plain {envelope : Option Json} {name : String} (h : Plain pattern (input.envelope.get name))
    (henvelope : envelope = none ∨ envelope = some input.envelope ∧ pattern.test (input.envelope.get name) = some true)
    {s : JsString} (hs : pattern.accepts s = true) :
    ∃ t, (envelope.bind (·.get name)).getD (.str s) = .str t ∧ pattern.accepts t = true := by
  rcases henvelope with rfl | ⟨rfl, htest⟩
  · exact ⟨s, rfl, hs⟩
  · rw [Option.bind_some]
    cases hget : input.envelope.get name with
    | none => exact ⟨s, rfl, hs⟩
    | some u =>
      rw [hget] at h htest
      rcases h u rfl with ⟨t, ht⟩ | ⟨t, ht, hfalse⟩
      · cases ht
        exact ⟨t, rfl, by simpa using htest⟩
      · rw [Regex.test, ht, Option.map_some, hfalse] at htest
        cases htest

/-- A reference that is not plain is shown as it is, unless it throws. -/
theorem shown_not_plain {envelope : Option Json} {name : String} (henvelope : envelope = none ∨ envelope = some input.envelope)
    {w : Json} (hw : input.envelope.get name = some w) : (envelope.bind (·.get name)).getD w = w := by
  rcases henvelope with rfl | rfl
  · rfl
  · rw [Option.bind_some, hw]
    rfl

/-- The parts a decision is made of. -/
theorem decide_eq_ok_iff {decision : Json} : decide engine kind input = .ok decision ↔
    ∃ now message correlation decisionDigest decidedAt, input.now = some now ∧
      fallback messageIdPattern (input.envelope.get "message_id") kind.defaultMessage = .ok message ∧
      fallback opaqueReferencePattern (input.envelope.get "correlation_id") kind.defaultCorrelation = .ok correlation ∧
      digest engine kind.label [((inspect engine kind input now).envelope.bind (·.get "message_id")).getD message,
        ((inspect engine kind input now).envelope.bind (·.get "correlation_id")).getD correlation,
        .text (inspect engine kind input now).reason] = .ok decisionDigest ∧
      isoText engine.date now = some decidedAt ∧ validateDecision engine kind decision = .ok () ∧
      decision = decisionOf kind input.payload (((inspect engine kind input now).envelope.bind (·.get "message_id")).getD message)
        (((inspect engine kind input now).envelope.bind (·.get "correlation_id")).getD correlation) decisionDigest
        (inspect engine kind input now).reason ((inspect engine kind input now).reason == kind.allowed)
        (evidenceOf kind input.payload (((inspect engine kind input now).envelope.bind (·.get "message_id")).getD message)
          (inspect engine kind input now).reason ((inspect engine kind input now).reason == kind.allowed)) decidedAt := by
  simp only [decide, bind_eq_ok, orThrow_eq_ok, pure_eq_ok]
  constructor
  · rintro ⟨now, hnow, message, hmessage, correlation, hcorrelation, decisionDigest, hdigest, decidedAt, hdecided, ⟨⟩, hvalid, rfl⟩
    exact ⟨now, message, correlation, decisionDigest, decidedAt, hnow, hmessage, hcorrelation, hdigest, hdecided, hvalid, rfl⟩
  · rintro ⟨now, message, correlation, decisionDigest, decidedAt, hnow, hmessage, hcorrelation, hdigest, hdecided, hvalid, rfl⟩
    exact ⟨now, hnow, message, hmessage, correlation, hcorrelation, decisionDigest, hdigest, decidedAt, hdecided, (), hvalid, rfl⟩

/-- A kind of decision is made exactly when both references of the envelope are plain. -/
theorem decided_iff (engine : Engine) (hkind : kind = communication ∨ kind = memory) (hnow : input.now = some now)
    (hrange : -(maxTime : ℚ) ≤ now ∧ now ≤ maxTime) : (∃ decision, Decided engine kind input decision) ↔
      Plain messageIdPattern (input.envelope.get "message_id") ∧
        Plain opaqueReferencePattern (input.envelope.get "correlation_id") := by
  have henvelope : (inspect engine kind input now).envelope = none ∨ (inspect engine kind input now).envelope = some input.envelope ∧
      validateEnvelope engine.date input.envelope = .ok () := by
    rcases inspect_cases engine kind input now with h | ⟨hvalid, -, reason, h, -⟩
    · exact .inl (by rw [h])
    · exact .inr ⟨by rw [h], hvalid⟩
  constructor
  · rintro ⟨decision, hdecided⟩
    obtain ⟨now', message, correlation, decisionDigest, decidedAt, hnow', hmessage, hcorrelation, -, -, -, hdecision⟩ :=
      decide_eq_ok_iff.mp hdecided.returned
    obtain rfl := Option.some.inj (hnow.symm.trans hnow')
    obtain ⟨-, -, -, hmessageId, hcorrelationId, -⟩ := get_decisionOf hkind hdecision
    have hshown := henvelope.imp_right And.left
    constructor
    · by_contra hplain
      obtain ⟨hget, hstring⟩ := fallback_not_plain proper_messageId hplain hmessage
      have := hdecided.message
      rw [hmessageId, shown_not_plain hshown hget] at this
      exact hstring this
    · by_contra hplain
      obtain ⟨hget, hstring⟩ := fallback_not_plain proper_reference hplain hcorrelation
      have := hdecided.correlation
      rw [hcorrelationId, shown_not_plain hshown hget] at this
      exact hstring this
  · rintro ⟨hmessagePlain, hcorrelationPlain⟩
    have hdefaults : messageIdPattern.accepts (js kind.defaultMessage) = true ∧
        opaqueReferencePattern.accepts (js kind.defaultCorrelation) = true := by
      rcases hkind with rfl | rfl <;> decide +kernel
    obtain ⟨message, hmessage, hmessageAccepts⟩ := fallback_plain proper_messageId hdefaults.1 hmessagePlain
    obtain ⟨correlation, hcorrelation, hcorrelationAccepts⟩ := fallback_plain proper_reference hdefaults.2 hcorrelationPlain
    have htested : ∀ {envelope : Json}, validateEnvelope engine.date envelope = .ok () →
        messageIdPattern.test (envelope.get "message_id") = some true ∧
          opaqueReferencePattern.test (envelope.get "correlation_id") = some true := by
      intro envelope hvalid
      simp only [validateEnvelope, bind_eq_ok, requireTest_eq_ok] at hvalid
      obtain ⟨-, -, -, -, -, htest, -, -, -, htest', -⟩ := hvalid
      exact ⟨htest, htest'⟩
    obtain ⟨messageId, hmessageId, hmessageIdAccepts⟩ := shown_plain hmessagePlain
      (henvelope.imp_right fun h => ⟨h.1, (htested h.2).1⟩) hmessageAccepts
    obtain ⟨correlationId, hcorrelationId, hcorrelationIdAccepts⟩ := shown_plain hcorrelationPlain
      (henvelope.imp_right fun h => ⟨h.1, (htested h.2).2⟩) hcorrelationAccepts
    have hiso : (isoText (engineDate engine.otherDate) now).isSome = true := isoText_isSome_iff.mpr hrange
    obtain ⟨decidedAt, hdecidedAt⟩ := Option.isSome_iff_exists.mp hiso
    generalize hinspected : inspect engine kind input now = inspected at hmessageId hcorrelationId
    obtain ⟨happroved, hdenied⟩ := inspect_reason hkind hinspected
    have hdigest := digest_strings engine kind.label [messageId, correlationId, js inspected.reason]
    generalize js kind.label ++ 58 :: [58].intercalate [messageId, correlationId, js inspected.reason] = text at hdigest
    have hvalid := validateDecision_decisionOf hkind (fun h => ⟨(happroved h).1, (happroved h).2.1⟩) hdenied
      hmessageIdAccepts (by rw [test_str, hcorrelationIdAccepts]) text hdecidedAt
    obtain ⟨-, -, -, hmessageField, hcorrelationField, houtcome, -⟩ := get_decisionOf hkind rfl
    refine ⟨_, decide_eq_ok_iff.mpr ⟨now, .str message, .str correlation, engine.digestOf text, decidedAt, hnow, hmessage, hcorrelation,
      ?_, hdecidedAt, hvalid, ?_⟩, hvalid, ⟨messageId, hmessageField⟩, ⟨correlationId, hcorrelationField⟩, fun hinvalid => ?_⟩
    · rw [hinspected, hmessageId, hcorrelationId]
      exact hdigest
    · rw [hinspected, hmessageId, hcorrelationId]
    · have hdenies : (inspected.reason == kind.allowed) = false := by
        rw [← Bool.not_eq_true]
        intro hallows
        obtain ⟨-, happrovable, hreceipt, hidentity⟩ := happroved hallows
        rcases hinvalid with h | h | h
        · exact h happrovable.envelope
        · exact h hreceipt
        · exact h hidentity
      rw [houtcome, hdenies]
      rfl

/-- Both functions return a decision for every envelope, receipt and identity, at every time in the range of dates, exactly
when the message id and the correlation id of the envelope are plain. -/
theorem decisions_total_iff (engine : Engine) (envelope protocolReceipt identity : Json) {now : ℚ}
    (hrange : -(maxTime : ℚ) ≤ now ∧ now ≤ maxTime) :
    ((∃ decision, Decided engine communication ⟨envelope, protocolReceipt, identity, some now⟩ decision) ↔
      Plain messageIdPattern (envelope.get "message_id") ∧ Plain opaqueReferencePattern (envelope.get "correlation_id")) ∧
    ((∃ decision, Decided engine memory ⟨envelope, protocolReceipt, identity, some now⟩ decision) ↔
      Plain messageIdPattern (envelope.get "message_id") ∧ Plain opaqueReferencePattern (envelope.get "correlation_id")) :=
  ⟨decided_iff engine (.inl rfl) rfl hrange, decided_iff engine (.inr rfl) rfl hrange⟩

end

namespace Sample

/-- An engine whose hash is the start of its input. -/
def engine : Engine := ⟨fun bytes => (bytes ++ List.replicate 32 0).take 32, by simp, id, fun _ => none⟩

/-- An envelope of which only the references are read. -/
def references (messageId correlationId : Json) : Json := .record [("message_id", messageId), ("correlation_id", correlationId)]

def input (envelope : Json) : Input := ⟨envelope, .null, .null, some 0⟩

/-- An envelope that is not valid, under an id that is a string and a correlation that matches nothing, is denied. -/
theorem plain_references_decided : (∃ decision, Decided engine communication
      (input (references (.text "kindred-message-aaaaaaaa") (.int 7))) decision) ∧
    ∃ decision, Decided engine memory (input (references (.text "kindred-message-aaaaaaaa") (.int 7))) decision := by
  have hmessage : Plain messageIdPattern (some (.text "kindred-message-aaaaaaaa")) := by
    rintro u ⟨⟩
    exact .inl ⟨_, rfl⟩
  have hcorrelation : Plain opaqueReferencePattern (some (.int 7)) := by
    rintro u ⟨⟩
    exact .inr ⟨js "7", by decide, by decide⟩
  have hrange : -(maxTime : ℚ) ≤ 0 ∧ 0 ≤ (maxTime : ℚ) := by decide +kernel
  obtain ⟨hcommunication, hmemory⟩ := decisions_total_iff engine
    (references (.text "kindred-message-aaaaaaaa") (.int 7)) .null .null hrange
  exact ⟨hcommunication.mpr ⟨hmessage, hcorrelation⟩, hmemory.mpr ⟨hmessage, hcorrelation⟩⟩

/-- A message id without a text makes both functions throw a TypeError, and one in an array is shown as it is. -/
theorem hostile_references : decideCompanionCommunication engine (input (references (.record [("toString", .null)]) .null)) =
      .error .typeError ∧
    decideCompanionMemory engine (input (references (.record [("toString", .null)]) .null)) = .error .typeError ∧
    ∃ decision, decideCompanionCommunication engine (input (references (.arr [.text "kindred-message-aaaaaaaa"]) .null)) = .ok decision ∧
      ¬ IsString (decision.get "proposal_message_id") := by
  refine ⟨rfl, rfl, ?_⟩
  have hshown : ((decideCompanionCommunication engine (input (references (.arr [.text "kindred-message-aaaaaaaa"]) .null))).toOption.bind
      fun decision => (decision.get "proposal_message_id").bind Json.items?).isSome = true := by decide +kernel
  cases hdecision : decideCompanionCommunication engine (input (references (.arr [.text "kindred-message-aaaaaaaa"]) .null)) with
  | error e =>
    rw [hdecision] at hshown
    cases hshown
  | ok decision =>
    refine ⟨decision, rfl, ?_⟩
    rintro ⟨s, hs⟩
    rw [hdecision, Except.toOption, Option.bind_some, hs] at hshown
    cases hshown

end Sample

end Brainstem

end Agent
