import StrataPortNetwork.Agent.TotalDecisions
import StrataPortNetwork.Js.Joined
import StrataPortNetwork.Js.NumberText

/-! # Ids that separate requests

The ids of a grant, a message and a nonce are digests of the fields of a request, joined by
colons. Two requests get the same ids exactly when the joined texts are the same, which a field
that may itself hold a colon allows.
-/
namespace Agent
open Js Discovery

/-! ## Ids as digests -/

/-- No id of the one is that of the other, and the replay guard keeps the messages apart. -/
structure Separate (a b : Artifacts) : Prop where
  message : a.envelope.get "message_id" ≠ b.envelope.get "message_id"
  nonce : a.envelope.get "nonce" ≠ b.envelope.get "nonce"
  grant : a.grant.get "grant_id" ≠ b.grant.get "grant_id"
  replay : replayKeyOf a.envelope ≠ replayKeyOf b.envelope

/-- The texts whose digests go into the artifacts of a request. -/
def hashedTexts (engine : Engine) (labels : String × String × String × String) (seedText : Outcome JsString) : List JsString :=
  match seedText with
  | .ok text => text :: [labels.1, labels.2.1, labels.2.2.1, labels.2.2.2].map fun label => js label ++ 58 :: engine.digestOf text
  | .error _ => []

/-- The truncated digest is injective on the bytes of the given texts. -/
def NoCollision (engine : Engine) (texts texts' : List JsString) : Prop :=
  ∀ s ∈ texts, ∀ t ∈ texts', engine.digestOf s = engine.digestOf t → utf8Encode s = utf8Encode t

variable {engine : Engine} {request request' : Request} {agentId agentId' : Json} {seedText seedText' : JsString}
  {period period' : Period} {declaring declaring' : Json → Json} {artifacts artifacts' : Artifacts}

/-- The digest of a seed under a label. -/
def labelled (engine : Engine) (label : String) (seedText : JsString) : JsString :=
  engine.digestOf (js label ++ 58 :: engine.digestOf seedText)

theorem digest_seed (label : String) (seedText : JsString) :
    digest engine label [.str (engine.digestOf seedText)] = .ok (labelled engine label seedText) := by
  have h := digest_strings engine label [engine.digestOf seedText]
  rw [List.map_singleton, List.intercalate_singleton] at h
  exact h

/-- The agent in the sender of an envelope that is valid. -/
theorem agent_of_envelopeOf {date : DateApi} {grant : Json} {message nonce issuedAt expiresAt : JsString}
    (h : validateEnvelope date (envelopeOf request agentId grant message nonce issuedAt expiresAt) = .ok ()) :
    ∃ agent, agentId.toStr? = some agent ∧ agentIdPattern.accepts agent = true := by
  simp only [validateEnvelope, bind_eq_ok] at h
  obtain ⟨-, -, -, -, -, -, -, -, -, -, -, -, -, -, -, -, ⟨⟩, hsender, -⟩ := h
  have hget : (envelopeOf request agentId grant message nonce issuedAt expiresAt).get "sender" = some (principal "agent" agentId) :=
    Json.get_record _ _
  have htype : (principal "agent" agentId).get "principal_type" = some (.text "agent") := Json.get_record _ _
  have hid : (principal "agent" agentId).get "id" = some agentId := Json.get_record _ _
  simp only [hget, validatePrincipal, bind_eq_ok, Option.getD_some, htype, hid] at hsender
  obtain ⟨-, -, -, -, hsender⟩ := hsender
  have heq : (some (Json.text "agent") == some (.text "agent")) = true := Json.some_beq_str_iff.mpr rfl
  rw [if_pos heq, requireTest_eq_ok] at hsender
  exact test_eq_true_iff.mp hsender

/-- The ids of artifacts, and the key under which the replay guard stores their message. -/
theorem createArtifacts_ok (h : createArtifacts engine request agentId (engine.digestOf seedText) period declaring = .ok artifacts) :
    artifacts.grant.get "grant_id" = some (.str (js "kindred-grant-" ++ labelled engine request.labels.1 seedText)) ∧
    artifacts.envelope.get "message_id" =
      some (.str (js "kindred-message-" ++ labelled engine request.labels.2.2.1 seedText)) ∧
    artifacts.envelope.get "nonce" = some (.str (labelled engine request.labels.2.2.2 seedText)) ∧
    validateEnvelope engine.date artifacts.envelope = .ok () ∧
    ∃ agent, agentId.toStr? = some agent ∧ replayKeyOf artifacts.envelope =
      some (js "agent:" ++ agent ++ 58 :: labelled engine request.labels.2.2.2 seedText) := by
  simp only [createArtifacts, digest_seed, bind_eq_ok, pure_eq_ok, Except.ok.injEq] at h
  obtain ⟨_, rfl, _, rfl, ⟨⟩, -, ⟨⟩, -, _, rfl, _, rfl, ⟨⟩, henvelope, rfl⟩ := h
  refine ⟨Json.get_record _ _, Json.get_record _ _, Json.get_record _ _, henvelope, ?_⟩
  obtain ⟨agent, hagent, -⟩ := agent_of_envelopeOf henvelope
  refine ⟨agent, hagent, ?_⟩
  simp only [replayKeyOf, field, envelopeOf, principal, Json.get_record, List.lookup_cons, String.reduceBEq, Option.getD_some, joinKey,
    Option.elim_some, hagent, Json.toStr?, Json.text, Option.bind_some, Option.map_some]
  have hcolon : js ":" = [58] := by decide
  have hagentColon : js "agent:" = js "agent" ++ [58] := by decide
  simp [hcolon, hagentColon]

theorem ascii_digestOf (text : JsString) : Ascii (engine.digestOf text) := by
  intro u hu
  have hunit := engine.digestOf_units text u hu
  simp only [idClass, CharClass.has, List.any_cons, List.any_nil, Bool.or_eq_true, Bool.and_eq_true, decide_eq_true_eq,
    Bool.or_false] at hunit
  omega

/-- Requests of one kind are separate exactly when the bytes of their seeds are different. -/
theorem separate_iff (hlabels : request.labels = request'.labels)
    (hascii : ∀ label ∈ [request.labels.1, request.labels.2.1, request.labels.2.2.1, request.labels.2.2.2], Ascii (js label))
    (hno : NoCollision engine (hashedTexts engine request.labels (.ok seedText)) (hashedTexts engine request'.labels (.ok seedText')))
    (h : createArtifacts engine request agentId (engine.digestOf seedText) period declaring = .ok artifacts)
    (h' : createArtifacts engine request' agentId' (engine.digestOf seedText') period' declaring' = .ok artifacts') :
    Separate artifacts artifacts' ↔ utf8Encode seedText ≠ utf8Encode seedText' := by
  obtain ⟨hgrant, hmessage, hnonce, -, agent, -, hkey⟩ := createArtifacts_ok h
  obtain ⟨hgrant', hmessage', hnonce', -, agent', -, hkey'⟩ := createArtifacts_ok h'
  rw [← hlabels] at hgrant' hmessage' hnonce' hkey'
  constructor
  · intro hseparate hsame
    have hdigest : engine.digestOf seedText = engine.digestOf seedText' := by
      rw [Engine.digestOf, hsame, ← Engine.digestOf]
    refine hseparate.message ?_
    rw [hmessage, hmessage', labelled, labelled, hdigest]
  · intro hne
    have hseed : engine.digestOf seedText ≠ engine.digestOf seedText' :=
      fun heq => hne (hno seedText List.mem_cons_self seedText' List.mem_cons_self heq)
    have hlabelled : ∀ label ∈ [request.labels.1, request.labels.2.1, request.labels.2.2.1, request.labels.2.2.2],
        labelled engine label seedText ≠ labelled engine label seedText' := by
      intro label hlabel heq
      have hmem : ∀ text : JsString, js label ++ 58 :: engine.digestOf text ∈ hashedTexts engine request.labels (.ok text) :=
        fun text => List.mem_cons_of_mem _ (List.mem_map_of_mem hlabel)
      have hwell : ∀ text : JsString, Ascii (js label ++ 58 :: engine.digestOf text) := fun text =>
        (hascii label hlabel).append (Ascii.append (s := [58]) (by simp [Ascii]) (ascii_digestOf text))
      have hbytes := hno _ (hmem seedText) _ (hlabels ▸ hmem seedText') heq
      rw [utf8Encode_eq_iff, toWellFormed_of_ascii (hwell _), toWellFormed_of_ascii (hwell _)] at hbytes
      exact hseed (List.cons.inj (List.append_cancel_left hbytes)).2
    simp only [List.forall_mem_cons] at hlabelled
    obtain ⟨hgrantLabel, -, hmessageLabel, hnonceLabel, -⟩ := hlabelled
    refine ⟨?_, ?_, ?_, ?_⟩
    · rw [hmessage, hmessage']
      simpa using hmessageLabel
    · rw [hnonce, hnonce']
      simpa using hnonceLabel
    · rw [hgrant, hgrant']
      simpa using hgrantLabel
    · rw [hkey, hkey']
      intro hsame
      refine hnonceLabel (List.append_inj_right' (Option.some.inj hsame) ?_ |> List.cons.inj).2
      simp [labelled]

/-! ## Fields of the seeds -/

/-- The text that a value is joined as. -/
def textIn (v : Json) : JsString := (elementText? v).getD []

/-- A value with a text that a pattern accepts is joined as that text. -/
theorem elementText_of_test {pattern : Regex} (hnull : pattern.accepts (js "null") = false) {v : Json}
    (h : pattern.test (some v) = some true) : elementText? v = some (textIn v) ∧ pattern.accepts (textIn v) = true := by
  rw [Regex.test, Option.map_eq_some_iff] at h
  obtain ⟨s, hs, haccepts⟩ := h
  have hv : v.isNull = false := by
    cases v with
    | null =>
      cases hs
      rw [hnull] at haccepts
      cases haccepts
    | bool _ | num _ | str _ | arr _ | obj _ => rfl
  have htext : elementText? v = some s := by rw [elementText?, hv, if_neg Bool.false_ne_true, hs]
  rw [textIn, htext]
  exact ⟨rfl, haccepts⟩

/-- A field of a seed whose text is ASCII. -/
structure Bounded (v : Json) : Prop where
  text : elementText? v = some (textIn v)
  ascii : Ascii (textIn v)

theorem Bounded.of_test {pattern : Regex} (hnull : pattern.accepts (js "null") = false) (hascii : pattern.isAscii = true) {v : Json}
    (h : pattern.test (some v) = some true) : Bounded v :=
  have htext := elementText_of_test hnull h
  ⟨htext.1, Regex.ascii_of_accepts hascii htext.2⟩

/-- A field of a seed that ends at the colon after it. -/
structure Delimited (v : Json) : Prop extends Bounded v where
  delimited : 58 ∉ textIn v

theorem Delimited.part {v : Json} (h : Delimited v) : Part 58 (textIn v) := ⟨h.ascii, h.delimited⟩

theorem Delimited.of_test {pattern : Regex} (hnull : pattern.accepts (js "null") = false) (hascii : pattern.isAscii = true)
    (hcolon : pattern.uses 58 = false) {v : Json} (h : pattern.test (some v) = some true) : Delimited v :=
  ⟨.of_test hnull hascii h, Regex.not_mem_of_accepts (elementText_of_test hnull h).2 hcolon⟩

/-- The seed text of a request with some fields. -/
def seedOf (label : String) (fields : List Json) : JsString := js label ++ 58 :: [58].intercalate (fields.map textIn)

theorem elementText_str (s : JsString) : elementText? (.str s) = some (textIn (.str s)) := rfl

/-- The version of a memory is written with digits. -/
theorem Delimited.of_version {v : Json} {version : ℤ} (h : v.safeInteger? = some version) (hpos : 1 ≤ version) :
    Delimited v ∧ versionText v = textIn v := by
  cases v with
  | num x =>
    cases x with
    | int i =>
      have hi : i.natAbs ≤ 9007199254740991 ∧ i = version := by simpa [Json.safeInteger?, JsNumber.safeInteger?] using h
      have htext : textIn (.num (.int i)) = (JsNumber.int i).toText := rfl
      have hdigits : (JsNumber.int i).toText = natText i.natAbs := by
        have hsign : ¬ i < 0 := by omega
        have hsmall : i.natAbs < 10 ^ 21 := by omega
        rw [JsNumber.toText, unsignedText, if_pos hsmall, if_neg hsign, List.nil_append]
      refine ⟨⟨⟨rfl, htext ▸ ascii_toText (.int i)⟩, ?_⟩, rfl⟩
      rw [htext, hdigits]
      intro hmem
      exact absurd (natText_digits i.natAbs 58 hmem) (by decide)
    | frac => cases h
  | null | bool _ | str _ | arr _ | obj _ => cases h

theorem string_of_contentValid {v : Json} (h : contentValid engine (some v) = true) : ∃ s, v = .str s := by
  cases v with
  | str s => exact ⟨s, rfl⟩
  | null | bool _ | num _ | arr _ | obj _ => cases h

theorem digestText_eq {fields : List Json} (h : ∀ v ∈ fields, elementText? v = some (textIn v)) (label : String) :
    digestText label fields = .ok (seedOf label fields) := by
  have hmap : fields.mapM elementText? = some (fields.map textIn) := by
    induction fields with
    | nil => rfl
    | cons v rest ih =>
      rw [List.mapM_cons, h v List.mem_cons_self, ih fun w hw => h w (List.mem_cons_of_mem v hw)]
      rfl
  rw [digestText, joined?, hmap]
  rfl

theorem utf8Encode_seedOf_iff {label : String} (hlabel : Ascii (js label)) {fields fields' : List Json} :
    utf8Encode (seedOf label fields) = utf8Encode (seedOf label fields') ↔
      toWellFormed ([58].intercalate (fields.map textIn)) = toWellFormed ([58].intercalate (fields'.map textIn)) := by
  rw [utf8Encode_eq_iff, seedOf, seedOf, toWellFormed_join hlabel (by decide), toWellFormed_join hlabel (by decide)]
  simp

/-- Artifacts of a request whose seed has some fields. -/
def Created (engine : Engine) (request : Request) (label : String) (fields : List Json) (artifacts : Artifacts) : Prop :=
  ∃ agentId period declaring,
    createArtifacts engine request agentId (engine.digestOf (seedOf label fields)) period declaring = .ok artifacts

/-- The labels of a request, under which its seed is hashed. -/
def Request.labelTexts (request : Request) : List String :=
  [request.labels.1, request.labels.2.1, request.labels.2.2.1, request.labels.2.2.2]

section
variable {label : String}

/-- Requests of one kind are separate exactly when the joined texts of their fields are different in UTF-8. -/
theorem Created.separate_iff {fields fields' : List Json} (h : Created engine request label fields artifacts)
    (h' : Created engine request' label fields' artifacts') (hlabels : request.labels = request'.labels)
    (hascii : ∀ name ∈ label :: request.labelTexts, Ascii (js name))
    (hno : NoCollision engine (hashedTexts engine request.labels (.ok (seedOf label fields)))
      (hashedTexts engine request'.labels (.ok (seedOf label fields')))) :
    Separate artifacts artifacts' ↔
      toWellFormed ([58].intercalate (fields.map textIn)) ≠ toWellFormed ([58].intercalate (fields'.map textIn)) := by
  obtain ⟨_, _, _, hcreated⟩ := h
  obtain ⟨_, _, _, hcreated'⟩ := h'
  rw [List.forall_mem_cons] at hascii
  rw [Agent.separate_iff hlabels hascii.2 hno hcreated hcreated', Ne, utf8Encode_seedOf_iff hascii.1]

/-- Where all fields but the last are delimited and the last is ASCII, their texts decide. -/
theorem Created.separate_texts_iff {parts parts' : List Json} {last last' : Json}
    (h : Created engine request label (parts ++ [last]) artifacts)
    (h' : Created engine request' label (parts' ++ [last']) artifacts') (hlabels : request.labels = request'.labels)
    (hascii : ∀ name ∈ label :: request.labelTexts, Ascii (js name))
    (hno : NoCollision engine (hashedTexts engine request.labels (.ok (seedOf label (parts ++ [last]))))
      (hashedTexts engine request'.labels (.ok (seedOf label (parts' ++ [last'])))))
    (hlength : parts.length = parts'.length) (hparts : ∀ v ∈ parts, Delimited v) (hparts' : ∀ v ∈ parts', Delimited v)
    (hlast : Bounded last) (hlast' : Bounded last') :
    Separate artifacts artifacts' ↔ (parts ++ [last]).map textIn ≠ (parts' ++ [last']).map textIn := by
  have hdelimited : ∀ {fields : List Json}, (∀ v ∈ fields, Delimited v) → ∀ p ∈ fields.map textIn, Part 58 p := by
    intro fields hall
    simpa using fun v hv => (hall v hv).part
  have hcolon : (58 : UInt16).toNat < 128 := by decide
  rw [h.separate_iff h' hlabels hascii hno, List.map_append, List.map_append, List.map_singleton, List.map_singleton, Ne, Ne,
    joined_inj hcolon (by simpa using hlength) (hdelimited hparts) (hdelimited hparts'), toWellFormed_of_ascii hlast.ascii,
    toWellFormed_of_ascii hlast'.ascii, not_iff_not]
  constructor
  · rintro ⟨hsame, hlastSame⟩
    rw [hsame, hlastSame]
  · intro hsame
    obtain ⟨hpartsSame, hlastSame⟩ := List.append_inj hsame (by simpa using hlength)
    exact ⟨hpartsSame, List.singleton_injective hlastSame⟩

end

/-! ### Communication -/

/-- The companion, the consent receipt and the client message id of a proposal. -/
def CommunicationInput.fields (input : CommunicationInput) : List Json :=
  [field input.identity "agent_id", input.consentReceiptRef, input.clientMessageId]

theorem communication_created {input : CommunicationInput} {capability : Json}
    (h : createCompanionCommunicationArtifacts engine input = .ok (capability, artifacts)) :
    Delimited (field input.identity "agent_id") ∧ Delimited input.consentReceiptRef ∧ Bounded input.clientMessageId ∧
      communicationSeedText input = .ok (seedOf "companion-communication" input.fields) ∧
      Created engine (communicationRequest input) "companion-communication" input.fields artifacts := by
  simp only [createCompanionCommunicationArtifacts, bind_eq_ok, pure_eq_ok, Prod.mk.injEq] at h
  obtain ⟨⟨⟩, -, ⟨⟩, -, ⟨⟩, hproposal, _, -, period, -, seedText, hseed, ⟨⟩, -, _, hcreated, -, rfl⟩ := h
  simp only [validateCompanionCommunicationProposal, bind_eq_ok, requireTest_eq_ok] at hproposal
  obtain ⟨⟨⟩, -, ⟨⟩, -, ⟨⟩, hconsent, ⟨⟩, hcompanion, ⟨⟩, -, ⟨⟩, hclient, -⟩ := hproposal
  have hagent : Delimited (field input.identity "agent_id") := .of_test (by decide) (by decide) (by decide) hcompanion
  have hreceipt : Delimited input.consentReceiptRef := .of_test (by decide) (by decide) (by decide) hconsent
  have hmessage : Bounded input.clientMessageId := .of_test (by decide) (by decide) hclient
  have htexts : ∀ v ∈ input.fields, elementText? v = some (textIn v) := by
    simp [CommunicationInput.fields, hagent.text, hreceipt.text, hmessage.text]
  have htext : communicationSeedText input = .ok (seedOf "companion-communication" input.fields) := digestText_eq htexts _
  obtain rfl := Except.ok.inj (hseed.symm.trans htext)
  exact ⟨hagent, hreceipt, hmessage, htext, _, _, _, hcreated⟩

theorem communication_labels : ∀ name ∈ ["companion-communication", "grant", "authref", "message", "nonce"], Ascii (js name) := by
  decide

/-- Communication proposals are separate exactly when the texts of their fields are different. -/
theorem communication_separate_iff {input input' : CommunicationInput} {capability capability' : Json}
    (h : createCompanionCommunicationArtifacts engine input = .ok (capability, artifacts))
    (h' : createCompanionCommunicationArtifacts engine input' = .ok (capability', artifacts'))
    (hno : NoCollision engine (hashedTexts engine (communicationRequest input).labels (communicationSeedText input))
      (hashedTexts engine (communicationRequest input').labels (communicationSeedText input'))) :
    Separate artifacts artifacts' ↔ input.fields.map textIn ≠ input'.fields.map textIn := by
  obtain ⟨hagent, hreceipt, hmessage, htext, hcreated⟩ := communication_created h
  obtain ⟨hagent', hreceipt', hmessage', htext', hcreated'⟩ := communication_created h'
  have hascii : ∀ name ∈ "companion-communication" :: (communicationRequest input).labelTexts, Ascii (js name) := communication_labels
  have hfields : ∀ i : CommunicationInput, i.fields = [field i.identity "agent_id", i.consentReceiptRef] ++ [i.clientMessageId] :=
    fun _ => rfl
  rw [htext, htext', hfields, hfields] at hno
  rw [hfields] at hcreated hcreated' ⊢
  have hparts : ∀ v ∈ [field input.identity "agent_id", input.consentReceiptRef], Delimited v := by simp [hagent, hreceipt]
  have hparts' : ∀ v ∈ [field input'.identity "agent_id", input'.consentReceiptRef], Delimited v := by simp [hagent', hreceipt']
  rw [hfields]
  exact hcreated.separate_texts_iff hcreated' rfl hascii hno rfl hparts hparts' hmessage hmessage'

/-! ### Discovery -/

/-- The agent and the correlation id of a request. -/
def DiscoveryInput.fields (input : DiscoveryInput) : List Json := [field input.identity "agent_id", input.correlationId]

theorem discovery_created {input : DiscoveryInput} (h : createCapabilityDiscoveryArtifacts engine input = .ok artifacts) :
    Delimited (field input.identity "agent_id") ∧ Bounded input.correlationId ∧
      discoverySeedText input = .ok (seedOf "capability-discovery" input.fields) ∧
      Created engine (discoveryRequest input) "capability-discovery" input.fields artifacts := by
  simp only [createCapabilityDiscoveryArtifacts, bind_eq_ok, ofProtocol_eq_ok] at h
  obtain ⟨⟨⟩, -, ⟨⟩, -, ⟨⟩, -, now, -, ⟨⟩, hcorrelation, ⟨⟩, hquery, seedText, hseed, period, -, hcreated⟩ := h
  simp only [validateCapabilityDiscoveryQuery, bind_eq_ok, demandTest_eq_ok] at hquery
  obtain ⟨⟨⟩, -, ⟨⟩, hagentId, -⟩ := hquery
  have hagent : Delimited (field input.identity "agent_id") := .of_test (by decide) (by decide) (by decide) hagentId
  have hbounded : Bounded input.correlationId := by
    have hdefault : opaqueReferencePattern.test (some (.text "")) = some false := congrArg some Brainstem.proper_reference.empty
    rw [demandTest_eq_ok, orDefault] at hcorrelation
    split at hcorrelation
    · rw [hdefault] at hcorrelation
      cases hcorrelation
    · exact .of_test (by decide) (by decide) hcorrelation
  have htexts : ∀ v ∈ input.fields, elementText? v = some (textIn v) := by
    simp [DiscoveryInput.fields, hagent.text, hbounded.text]
  have htext : discoverySeedText input = .ok (seedOf "capability-discovery" input.fields) := digestText_eq htexts _
  obtain rfl := Except.ok.inj (hseed.symm.trans htext)
  exact ⟨hagent, hbounded, htext, _, _, _, hcreated⟩

theorem discovery_labels : ∀ name ∈ ["capability-discovery", "discovery-grant", "discovery-authref", "discovery-message",
    "discovery-nonce"], Ascii (js name) := by
  decide

/-- Discovery requests are separate exactly when the texts of their fields are different. -/
theorem discovery_separate_iff {input input' : DiscoveryInput}
    (h : createCapabilityDiscoveryArtifacts engine input = .ok artifacts)
    (h' : createCapabilityDiscoveryArtifacts engine input' = .ok artifacts')
    (hno : NoCollision engine (hashedTexts engine (discoveryRequest input).labels (discoverySeedText input))
      (hashedTexts engine (discoveryRequest input').labels (discoverySeedText input'))) :
    Separate artifacts artifacts' ↔ input.fields.map textIn ≠ input'.fields.map textIn := by
  obtain ⟨hagent, hcorrelation, htext, hcreated⟩ := discovery_created h
  obtain ⟨hagent', hcorrelation', htext', hcreated'⟩ := discovery_created h'
  have hascii : ∀ name ∈ "capability-discovery" :: (discoveryRequest input).labelTexts, Ascii (js name) := discovery_labels
  have hfields : ∀ i : DiscoveryInput, i.fields = [field i.identity "agent_id"] ++ [i.correlationId] := fun _ => rfl
  rw [htext, htext', hfields, hfields] at hno
  rw [hfields] at hcreated hcreated' ⊢
  have hparts : ∀ v ∈ [field input.identity "agent_id"], Delimited v := by simpa using hagent
  have hparts' : ∀ v ∈ [field input'.identity "agent_id"], Delimited v := by simpa using hagent'
  rw [hfields]
  exact hcreated.separate_texts_iff hcreated' rfl hascii hno rfl hparts hparts' hcorrelation hcorrelation'

/-! ### Memory -/

/-- The companion, the consent receipt, the client request id, the expected version of the memory and the content. -/
def MemoryInput.fields (input : MemoryInput) : List Json := [field input.identity "agent_id", input.consentReceiptRef,
  input.clientRequestId, input.expectedMemoryVersion, field input.memory "content"]

/-- The texts of two client request ids, versions and contents, the last as far as it remains in UTF-8, join to the same text:
they are the same, or the one id continues the other. -/
def JoinSame (input input' : MemoryInput) : Prop :=
  let id := textIn input.clientRequestId
  let id' := textIn input'.clientRequestId
  let version := textIn input.expectedMemoryVersion
  let version' := textIn input'.expectedMemoryVersion
  let content := toWellFormed (textIn (field input.memory "content"))
  let content' := toWellFormed (textIn (field input'.memory "content"))
  (id = id' ∧ version = version' ∧ content = content') ∨ Continues 58 id version content id' version' content' ∨
    Continues 58 id' version' content' id version content

theorem memory_created {input : MemoryInput} {capability : Json}
    (h : createCompanionMemoryProposalArtifacts engine input = .ok (capability, artifacts)) :
    Delimited (field input.identity "agent_id") ∧ Delimited input.consentReceiptRef ∧ Bounded input.clientRequestId ∧
      Delimited input.expectedMemoryVersion ∧
      memorySeedText input = .ok (seedOf "companion-memory-proposal" input.fields) ∧
      Created engine (memoryRequest input) "companion-memory-proposal" input.fields artifacts := by
  simp only [createCompanionMemoryProposalArtifacts, bind_eq_ok, pure_eq_ok, Prod.mk.injEq] at h
  obtain ⟨⟨⟩, -, ⟨⟩, -, ⟨⟩, hproposal, _, -, period, -, seedText, hseed, ⟨⟩, -, _, hcreated, -, rfl⟩ := h
  simp only [validateCompanionMemoryProposal, bind_eq_ok, requireTest_eq_ok, require_eq_ok, orThrow_eq_ok] at hproposal
  obtain ⟨⟨⟩, -, ⟨⟩, -, ⟨⟩, hconsent, ⟨⟩, hcompanion, ⟨⟩, hrequest, ⟨⟩, -, version, hversion, ⟨⟩, hvalid, -⟩ := hproposal
  have hagent : Delimited (field input.identity "agent_id") := .of_test (by decide) (by decide) (by decide) hcompanion
  have hreceipt : Delimited input.consentReceiptRef := .of_test (by decide) (by decide) (by decide) hconsent
  have hbounded : Bounded input.clientRequestId := .of_test (by decide) (by decide) hrequest
  obtain ⟨v, hv, hinteger⟩ := Option.bind_eq_some_iff.mp hversion
  have hget : (memoryProposal input).get "expected_memory_version" = some input.expectedMemoryVersion := Json.get_record _ _
  obtain rfl := Option.some.inj (hget.symm.trans hv)
  simp only [Bool.and_eq_true, decide_eq_true_eq] at hvalid
  obtain ⟨⟨⟨⟨⟨⟨⟨⟨⟨⟨hpos, -⟩, -⟩, hcontent⟩, -⟩, -⟩, -⟩, -⟩, -⟩, -⟩, -⟩ := hvalid
  obtain ⟨hexpected, hversionText⟩ := Delimited.of_version hinteger hpos
  have hstring : ∃ s, field input.memory "content" = .str s := string_of_contentValid hcontent
  obtain ⟨content, hcontent⟩ := hstring
  have htexts : ∀ v ∈ [field input.identity "agent_id", input.consentReceiptRef, input.clientRequestId,
      .str (versionText input.expectedMemoryVersion), field input.memory "content"], elementText? v = some (textIn v) := by
    simp [hagent.text, hreceipt.text, hbounded.text, hcontent, elementText_str]
  have hsame : ([field input.identity "agent_id", input.consentReceiptRef, input.clientRequestId,
      .str (versionText input.expectedMemoryVersion), field input.memory "content"].map textIn) = input.fields.map textIn := by
    rw [MemoryInput.fields, hversionText]
    rfl
  have htext : memorySeedText input = .ok (seedOf "companion-memory-proposal" input.fields) := by
    rw [memorySeedText, digestText_eq htexts, seedOf, hsame, ← seedOf]
  obtain rfl := Except.ok.inj (hseed.symm.trans htext)
  exact ⟨hagent, hreceipt, hbounded, hexpected, htext, _, _, _, hcreated⟩

theorem memory_labels : ∀ name ∈ ["companion-memory-proposal", "grant", "authref", "message", "nonce"], Ascii (js name) := by
  decide

/-- Memory proposals are separate except where companion and consent receipt have the same texts, and the other fields join to
the same text. -/
theorem memory_separate_iff {input input' : MemoryInput} {capability capability' : Json}
    (h : createCompanionMemoryProposalArtifacts engine input = .ok (capability, artifacts))
    (h' : createCompanionMemoryProposalArtifacts engine input' = .ok (capability', artifacts'))
    (hno : NoCollision engine (hashedTexts engine (memoryRequest input).labels (memorySeedText input))
      (hashedTexts engine (memoryRequest input').labels (memorySeedText input'))) :
    Separate artifacts artifacts' ↔
      ¬ ((input.fields.take 2).map textIn = (input'.fields.take 2).map textIn ∧ JoinSame input input') := by
  obtain ⟨hagent, hreceipt, hrequest, hversion, htext, hcreated⟩ := memory_created h
  obtain ⟨hagent', hreceipt', hrequest', hversion', htext', hcreated'⟩ := memory_created h'
  rw [htext, htext'] at hno
  have hascii : ∀ name ∈ "companion-memory-proposal" :: (memoryRequest input).labelTexts, Ascii (js name) := memory_labels
  have hcolon : (58 : UInt16).toNat < 128 := by decide
  have hjoin : ∀ i : MemoryInput, [58].intercalate (i.fields.map textIn) = [58].intercalate ((i.fields.take 2).map textIn ++
      [textIn i.clientRequestId ++ 58 :: (textIn i.expectedMemoryVersion ++ 58 :: textIn (field i.memory "content"))]) := by
    intro i
    simp [MemoryInput.fields, List.intercalate_cons_cons]
  have hparts : ∀ p ∈ (input.fields.take 2).map textIn, Part 58 p := by simp [MemoryInput.fields, hagent.part, hreceipt.part]
  have hparts' : ∀ p ∈ (input'.fields.take 2).map textIn, Part 58 p := by simp [MemoryInput.fields, hagent'.part, hreceipt'.part]
  have hlength : ((input.fields.take 2).map textIn).length = ((input'.fields.take 2).map textIn).length := rfl
  rw [hcreated.separate_iff hcreated' rfl hascii hno, hjoin, hjoin, Ne, joined_inj hcolon hlength hparts hparts',
    toWellFormed_join hrequest.ascii hcolon, toWellFormed_join hversion.ascii hcolon, toWellFormed_join hrequest'.ascii hcolon,
    toWellFormed_join hversion'.ascii hcolon, append_cons_append_inj hversion.delimited hversion'.delimited, JoinSame]

/-! ## Requests that differ -/

/-- Requests that differ in a field are separate. -/
def Distinguishes (fields fields' : List Json) (a b : Artifacts) : Prop := fields ≠ fields' → Separate a b

/-- Where truncated digests do not collide, accepted requests that differ in a field get ids of their own exactly when the texts
of their fields differ, and those of memory proposals do not join to the same text. -/
theorem artifact_ids_separate_iff (engine : Engine) :
    (∀ {input input' : MemoryInput} {capability capability' : Json} {artifacts artifacts' : Artifacts},
      createCompanionMemoryProposalArtifacts engine input = .ok (capability, artifacts) →
      createCompanionMemoryProposalArtifacts engine input' = .ok (capability', artifacts') →
      NoCollision engine (hashedTexts engine (memoryRequest input).labels (memorySeedText input))
        (hashedTexts engine (memoryRequest input').labels (memorySeedText input')) →
      (Distinguishes input.fields input'.fields artifacts artifacts' ↔ (input.fields ≠ input'.fields →
        ¬ ((input.fields.take 2).map textIn = (input'.fields.take 2).map textIn ∧ JoinSame input input')))) ∧
    (∀ {input input' : CommunicationInput} {capability capability' : Json} {artifacts artifacts' : Artifacts},
      createCompanionCommunicationArtifacts engine input = .ok (capability, artifacts) →
      createCompanionCommunicationArtifacts engine input' = .ok (capability', artifacts') →
      NoCollision engine (hashedTexts engine (communicationRequest input).labels (communicationSeedText input))
        (hashedTexts engine (communicationRequest input').labels (communicationSeedText input')) →
      (Distinguishes input.fields input'.fields artifacts artifacts' ↔
        (input.fields ≠ input'.fields → input.fields.map textIn ≠ input'.fields.map textIn))) ∧
    ∀ {input input' : DiscoveryInput} {artifacts artifacts' : Artifacts},
      createCapabilityDiscoveryArtifacts engine input = .ok artifacts →
      createCapabilityDiscoveryArtifacts engine input' = .ok artifacts' →
      NoCollision engine (hashedTexts engine (discoveryRequest input).labels (discoverySeedText input))
        (hashedTexts engine (discoveryRequest input').labels (discoverySeedText input')) →
      (Distinguishes input.fields input'.fields artifacts artifacts' ↔
        (input.fields ≠ input'.fields → input.fields.map textIn ≠ input'.fields.map textIn)) := by
  refine ⟨fun h h' hno => ?_, fun h h' hno => ?_, fun h h' hno => ?_⟩
  · rw [Distinguishes, memory_separate_iff h h' hno]
  · rw [Distinguishes, communication_separate_iff h h' hno]
  · rw [Distinguishes, discovery_separate_iff h h' hno]

namespace Sample

/-- An engine whose hash shows the ends of its input. -/
def endsEngine : Engine :=
  ⟨fun bytes => (bytes.reverse.take 4 ++ bytes.take 20 ++ List.replicate 32 0).take 32, fun bytes => by simp; omega, id,
    fun _ => none⟩

def companionIdentity : Json := .record [("contract_version", .text "kindred.agent.identity.v1"),
  ("agent_id", .text "kindred-agent-companion-moss0001"), ("tenant_id", .text "kindred-tenant-local-01"),
  ("agent_class", .text "living_companion"), ("owner_id", .text "kindred-account-01"), ("creator_id", .text "kindred-account-01"),
  ("version", .text "1.0.0"), ("lineage", .record [("parent_agent_id", .null), ("replaces_agent_id", .null)]),
  ("purpose", .text "company"), ("capabilities", texts []), ("prohibited_capabilities", texts []),
  ("permissions", texts ["companion.memory.propose"]), ("authority", .record [("issuer_component", .text "brainstem"),
    ("grant_refs", texts []), ("ceiling", .text "user_delegated")]), ("budget_refs", texts []), ("lifecycle_state", .text "active"),
  ("health", .text "healthy"), ("evidence_refs", texts []),
  ("memory_scope", .record [("namespace_refs", texts ["companion:local-companion-moss0001"]), ("write_mode", .text "proposal_only")]),
  ("execution_scope", .record [("mode", .text "proposal_only"), ("allowed_capabilities", texts [])]),
  ("provider_scope", .record [("mode", .text "mediated_only"), ("provider_refs", texts [])]), ("economic_mandate_ref", .null),
  ("replacement_agent_id", .null), ("created_at", .text "2026-07-21T15:00:00.000Z"), ("revoked_at", .null)]

/-- A memory to append. -/
def memoryInput (clientRequestId : String) (version : ℤ) (content : String) : MemoryInput where
  identity := companionIdentity
  consentReceiptRef := .text "consent-receipt-aaaaaaaaaaaaaaaaaaaa"
  clientRequestId := .text clientRequestId
  targetNamespaceRef := .text "companion:local-companion-moss0001"
  expectedMemoryVersion := .int version
  memory := .record [("category", .text "semantic"), ("content", .text content),
    ("source", .record [("kind", .text "user_provided"), ("reference", .null)]), ("retention", .text "session"),
    ("companion_access", .bool true)]
  now := some 0

def communicationInput (clientMessageId : String) : CommunicationInput where
  identity := companionIdentity
  consentReceiptRef := .text "consent-receipt-aaaaaaaaaaaaaaaaaaaa"
  userMessageId := .text "chat-message-aaaaaaaa"
  clientMessageId := .text clientMessageId
  content := .text "hello"
  now := some 0

def discoveryInput (correlationId : String) : DiscoveryInput where
  identity := companionIdentity
  correlationId := .text correlationId
  actionTypes := .null
  dataClassification := .null
  riskCeiling := .null
  resultLimit := .null
  now := some 0

/-- Two memories whose fields join to the same text, and a third. -/
def memoryInputs : List MemoryInput := [memoryInput "aaaaaaaa" 1 "2:x", memoryInput "aaaaaaaa:1" 2 "x", memoryInput "aaaaaaaa" 1 "y"]

theorem accepted : (∀ input ∈ memoryInputs, (createCompanionMemoryProposalArtifacts endsEngine input).isOk = true) ∧
    (∀ id ∈ ["aaaaaaaa", "bbbbbbbb"], (createCompanionCommunicationArtifacts endsEngine (communicationInput id)).isOk = true) ∧
    ∀ id ∈ ["aaaaaaaa", "bbbbbbbb"], (createCapabilityDiscoveryArtifacts endsEngine (discoveryInput id)).isOk = true := by
  decide +kernel

theorem exists_ok {ε α : Type} {x : Except ε α} (h : x.isOk = true) : ∃ a, x = .ok a := by
  cases x with
  | ok a => exact ⟨a, rfl⟩
  | error e => cases h

/-- Requests that differ in their last fields get ids of their own. -/
theorem last_fields_separate :
    (∃ a b, createCompanionMemoryProposalArtifacts endsEngine (memoryInput "aaaaaaaa" 1 "2:x") = .ok a ∧
      createCompanionMemoryProposalArtifacts endsEngine (memoryInput "aaaaaaaa" 1 "y") = .ok b ∧
      Distinguishes (memoryInput "aaaaaaaa" 1 "2:x").fields (memoryInput "aaaaaaaa" 1 "y").fields a.2 b.2) ∧
    (∃ a b, createCompanionCommunicationArtifacts endsEngine (communicationInput "aaaaaaaa") = .ok a ∧
      createCompanionCommunicationArtifacts endsEngine (communicationInput "bbbbbbbb") = .ok b ∧
      Distinguishes (communicationInput "aaaaaaaa").fields (communicationInput "bbbbbbbb").fields a.2 b.2) ∧
    ∃ a b, createCapabilityDiscoveryArtifacts endsEngine (discoveryInput "aaaaaaaa") = .ok a ∧
      createCapabilityDiscoveryArtifacts endsEngine (discoveryInput "bbbbbbbb") = .ok b ∧
      Distinguishes (discoveryInput "aaaaaaaa").fields (discoveryInput "bbbbbbbb").fields a b := by
  obtain ⟨hmemory, hcommunication, hdiscovery⟩ := accepted
  obtain ⟨hmemorySame, hcommunicationSame, hdiscoverySame⟩ := artifact_ids_separate_iff endsEngine
  refine ⟨?_, ?_, ?_⟩
  · obtain ⟨a, ha⟩ := exists_ok (hmemory (memoryInput "aaaaaaaa" 1 "2:x") (by simp [memoryInputs]))
    obtain ⟨b, hb⟩ := exists_ok (hmemory (memoryInput "aaaaaaaa" 1 "y") (by simp [memoryInputs]))
    refine ⟨a, b, ha, hb, (hmemorySame ha hb ?_).mpr fun _ => ?_⟩
    · unfold NoCollision
      decide +kernel
    · have hlonger : ∀ {s t : JsString}, s ≠ s ++ 58 :: t := fun h => by
        have := congrArg List.length h
        simp at this
      rintro ⟨-, ⟨-, -, hcontent⟩ | ⟨y, hid, -⟩ | ⟨y, hid, -⟩⟩
      · exact absurd hcontent (by decide +kernel)
      · exact hlonger hid
      · exact hlonger hid
  · obtain ⟨a, ha⟩ := exists_ok (hcommunication "aaaaaaaa" (by simp))
    obtain ⟨b, hb⟩ := exists_ok (hcommunication "bbbbbbbb" (by simp))
    refine ⟨a, b, ha, hb, (hcommunicationSame ha hb ?_).mpr fun _ => ?_⟩
    · unfold NoCollision
      decide +kernel
    · decide +kernel
  · obtain ⟨a, ha⟩ := exists_ok (hdiscovery "aaaaaaaa" (by simp))
    obtain ⟨b, hb⟩ := exists_ok (hdiscovery "bbbbbbbb" (by simp))
    refine ⟨a, b, ha, hb, (hdiscoverySame ha hb ?_).mpr fun _ => ?_⟩
    · unfold NoCollision
      decide +kernel
    · decide +kernel

/-- A client request id that ends in a colon and a version takes the place of the version of the other memory. -/
theorem colon_moves_version : ∃ a b, createCompanionMemoryProposalArtifacts endsEngine (memoryInput "aaaaaaaa" 1 "2:x") = .ok a ∧
    createCompanionMemoryProposalArtifacts endsEngine (memoryInput "aaaaaaaa:1" 2 "x") = .ok b ∧
    NoCollision endsEngine (hashedTexts endsEngine (memoryRequest (memoryInput "aaaaaaaa" 1 "2:x")).labels
      (memorySeedText (memoryInput "aaaaaaaa" 1 "2:x"))) (hashedTexts endsEngine
        (memoryRequest (memoryInput "aaaaaaaa:1" 2 "x")).labels (memorySeedText (memoryInput "aaaaaaaa:1" 2 "x"))) ∧
    a.2.envelope.get "message_id" = b.2.envelope.get "message_id" ∧ a.2.envelope.get "nonce" = b.2.envelope.get "nonce" ∧
    a.2.grant.get "grant_id" = b.2.grant.get "grant_id" ∧
    ¬ Distinguishes (memoryInput "aaaaaaaa" 1 "2:x").fields (memoryInput "aaaaaaaa:1" 2 "x").fields a.2 b.2 := by
  obtain ⟨hmemory, -, -⟩ := accepted
  obtain ⟨a, ha⟩ := exists_ok (hmemory (memoryInput "aaaaaaaa" 1 "2:x") (by simp [memoryInputs]))
  obtain ⟨b, hb⟩ := exists_ok (hmemory (memoryInput "aaaaaaaa:1" 2 "x") (by simp [memoryInputs]))
  have hseed : seedOf "companion-memory-proposal" (memoryInput "aaaaaaaa" 1 "2:x").fields =
      seedOf "companion-memory-proposal" (memoryInput "aaaaaaaa:1" 2 "x").fields := by decide +kernel
  obtain ⟨-, -, -, -, -, _, _, _, hcreated⟩ := memory_created ha
  obtain ⟨-, -, -, -, -, _, _, _, hcreated'⟩ := memory_created hb
  obtain ⟨hgrant, hmessage, hnonce, -⟩ := createArtifacts_ok hcreated
  obtain ⟨hgrant', hmessage', hnonce', -⟩ := createArtifacts_ok hcreated'
  rw [← hseed] at hgrant' hmessage' hnonce'
  have hmessages : a.2.envelope.get "message_id" = b.2.envelope.get "message_id" := hmessage.trans hmessage'.symm
  refine ⟨a, b, ha, hb, ?_, hmessages, hnonce.trans hnonce'.symm, hgrant.trans hgrant'.symm, fun hdistinguishes => ?_⟩
  · unfold NoCollision
    decide +kernel
  · refine (hdistinguishes fun hfields => ?_).message hmessages
    exact absurd (congrArg (List.map textIn) hfields) (by decide +kernel)

end Sample

end Agent
