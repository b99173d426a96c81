import StrataPortNetwork.Superstructure.PortZeroNetwork
import StrataPortNetwork.Superstructure.Counting

/-! # Tenants, their entitlements and the partner client

Organizations are onboarded, tenants provisioned under them and entitlements granted to tenants, each
in a transaction of its own. The partner client makes envelopes for entitled contexts only.
-/
namespace Superstructure
open Py
open Js (JsMap ensure)

/-! ## The directory -/

structure OrganizationRow where
  partnerId : Str
  displayName : Str

structure TenantRow where
  organizationId : Str
  environmentId : Str
  brandContext : Str

inductive EntitlementState
  | active
  | suspended
  | revoked
  deriving DecidableEq

structure EntitlementRow where
  tenantId : Str
  capability : Str
  state : EntitlementState

structure TenantDirectory where
  organizations : JsMap Str OrganizationRow
  tenants : JsMap Str TenantRow
  entitlements : JsMap Str EntitlementRow

namespace TenantDirectory
open SQLiteState (integrityError)

def empty : TenantDirectory := ⟨JsMap.empty, JsMap.empty, JsMap.empty⟩

def onboardIn (organizationId partnerId displayName : Str) (s : TenantDirectory) : Outcome (Unit × TenantDirectory) := do
  bindText organizationId
  bindText partnerId
  bindText displayName
  ensure (!s.organizations.has organizationId) (integrityError "UNIQUE constraint failed: organizations.organization_id")
  pure ((), { s with organizations := s.organizations.set organizationId ⟨partnerId, displayName⟩ })

def provisionIn (tenantId organizationId environmentId brandContext : Str) (s : TenantDirectory) : Outcome (Unit × TenantDirectory) := do
  bindText tenantId
  bindText organizationId
  bindText environmentId
  bindText brandContext
  ensure (!s.tenants.has tenantId) (integrityError "UNIQUE constraint failed: tenants.tenant_id")
  ensure (!s.tenants.values.any fun row => row.organizationId == organizationId && row.environmentId == environmentId)
    (integrityError "UNIQUE constraint failed: tenants.organization_id, tenants.environment_id")
  ensure (s.organizations.has organizationId) (integrityError "FOREIGN KEY constraint failed")
  pure ((), { s with tenants := s.tenants.set tenantId ⟨organizationId, environmentId, brandContext⟩ })

def grantIn (entitlementId tenantId capability : Str) (s : TenantDirectory) : Outcome (Unit × TenantDirectory) := do
  bindText entitlementId
  bindText tenantId
  bindText capability
  ensure (!s.entitlements.has entitlementId) (integrityError "UNIQUE constraint failed: entitlements.entitlement_id")
  ensure (s.tenants.has tenantId) (integrityError "FOREIGN KEY constraint failed")
  pure ((), { s with entitlements := s.entitlements.set entitlementId ⟨tenantId, capability, .active⟩ })

/-- `authorize(organization_id, tenant_id, entitlement_id, capability)`; the rows are found by their primary keys. -/
def authorize (organizationId tenantId entitlementId capability : Str) (s : TenantDirectory) : Outcome Bool := do
  bindText organizationId
  bindText tenantId
  bindText entitlementId
  bindText capability
  pure ((s.tenants.get tenantId).any (fun row => row.organizationId == organizationId) &&
    (s.entitlements.get entitlementId).any fun row => row.tenantId == tenantId && row.capability == capability && row.state == .active)

inductive Call
  | onboard (organizationId partnerId displayName : Str)
  | provision (tenantId organizationId environmentId brandContext : Str)
  | grant (entitlementId tenantId capability : Str)

/-- A call whose transaction has a fate. -/
def perform (s : TenantDirectory) (fate : Fate) : Call → Outcome Unit × TenantDirectory
  | .onboard organizationId partnerId displayName =>
    if organizationId = [] ∨ partnerId = [] ∨ displayName = [] then (.error ⟨.valueError, str "organization context required"⟩, s)
    else transaction fate (onboardIn organizationId partnerId displayName) s
  | .provision tenantId organizationId environmentId brandContext =>
    transaction fate (provisionIn tenantId organizationId environmentId brandContext) s
  | .grant entitlementId tenantId capability => transaction fate (grantIn entitlementId tenantId capability) s

/-! ## Runs -/

/-- A directory with the calls that it has accepted. -/
structure History where
  directory : TenantDirectory
  accepted : List Call

def History.step (h : History) (request : Fate × Call) : History :=
  match h.directory.perform request.1 request.2 with
  | (.ok (), directory) => ⟨directory, h.accepted ++ [request.2]⟩
  | (.error _, directory) => ⟨directory, h.accepted⟩

abbrev History.run (requests : List (Fate × Call)) : History := Transition.run History.step ⟨empty, []⟩ requests

/-- What an accepted call has found and done. -/
inductive Inserted (s : TenantDirectory) : Call → TenantDirectory → Prop
  | onboard {organizationId partnerId displayName : Str} (hnew : s.organizations.get organizationId = none)
      (hnamed : organizationId ≠ []) : Inserted s (.onboard organizationId partnerId displayName)
        { s with organizations := s.organizations.set organizationId ⟨partnerId, displayName⟩ }
  | provision {tenantId organizationId environmentId brandContext : Str} (hnew : s.tenants.get tenantId = none)
      (hhome : s.organizations.has organizationId = true) (htext : Scalar tenantId ∧ Scalar organizationId) :
      Inserted s (.provision tenantId organizationId environmentId brandContext)
        { s with tenants := s.tenants.set tenantId ⟨organizationId, environmentId, brandContext⟩ }
  | grant {entitlementId tenantId capability : Str} (hnew : s.entitlements.get entitlementId = none)
      (howner : s.tenants.has tenantId = true) (htext : Scalar entitlementId ∧ Scalar capability) :
      Inserted s (.grant entitlementId tenantId capability)
        { s with entitlements := s.entitlements.set entitlementId ⟨tenantId, capability, .active⟩ }

section
variable {s : TenantDirectory} {fate : Fate} {call : Call}

theorem get_of_not_has {α : Type} {m : JsMap Str α} {k : Str} (h : (!m.has k) = true) : m.get k = none :=
  JsMap.get_eq_none_iff.mpr (by simpa using h)

theorem perform_ok (h : (s.perform fate call).1 = .ok ()) : Inserted s call (s.perform fate call).2 := by
  cases call with
  | onboard organizationId partnerId displayName =>
    by_cases hempty : organizationId = [] ∨ partnerId = [] ∨ displayName = []
    · rw [perform, if_pos hempty] at h
      cases h
    · rw [perform, if_neg hempty] at h ⊢
      have hbody := transaction_ok h
      simp only [onboardIn, Js.bind_eq_ok, Js.ensure_eq_ok, Js.pure_eq_ok, Prod.mk.injEq] at hbody
      obtain ⟨-, -, -, -, -, -, -, hnew, -, hdirectory⟩ := hbody
      rw [← hdirectory]
      exact .onboard (get_of_not_has hnew) fun horganization => hempty (.inl horganization)
  | provision tenantId organizationId environmentId brandContext =>
    have hbody := transaction_ok h
    simp only [provisionIn, Js.bind_eq_ok, Js.ensure_eq_ok, Js.pure_eq_ok, Prod.mk.injEq] at hbody
    obtain ⟨_, htenant, _, horganization, -, -, -, -, -, hnew, -, -, -, hhome, -, hdirectory⟩ := hbody
    rw [perform, ← hdirectory]
    exact .provision (get_of_not_has hnew) hhome ⟨scalar_of_bindText htenant, scalar_of_bindText horganization⟩
  | grant entitlementId tenantId capability =>
    have hbody := transaction_ok h
    simp only [grantIn, Js.bind_eq_ok, Js.ensure_eq_ok, Js.pure_eq_ok, Prod.mk.injEq] at hbody
    obtain ⟨_, hentitlement, -, -, _, hcapability, -, hnew, -, howner, -, hdirectory⟩ := hbody
    rw [perform, ← hdirectory]
    exact .grant (get_of_not_has hnew) howner ⟨scalar_of_bindText hentitlement, scalar_of_bindText hcapability⟩

/-- A call that raises changes nothing. -/
theorem perform_error {e : PyError} (h : (s.perform fate call).1 = .error e) : (s.perform fate call).2 = s := by
  cases call with
  | onboard organizationId partnerId displayName =>
    by_cases hempty : organizationId = [] ∨ partnerId = [] ∨ displayName = []
    · rw [perform, if_pos hempty]
    · rw [perform, if_neg hempty] at h ⊢
      exact transaction_error h
  | provision | grant => exact transaction_error h

end

/-! ## What a directory records -/

/-- The rows of a directory are those of the calls that it has accepted, and refer to rows that are there. -/
structure Recorded (h : History) : Prop where
  tenants : ∀ id row, h.directory.tenants.get id = some row ↔
    .provision id row.organizationId row.environmentId row.brandContext ∈ h.accepted
  entitlements : ∀ id row, h.directory.entitlements.get id = some row ↔
    row.state = .active ∧ .grant id row.tenantId row.capability ∈ h.accepted
  home : ∀ id row, h.directory.tenants.get id = some row → ∃ organization, h.directory.organizations.get row.organizationId = some organization
  owner : ∀ id row, h.directory.entitlements.get id = some row → ∃ tenant, h.directory.tenants.get row.tenantId = some tenant
  onboarded : ∀ id row, h.directory.organizations.get id = some row → id ≠ [] ∧ .onboard id row.partnerId row.displayName ∈ h.accepted
  provisioned : ∀ id organizationId environmentId brandContext, .provision id organizationId environmentId brandContext ∈ h.accepted →
    Scalar id ∧ Scalar organizationId
  granted : ∀ id tenantId capability, .grant id tenantId capability ∈ h.accepted → Scalar id ∧ Scalar capability

theorem recorded_empty : Recorded ⟨empty, []⟩ := by
  constructor <;> simp [empty]

/-- What a map shows after an entry is added under a new key. -/
theorem get_set_new {α : Type} {m : JsMap Str α} {k : Str} (hnew : m.get k = none) {v : α} {k' : Str} {w : α} :
    (m.set k v).get k' = some w ↔ m.get k' = some w ∨ k' = k ∧ w = v := by
  rw [JsMap.get_set]
  by_cases hk : k = k'
  · subst hk
    simp [hnew, eq_comm]
  · have hne : (k == k') = false := beq_eq_false_iff_ne.mpr hk
    simpa [hne] using fun heq : k' = k => absurd heq.symm hk

theorem get_set_kept {α : Type} {m : JsMap Str α} {k : Str} (hnew : m.get k = none) {v : α} {k' : Str} (h : ∃ w, m.get k' = some w) :
    ∃ w, (m.set k v).get k' = some w := by
  obtain ⟨w, hw⟩ := h
  exact ⟨w, (get_set_new hnew).mpr (.inl hw)⟩

theorem recorded_inserted {h : History} (hrecorded : Recorded h) {call : Call} {directory : TenantDirectory}
    (hinserted : Inserted h.directory call directory) : Recorded ⟨directory, h.accepted ++ [call]⟩ := by
  obtain ⟨htenants, hentitlements, hhome, howner, honboarded, hprovisioned, hgranted⟩ := hrecorded
  cases hinserted with
  | @onboard organizationId partnerId displayName hnew hnamed =>
    constructor
    · simpa using htenants
    · simpa using hentitlements
    · exact fun id row hrow => get_set_kept hnew (hhome id row hrow)
    · exact howner
    · intro id row hrow
      rcases (get_set_new hnew).mp hrow with hrow | ⟨rfl, rfl⟩
      · exact (honboarded id row hrow).imp_right fun hmem => List.mem_append_left _ hmem
      · exact ⟨hnamed, List.mem_append_right _ List.mem_cons_self⟩
    · simpa using hprovisioned
    · simpa using hgranted
  | @provision tenantId organizationId environmentId brandContext hnew hhas htext =>
    constructor
    · intro id row
      rw [get_set_new hnew, htenants, List.mem_append, List.mem_singleton]
      cases row
      simp
    · simpa using hentitlements
    · intro id row hrow
      rcases (get_set_new hnew).mp hrow with hrow | ⟨rfl, rfl⟩
      · exact hhome id row hrow
      · exact JsMap.has_iff.mp hhas
    · exact fun id row hrow => get_set_kept hnew (howner id row hrow)
    · exact fun id row hrow => (honboarded id row hrow).imp_right fun hmem => List.mem_append_left _ hmem
    · intro id organization environment brand hmem
      rcases List.mem_append.mp hmem with hmem | hmem
      · exact hprovisioned id organization environment brand hmem
      · cases List.mem_singleton.mp hmem
        exact htext
    · simpa using hgranted
  | @grant entitlementId tenantId capability hnew hhas htext =>
    constructor
    · simpa using htenants
    · intro id row
      rw [get_set_new hnew, hentitlements, List.mem_append, List.mem_singleton]
      cases row
      simp
      tauto
    · exact hhome
    · intro id row hrow
      rcases (get_set_new hnew).mp hrow with hrow | ⟨rfl, rfl⟩
      · exact howner id row hrow
      · exact JsMap.has_iff.mp hhas
    · exact fun id row hrow => (honboarded id row hrow).imp_right fun hmem => List.mem_append_left _ hmem
    · simpa using hprovisioned
    · intro id tenant granted hmem
      rcases List.mem_append.mp hmem with hmem | hmem
      · exact hgranted id tenant granted hmem
      · cases List.mem_singleton.mp hmem
        exact htext

theorem recorded_step {h : History} (hrecorded : Recorded h) (request : Fate × Call) : Recorded (h.step request) := by
  rw [History.step]
  cases hperform : h.directory.perform request.1 request.2 with
  | mk result directory =>
    cases result with
    | ok _ =>
      have hinserted : Inserted h.directory request.2 (h.directory.perform request.1 request.2).2 := perform_ok (by rw [hperform])
      rw [hperform] at hinserted
      exact recorded_inserted hrecorded hinserted
    | error e =>
      have hsame : (h.directory.perform request.1 request.2).2 = h.directory := perform_error (e := e) (by rw [hperform])
      rw [hperform] at hsame
      obtain rfl : directory = h.directory := hsame
      exact hrecorded

theorem recorded_run (requests : List (Fate × Call)) : Recorded (History.run requests) := by
  have hstep : ∀ (h : History) request, Recorded h → Recorded (h.step request) := fun _ request h => recorded_step h request
  exact Transition.run_invariant hstep recorded_empty requests

/-- Authority is the authority of an accepted provision and an accepted grant. -/
theorem Recorded.authorize_iff {h : History} (hrecorded : Recorded h) (organizationId tenantId entitlementId capability : Str) :
    h.directory.authorize organizationId tenantId entitlementId capability = .ok true ↔
      (∃ environmentId brandContext, .provision tenantId organizationId environmentId brandContext ∈ h.accepted) ∧
        .grant entitlementId tenantId capability ∈ h.accepted := by
  constructor
  · intro hauthorized
    simp only [authorize, Js.bind_eq_ok, Js.pure_eq_ok, Bool.and_eq_true, Option.any_eq_true, beq_iff_eq] at hauthorized
    obtain ⟨-, -, -, -, -, -, -, -, ⟨tenant, htenant, hhome⟩, row, hrow, ⟨howner, hcapability⟩, -⟩ := hauthorized
    rw [← hhome, ← hcapability]
    exact ⟨⟨tenant.environmentId, tenant.brandContext, (hrecorded.tenants tenantId tenant).mp htenant⟩,
      howner ▸ ((hrecorded.entitlements entitlementId row).mp hrow).2⟩
  · rintro ⟨⟨environmentId, brandContext, hprovision⟩, hgrant⟩
    have htenant := (hrecorded.tenants tenantId ⟨organizationId, environmentId, brandContext⟩).mpr hprovision
    have hrow := (hrecorded.entitlements entitlementId ⟨tenantId, capability, .active⟩).mpr ⟨rfl, hgrant⟩
    obtain ⟨htenantText, horganizationText⟩ := hrecorded.provisioned _ _ _ _ hprovision
    obtain ⟨hentitlementText, hcapabilityText⟩ := hrecorded.granted _ _ _ hgrant
    simp only [authorize, bindText_ok horganizationText, bindText_ok htenantText, bindText_ok hentitlementText,
      bindText_ok hcapabilityText, htenant, hrow]
    simp [bind, Except.bind, pure, Except.pure]

/-- Rows that a directory has accepted are still there later. -/
theorem accepted_append (requests later : List (Fate × Call)) :
    ∃ more, (History.run (requests ++ later)).accepted = (History.run requests).accepted ++ more := by
  rw [History.run, Transition.run_append]
  induction later using List.reverseRecOn with
  | nil => exact ⟨[], (List.append_nil _).symm⟩
  | append_singleton later request ih =>
    obtain ⟨more, hmore⟩ := ih
    rw [Transition.run_append, Transition.run_cons, Transition.run_nil, History.step]
    split
    · exact ⟨more ++ [request.2], by rw [hmore, List.append_assoc]⟩
    · exact ⟨more, hmore⟩

end TenantDirectory

/-! ## The partner client -/

/-- What `create_envelope` reads of a `PartnerContext`. -/
structure PartnerContext where
  organizationId : Str
  tenantId : Str
  partnerId : Str
  environmentId : Str
  projectId : Str
  entitlementId : Str
  requestingIdentity : Str
  delegatedAuthority : Str
  disclosurePolicy : List Str

/-- The other arguments of `create_envelope`. -/
structure EnvelopeRequest where
  capability : Str
  destinationStratum : Str
  destinationPort : Str
  payload : Dict
  payloadType : Str
  routeTargets : List Str
  routeMode : RouteMode
  classification : Classification

/-- The clock reading, with and without the time to live, and the random identifiers of a call. -/
structure EnvelopeDraws where
  now : Str
  expiresAt : Str
  transaction : Str
  message : Str
  nonce : Str

namespace PortZeroClient
variable (platform : Platform)

/-- `create_envelope(context, ...)`. -/
def createEnvelope (tenants : TenantDirectory) (secretReference : Str) (context : PartnerContext) (request : EnvelopeRequest)
    (draws : EnvelopeDraws) : Outcome ProductionEnvelope := do
  let authorized ← tenants.authorize context.organizationId context.tenantId context.entitlementId request.capability
  ensure authorized ⟨.permissionError, str "tenant entitlement denied"⟩
  let payloadHash ← digest platform.sha256 (.ofDict request.payload)
  pure {
    schemaVersion := str "1.0.0"
    protocolVersion := str "1.0.0"
    messageId := draws.message
    correlationId := draws.message
    causationId := draws.message
    traceId := draws.message
    transactionId := draws.transaction
    organizationId := context.organizationId
    tenantId := context.tenantId
    partnerId := context.partnerId
    environmentId := context.environmentId
    projectId := context.projectId
    sourceIdentity := context.requestingIdentity
    sourceIdentityType := str "partner"
    sourceComponent := str "kindred-one-sdk"
    sourceAuthority := str "partner-organization"
    delegatedAuthority := context.delegatedAuthority
    originPort := str "strata-data-port-zero"
    destinationStratum := request.destinationStratum
    destinationPort := request.destinationPort
    destinationCapability := request.capability
    routeMode := request.routeMode
    routeTargets := request.routeTargets
    payloadType := request.payloadType
    payload := request.payload
    payloadHash
    classification := request.classification
    truthClass := str "requested"
    disclosurePolicy := context.disclosurePolicy
    policyReferences := [str "protocol.default-deny"]
    contractReferences := [str "B2BContext@1", str "StrataTransportEnvelope@1"]
    issuedAt := draws.now
    expiresAt := draws.expiresAt
    deadline := draws.expiresAt
    nonce := draws.nonce
    sequence := 1
    idempotencyKey := draws.transaction
    attempt := 1
    signatures := []
    encryptionMetadata := (JsMap.empty.set (str "key_reference") (.str secretReference)).set (str "algorithm") (.text "managed-envelope") }

/-- `verify_receipt(receipt, envelope)`. -/
def verifyReceipt (signer : Signer) (receipt : SignedPortReceipt) (envelope : ProductionEnvelope) : Outcome Bool := do
  let verified ← signer.verifies receipt.unsigned receipt.signatures
  pure (verified && receipt.organizationId = envelope.organizationId && receipt.tenantId = envelope.tenantId &&
    receipt.parentTransactionId = envelope.transactionId && receipt.correlationId = envelope.correlationId)

/-- The organization was onboarded, the tenant provisioned under it, and the entitlement granted to the tenant. -/
structure Entitled (accepted : List TenantDirectory.Call) (organizationId tenantId entitlementId capability : Str) : Prop where
  organization : organizationId ≠ [] ∧ ∃ partnerId displayName, .onboard organizationId partnerId displayName ∈ accepted
  tenant : ∃ environmentId brandContext, .provision tenantId organizationId environmentId brandContext ∈ accepted
  grant : .grant entitlementId tenantId capability ∈ accepted

section
variable {platform : Platform} {tenants : TenantDirectory} {secretReference : Str} {context : PartnerContext} {request : EnvelopeRequest}
  {draws : EnvelopeDraws} {envelope : ProductionEnvelope}

theorem createEnvelope_eq_ok (h : createEnvelope platform tenants secretReference context request draws = .ok envelope) :
    tenants.authorize context.organizationId context.tenantId context.entitlementId request.capability = .ok true ∧
      digest platform.sha256 (.ofDict envelope.payload) = .ok envelope.payloadHash ∧
      (envelope.organizationId = context.organizationId ∧ envelope.tenantId = context.tenantId ∧
        envelope.destinationCapability = request.capability) ∧
      (envelope.schemaVersion = str "1.0.0" ∧ envelope.protocolVersion = str "1.0.0" ∧
        envelope.originPort = str "strata-data-port-zero") ∧
      envelope.sourceIdentity = context.requestingIdentity ∧ envelope.delegatedAuthority = context.delegatedAuthority ∧
      envelope.expiresAt = draws.expiresAt := by
  simp only [createEnvelope, Js.bind_eq_ok, Js.ensure_eq_ok, Js.pure_eq_ok] at h
  obtain ⟨authorized, hauthorized, -, rfl, hash, hhash, rfl⟩ := h
  exact ⟨hauthorized, hhash, ⟨rfl, rfl, rfl⟩, ⟨rfl, rfl, rfl⟩, rfl, rfl, rfl⟩

theorem createEnvelope_congr {tenants' : TenantDirectory} (h : createEnvelope platform tenants secretReference context request draws = .ok envelope)
    (hauthorized : tenants'.authorize context.organizationId context.tenantId context.entitlementId request.capability = .ok true) :
    createEnvelope platform tenants' secretReference context request draws = .ok envelope := by
  have hauthorized' := (createEnvelope_eq_ok h).1
  rw [createEnvelope, hauthorized'] at h
  rw [createEnvelope, hauthorized]
  exact h

/-- An envelope of the client is refused for its identity, its expiry or its signature only. -/
theorem admitted_iff (h : createEnvelope platform tenants secretReference context request draws = .ok envelope) (network : PortZeroNetwork)
    (now : ℤ) : (∃ signed, network.admission platform envelope now = .ok signed) ↔
      ((network.identities.get context.requestingIdentity).any fun authorities => context.delegatedAuthority ∈ authorities) = true ∧
      (∃ expiry, platform.fromisoformat draws.expiresAt = .ok (.aware expiry) ∧ now < expiry) ∧
      ∃ signature, network.signer.sign envelope.unsigned = .ok signature := by
  obtain ⟨-, hdigest, -, ⟨hschema, hprotocol, horigin⟩, hidentity, hauthority, hexpires⟩ := createEnvelope_eq_ok h
  have hexpiry : ∀ moment : DateTime, (∃ expired, moment.le now = .ok expired ∧ (!expired) = true) ↔ ∃ expiry, moment = .aware expiry ∧ now < expiry := by
    intro moment
    cases moment with
    | aware expiry => simp [DateTime.le, pure, Except.pure]
    | naive expiry => simp [DateTime.le, throw, throwThe, MonadExceptOf.throw]
  simp only [PortZeroNetwork.admission, Js.bind_eq_ok, Js.ensure_eq_ok, Js.pure_eq_ok, hdigest, hschema, hprotocol, horigin, hidentity,
    hauthority, hexpires]
  constructor
  · rintro ⟨signed, -, -, -, -, -, hany, moment, hmoment, expired, hexpired, -, hfresh, -, -, -, -, signature, hsign, -⟩
    obtain ⟨expiry, rfl, hlt⟩ := (hexpiry moment).mp ⟨expired, hexpired, hfresh⟩
    exact ⟨hany, ⟨expiry, hmoment, hlt⟩, signature, hsign⟩
  · rintro ⟨hany, ⟨expiry, hmoment, hlt⟩, signature, hsign⟩
    obtain ⟨expired, hexpired, hfresh⟩ := (hexpiry (.aware expiry)).mpr ⟨expiry, rfl, hlt⟩
    exact ⟨_, (), by simp, (), by simp, (), hany, _, hmoment, expired, hexpired, (), hfresh, _, rfl, (), by simp, signature, hsign, rfl⟩

theorem entitled_of_authorize {h : TenantDirectory.History} (hrecorded : TenantDirectory.Recorded h) {organizationId tenantId entitlementId capability : Str}
    (hauthorized : h.directory.authorize organizationId tenantId entitlementId capability = .ok true) :
    Entitled h.accepted organizationId tenantId entitlementId capability := by
  obtain ⟨⟨environmentId, brandContext, hprovision⟩, hgrant⟩ := (hrecorded.authorize_iff _ _ _ _).mp hauthorized
  have htenant := (hrecorded.tenants tenantId ⟨organizationId, environmentId, brandContext⟩).mpr hprovision
  obtain ⟨organization, horganization⟩ := hrecorded.home tenantId _ htenant
  obtain ⟨hnamed, honboard⟩ := hrecorded.onboarded organizationId organization horganization
  exact ⟨⟨hnamed, organization.partnerId, organization.displayName, honboard⟩, ⟨environmentId, brandContext, hprovision⟩, hgrant⟩

/-- An entitlement is granted to one tenant for one capability, and a tenant has one organization. -/
theorem Entitled.unique {h : TenantDirectory.History} (hrecorded : TenantDirectory.Recorded h)
    {organizationId organizationId' tenantId tenantId' entitlementId capability capability' : Str}
    (hentitled : Entitled h.accepted organizationId tenantId entitlementId capability)
    (hentitled' : Entitled h.accepted organizationId' tenantId' entitlementId capability') :
    organizationId' = organizationId ∧ tenantId' = tenantId ∧ capability' = capability := by
  have hrow := (hrecorded.entitlements entitlementId ⟨tenantId, capability, .active⟩).mpr ⟨rfl, hentitled.grant⟩
  have hrow' := (hrecorded.entitlements entitlementId ⟨tenantId', capability', .active⟩).mpr ⟨rfl, hentitled'.grant⟩
  obtain ⟨rfl, rfl⟩ : tenantId' = tenantId ∧ capability' = capability := by
    rw [hrow, Option.some.injEq, EntitlementRow.mk.injEq] at hrow'
    exact ⟨hrow'.1.symm, hrow'.2.1.symm⟩
  obtain ⟨environmentId, brandContext, hprovision⟩ := hentitled.tenant
  obtain ⟨environmentId', brandContext', hprovision'⟩ := hentitled'.tenant
  have htenant := (hrecorded.tenants tenantId' ⟨organizationId, environmentId, brandContext⟩).mpr hprovision
  have htenant' := (hrecorded.tenants tenantId' ⟨organizationId', environmentId', brandContext'⟩).mpr hprovision'
  rw [htenant, Option.some.injEq, TenantRow.mk.injEq] at htenant'
  exact ⟨htenant'.1.symm, rfl, rfl⟩

theorem Entitled.append {accepted : List TenantDirectory.Call} {organizationId tenantId entitlementId capability : Str}
    (h : Entitled accepted organizationId tenantId entitlementId capability) (more : List TenantDirectory.Call) :
    Entitled (accepted ++ more) organizationId tenantId entitlementId capability := by
  obtain ⟨⟨hnamed, partnerId, displayName, honboard⟩, ⟨environmentId, brandContext, hprovision⟩, hgrant⟩ := h
  exact ⟨⟨hnamed, partnerId, displayName, List.mem_append_left _ honboard⟩, ⟨environmentId, brandContext, List.mem_append_left _ hprovision⟩,
    List.mem_append_left _ hgrant⟩

end

/-- What the client is owed for an envelope that it made in a run: its organization and its tenant are entitled to the capability, no
later envelope under the entitlement is for another of either, the call succeeds ever after, and a network refuses the envelope for
nothing but its identity, its expiry or its signature. -/
structure Honoured (platform : Platform) (requests : List (Fate × TenantDirectory.Call)) (secretReference : Str) (context : PartnerContext)
    (request : EnvelopeRequest) (draws : EnvelopeDraws) (envelope : ProductionEnvelope) : Prop where
  entitled : Entitled (TenantDirectory.History.run requests).accepted envelope.organizationId envelope.tenantId context.entitlementId
    envelope.destinationCapability
  isolated : ∀ later context' request' draws' envelope', context'.entitlementId = context.entitlementId →
    createEnvelope platform (TenantDirectory.History.run (requests ++ later)).directory secretReference context' request' draws' = .ok envelope' →
    envelope'.organizationId = envelope.organizationId ∧ envelope'.tenantId = envelope.tenantId ∧
      envelope'.destinationCapability = envelope.destinationCapability
  lasting : ∀ later,
    createEnvelope platform (TenantDirectory.History.run (requests ++ later)).directory secretReference context request draws = .ok envelope
  admitted : ∀ network now, (∃ signed, PortZeroNetwork.admission platform network envelope now = .ok signed) ↔
    ((network.identities.get context.requestingIdentity).any fun authorities => context.delegatedAuthority ∈ authorities) = true ∧
    (∃ expiry, platform.fromisoformat draws.expiresAt = .ok (.aware expiry) ∧ now < expiry) ∧
    ∃ signature, network.signer.sign envelope.unsigned = .ok signature

/-- In every run of a tenant directory, successful or raising, the client makes envelopes for entitled contexts only. -/
theorem created_honoured (platform : Platform) (requests : List (Fate × TenantDirectory.Call)) (secretReference : Str) (context : PartnerContext)
    (request : EnvelopeRequest) (draws : EnvelopeDraws) {envelope : ProductionEnvelope}
    (h : createEnvelope platform (TenantDirectory.History.run requests).directory secretReference context request draws = .ok envelope) :
    Honoured platform requests secretReference context request draws envelope := by
  have hentitled : ∀ {requests : List (Fate × TenantDirectory.Call)} {context : PartnerContext} {request : EnvelopeRequest}
      {draws : EnvelopeDraws} {envelope : ProductionEnvelope},
      createEnvelope platform (TenantDirectory.History.run requests).directory secretReference context request draws = .ok envelope →
      Entitled (TenantDirectory.History.run requests).accepted envelope.organizationId envelope.tenantId context.entitlementId
        envelope.destinationCapability := by
    intro requests context request draws envelope h
    obtain ⟨hauthorized, -, ⟨horganization, htenant, hcapability⟩, -⟩ := createEnvelope_eq_ok h
    rw [horganization, htenant, hcapability]
    exact entitled_of_authorize (TenantDirectory.recorded_run requests) hauthorized
  refine ⟨hentitled h, fun later context' request' draws' envelope' hsame h' => ?_, fun later => ?_, admitted_iff h⟩
  · obtain ⟨more, hmore⟩ := TenantDirectory.accepted_append requests later
    have hentitled' := hentitled h'
    rw [hsame] at hentitled'
    exact Entitled.unique (TenantDirectory.recorded_run (requests ++ later)) (hmore ▸ (hentitled h).append more) hentitled'
  · obtain ⟨more, hmore⟩ := TenantDirectory.accepted_append requests later
    have hauthorized := ((TenantDirectory.recorded_run requests).authorize_iff _ _ _ _).mp (createEnvelope_eq_ok h).1
    refine createEnvelope_congr h (((TenantDirectory.recorded_run (requests ++ later)).authorize_iff _ _ _ _).mpr ?_)
    obtain ⟨⟨environmentId, brandContext, hprovision⟩, hgrant⟩ := hauthorized
    rw [hmore]
    exact ⟨⟨environmentId, brandContext, List.mem_append_left _ hprovision⟩, List.mem_append_left _ hgrant⟩

/-- A receipt that a port makes for what it is handed names its transaction. -/
theorem parent_of_execute {platform : Platform} {port : ExternalExecutionPort} {answer : DestinationAnswer} {envelope : ProductionEnvelope}
    {destinationTransactionId : Str} {receipt : SignedPortReceipt}
    (h : port.execute platform answer envelope destinationTransactionId = .ok receipt) : receipt.parentTransactionId = envelope.transactionId := by
  simp only [ExternalExecutionPort.execute, Js.bind_eq_ok] at h
  obtain ⟨-, -, -, -, h⟩ := h
  split at h
  all_goals
    simp only [Js.bind_eq_ok, Js.pure_eq_ok] at h
    obtain ⟨_, -, _, rfl, signature, -, rfl⟩ := h
    rfl

/-- The client verifies no receipt of a route against the envelope that was routed: ports name the transactions of the
targets, and each of these has a name of its own. -/
theorem routed_receipts_refused (platform : Platform) (engine : RouteExecutionEngine) (signer : Signer) (letter : Str × Str)
    (envelope : ProductionEnvelope) {result : RouteResult} (h : (engine.execute platform letter envelope).1 = .ok result)
    (hports : ∀ handed ∈ (engine.execute platform letter envelope).2.handed, ∃ port answer,
      handed.answer = ExternalExecutionPort.execute platform port answer handed.envelope handed.destinationTransactionId) :
    ∀ receipt ∈ result.receipts, verifyReceipt signer receipt envelope ≠ .ok true := by
  intro receipt hreceipt hverified
  obtain ⟨hanswered, -⟩ := RouteExecutionEngine.execute_answered h
  obtain ⟨i, hi⟩ := List.mem_iff_getElem?.mp hreceipt
  obtain ⟨handed, hhanded, -, hanswer⟩ := hanswered.call_of_receipt i receipt hi
  obtain ⟨port, answer, hport⟩ := hports handed hhanded
  obtain ⟨target, child, -, hchild, hfor⟩ := RouteExecutionEngine.execute_handed platform engine letter envelope handed hhanded
  have hparent : receipt.parentTransactionId = envelope.transactionId ++ str ":" ++ target := by
    rw [parent_of_execute (hport.symm.trans hanswer), hfor.envelope]
    simp only [RouteExecutionEngine.child, Js.bind_eq_ok, Js.pure_eq_ok] at hchild
    obtain ⟨hash, -, signature, -, rfl⟩ := hchild
    rfl
  simp only [verifyReceipt, Js.bind_eq_ok, Js.pure_eq_ok, Bool.and_eq_true, decide_eq_true_eq] at hverified
  obtain ⟨verified, -, ⟨-, hsame⟩, -⟩ := hverified
  have hlength := congrArg List.length (hparent.symm.trans hsame)
  have hcolon : (str ":").length = 1 := rfl
  simp only [List.length_append, hcolon] at hlength
  omega

end PortZeroClient

namespace Sample

/-- An organization with one tenant, entitled to one capability. -/
def onboarding : List (Fate × TenantDirectory.Call) := [(.commits, .onboard (str "org") (str "partner") (str "Org")),
  (.commits, .provision (str "tenant") (str "org") (str "dev") (str "brand")),
  (.commits, .grant (str "ent") (str "tenant") (str "watt.analyze"))]

def partner : PartnerContext := ⟨str "org", str "tenant", str "partner", str "dev", str "project", str "ent", str "agent",
  str "watt:analyze", [str "site_config"]⟩

def analysis : EnvelopeRequest := ⟨str "watt.analyze", str "watt", str "watt", JsMap.empty, str "WattCapabilityRequest", [str "watt"], .direct,
  .protectedClass⟩

def draws : EnvelopeDraws := ⟨str "2026-07-26T16:20:00+00:00", str "2026-07-26T16:40:00+00:00", str "tx", str "message", str "nonce"⟩

theorem analysis_honoured : ∃ envelope, PortZeroClient.createEnvelope platform (TenantDirectory.History.run onboarding).directory
      (str "env://KINDRED_PARTNER_IDENTITY") partner analysis draws = .ok envelope ∧
    PortZeroClient.Honoured platform onboarding (str "env://KINDRED_PARTNER_IDENTITY") partner analysis draws envelope := by
  have hok : (PortZeroClient.createEnvelope platform (TenantDirectory.History.run onboarding).directory
      (str "env://KINDRED_PARTNER_IDENTITY") partner analysis draws).isOk = true := by decide +kernel
  cases hcreated : PortZeroClient.createEnvelope platform (TenantDirectory.History.run onboarding).directory
      (str "env://KINDRED_PARTNER_IDENTITY") partner analysis draws with
  | error e =>
    rw [hcreated] at hok
    cases hok
  | ok envelope => exact ⟨envelope, rfl, PortZeroClient.created_honoured platform onboarding _ partner analysis draws hcreated⟩

/-- A signer that accepts every signature. -/
def lenient : Signer := ⟨fun _ => .ok ⟨[], [], [], []⟩, fun _ _ => .ok true⟩

def lenientEngine : RouteExecutionEngine := { engine fun _ portId envelope destinationTransactionId =>
    (ExternalExecutionPort.mk { registration "" with portId := portId } lenient).execute platform completed envelope destinationTransactionId with
  signer := lenient }

/-- Not even a signer that accepts every signature lets a receipt pass. -/
theorem executed_receipts_refused : ∃ result, (lenientEngine.execute platform letter direct).1 = .ok result ∧
    ∀ receipt ∈ result.receipts, PortZeroClient.verifyReceipt lenient receipt direct ≠ .ok true := by
  have hok : (lenientEngine.execute platform letter direct).1.isOk = true := by decide +kernel
  cases hresult : (lenientEngine.execute platform letter direct).1 with
  | error e =>
    rw [hresult] at hok
    cases hok
  | ok result =>
    refine ⟨result, rfl, PortZeroClient.routed_receipts_refused platform lenientEngine lenient letter direct hresult ?_⟩
    intro handed hhanded
    obtain ⟨target, child, -, -, hfor⟩ := RouteExecutionEngine.execute_handed platform lenientEngine letter direct handed hhanded
    obtain ⟨calls, hanswer⟩ := hfor.answer
    exact ⟨_, completed, hanswer⟩

end Sample

end Superstructure
