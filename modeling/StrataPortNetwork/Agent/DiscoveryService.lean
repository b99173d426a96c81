import StrataPortNetwork.Agent.Completeness
import StrataPortNetwork.Agent.Replay

/-! # The discovery service

A discovery request becomes a grant, an identity and an envelope. A gateway of its own takes them, and
the catalog answers. Only the replay guard and the catalog last from one request to the next.
-/
namespace Agent
open Js Discovery

section
variable (engine : Engine) (collation : Collation)

/-- A gateway that has taken the identity and the grant of a request. -/
def discoveryGateway (guard : ReplayGuard) (artifacts : Artifacts) : Outcome (Gateway engine.date) := do
  let (_, g) ← (Gateway.start engine.date JsMap.empty guard).registerIdentity artifacts.identity
  let (_, g) ← g.registerAuthorityGrant artifacts.grant
  pure g

structure DiscoveryAnswer where
  admissionReceipt : Json
  result : Json

/-- `executeCapabilityDiscovery(input)` at the whole millisecond `now`; the clock of the guard reads `consumedAt`. -/
def executeCapabilityDiscovery (guard : ReplayGuard) (catalog : CapabilityDiscoveryCatalog) (input : DiscoveryInput)
    (now consumedAt : ℤ) : DiscoveryOutcome DiscoveryAnswer × ReplayGuard :=
  match createCapabilityDiscoveryArtifacts engine { input with now := some (now : ℚ) } with
  | .error e => (.error e, guard)
  | .ok artifacts =>
    match discoveryGateway engine guard artifacts with
    | .error e => (.error (.protocol e), guard)
    | .ok g =>
      match g.acceptEnvelope artifacts.envelope now consumedAt with
      | (.error e, g) => (.error (.protocol e), g.replayGuard)
      | (.ok admissionReceipt, g) =>
        ((discover engine.date collation catalog ⟨artifacts.envelope, admissionReceipt, artifacts.identity, some (now : ℚ)⟩).map
          fun result => ⟨admissionReceipt, result⟩, g.replayGuard)

/-- An execution, with the catalog that it ran on. -/
structure DiscoveryExecution where
  input : DiscoveryInput
  now : ℤ
  consumedAt : ℤ
  catalog : CapabilityDiscoveryCatalog
  outcome : DiscoveryOutcome DiscoveryAnswer

/-- What lasts from one request to the next, and the executions so far, the latest first. -/
structure DiscoveryService where
  guard : ReplayGuard
  catalog : CapabilityDiscoveryCatalog
  executions : List DiscoveryExecution

/-- The calls of the service; registered capabilities have strings for ids. -/
inductive ServiceCall
  | fill (call : {call : Discovery.Call // call.Named})
  | execute (input : DiscoveryInput) (now consumedAt : ℤ)

namespace DiscoveryService

def start (guard : ReplayGuard) (maxCapabilities : ℤ) : DiscoveryService := ⟨guard, ⟨maxCapabilities, Registry.empty⟩, []⟩

def step (s : DiscoveryService) : ServiceCall → DiscoveryService
  | .fill call => { s with catalog := Discovery.step s.catalog call.1 }
  | .execute input now consumedAt =>
    let executed := executeCapabilityDiscovery engine collation s.guard s.catalog input now consumedAt
    ⟨executed.2, s.catalog, ⟨input, now, consumedAt, s.catalog, executed.1⟩ :: s.executions⟩

end DiscoveryService

end

/-! ## Requests and their keys -/

/-- Two requests of one agent under one correlation. -/
def DiscoveryInput.SameRequest (input input' : DiscoveryInput) : Prop :=
  field input.identity "agent_id" = field input'.identity "agent_id" ∧ input.correlationId = input'.correlationId

section
variable {engine : Engine} {collation : Collation} {input input' : DiscoveryInput} {artifacts artifacts' : Artifacts}
  {now now' consumedAt : ℤ}

/-- What a replay guard reads of the envelope of a request. -/
theorem envelope_of_created (h : createCapabilityDiscoveryArtifacts engine { input with now := some (now : ℚ) } = .ok artifacts) :
    ∃ seedText nonce, discoverySeedText input = .ok seedText ∧
      digest engine "discovery-nonce" [.str (engine.digestOf seedText)] = .ok nonce ∧
      field artifacts.envelope "sender" = principal "agent" (field input.identity "agent_id") ∧
      artifacts.envelope.get "nonce" = some (.str nonce) ∧ Gateway.expiryOf engine.date artifacts.envelope = now + 120000 := by
  simp only [createCapabilityDiscoveryArtifacts, bind_eq_ok, ofProtocol_eq_ok, orThrow_eq_ok, Option.some.injEq] at h
  obtain ⟨-, -, -, -, -, -, _, rfl, -, -, -, -, seedText, hseed, period, hperiod, hcreated⟩ := h
  simp only [createArtifacts, discoveryRequest, bind_eq_ok, pure_eq_ok] at hcreated
  obtain ⟨_, -, _, -, -, -, -, -, _, -, nonce, hnonce, -, -, rfl⟩ := hcreated
  exact ⟨seedText, nonce, hseed, hnonce, field_record _ _, Json.get_record _ _,
    timeOf_iso (Json.get_record _ _) (periodOf_int_iff.mp hperiod).2⟩

/-- One request has one key, whenever it is made. -/
theorem replayKeyOf_created (h : createCapabilityDiscoveryArtifacts engine { input with now := some (now : ℚ) } = .ok artifacts)
    (h' : createCapabilityDiscoveryArtifacts engine { input' with now := some (now' : ℚ) } = .ok artifacts')
    (hsame : input.SameRequest input') : replayKeyOf artifacts.envelope = replayKeyOf artifacts'.envelope := by
  obtain ⟨seedText, nonce, hseed, hnonce, hsender, hget, -⟩ := envelope_of_created h
  obtain ⟨seedText', nonce', hseed', hnonce', hsender', hget', -⟩ := envelope_of_created h'
  have hseeds : discoverySeedText input = discoverySeedText input' := by
    rw [discoverySeedText, discoverySeedText, hsame.1, hsame.2]
  obtain rfl : seedText = seedText' := Except.ok.inj (hseed.symm.trans (hseeds.trans hseed'))
  obtain rfl : nonce = nonce' := Except.ok.inj (hnonce.symm.trans hnonce')
  rw [replayKeyOf, replayKeyOf, hsender, hsender', hget, hget', hsame.1]

/-! ## Single executions -/

theorem discoveryGateway_guard {guard : ReplayGuard} {g : Gateway engine.date} (h : discoveryGateway engine guard artifacts = .ok g) :
    g.replayGuard = guard := by
  simp only [discoveryGateway, bind_eq_ok, pure_eq_ok] at h
  obtain ⟨⟨_, g₁⟩, hidentity, ⟨_, g₂⟩, hgrant, rfl⟩ := h
  obtain ⟨identity, -, -, -, rfl⟩ := Gateway.registerIdentity_ok hidentity
  obtain ⟨grant, -, -, rfl⟩ := Gateway.registerAuthorityGrant_ok hgrant
  rfl

/-- What an answer shows: the request was created, its key was free of unexpired entries and is held until the request expires. -/
structure Answers (engine : Engine) (collation : Collation) (guard guard' : ReplayGuard) (catalog : CapabilityDiscoveryCatalog)
    (input : DiscoveryInput) (now consumedAt : ℤ) (artifacts : Artifacts) (answer : DiscoveryAnswer) : Prop where
  created : createCapabilityDiscoveryArtifacts engine { input with now := some (now : ℚ) } = .ok artifacts
  held : ∃ key, replayKeyOf artifacts.envelope = some key ∧ guard'.entries.get key = some (now + 120000)
  free : ∀ key expiresAt, replayKeyOf artifacts.envelope = some key → guard.entries.get key = some expiresAt → expiresAt ≤ consumedAt
  discovered : discover engine.date collation catalog ⟨artifacts.envelope, answer.admissionReceipt, artifacts.identity, some (now : ℚ)⟩ =
    .ok answer.result

theorem answers_of_executed {guard : ReplayGuard} {catalog : CapabilityDiscoveryCatalog} {answer : DiscoveryAnswer}
    (h : (executeCapabilityDiscovery engine collation guard catalog input now consumedAt).1 = .ok answer) :
    ∃ artifacts, Answers engine collation guard (executeCapabilityDiscovery engine collation guard catalog input now consumedAt).2 catalog
      input now consumedAt artifacts answer := by
  unfold executeCapabilityDiscovery at h ⊢
  split at h
  · cases h
  rename_i artifacts hcreated
  split at h
  · cases h
  rename_i g hgateway
  split at h
  · cases h
  rename_i admissionReceipt g' haccepted
  obtain ⟨result, hresult, rfl⟩ := map_eq_ok.mp h
  obtain ⟨-, ⟨key, hkey, hget⟩, hfree⟩ := Gateway.acceptEnvelope_consumes haccepted
  obtain ⟨_, _, -, -, -, -, hexpiry⟩ := envelope_of_created hcreated
  rw [hexpiry] at hget
  rw [discoveryGateway_guard hgateway] at hfree
  refine ⟨artifacts, hcreated, ⟨key, hkey, ?_⟩, hfree, hresult⟩
  exact hget

/-- An execution loses an entry only when the clock of the guard has reached its expiry. -/
theorem execute_keeps (guard : ReplayGuard) (catalog : CapabilityDiscoveryCatalog) (input : DiscoveryInput) (now consumedAt : ℤ) :
    guard.Keeps (executeCapabilityDiscovery engine collation guard catalog input now consumedAt).2 [consumedAt] := by
  unfold executeCapabilityDiscovery
  split
  · exact .refl _ _
  rename_i artifacts hcreated
  split
  · exact .refl _ _
  rename_i g hgateway
  have hkeeps : g.replayGuard.Keeps (g.acceptEnvelope artifacts.envelope now consumedAt).2.replayGuard [consumedAt] := by
    unfold Gateway.acceptEnvelope
    split
    · exact .refl _ _
    split
    · exact .refl _ _
    · exact Gateway.acceptValidatedEnvelope_keeps (List.mem_singleton.mpr rfl)
  rw [discoveryGateway_guard hgateway] at hkeeps
  split <;> rename_i haccepted <;> rwa [haccepted] at hkeeps

end

/-! ## Runs -/

section
variable (engine : Engine) (collation : Collation)

def DiscoveryExecution.Answered (execution : DiscoveryExecution) : Prop := ∃ answer, execution.outcome = .ok answer

/-- A later execution read the clock of the guard at or after the expiry. -/
def Passed (execution : DiscoveryExecution) (later : List DiscoveryExecution) : Prop :=
  ∃ e ∈ later, execution.now + 120000 ≤ e.consumedAt

/-- The execution was answered, from the capabilities of its catalog. -/
def DiscoveryExecution.Listed (execution : DiscoveryExecution) (answer : DiscoveryAnswer) : Prop :=
  ∃ artifacts, createCapabilityDiscoveryArtifacts engine { execution.input with now := some (execution.now : ℚ) } = .ok artifacts ∧
    Lists collation execution.catalog ⟨artifacts.envelope, answer.admissionReceipt, artifacts.identity, some (execution.now : ℚ)⟩
      answer.result

/-- What holds of the executions of a service: a request is answered again only after the guard's clock has passed the expiry of
its earlier answer, and every answer lists its catalog. -/
structure Served (executions : List DiscoveryExecution) : Prop where
  once : ∀ later second between first earlier, executions = later ++ second :: (between ++ first :: earlier) →
    first.Answered → second.Answered → first.input.SameRequest second.input → Passed first (second :: between)
  listed : ∀ execution ∈ executions, ∀ answer, execution.outcome = .ok answer → execution.Listed engine collation answer

/-- The keys of answered requests are held until they have expired. -/
def DiscoveryService.Holds (s : DiscoveryService) : Prop := ∀ later first earlier, s.executions = later ++ first :: earlier →
  first.Answered → Passed first later ∨ ∃ artifacts key,
    createCapabilityDiscoveryArtifacts engine { first.input with now := some (first.now : ℚ) } = .ok artifacts ∧
      replayKeyOf artifacts.envelope = some key ∧ s.guard.entries.get key = some (first.now + 120000)

structure DiscoveryService.Sound (s : DiscoveryService) : Prop where
  named : Named s.catalog
  holds : s.Holds engine
  served : Served engine collation s.executions

variable {engine collation} {s : DiscoveryService}

theorem holds_execute (h : s.Holds engine) (input : DiscoveryInput) (now consumedAt : ℤ) :
    (s.step engine collation (.execute input now consumedAt)).Holds engine := by
  intro later first earlier hsplit hanswered
  cases later with
  | nil =>
    obtain ⟨rfl, rfl⟩ := List.cons.inj hsplit
    obtain ⟨answer, hanswer⟩ := hanswered
    obtain ⟨artifacts, hanswers⟩ := answers_of_executed hanswer
    obtain ⟨key, hkey, hget⟩ := hanswers.held
    exact .inr ⟨artifacts, key, hanswers.created, hkey, hget⟩
  | cons latest later =>
    obtain ⟨rfl, hrest⟩ := List.cons.inj hsplit
    rcases h later first earlier hrest hanswered with ⟨e, he, hpassed⟩ | ⟨artifacts, key, hcreated, hkey, hget⟩
    · exact .inl ⟨e, List.mem_cons_of_mem _ he, hpassed⟩
    · by_cases hexpired : first.now + 120000 ≤ consumedAt
      · exact .inl ⟨_, List.mem_cons_self, hexpired⟩
      · refine .inr ⟨artifacts, key, hcreated, hkey, execute_keeps s.guard s.catalog input now consumedAt key _ hget fun r hr => ?_⟩
        rw [List.mem_singleton.mp hr]
        exact not_le.mp hexpired

theorem served_execute (h : s.Sound engine collation) (input : DiscoveryInput) (now consumedAt : ℤ) :
    Served engine collation (s.step engine collation (.execute input now consumedAt)).executions where
  once := by
    intro later second between first earlier hsplit hfirst hsecond hsame
    cases later with
    | nil =>
      obtain ⟨rfl, hrest⟩ := List.cons.inj hsplit
      -- the key of the earlier answer is held still, and was found free
      rcases h.holds between first earlier hrest hfirst with ⟨e, he, hpassed⟩ | ⟨artifacts, key, hcreated, hkey, hget⟩
      · exact ⟨e, List.mem_cons_of_mem _ he, hpassed⟩
      · obtain ⟨answer, hanswer⟩ := hsecond
        obtain ⟨artifacts', hanswers⟩ := answers_of_executed hanswer
        rw [replayKeyOf_created hcreated hanswers.created hsame] at hkey
        exact ⟨_, List.mem_cons_self, hanswers.free key _ hkey hget⟩
    | cons latest later =>
      obtain ⟨rfl, hrest⟩ := List.cons.inj hsplit
      exact h.served.once later second between first earlier hrest hfirst hsecond hsame
  listed := by
    intro execution hmem answer hanswer
    rcases List.mem_cons.mp hmem with rfl | hold
    · obtain ⟨artifacts, hanswers⟩ := answers_of_executed hanswer
      have hchecked : ∃ t, checkInput engine.date ⟨artifacts.envelope, answer.admissionReceipt, artifacts.identity, some (now : ℚ)⟩ =
          .ok t := by
        have hdiscovered := hanswers.discovered
        simp only [discover, bind_eq_ok] at hdiscovered
        obtain ⟨t, hchecked, -⟩ := hdiscovered
        exact ⟨t, hchecked⟩
      obtain ⟨t, hchecked⟩ := hchecked
      obtain ⟨generatedAt, -, hresult⟩ := (discover_eq_ok_iff h.named hchecked).mp hanswers.discovered
      exact ⟨artifacts, hanswers.created, hresult ▸ lists_resultOf collation h.named hchecked generatedAt⟩
    · exact h.served.listed execution hold answer hanswer

theorem sound_step (h : s.Sound engine collation) (call : ServiceCall) : (s.step engine collation call).Sound engine collation := by
  cases call with
  | fill call => exact ⟨h.named.step call.2, h.holds, h.served⟩
  | execute input now consumedAt => exact ⟨h.named, holds_execute h.holds input now consumedAt, served_execute h input now consumedAt⟩

theorem sound_start (guard : ReplayGuard) (maxCapabilities : ℤ) :
    (DiscoveryService.start guard maxCapabilities).Sound engine collation where
  named := fun e he => by cases he
  holds := fun later first earlier h => by simp [DiscoveryService.start] at h
  served := ⟨fun later second between first earlier h => by simp [DiscoveryService.start] at h, fun e he => by cases he⟩

end

/-- In every run of the discovery service, whatever its clocks read, an agent's request is answered again under one correlation
only after the clock of the guard has passed the expiry of the earlier answer, and every answer lists the catalog of its time. -/
theorem discovery_served (engine : Engine) (collation : Collation) (guard : ReplayGuard) (maxCapabilities : ℤ) (calls : List ServiceCall) :
    Served engine collation
      (Transition.run (DiscoveryService.step engine collation) (DiscoveryService.start guard maxCapabilities) calls).executions := by
  have hstep : ∀ (s : DiscoveryService) (call : ServiceCall), s.Sound engine collation →
      (s.step engine collation call).Sound engine collation := fun _ call h => sound_step h call
  exact (Transition.run_invariant hstep (sound_start guard maxCapabilities) calls).served

end Agent
