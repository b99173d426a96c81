import StrataPortNetwork.Superstructure.Sample

/-! # Execution at most once

Any number of ports receive on one durable store. A call of `receive` proceeds in three
steps, its checks, the transaction that claims the nonce, and the execution, which
interleave with those of other calls; a call may stop anywhere, as when its process dies.
-/
namespace Superstructure
open Py

/-- How far a call of `receive` has come. -/
inductive Stage
  | received
  | admitted
  | claimed
  deriving DecidableEq

structure Call where
  port : ExternalPort
  envelope : GovernedEnvelope
  stage : Stage

def Call.key (c : Call) : Str × Str := (c.port.portId, c.envelope.nonce)

/-- How the transaction of a claim ends; one that fails may have reached the disk. -/
inductive Commit
  | succeeds
  | fails (persisted : Bool)

/-- The executions so far, with the port and the envelope of each, the latest first. -/
structure Site where
  state : SQLiteState
  calls : ℕ → Option Call
  executions : List Call

inductive SiteEvent
  | deliver (id : ℕ) (port : ExternalPort) (envelope : GovernedEnvelope)
  | advance (id : ℕ) (commit : Commit)
  | stop (id : ℕ)

namespace Site
variable (platform : Platform)

def setCall (site : Site) (id : ℕ) (call : Option Call) : Site :=
  { site with calls := fun j => if j = id then call else site.calls j }

/-- The next step of a call. A call that is done is dropped. -/
def advance (site : Site) (id : ℕ) (c : Call) (commit : Commit) : Site :=
  match c.stage with
  | .received =>
    match c.port.admission platform c.envelope with
    | .ok none => site.setCall id (some { c with stage := .admitted })
    | _ => site.setCall id none
  | .admitted =>
    match commit, site.state.claimNonce c.port.portId c.envelope.nonce with
    | .succeeds, (true, state) => { site.setCall id (some { c with stage := .claimed }) with state := state }
    | .succeeds, (false, state) => { site.setCall id none with state := state }
    | .fails persisted, (_, state) => { site.setCall id none with state := if persisted then state else site.state }
  | .claimed => { site.setCall id none with executions := c :: site.executions }

def step (site : Site) : SiteEvent → Site
  | .deliver id port envelope =>
    match site.calls id with
    | none => site.setCall id (some ⟨port, envelope, .received⟩)
    | some _ => site
  | .advance id commit =>
    match site.calls id with
    | none => site
    | some c => site.advance platform id c commit
  | .stop id => site.setCall id none

variable {platform} {site : Site}

/-- A claim adds the pair it was asked for, if that is new. -/
theorem claimNonce_cases (s : SQLiteState) (portId nonce : Str) :
    (s.claimNonce portId nonce = (false, s) ∧ (portId, nonce) ∈ s.replayNonces.items) ∨
      ∃ s', s.claimNonce portId nonce = (true, s') ∧ (portId, nonce) ∉ s.replayNonces.items ∧
        ∀ pair, pair ∈ s'.replayNonces.items ↔ pair ∈ s.replayNonces.items ∨ pair = (portId, nonce) := by
  unfold SQLiteState.claimNonce
  by_cases h : s.replayNonces.has (portId, nonce) = true
  · rw [if_pos h]
    exact Or.inl ⟨rfl, Js.JsSet.has_iff.mp h⟩
  · rw [if_neg h]
    exact Or.inr ⟨_, rfl, fun hmem => h (Js.JsSet.has_iff.mpr hmem), fun pair => Js.JsSet.mem_add⟩

/-! ## One call without interruption -/

def idle (state : SQLiteState) : Site := ⟨state, fun _ => none, []⟩

/-- The steps of an undisturbed call do what `receive` does. -/
theorem receive_steps (platform : Platform) (state : SQLiteState) (id : ℕ) (port : ExternalPort)
    (envelope : GovernedEnvelope) (provider : Outcome ProviderResult) :
    let site := Transition.run (step platform) (idle state)
      [.deliver id port envelope, .advance id .succeeds, .advance id .succeeds, .advance id .succeeds]
    site.state = (port.receive platform state provider envelope).state ∧
      site.executions.length = if (port.receive platform state provider envelope).executed then 1 else 0 := by
  cases hadmission : port.admission platform envelope with
  | error e => simp [step, idle, setCall, advance, ExternalPort.receive, hadmission]
  | ok rejection =>
    cases rejection with
    | some rejection => simp [step, idle, setCall, advance, ExternalPort.receive, hadmission]
    | none =>
      rcases claimNonce_cases state port.portId envelope.nonce with ⟨hclaim, -⟩ | ⟨state', hclaim, -, -⟩
      · simp [step, idle, setCall, advance, ExternalPort.receive, hadmission, hclaim]
      · cases provider <;> simp [step, idle, setCall, advance, ExternalPort.receive, hadmission, hclaim]

/-! ## All interleavings -/

variable (platform)

structure Once (site : Site) : Prop where
  admitted : ∀ id c, site.calls id = some c → c.stage ≠ .received → c.port.admission platform c.envelope = .ok none
  held : ∀ id c, site.calls id = some c → c.stage = .claimed →
    c.key ∈ site.state.replayNonces.items ∧ ∀ x ∈ site.executions, x.key ≠ c.key
  alone : ∀ id id' c c', site.calls id = some c → site.calls id' = some c' → c.stage = .claimed →
    c'.stage = .claimed → c.key = c'.key → id = id'
  executed : ∀ x ∈ site.executions, x.key ∈ site.state.replayNonces.items ∧
    x.port.admission platform x.envelope = .ok none
  once : (site.executions.map Call.key).Nodup

variable {platform}

theorem once_idle (state : SQLiteState) : Once platform (idle state) := by
  constructor <;> simp [idle]

/-- Dropping a call keeps the invariant, also when the store has gained nonces. -/
theorem Once.drop (h : Once platform site) (id : ℕ) {state : SQLiteState}
    (hsub : ∀ pair ∈ site.state.replayNonces.items, pair ∈ state.replayNonces.items) :
    Once platform { site.setCall id none with state := state } := by
  have hcall : ∀ j c, (site.setCall id none).calls j = some c → site.calls j = some c := by
    intro j c hj
    simp only [setCall] at hj
    split at hj
    · simp at hj
    · exact hj
  constructor
  · exact fun j c hj => h.admitted j c (hcall j c hj)
  · exact fun j c hj hc => ⟨hsub _ (h.held j c (hcall j c hj) hc).1, (h.held j c (hcall j c hj) hc).2⟩
  · exact fun j j' c c' hj hj' => h.alone j j' c c' (hcall j c hj) (hcall j' c' hj')
  · exact fun x hx => ⟨hsub _ (h.executed x hx).1, (h.executed x hx).2⟩
  · exact h.once

/-- A call that is not past its claim may take the place of an id. -/
theorem Once.put (h : Once platform site) (id : ℕ) {c : Call} (hstage : c.stage ≠ .claimed)
    (hadmission : c.stage ≠ .received → c.port.admission platform c.envelope = .ok none) :
    Once platform (site.setCall id (some c)) := by
  have hcall : ∀ j d, (site.setCall id (some c)).calls j = some d → d = c ∨ site.calls j = some d := by
    intro j d hj
    simp only [setCall] at hj
    split at hj
    · exact Or.inl (Option.some.inj hj).symm
    · exact Or.inr hj
  constructor
  · intro j d hj hd
    rcases hcall j d hj with rfl | hj
    · exact hadmission hd
    · exact h.admitted j d hj hd
  · intro j d hj hd
    rcases hcall j d hj with rfl | hj
    · exact absurd hd hstage
    · exact h.held j d hj hd
  · intro j j' d d' hj hj' hd hd' hkey
    rcases hcall j d hj with rfl | hj
    · exact absurd hd hstage
    · rcases hcall j' d' hj' with rfl | hj'
      · exact absurd hd' hstage
      · exact h.alone j j' d d' hj hj' hd hd' hkey
  · exact h.executed
  · exact h.once

/-- A call whose claim was new holds its pair alone. -/
theorem Once.claim (h : Once platform site) {id : ℕ} {c : Call} (hc : site.calls id = some c)
    (hstage : c.stage = .admitted) {state : SQLiteState} (hnew : c.key ∉ site.state.replayNonces.items)
    (hmem : ∀ pair, pair ∈ state.replayNonces.items ↔ pair ∈ site.state.replayNonces.items ∨ pair = c.key) :
    Once platform { site.setCall id (some { c with stage := .claimed }) with state := state } := by
  have hcall : ∀ j d, (site.setCall id (some { c with stage := .claimed })).calls j = some d →
      (j = id ∧ d = { c with stage := .claimed }) ∨ site.calls j = some d := by
    intro j d hj
    simp only [setCall] at hj
    split at hj
    · exact Or.inl ⟨‹_›, (Option.some.inj hj).symm⟩
    · exact Or.inr hj
  have hheld : ∀ j d, site.calls j = some d → d.stage = .claimed → d.key ≠ c.key :=
    fun j d hj hd hkey => hnew (hkey ▸ (h.held j d hj hd).1)
  constructor
  · intro j d hj hd
    rcases hcall j d hj with ⟨rfl, rfl⟩ | hj
    · exact h.admitted j c hc (by rw [hstage]; decide)
    · exact h.admitted j d hj hd
  · intro j d hj hd
    rcases hcall j d hj with ⟨rfl, rfl⟩ | hj
    · exact ⟨(hmem _).mpr (Or.inr rfl), fun x hx hkey => hnew (hkey ▸ (h.executed x hx).1)⟩
    · exact ⟨(hmem _).mpr (Or.inl (h.held j d hj hd).1), (h.held j d hj hd).2⟩
  · intro j j' d d' hj hj' hd hd' hkey
    rcases hcall j d hj with ⟨rfl, rfl⟩ | hold
    · rcases hcall j' d' hj' with ⟨rfl, rfl⟩ | hold'
      · rfl
      · exact absurd hkey.symm (hheld j' d' hold' hd')
    · rcases hcall j' d' hj' with ⟨rfl, rfl⟩ | hold'
      · exact absurd hkey (hheld j d hold hd)
      · exact h.alone j j' d d' hold hold' hd hd' hkey
  · exact fun x hx => ⟨(hmem _).mpr (Or.inl (h.executed x hx).1), (h.executed x hx).2⟩
  · exact h.once

/-- The execution of a claimed call is the first for its pair. -/
theorem Once.execute (h : Once platform site) {id : ℕ} {c : Call} (hc : site.calls id = some c)
    (hstage : c.stage = .claimed) :
    Once platform { site.setCall id none with executions := c :: site.executions } := by
  have hcall : ∀ j d, (site.setCall id none).calls j = some d → j ≠ id ∧ site.calls j = some d := by
    intro j d hj
    simp only [setCall] at hj
    split at hj
    · simp at hj
    · exact ⟨‹_›, hj⟩
  obtain ⟨hmem, hfirst⟩ := h.held id c hc hstage
  constructor
  · exact fun j d hj => h.admitted j d (hcall j d hj).2
  · intro j d hj hd
    obtain ⟨hne, hj⟩ := hcall j d hj
    refine ⟨(h.held j d hj hd).1, List.forall_mem_cons.mpr ⟨?_, (h.held j d hj hd).2⟩⟩
    exact fun hkey => hne (h.alone j id d c hj hc hd hstage hkey.symm)
  · exact fun j j' d d' hj hj' => h.alone j j' d d' (hcall j d hj).2 (hcall j' d' hj').2
  · exact List.forall_mem_cons.mpr ⟨⟨hmem, h.admitted id c hc (by rw [hstage]; decide)⟩, h.executed⟩
  · refine List.nodup_cons.mpr ⟨?_, h.once⟩
    intro hx
    obtain ⟨x, hx, hkey⟩ := List.mem_map.mp hx
    exact hfirst x hx hkey

theorem advance_once (h : Once platform site) {id : ℕ} {c : Call} (hc : site.calls id = some c) (commit : Commit) :
    Once platform (site.advance platform id c commit) := by
  unfold advance
  cases hstage : c.stage with
  | received =>
    cases hadmission : c.port.admission platform c.envelope with
    | error e => exact h.drop id (fun _ hpair => hpair)
    | ok rejection =>
      cases rejection with
      | some rejection => exact h.drop id (fun _ hpair => hpair)
      | none => exact h.put id (by simp) (fun _ => hadmission)
  | claimed => exact h.execute hc hstage
  | admitted =>
    rcases claimNonce_cases site.state c.port.portId c.envelope.nonce with ⟨hclaim, hmem⟩ | ⟨state, hclaim, hnew, hstate⟩
    · rw [hclaim]
      cases commit with
      | succeeds => exact h.drop id (fun _ hpair => hpair)
      | fails persisted => exact h.drop id (fun _ hpair => by split <;> exact hpair)
    · have hgrown : ∀ pair ∈ site.state.replayNonces.items, pair ∈ state.replayNonces.items :=
        fun pair hpair => (hstate pair).mpr (Or.inl hpair)
      rw [hclaim]
      cases commit with
      | succeeds => exact h.claim hc hstage hnew hstate
      | fails persisted =>
        refine h.drop id (fun pair hpair => ?_)
        split
        · exact hgrown pair hpair
        · exact hpair

theorem step_once (h : Once platform site) (event : SiteEvent) : Once platform (site.step platform event) := by
  cases event with
  | deliver id port envelope =>
    cases hc : site.calls id with
    | none =>
      simp only [step, hc]
      exact h.put id (by simp) (fun hne => absurd rfl hne)
    | some c =>
      simp only [step, hc]
      exact h
  | stop id => exact h.drop id (fun _ hpair => hpair)
  | advance id commit =>
    cases hc : site.calls id with
    | none =>
      simp only [step, hc]
      exact h
    | some c =>
      simp only [step, hc]
      exact advance_once h hc commit

theorem Once.run (h : Once platform site) (events : List SiteEvent) :
    Once platform (Transition.run (step platform) site events) :=
  Transition.run_invariant (fun site event (h : Once platform site) => step_once h event) h events

/-- What a port checks before it executes. -/
theorem admission_eq_none {port : ExternalPort} {envelope : GovernedEnvelope}
    (h : port.admission platform envelope = .ok none) :
    port.portId ∈ envelope.destinationPorts ∧
      port.signer.verifies envelope.unsignedDict envelope.signatures = .ok true ∧
      digest platform.sha256 (.ofDict envelope.payload) = .ok envelope.payloadHash := by
  unfold ExternalPort.admission at h
  split at h
  · simp at h
  · split at h
    · simp at h
    · rename_i hport
      obtain ⟨verified, hverified, h⟩ := Js.bind_eq_ok.mp h
      cases verified with
      | false => simp at h
      | true =>
        obtain ⟨hash, hdigest, h⟩ := Js.bind_eq_ok.mp h
        split at h
        · simp at h
        · rename_i hhash
          rw [not_not] at hport hhash
          exact ⟨hport, hverified, by rw [hdigest, hhash]⟩

/-- However deliveries interleave, repeat, fail or stop, an adapter executes at most once for
each pair of port and nonce, and only envelopes for its port that verify. -/
theorem executions_at_most_once (platform : Platform) (state : SQLiteState) (events : List SiteEvent) :
    ((Transition.run (step platform) (idle state) events).executions.map Call.key).Nodup ∧
      ∀ x ∈ (Transition.run (step platform) (idle state) events).executions,
        x.port.portId ∈ x.envelope.destinationPorts ∧
        x.port.signer.verifies x.envelope.unsignedDict x.envelope.signatures = .ok true ∧
        digest platform.sha256 (.ofDict x.envelope.payload) = .ok x.envelope.payloadHash := by
  have h := (@once_idle platform state).run events
  exact ⟨h.once, fun x hx => admission_eq_none (h.executed x hx).2⟩

end Site

end Superstructure
