import StrataPortNetwork.ProcessIntelligence.Cycles

/-! # The state that a failed execution leaves

An execution keeps the state in a field of its input. It sets the field to the state of a skill that
returned before it looks at what the skill reported, so a skill that reports a failure has already
replaced the state of the skill before it.
-/
namespace ProcessIntelligence
open Js Logged
open CognitiveState (Value)

/-! ## The input between two skills -/

/-- A skill that returned: the state it was given and what it returned. -/
structure Returned where
  given : Value
  output : SkillOutput

/-- `input.state`, with the skills that returned so far, which no code reads. -/
structure InputState where
  state : Value
  returned : List Returned

variable {σ : Type}

/-- The environment with the field: it is set when a skill returns, and by nothing else. -/
def Environment.withInput (env : Environment σ) : Environment (σ × InputState) where
  now := fun s => ((env.now s.1).1, (env.now s.1).2, s.2)
  observe := fun selected cursor graph s =>
    ((env.observe selected cursor graph s.1).1, (env.observe selected cursor graph s.1).2, s.2)
  isSuitable := fun selected observation s => ((env.isSuitable selected observation s.1).1, (env.isSuitable selected observation s.1).2, s.2)
  recompose := fun selected observation graph cursor s =>
    ((env.recompose selected observation graph cursor s.1).1, (env.recompose selected observation graph cursor s.1).2, s.2)
  authorize := fun selected observation s => ((env.authorize selected observation s.1).1, (env.authorize selected observation s.1).2, s.2)
  skills := fun selected => (env.skills selected).map fun skill given observation s =>
    match skill given observation s.1 with
    | (.error e, s') => (.error e, s', s.2)
    | (.ok output, s') => (.ok output, s', ⟨output.state, s.2.returned ++ [⟨given, output⟩]⟩)
  verify := fun state s => ((env.verify state s.1).1, (env.verify state s.1).2, s.2)

def Returned.succeeded (r : Returned) : Bool := r.output.succeeded

/-- The state of the last skill that reported success, or the initial state. -/
def lastGood (initial : Value) (returned : List Returned) : Value :=
  (((returned.filter Returned.succeeded).getLast?).map fun r => r.output.state).getD initial

/-- Every skill that reports a failure returns the state it was given. -/
def FailuresKeep (returned : List Returned) : Prop := ∀ r ∈ returned, r.succeeded = false → r.output.state = r.given

/-- Between two iterations, every skill has reported success and the input has the state of the last one. -/
structure Sound (initial current : Value) (input : InputState) : Prop where
  state : input.state = current
  succeeded : ∀ r ∈ input.returned, r.succeeded = true
  last : lastGood initial input.returned = current

/-- What a failure leaves: the last good state, if no skill that failed has changed it. -/
def Left (initial : Value) (input : InputState) : Prop :=
  input.state = lastGood initial input.returned ↔ FailuresKeep input.returned

variable {initial current : Value} {input : InputState} {r : Returned}

theorem lastGood_succeeded (h : r.succeeded = true) (returned : List Returned) :
    lastGood initial (returned ++ [r]) = r.output.state := by
  simp [lastGood, h]

theorem lastGood_failed (h : r.succeeded = false) (returned : List Returned) :
    lastGood initial (returned ++ [r]) = lastGood initial returned := by
  simp [lastGood, h]

theorem Sound.left (h : Sound initial current input) : Left initial input := by
  refine iff_of_true (h.state.trans h.last.symm) fun r hr hfailed => ?_
  rw [h.succeeded r hr] at hfailed
  cases hfailed

/-- A skill that reports success leaves its state. -/
theorem Sound.succeed (h : Sound initial current input) (hr : r.succeeded = true) :
    Sound initial r.output.state ⟨r.output.state, input.returned ++ [r]⟩ := by
  refine ⟨rfl, fun r' hr' => ?_, lastGood_succeeded hr _⟩
  rcases List.mem_append.mp hr' with hr' | hr'
  · exact h.succeeded r' hr'
  · rwa [List.mem_singleton.mp hr']

/-- A skill that reports a failure leaves its state, which is the last good one if it is the one it was given. -/
theorem Sound.fail (h : Sound initial current input) (hgiven : r.given = current) (hr : r.succeeded = false) :
    Left initial ⟨r.output.state, input.returned ++ [r]⟩ := by
  unfold Left
  rw [lastGood_failed hr, h.last, ← hgiven]
  constructor
  · intro hkeep r' hr' hfailed
    rcases List.mem_append.mp hr' with hr' | hr'
    · rw [h.succeeded r' hr'] at hfailed
      cases hfailed
    · rw [List.mem_singleton.mp hr']
      exact hkeep
  · intro hkeep
    exact hkeep r (List.mem_append_right _ List.mem_cons_self) hr

/-! ## One iteration -/

section
variable {digest : Synaptic.Digest} {engine : Engine} {ctx : RunContext} {readings : ℕ → Readings} {options : RuntimeOptions}
variable {env : Environment σ} {input : ExecuteInput} {started : Option JsNumber}
variable {initial : Value} {run : RuntimeRun} {selected : JsString} {observation : Json}

/-- The input of an environment is as it is between two iterations. -/
def AtState (initial : Value) (run : RuntimeRun) (s : σ × InputState) : Prop := Sound initial run.state s.2

def LeftIn (initial : Value) (s : σ × InputState) : Prop := Left initial s.2

/-- A callback that is no skill does not change the input. -/
theorem leaves_callback {α : Type} (run : RuntimeRun) {reply : σ × InputState → Outcome α × (σ × InputState)} {entry : Outcome α → Event}
    (h : ∀ s, (reply s).2.2 = s.2) :
    Leaves (AtState initial run) (call reply entry) (fun _ => AtState initial run) (LeftIn initial) := by
  have hsame : ∀ s result s', reply s = (result, s') → AtState initial run s → AtState initial run s' := by
    intro s result s' hreply hs
    have hinput := h s
    rw [hreply] at hinput
    rwa [AtState, hinput]
  exact .call (fun a s s' hreply => hsame s (.ok a) s' hreply) fun e s s' hreply hs => (hsame s (.error e) s' hreply hs).left

theorem leaves_check {α : Type} {x : Outcome α} :
    Leaves (ε := Event) (AtState (σ := σ) initial run) (only x) (fun _ => AtState initial run) (LeftIn initial) :=
  .only (fun _ _ _ h => h) fun _ _ _ h => h.left

theorem recomposition_leaves (run : RuntimeRun) : Leaves (AtState initial run) (recomposition digest options env.withInput run selected observation)
    (fun next => AtState initial next) (LeftIn initial) := by
  refine Leaves.bind leaves_check fun _ => ?_
  refine Leaves.bind (leaves_callback _ fun _ => rfl) fun replacement => ?_
  refine Leaves.bind leaves_check fun _ => ?_
  exact Leaves.bind (leaves_callback _ fun _ => rfl) fun _ => .pure fun _ h => h

theorem settled_state {next : RuntimeRun} {output : SkillOutput}
    (h : settled digest engine ctx readings input run selected output = .ok next) :
    next.state = output.state ∧ output.succeeded = true := by
  simp only [settled, bind_eq_ok, ensure_eq_ok, pure_eq_ok] at h
  obtain ⟨_, -, -, hsucceeded, rfl⟩ := h
  exact ⟨rfl, hsucceeded⟩

/-- What a skill that returned has left: the input as it was before it, with its output. -/
def Ran (initial : Value) (run : RuntimeRun) (output : SkillOutput) (s : σ × InputState) : Prop :=
  ∃ before, Sound initial run.state before ∧ s.2 = ⟨output.state, before.returned ++ [⟨run.state, output⟩]⟩

theorem Ran.left {output : SkillOutput} {s : σ × InputState} (h : Ran initial run output s) : LeftIn initial s := by
  obtain ⟨before, hsound, hinput⟩ := h
  rw [LeftIn, hinput]
  cases hsucceeded : output.succeeded with
  | false => exact hsound.fail (r := ⟨run.state, output⟩) rfl hsucceeded
  | true => exact (hsound.succeed (r := ⟨run.state, output⟩) hsucceeded).left

theorem skill_leaves {implementation : Value → Json → σ × InputState → Outcome SkillOutput × (σ × InputState)}
    {entry : Outcome SkillOutput → Event} (h : env.withInput.skills selected = some implementation) :
    Leaves (AtState initial run) (call (implementation run.state observation) entry) (Ran initial run) (LeftIn initial) := by
  obtain ⟨skill, -, rfl⟩ := Option.map_eq_some_iff.mp h
  refine .call ?_ ?_
  · intro output s s' hreply hs
    cases hskill : skill run.state observation s.1 with
    | mk result s₁ =>
      cases result with
      | error e => simp only [hskill, Prod.mk.injEq, reduceCtorEq, false_and] at hreply
      | ok output' =>
        simp only [hskill, Prod.mk.injEq, Except.ok.injEq] at hreply
        obtain ⟨rfl, rfl⟩ := hreply
        exact ⟨s.2, hs, rfl⟩
  · intro e s s' hreply hs
    cases hskill : skill run.state observation s.1 with
    | mk result s₁ =>
      cases result with
      | error e' =>
        simp only [hskill, Prod.mk.injEq] at hreply
        obtain ⟨-, rfl⟩ := hreply
        exact hs.left
      | ok output' => simp only [hskill, Prod.mk.injEq, reduceCtorEq, false_and] at hreply

theorem invocation_leaves (run : RuntimeRun) : Leaves (AtState initial run)
    (invocation digest engine ctx readings env.withInput input run selected observation)
    (fun next => AtState initial next) (LeftIn initial) := by
  refine Leaves.bind (leaves_callback _ fun _ => rfl) fun _ => ?_
  refine Leaves.bind (Q := fun implementation s => env.withInput.skills selected = some implementation ∧ AtState initial run s)
    (.only (fun _ _ h hs => ⟨orThrow_eq_ok.mp h, hs⟩) fun _ _ _ h => h.left) fun implementation => ?_
  refine Leaves.bind (Q := Ran initial run) (fun s log h => skill_leaves h.1 s log h.2) fun output => ?_
  refine .only (fun next s hsettled hran => ?_) fun _ _ _ hran => hran.left
  obtain ⟨hstate, hsucceeded⟩ := settled_state hsettled
  obtain ⟨before, hsound, hinput⟩ := hran
  rw [AtState, hinput, hstate]
  exact hsound.succeed (r := ⟨run.state, output⟩) hsucceeded

theorem unsuitable_leaves : Leaves (AtState initial run) (unsuitable env.withInput selected observation)
    (fun _ => AtState initial run) (LeftIn initial) := by
  unfold unsuitable
  split
  · exact Leaves.bind (leaves_callback _ fun _ => rfl) fun _ => .pure fun _ h => h
  · exact .pure fun _ h => h

/-- An iteration that returns has run no skill that failed. -/
theorem turn_leaves : Leaves (AtState initial run)
    (turn digest engine ctx readings options env.withInput input started run selected)
    (fun next => AtState initial next) (LeftIn initial) := by
  refine Leaves.bind (Q := fun _ => AtState initial run) (.note fun _ h => h) fun _ => ?_
  refine Leaves.bind leaves_check fun _ => ?_
  refine Leaves.bind (leaves_callback _ fun _ => rfl) fun _ => ?_
  refine Leaves.bind leaves_check fun _ => ?_
  refine Leaves.bind leaves_check fun _ => ?_
  refine Leaves.bind (leaves_callback _ fun _ => rfl) fun observation => ?_
  refine Leaves.bind leaves_check fun _ => ?_
  refine Leaves.bind unsuitable_leaves fun recompose => ?_
  split
  · exact recomposition_leaves { run with visitedGraphs := run.visitedGraphs.add (graphRoot digest run.graph), iteration := _ }
  · exact invocation_leaves { run with visitedGraphs := run.visitedGraphs.add (graphRoot digest run.graph), iteration := _ }

/-! ## Whole executions -/

theorem turns_leaves (run : RuntimeRun) : Leaves (AtState initial run)
    (turns digest engine ctx readings options env.withInput input started run) (fun next => AtState initial next) (LeftIn initial) := by
  intro s log hs
  generalize hstate : (s, log) = state
  have hstart : AtState initial run state.1 := hstate ▸ hs
  clear hstate hs
  fun_induction turns digest engine ctx readings options env.withInput input started run state with
  | case1 run state hcursor e state' hstep => exact turn_leaves.of_error hstart hstep
  | case2 run state hcursor next state' hstep ih => exact ih (turn_leaves.of_ok hstart hstep)
  | case3 run state hcursor => exact hstart

variable (digest engine ctx readings options env input) in
/-- The result of `execute(input)`, and the field `input.state` that it leaves. -/
def executeInput (records : List EdgeRecord) (s : σ) : Outcome DynamicExecution × InputState :=
  let ended := executeLogged digest engine ctx readings options env.withInput input records ((s, ⟨input.state, []⟩), [])
  (ended.1, ended.2.1.2)

end

/-- An execution that throws leaves the state of the last skill that reported success exactly when every
skill of it that reported a failure returned the state it was given. -/
theorem failed_execution_keeps_iff (digest : Synaptic.Digest) (engine : Engine) (ctx : RunContext) (readings : ℕ → Readings)
    (options : RuntimeOptions) (env : Environment σ) (input : ExecuteInput) (records : List EdgeRecord) (s : σ) {e : Failure}
    (h : (executeInput digest engine ctx readings options env input records s).1 = .error e) :
    let left := (executeInput digest engine ctx readings options env input records s).2
    left.state = lastGood input.state left.returned ↔ FailuresKeep left.returned := by
  have hexecute : Leaves (fun s : σ × InputState => s.2 = ⟨input.state, []⟩)
      (executeLogged digest engine ctx readings options env.withInput input records) (fun _ _ => True) (LeftIn input.state) := by
    have hstart : ∀ s : σ × InputState, s.2 = ⟨input.state, []⟩ → Sound input.state input.state s.2 := by
      intro s hs
      rw [hs]
      exact ⟨rfl, fun r hr => absurd hr List.not_mem_nil, rfl⟩
    let first : RuntimeRun := ⟨input.initialGraph, JsSet.empty, [], [], 0, 0, 0, input.state, records⟩
    refine Leaves.bind (Q := fun _ => AtState input.state first) (fun s log hs => ?_) fun started => ?_
    · exact leaves_callback first (fun _ => rfl) s log (hstart s hs)
    refine Leaves.bind (turns_leaves first) fun run => ?_
    exact Leaves.bind (leaves_callback _ fun _ => rfl) fun _ => .pure fun _ _ => trivial
  intro left
  cases hended : executeLogged digest engine ctx readings options env.withInput input records ((s, ⟨input.state, []⟩), []) with
  | mk result rest =>
    have hresult : result = .error e := by
      have hfirst : (executeLogged digest engine ctx readings options env.withInput input records
        ((s, ⟨input.state, []⟩), [])).1 = .error e := h
      rw [hended] at hfirst
      exact hfirst
    subst hresult
    have hleft : left = rest.1.2 := by
      change (executeLogged digest engine ctx readings options env.withInput input records
        ((s, ⟨input.state, []⟩), [])).2.1.2 = _
      rw [hended]
    rw [hleft]
    exact hexecute.of_error rfl hended

namespace Sample

/-- The skill that counts, except that `b` reports a failure, with the state it was given or another one. -/
def counter (keeps : Bool) (selected : JsString) (v : Value) (observation : Json) : Option SkillOutput :=
  (counting selected).map fun skill =>
    let output := skill v (some observation)
    if selected = js "b" then { output with success := some (.bool false), state := if keeps then v else output.state } else output

def stumbling (keeps : Bool) : Environment Unit where
  now := fun _ => (.ok (some (.int 0)), ())
  observe := fun _ _ _ _ => (.ok (.record []), ())
  isSuitable := fun _ _ _ => (.ok true, ())
  recompose := fun selected _ _ _ _ => (.ok selected, ())
  authorize := fun _ _ _ => (.ok (), ())
  skills := fun selected => some fun v observation _ => (orThrow (counter keeps selected v observation) .typeError, ())
  verify := fun _ _ => (.ok true, ())

def executeStumbling (keeps : Bool) : Outcome DynamicExecution × InputState :=
  executeInput Synaptic.Synaptizer.sampleDigest secondEngine taskContext still .default (stumbling keeps) twoSkills [] ()

def failureOf {α : Type} : Outcome α → Option Failure
  | .error e => some e
  | .ok _ => none

theorem eq_error_of_failureOf {α : Type} {x : Outcome α} {e : Failure} (h : failureOf x = some e) : x = .error e := by
  cases x with
  | error e' => exact congrArg Except.error (Option.some.inj h)
  | ok a => cases h

theorem turns_stumbling (keeps : Bool) (started : Option JsNumber) :
    turns Synaptic.Synaptizer.sampleDigest secondEngine taskContext still .default (stumbling keeps).withInput twoSkills started
        ⟨twoSkills.initialGraph, JsSet.empty, [], [], 0, 0, 0, twoSkills.state, []⟩ =
      turnsFor Synaptic.Synaptizer.sampleDigest secondEngine taskContext still .default (stumbling keeps).withInput twoSkills started 6
        ⟨twoSkills.initialGraph, JsSet.empty, [], [], 0, 0, 0, twoSkills.state, []⟩ :=
  turns_eq_turnsFor (by decide)

theorem value_eq {v w : Value} (h : v.json = w.json) : v = w := by
  cases v
  cases w
  cases h
  rfl

/-- What the execution throws and leaves, and the last good state. -/
theorem stumbling_runs (keeps : Bool) : (executeStumbling keeps).1 = .error (.rejected "post_synthesis_skill_failed") ∧
    (executeStumbling keeps).2.state.json = .int (if keeps then 1 else 2) ∧
    (lastGood twoSkills.state (executeStumbling keeps).2.returned).json = .int 1 := by
  have hrun : failureOf (executeStumbling keeps).1 = some (.rejected "post_synthesis_skill_failed") ∧
      ((executeStumbling keeps).2.state.json == .int (if keeps then 1 else 2)) = true ∧
      ((lastGood twoSkills.state (executeStumbling keeps).2.returned).json == .int 1) = true := by
    simp only [executeStumbling, executeInput, executeLogged, turns_stumbling]
    cases keeps <;> decide +kernel
  exact ⟨eq_error_of_failureOf hrun.1, Json.eq_of_beq hrun.2.1, Json.eq_of_beq hrun.2.2⟩

/-- A skill that fails with the state it was given leaves the count of the skill before it. -/
theorem stumbling_keeps : (executeStumbling true).1 = .error (.rejected "post_synthesis_skill_failed") ∧
    (executeStumbling true).2.state.json = .int 1 ∧ FailuresKeep (executeStumbling true).2.returned := by
  obtain ⟨herror, hstate, hlast⟩ := stumbling_runs true
  refine ⟨herror, hstate, (failed_execution_keeps_iff Synaptic.Synaptizer.sampleDigest secondEngine taskContext still .default
    (stumbling true) twoSkills [] () herror).mp (value_eq (hstate.trans hlast.symm))⟩

/-- A skill that fails with another state leaves that state. -/
theorem stumbling_replaces : (executeStumbling false).1 = .error (.rejected "post_synthesis_skill_failed") ∧
    (executeStumbling false).2.state ≠ lastGood twoSkills.state (executeStumbling false).2.returned := by
  obtain ⟨herror, hstate, hlast⟩ := stumbling_runs false
  refine ⟨herror, fun heq => ?_⟩
  rw [← heq, hstate] at hlast
  exact absurd hlast (by simp [Json.int])

end Sample

end ProcessIntelligence
