import StrataPortNetwork.Logged
import StrataPortNetwork.ProcessIntelligence.Refinement

/-! # Execution among callbacks of any behaviour

The callbacks of an execution may throw, and may remember what they were asked. The log of an
execution has its iterations and its calls in order: however the callbacks behave, there are
boundedly many of either, and a skill runs right after it was authorised.
-/
namespace ProcessIntelligence
open Js Logged
open CognitiveState (Value coalesce)

/-! ## The runtime -/

/-- The callbacks and skills of an execution, over what they remember. -/
structure Environment (σ : Type) where
  now : σ → Outcome (Option JsNumber) × σ
  observe : JsString → ℕ → List JsString → σ → Outcome Json × σ
  isSuitable : JsString → Json → σ → Outcome Bool × σ
  recompose : JsString → Json → List JsString → ℕ → σ → Outcome JsString × σ
  authorize : JsString → Json → σ → Outcome Unit × σ
  skills : JsString → Option (Value → Json → σ → Outcome SkillOutput × σ)
  verify : Value → σ → Outcome Bool × σ

/-- An entry of the log; a callback that throws has no answer. -/
inductive Event
  | iteration
  | now
  | observe (selected : JsString) (cursor : ℕ) (graph : List JsString)
  | isSuitable (selected : JsString) (observation : Json)
  | recompose (selected : JsString) (cursor : ℕ) (answer : Option JsString)
  | authorize (selected : JsString) (observation : Json) (returned : Bool)
  | skill (selected : JsString) (observation : Json)
  | verify

/-- What an execution is called with, its callbacks apart. -/
structure ExecuteInput where
  capabilityId : Option Json
  initialGraph : List JsString
  state : Value
  deadlineMs : Option JsNumber
  fencingToken : Option Json

abbrev Run (σ α : Type) := Act σ Event Failure α

section
variable {σ : Type} (digest : Synaptic.Digest) (engine : Engine) (ctx : RunContext) (readings : ℕ → Readings)
variable (options : RuntimeOptions) (env : Environment σ) (input : ExecuteInput)

/-- `now > started + deadline_ms`, which no NaN is. -/
def isLate (started deadlineMs now : Option JsNumber) : Bool :=
  match started, deadlineMs, now with
  | some started, some ms, some now => started.toRat + ms.toRat < now.toRat
  | _, _, _ => false

def callNow : Run σ (Option JsNumber) := call env.now fun _ => .now

def callAuthorize (selected : JsString) (observation : Json) : Run σ Unit :=
  call (env.authorize selected observation) fun answer => .authorize selected observation answer.isOk

/-- `observation.changed && !input.isSuitable(selected, observation)`. -/
def unsuitable (selected : JsString) (observation : Json) : Run σ Bool :=
  if ((observation.get "changed").getD .null).truthy then do
    let suitable ← call (env.isSuitable selected observation) fun _ => .isSuitable selected observation
    pure !suitable
  else pure false

/-- The iteration that replaces the skill under the cursor. -/
def recomposition (run : RuntimeRun) (selected : JsString) (observation : Json) : Run σ RuntimeRun := do
  only (ensure (run.recompositions < options.maximumRecompositions) (.rejected "post_synthesis_recomposition_budget_exceeded"))
  let replacement ← call (env.recompose selected observation run.graph run.cursor) fun answer =>
    .recompose selected run.cursor answer.toOption
  only (ensure (!(replacement == selected || run.completed.contains replacement)) (.rejected "post_synthesis_cycle_detected"))
  callAuthorize env replacement observation
  let graph := run.graph.set run.cursor replacement
  pure { run with
    graph
    recompositions := run.recompositions + 1
    events := run.events ++ [⟨observation.get "reason_category", selected, replacement, graphRoot digest graph⟩] }

/-- What follows a skill that returned. -/
def settled (run : RuntimeRun) (selected : JsString) (output : SkillOutput) : Outcome RuntimeRun := do
  let edge : Edge := {
    sourceComponent := if run.cursor = 0 then js "dynamic_capability_port" else run.graph.getD (run.cursor - 1) []
    targetComponent := selected
    sourceRole := if run.cursor = 0 then js "POST_SYNTHESIZED_CAPABILITY" else js "PROCESS_SKILL"
    targetRole := js "PROCESS_SKILL"
    capabilityId := input.capabilityId
    before := clone run.state }
  let records ← ProcessIntelligence.observe engine run.records (edgeCall digest ctx (readings run.completed.length) edge
    output output.evidenceRefs output.verificationRefs output.receiptRef)
  ensure output.succeeded (.rejected "post_synthesis_skill_failed")
  pure { run with
    state := output.state
    records
    completed := run.completed ++ [selected]
    cursor := run.cursor + 1 }

/-- The iteration that runs the skill under the cursor. -/
def invocation (run : RuntimeRun) (selected : JsString) (observation : Json) : Run σ RuntimeRun := do
  callAuthorize env selected observation
  let implementation ← only (orThrow (env.skills selected) .typeError)
  let output ← call (implementation run.state observation) fun _ => .skill selected observation
  only (settled digest engine ctx readings input run selected output)

/-- One iteration of the loop, at the skill under the cursor. -/
def turn (started : Option JsNumber) (run : RuntimeRun) (selected : JsString) : Run σ RuntimeRun := do
  note .iteration
  only (ensure (run.completed.length < options.maximumSteps) (.rejected "post_synthesis_step_budget_exceeded"))
  let now ← callNow env
  only (ensure (!isLate started input.deadlineMs now) (.rejected "post_synthesis_deadline_exceeded"))
  only (ensure (!(run.cursor == 0 && run.visitedGraphs.has (graphRoot digest run.graph)))
    (.rejected "post_synthesis_cycle_detected"))
  let next := { run with
    visitedGraphs := run.visitedGraphs.add (graphRoot digest run.graph)
    iteration := run.iteration + 1 }
  let observation ← call (env.observe selected run.cursor run.graph) fun _ => .observe selected run.cursor run.graph
  only (ensure (!observation.isNull) .typeError)
  let recompose ← unsuitable env selected observation
  if recompose then recomposition digest options env next selected observation
  else invocation digest engine ctx readings env input next selected observation

/-! ## The loop -/

/-- What an iteration that returns has done: it has replaced the skill under the cursor. -/
structure Recomposed (options : RuntimeOptions) (run next : RuntimeRun) : Prop where
  budget : run.recompositions < options.maximumRecompositions
  recompositions : next.recompositions = run.recompositions + 1
  graph : ∃ replacement, next.graph = run.graph.set run.cursor replacement
  cursor : next.cursor = run.cursor

/-- What an iteration that returns has done: it has run the skill under the cursor. -/
structure Moved (run next : RuntimeRun) : Prop where
  recompositions : next.recompositions = run.recompositions
  graph : next.graph = run.graph
  cursor : next.cursor = run.cursor + 1

/-! ## What the log counts -/

def Event.isIteration : Event → Bool
  | .iteration => true
  | _ => false

def Event.isSkill : Event → Bool
  | .skill _ _ => true
  | _ => false

/-- Every skill runs right after it was authorised on the same observation. -/
def Mediated (log : List Event) : Prop := ∀ before after selected observation,
  log = before ++ .skill selected observation :: after → before.getLast? = some (.authorize selected observation true)

/-- A log of so many iterations and so many skills, each of them authorised. -/
structure Counts (iterations skills : ℕ) (log : List Event) : Prop where
  iterations : log.countP Event.isIteration = iterations
  skills : log.countP Event.isSkill = skills
  mediated : Mediated log

variable {iterations skills : ℕ} {log : List Event} {selected : JsString} {observation : Json}

theorem Mediated.snoc (h : Mediated log) {e : Event}
    (he : ∀ selected observation, e = .skill selected observation → log.getLast? = some (.authorize selected observation true)) :
    Mediated (log ++ [e]) := by
  intro before after selected observation hlog
  rcases List.eq_nil_or_concat after with rfl | ⟨after', last, rfl⟩
  · obtain ⟨rfl, hlast⟩ := List.append_inj' hlog rfl
    exact he selected observation (List.cons.inj hlast).1
  · rw [List.concat_eq_append, ← List.cons_append, ← List.append_assoc] at hlog
    exact h before after' selected observation (List.append_inj' hlog rfl).1

theorem Counts.empty : Counts 0 0 [] := ⟨rfl, rfl, fun before after _ _ h => by simp at h⟩

theorem Counts.snoc_iteration (h : Counts iterations skills log) : Counts (iterations + 1) skills (log ++ [.iteration]) :=
  ⟨by simp [h.iterations, Event.isIteration], by simp [h.skills, Event.isSkill], h.mediated.snoc fun _ _ he => nomatch he⟩

theorem Counts.snoc_skill (h : Counts iterations skills log) (hlast : log.getLast? = some (.authorize selected observation true)) :
    Counts iterations (skills + 1) (log ++ [.skill selected observation]) := by
  refine ⟨by simp [h.iterations, Event.isIteration], by simp [h.skills, Event.isSkill], h.mediated.snoc ?_⟩
  rintro _ _ ⟨⟩
  exact hlast

/-- A call of a callback counts as neither. -/
theorem Counts.snoc (h : Counts iterations skills log) {e : Event} (hiteration : e.isIteration = false) (hskill : e.isSkill = false) :
    Counts iterations skills (log ++ [e]) := by
  refine ⟨by simp [h.iterations, hiteration], by simp [h.skills, hskill], h.mediated.snoc ?_⟩
  rintro _ _ rfl
  exact absurd hskill (by simp [Event.isSkill])

variable {digest engine ctx readings options env input}
variable {started : Option JsNumber} {run next : RuntimeRun}

/-- A log that may be left behind by a failure. -/
def Within (options : RuntimeOptions) (iterations : ℕ) (log : List Event) : Prop :=
  ∃ skills ≤ options.maximumSteps, Counts iterations skills log

theorem recomposition_counts (hskills : skills ≤ options.maximumSteps) :
    Triple (Counts iterations skills) (recomposition digest options env run selected observation)
      (fun next log => next.completed = run.completed ∧ Counts iterations skills log) (Within options iterations) := by
  have hfail : ∀ log, Counts iterations skills log → Within options iterations log := fun _ h => ⟨skills, hskills, h⟩
  refine Triple.bind (.only (fun _ _ _ hlog => hlog) hfail) fun _ => ?_
  refine Triple.bind (Q := fun _ => Counts iterations skills)
    (.call (fun _ _ h => h.snoc rfl rfl) fun _ _ h => hfail _ (h.snoc rfl rfl)) fun replacement => ?_
  refine Triple.bind (.only (fun _ _ _ hlog => hlog) hfail) fun _ => ?_
  refine Triple.bind (Q := fun _ => Counts iterations skills)
    (.call (fun _ _ h => h.snoc rfl rfl) fun _ _ h => hfail _ (h.snoc rfl rfl)) fun _ => ?_
  exact .pure fun _ hlog => ⟨rfl, hlog⟩

theorem settled_moved {output : SkillOutput} (h : settled digest engine ctx readings input run selected output = .ok next) :
    Moved run next ∧ next.completed = run.completed ++ [selected] := by
  simp only [settled, bind_eq_ok, ensure_eq_ok, pure_eq_ok] at h
  obtain ⟨_, -, -, -, rfl⟩ := h
  exact ⟨⟨rfl, rfl, rfl⟩, rfl⟩

theorem invocation_counts (hskills : skills < options.maximumSteps) :
    Triple (Counts iterations skills) (invocation digest engine ctx readings env input run selected observation)
      (fun next log => next.completed = run.completed ++ [selected] ∧ Counts iterations (skills + 1) log)
      (Within options iterations) := by
  have hfail : ∀ log, Counts iterations skills log → Within options iterations log := fun _ h => ⟨skills, hskills.le, h⟩
  have hran : ∀ log, Counts iterations (skills + 1) log → Within options iterations log := fun _ h => ⟨skills + 1, hskills, h⟩
  refine Triple.bind (Q := fun _ log => Counts iterations skills log ∧ log.getLast? = some (.authorize selected observation true))
    (.call (fun _ log h => ⟨h.snoc rfl rfl, by simp [Except.isOk, Except.toBool]⟩) fun _ _ h => hfail _ (h.snoc rfl rfl)) fun _ => ?_
  refine Triple.bind (.only (fun _ _ _ h => h) fun _ h => hfail _ h.1) fun implementation => ?_
  refine Triple.bind (Q := fun _ => Counts iterations (skills + 1))
    (.call (fun _ _ h => h.1.snoc_skill h.2) fun _ _ h => hran _ (h.1.snoc_skill h.2)) fun output => ?_
  exact .only (fun next _ h hlog => ⟨(settled_moved h).2, hlog⟩) hran

theorem unsuitable_keeps {P E : List Event → Prop} (hcall : ∀ log, P log → P (log ++ [.isSuitable selected observation]))
    (hfail : ∀ log, P log → E log) : Triple P (unsuitable env selected observation) (fun _ => P) E := by
  unfold unsuitable
  split
  · refine Triple.bind (Q := fun _ => P) (.call (fun _ log h => hcall log h) fun _ log h => hfail _ (hcall log h)) fun _ => ?_
    exact .pure fun _ h => h
  · exact .pure fun _ h => h

/-- An iteration counts once and runs a skill at most, within the budget of steps. -/
theorem turn_counts (hbudget : run.completed.length ≤ options.maximumSteps) :
    Triple (Counts iterations run.completed.length) (turn digest engine ctx readings options env input started run selected)
      (fun next log => next.completed.length ≤ options.maximumSteps ∧ Counts (iterations + 1) next.completed.length log)
      (Within options (iterations + 1)) := by
  have hfail : ∀ log, Counts (iterations + 1) run.completed.length log → Within options (iterations + 1) log :=
    fun _ h => ⟨_, hbudget, h⟩
  have hkeep : ∀ log, run.completed.length < options.maximumSteps ∧ Counts (iterations + 1) run.completed.length log →
      Within options (iterations + 1) log := fun log h => hfail log h.2
  refine Triple.bind (Q := fun _ => Counts (iterations + 1) run.completed.length) (.note fun _ h => h.snoc_iteration) fun _ => ?_
  refine Triple.bind (Q := fun _ log => run.completed.length < options.maximumSteps ∧ Counts (iterations + 1) run.completed.length log)
    (.only (fun _ _ h hlog => ⟨of_decide_eq_true (ensure_eq_ok.mp h), hlog⟩) hfail) fun _ => ?_
  refine Triple.bind (Q := fun _ log => run.completed.length < options.maximumSteps ∧ Counts (iterations + 1) run.completed.length log)
    (.call (fun _ _ h => ⟨h.1, h.2.snoc rfl rfl⟩) fun _ _ h => hfail _ (h.2.snoc rfl rfl)) fun now => ?_
  refine Triple.bind (.only (fun _ _ _ h => h) hkeep) fun _ => ?_
  refine Triple.bind (.only (fun _ _ _ h => h) hkeep) fun _ => ?_
  refine Triple.bind (Q := fun _ log => run.completed.length < options.maximumSteps ∧ Counts (iterations + 1) run.completed.length log)
    (.call (fun _ _ h => ⟨h.1, h.2.snoc rfl rfl⟩) fun _ _ h => hfail _ (h.2.snoc rfl rfl)) fun observation => ?_
  refine Triple.bind (.only (fun _ _ _ h => h) hkeep) fun _ => ?_
  refine Triple.bind (unsuitable_keeps (fun _ h => ⟨h.1, h.2.snoc rfl rfl⟩) hkeep) fun recompose => ?_
  split
  · refine (recomposition_counts hbudget).weaken (fun _ h => h.2) ?_
    rintro next log ⟨hcompleted, hlog⟩
    rw [hcompleted]
    exact ⟨hbudget, hlog⟩
  · intro s log h
    refine Triple.weaken (invocation_counts h.1) (fun _ h => h) ?_ s log h.2
    rintro next log ⟨hcompleted, hlog⟩
    rw [hcompleted, List.length_append]
    exact ⟨h.1, hlog⟩

/-! ## Progress -/

/-- What an iteration that returns has done to its run. -/
def Advanced (options : RuntimeOptions) (run next : RuntimeRun) : Prop := Recomposed options run next ∨ Moved run next

theorem turn_advances : Triple (fun _ => True) (turn digest engine ctx readings options env input started run selected)
    (fun next _ => Advanced options run next) fun _ => True := by
  refine .after fun _ => .after fun _ => .after fun _ => .after fun _ => .after fun _ => .after fun observation => ?_
  refine .after fun _ => .after fun recompose => ?_
  split
  · refine Triple.bind (Q := fun _ _ => run.recompositions < options.maximumRecompositions)
      (.only (fun _ _ h _ => of_decide_eq_true (ensure_eq_ok.mp h)) fun _ _ => trivial) fun _ => ?_
    intro s log hbudget
    refine Triple.after (P := fun _ => True) (fun replacement => .after fun _ => .after fun _ => ?_) s log trivial
    exact .pure fun _ _ => .inl ⟨hbudget, rfl, ⟨replacement, rfl⟩, rfl⟩
  · refine .after fun _ => .after fun _ => .after fun _ => ?_
    refine .only (fun next _ h _ => .inr ?_) fun _ _ => trivial
    exact ⟨(settled_moved h).1.recompositions, (settled_moved h).1.graph, (settled_moved h).1.cursor⟩

theorem Advanced.left_lt (h : Advanced options run next) (hcursor : run.cursor < run.graph.length) :
    next.left options < run.left options := by
  rcases h with h | h
  · obtain ⟨replacement, hgraph⟩ := h.graph
    have hbudget := h.budget
    simp only [RuntimeRun.left, h.recompositions, h.cursor, hgraph, List.length_set]
    omega
  · simp only [RuntimeRun.left, h.recompositions, h.cursor, h.graph]
    omega

theorem turn_left {s s' : σ × List Event} (h : turn digest engine ctx readings options env input started run selected s = (.ok next, s'))
    (hcursor : run.cursor < run.graph.length) : next.left options < run.left options :=
  (turn_advances.of_ok trivial h).left_lt hcursor

variable (digest engine ctx readings options env input) in
/-- `while (cursor < graph.length)`. -/
def turns (started : Option JsNumber) (run : RuntimeRun) (s : σ × List Event) : Outcome RuntimeRun × σ × List Event :=
  if hcursor : run.cursor < run.graph.length then
    match hturn : turn digest engine ctx readings options env input started run run.graph[run.cursor] s with
    | (.error e, s') => (.error e, s')
    | (.ok next, s') => turns started next s'
  else (.ok run, s)
termination_by run.left options
decreasing_by exact turn_left hturn hcursor

/-- What every iteration keeps, a run of the loop keeps. -/
theorem turns_triple {I : RuntimeRun → List Event → Prop} {E : List Event → Prop}
    (hturn : ∀ (run : RuntimeRun) (hcursor : run.cursor < run.graph.length),
      Triple (I run) (turn digest engine ctx readings options env input started run run.graph[run.cursor]) I E) (run : RuntimeRun) :
    Triple (I run) (turns digest engine ctx readings options env input started run) I E := by
  intro s log hlog
  generalize hs : (s, log) = state
  have hstart : I run state.2 := hs ▸ hlog
  clear hs hlog
  fun_induction turns digest engine ctx readings options env input started run state with
  | case1 run state hcursor e state' hstep => exact (hturn run hcursor).of_error hstart hstep
  | case2 run state hcursor next state' hstep ih => exact ih ((hturn run hcursor).of_ok hstart hstep)
  | case3 run state hcursor => exact hstart

variable (digest engine ctx readings options env input) in
/-- `execute(input)` with the records of the observer so far. -/
def executeLogged (records : List EdgeRecord) : Run σ DynamicExecution := do
  let started ← callNow env
  let run ← turns digest engine ctx readings options env input started
    ⟨input.initialGraph, JsSet.empty, [], [], 0, 0, 0, input.state, records⟩
  let verified ← call (env.verify run.state) fun _ => .verify
  pure {
    state := clone run.state
    verified
    completed := run.completed
    recompositions := run.recompositions
    events := run.events
    checkpoint := {
      capabilityId := input.capabilityId
      correlationId := ctx.correlationId
      graph := run.graph
      completed := run.completed
      recompilationEvents := run.events
      edgeRecordRefs := (run.records.filter fun r => ctx.correlationId == some (.str r.correlationId)).map
        EdgeRecord.edgeExecutionId
      authorityRef := ctx.authorityRef
      stateRoot := stateRoot digest "post-synthesis-working-set" run.state.json
      fencingToken := input.fencingToken }
    records := run.records }

variable (digest engine ctx readings options env input) in
/-- The log of an execution in an environment that starts out as `s`. -/
def logOf (records : List EdgeRecord) (s : σ) : List Event := (executeLogged digest engine ctx readings options env input records (s, [])).2.2

end

/-- The environment of callbacks that are functions of the iteration, over the readings of the clock so far. -/
def RuntimeInput.environment (input : RuntimeInput) : Environment ℕ where
  now := fun n => (.ok (input.callbacks.now n), n + 1)
  observe := fun selected cursor graph n => (.ok (input.callbacks.observe (n - 2) selected cursor graph), n)
  isSuitable := fun selected observation n => (.ok (input.callbacks.isSuitable (n - 2) selected observation), n)
  recompose := fun selected observation graph cursor n =>
    (.ok (input.callbacks.recompose (n - 2) selected observation graph cursor), n)
  authorize := fun selected observation n => (input.callbacks.authorize (n - 2) selected observation, n)
  skills := fun selected => (input.skills selected).map fun skill state observation n => (.ok (skill state (some observation)), n)
  verify := fun state n => (.ok (input.verify state), n)

def RuntimeInput.toExecute (input : RuntimeInput) : ExecuteInput :=
  ⟨input.capabilityId, input.initialGraph, input.state, input.deadlineMs, input.fencingToken⟩

section
variable {digest : Synaptic.Digest} {engine : Engine} {ctx : RunContext} {readings : ℕ → Readings} {options : RuntimeOptions}
variable {input : RuntimeInput}

theorem answers_turn (run : RuntimeRun) (selected : JsString) :
    Answers (turn digest engine ctx readings options input.environment input.toExecute (input.callbacks.now 0) run selected)
      (run.iteration + 1) (runtimeStep digest engine ctx readings options input run selected) (run.iteration + 2) := by
  refine .after .note (.bind .only fun _ _ => .after .call (.bind .only fun _ _ => .bind .only fun _ _ => ?_))
  refine .after .call (.bind .only fun _ _ => ?_)
  have hunsuitable : Answers (unsuitable input.environment selected (input.callbacks.observe run.iteration selected run.cursor run.graph))
      (run.iteration + 2)
      (.ok ((((input.callbacks.observe run.iteration selected run.cursor run.graph).get "changed").getD .null).truthy &&
        !input.callbacks.isSuitable run.iteration selected (input.callbacks.observe run.iteration selected run.cursor run.graph)))
      (run.iteration + 2) := by
    unfold unsuitable
    split
    · rename_i hchanged
      rw [hchanged]
      exact .after .call .pure
    · rename_i hchanged
      rw [(Bool.not_eq_true _).mp hchanged]
      exact .pure
  refine .after hunsuitable ?_
  split
  · exact .bind .only fun _ _ => .after .call (.bind .only fun _ _ => .bind .call fun _ _ => .pure)
  · refine .bind .call fun _ _ => ?_
    cases hskill : input.skills selected with
    | none =>
      have hnone : input.environment.skills selected = none := by
        change (input.skills selected).map _ = none
        rw [hskill, Option.map_none]
      rw [hnone]
      exact fun _ => ⟨rfl, fun _ h => nomatch h⟩
    | some skill =>
      have hsome : input.environment.skills selected = some fun state observation n => (.ok (skill state (some observation)), n) := by
        change (input.skills selected).map _ = _
        rw [hskill, Option.map_some]
      rw [hsome]
      exact .after .only (.after .call .only)

theorem runtimeStep_iteration {run next : RuntimeRun} {selected : JsString}
    (h : runtimeStep digest engine ctx readings options input run selected = .ok next) : next.iteration = run.iteration + 1 := by
  simp only [runtimeStep, bind_eq_ok, ensure_eq_ok] at h
  obtain ⟨-, -, -, -, -, -, -, -, h⟩ := h
  split at h
  · simp only [bind_eq_ok, ensure_eq_ok, pure_eq_ok] at h
    obtain ⟨-, -, -, -, -, -, rfl⟩ := h
    rfl
  · simp only [bind_eq_ok, ensure_eq_ok, pure_eq_ok] at h
    obtain ⟨-, -, -, -, -, -, -, -, rfl⟩ := h
    rfl

theorem turns_next {run : RuntimeRun} (hcursor : run.cursor < run.graph.length) {σ : Type} {env : Environment σ} {input : ExecuteInput}
    {started : Option JsNumber} : turns digest engine ctx readings options env input started run =
      turn digest engine ctx readings options env input started run run.graph[run.cursor] >>=
        turns digest engine ctx readings options env input started := by
  funext s
  rw [turns, dif_pos hcursor, bind_apply]
  split
  · rename_i hresult
    rw [hresult]
  · rename_i hresult
    rw [hresult]

theorem answers_turns (run : RuntimeRun) : ∃ n,
    Answers (turns digest engine ctx readings options input.environment input.toExecute (input.callbacks.now 0) run)
      (run.iteration + 1) (runtimeLoop digest engine ctx readings options input run) n := by
  induction hleft : run.left options using Nat.strong_induction_on generalizing run with
  | _ left ih =>
  by_cases hcursor : run.cursor < run.graph.length
  · rw [turns_next hcursor, runtimeLoop_next hcursor]
    cases hstep : runtimeStep digest engine ctx readings options input run run.graph[run.cursor] with
    | error e =>
      refine ⟨0, .bind (hstep ▸ answers_turn run run.graph[run.cursor]) fun _ h => nomatch h⟩
    | ok next =>
      obtain ⟨n, hn⟩ := ih _ (hleft ▸ runtimeStep_left hstep hcursor) next rfl
      refine ⟨n, .bind (hstep ▸ answers_turn run run.graph[run.cursor]) ?_⟩
      rintro _ ⟨⟩
      rwa [runtimeStep_iteration hstep] at hn
  · refine ⟨run.iteration + 1, fun log => ?_⟩
    rw [turns, dif_neg hcursor, runtimeLoop, dif_neg hcursor]
    exact ⟨rfl, fun _ _ => rfl⟩

/-- Callbacks that always answer: the log aside, the execution is the one without a log. -/
theorem executeLogged_eq (records : List EdgeRecord) :
    (executeLogged digest engine ctx readings options input.environment input.toExecute records (0, [])).1 =
      execute digest engine ctx readings options input records := by
  let first : RuntimeRun := ⟨input.initialGraph, JsSet.empty, [], [], 0, 0, 0, input.state, records⟩
  obtain ⟨n, hn⟩ : ∃ n, Answers (turns digest engine ctx readings options input.environment input.toExecute (input.callbacks.now 0) first)
      1 (runtimeLoop digest engine ctx readings options input first) n := answers_turns first
  have hanswers : Answers (executeLogged digest engine ctx readings options input.environment input.toExecute records) 0
      (execute digest engine ctx readings options input records) n :=
    .after .call (.bind hn fun _ _ => .after .call .pure)
  exact (hanswers []).1

end

end ProcessIntelligence
