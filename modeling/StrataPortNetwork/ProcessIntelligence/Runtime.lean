import StrataPortNetwork.ProcessIntelligence.Observer

/-! # Execution of promoted capabilities

The seed runtime executes the nodes of a sequential graph in order. The post-synthesis runtime
executes a list of skills that it may recompose on the way, under budgets of steps, of
recompositions and of time. Skills and callbacks are functions; a callback gets the number of
the iteration it is called in.
-/
namespace ProcessIntelligence
open Js
open CognitiveState (Value coalesce)

/-! ## Capabilities -/

inductive CompositionKind
  | sequential
  | parallel
  | fanOut
  | fanIn
  | conditional
  | iterative
  | competitive
  | cooperative
  | hierarchical
  | eventDriven
  deriving DecidableEq

inductive CapabilityState
  | candidate
  | testing
  | verified
  | prosynthesized
  | deprecated
  | quarantined
  deriving DecidableEq

/-- A graduated skill of a genome, whose role is not blank. -/
structure ProcessSkill where
  processId : JsString
  version : ℕ
  role : JsString
  role_named : role.all isWhiteSpace = false

def ProcessSkill.skillId (skill : ProcessSkill) : JsString :=
  js "kindred.process-skill." ++ skill.processId ++ js ".v" ++ natText skill.version

structure Node where
  nodeId : JsString
  skillId : JsString
  role : JsString

/-- The nodes that `synthesize` makes of skills. -/
def composeNodes (skills : List ProcessSkill) : List Node :=
  skills.mapIdx fun i skill => ⟨js "node-" ++ natText (i + 1), skill.skillId, skill.role⟩

structure Capability where
  capabilityId : Option Json
  status : CapabilityState
  kind : CompositionKind
  nodes : List Node

/-! ## Skills and their edges -/

/-- What a skill returns; a missing property is `none`. -/
structure SkillOutput where
  state : Value
  success : Option Json
  processId : Option Json
  startTime : Option Json
  endTime : Option Json
  verified : Option Json
  evidenceRefs : Option Json
  verificationRefs : Option Json
  retryCount : Option Json
  fallbackCount : Option Json
  errorClass : Option Json
  receiptRef : Option Json
  contribution : Option Json

/-- A skill gets the state and, from the post-synthesis runtime, an observation. -/
abbrev Skill := Value → Option Json → SkillOutput

/-- What an execution passes on to every edge. -/
structure RunContext where
  correlationId : Option Json
  contextRef : Option Json
  authorityRef : Option Json

/-- What the observer falls back on in one call. -/
structure Readings where
  startNow : Json
  endNow : Json
  executionId : JsString

/-- The ends of an edge, and the state before its skill. -/
structure Edge where
  sourceComponent : JsString
  targetComponent : JsString
  sourceRole : JsString
  targetRole : JsString
  capabilityId : Option Json
  before : Value

section
variable (digest : Synaptic.Digest) (engine : Engine)

/-- The call of `observe` for an edge; the runtimes pass references on differently. -/
def edgeCall (ctx : RunContext) (readings : Readings) (edge : Edge) (output : SkillOutput)
    (evidenceRefs verificationRefs receiptRef : Option Json) : Call where
  input := .defined [("correlation_id", ctx.correlationId), ("source_component", some (.str edge.sourceComponent)),
    ("target_component", some (.str edge.targetComponent)), ("source_role", some (.str edge.sourceRole)),
    ("target_role", some (.str edge.targetRole)), ("process_id", output.processId),
    ("skill_id", some (.str edge.targetComponent)), ("capability_id", edge.capabilityId),
    ("input_state_root", some (.str (stateRoot digest "edge-input" edge.before.json))),
    ("output_state_root", some (.str (stateRoot digest "edge-output" output.state.json))), ("start_time", output.startTime),
    ("end_time", output.endTime), ("success", output.success), ("verified", output.verified), ("evidence_refs", evidenceRefs),
    ("verification_refs", verificationRefs), ("retry_count", some (coalesce output.retryCount (.int 0))),
    ("fallback_count", some (coalesce output.fallbackCount (.int 0))), ("error_class", some (coalesce output.errorClass .null)),
    ("context_ref", ctx.contextRef), ("authority_ref", ctx.authorityRef), ("receipt_ref", receiptRef),
    ("contribution", some (coalesce output.contribution (.text "EXECUTION")))]
  startNow := readings.startNow
  endNow := readings.endNow
  executionId := readings.executionId

/-- `observe(input)` of an observer without listeners. -/
def observe (records : List EdgeRecord) (call : Call) : Outcome (List EdgeRecord) := do
  let r ← record engine call
  pure (records ++ [r])

def SkillOutput.succeeded (output : SkillOutput) : Bool := (output.success.getD .null).truthy

/-- `clone(value)` of a value in memory. -/
def clone (v : Value) : Value := ⟨v.json.rebuild, rebuild_rebuild v.json⟩

/-! ## The seed runtime -/

/-- The loop of `executeProsynthesizedCapability` between two nodes. -/
structure SeedRun where
  state : Value
  completed : List JsString
  records : List EdgeRecord

/-- One node of the graph. -/
def executeNode (ctx : RunContext) (readings : ℕ → Readings) (capabilityId : Option Json) (skills : JsString → Option Skill)
    (run : SeedRun) (node : Node) : Outcome SeedRun := do
  let implementation ← orThrow (skills node.skillId) (.rejected "process_skill_implementation_missing")
  let output := implementation run.state none
  let edge : Edge := {
    sourceComponent := run.completed.getLast?.getD (js "capability_port")
    targetComponent := node.skillId
    sourceRole := if run.completed.length = 0 then js "PROSYNTHESIZED_CAPABILITY" else js "PROCESS_SKILL"
    targetRole := node.role
    capabilityId
    before := clone run.state }
  let records ← observe engine run.records (edgeCall digest ctx (readings run.completed.length) edge output
    (some (coalesce output.evidenceRefs (.arr []))) (some (coalesce output.verificationRefs (.arr [])))
    (some (coalesce output.receiptRef .null)))
  ensure output.succeeded (.rejected "prosynthesized_capability_skill_failed")
  pure ⟨output.state, run.completed ++ [node.skillId], records⟩

structure Execution where
  state : Value
  completed : List JsString
  verified : Bool
  outcomeStateRoot : JsString
  records : List EdgeRecord

/-- `executeProsynthesizedCapability(input)` with the records of its observer so far. -/
def executeProsynthesizedCapability (ctx : RunContext) (readings : ℕ → Readings) (capability : Capability) (state : Value)
    (skills : JsString → Option Skill) (verify : Value → Bool) (records : List EdgeRecord) : Outcome Execution := do
  ensure (capability.status = .prosynthesized) (.rejected "capability_not_promoted")
  ensure (capability.kind = .sequential) (.rejected "seed_runtime_requires_sequential_graph")
  let run ← capability.nodes.foldlM (executeNode digest engine ctx readings capability.capabilityId skills) ⟨clone state, [], records⟩
  pure ⟨run.state, run.completed, verify run.state, stateRoot digest "verified-outcome" run.state.json, run.records⟩

/-! ## The post-synthesis runtime -/

/-- The callbacks of an execution, in the iteration of their number. -/
structure Callbacks where
  now : ℕ → Option JsNumber
  observe : ℕ → JsString → ℕ → List JsString → Json
  isSuitable : ℕ → JsString → Json → Bool
  recompose : ℕ → JsString → Json → List JsString → ℕ → JsString
  authorize : ℕ → JsString → Json → Outcome Unit

/-- A clock that reads no number passes no deadline. -/
def deadlinePassed (callbacks : Callbacks) (deadlineMs : Option JsNumber) (iteration : ℕ) : Bool :=
  match callbacks.now 0, deadlineMs, callbacks.now (iteration + 1) with
  | some started, some ms, some now => started.toRat + ms.toRat < now.toRat
  | _, _, _ => false

structure RuntimeInput where
  capabilityId : Option Json
  initialGraph : List JsString
  state : Value
  skills : JsString → Option Skill
  callbacks : Callbacks
  deadlineMs : Option JsNumber
  verify : Value → Bool
  fencingToken : Option Json

structure RuntimeOptions where
  maximumRecompositions : ℕ
  maximumSteps : ℕ

/-- `new PostSynthesizedRuntime(options)` without options. -/
def RuntimeOptions.default : RuntimeOptions := ⟨4, 64⟩

structure Recompilation where
  reasonCategory : Option Json
  replaced : JsString
  selected : JsString
  graphRoot : JsString

/-- The loop of `execute` between two iterations. -/
structure RuntimeRun where
  graph : List JsString
  visitedGraphs : JsSet JsString
  events : List Recompilation
  completed : List JsString
  cursor : ℕ
  recompositions : ℕ
  iteration : ℕ
  state : Value
  records : List EdgeRecord

def graphRoot (graph : List JsString) : JsString := stateRoot digest "post-synthesis-graph" (.arr (graph.map .str))

/-- One iteration of the loop, at the skill under the cursor. -/
def runtimeStep (ctx : RunContext) (readings : ℕ → Readings) (options : RuntimeOptions) (input : RuntimeInput) (run : RuntimeRun)
    (selected : JsString) : Outcome RuntimeRun := do
  ensure (run.completed.length < options.maximumSteps) (.rejected "post_synthesis_step_budget_exceeded")
  ensure (!deadlinePassed input.callbacks input.deadlineMs run.iteration) (.rejected "post_synthesis_deadline_exceeded")
  ensure (!(run.cursor == 0 && run.visitedGraphs.has (graphRoot digest run.graph))) (.rejected "post_synthesis_cycle_detected")
  let next := { run with
    visitedGraphs := run.visitedGraphs.add (graphRoot digest run.graph)
    iteration := run.iteration + 1 }
  let observation := input.callbacks.observe run.iteration selected run.cursor run.graph
  ensure (!observation.isNull) .typeError
  if ((observation.get "changed").getD .null).truthy && !input.callbacks.isSuitable run.iteration selected observation then do
    ensure (run.recompositions < options.maximumRecompositions) (.rejected "post_synthesis_recomposition_budget_exceeded")
    let replacement := input.callbacks.recompose run.iteration selected observation run.graph run.cursor
    ensure (!(replacement == selected || run.completed.contains replacement)) (.rejected "post_synthesis_cycle_detected")
    input.callbacks.authorize run.iteration replacement observation
    let graph := run.graph.set run.cursor replacement
    pure { next with
      graph
      recompositions := run.recompositions + 1
      events := run.events ++ [⟨observation.get "reason_category", selected, replacement, graphRoot digest graph⟩] }
  else do
    input.callbacks.authorize run.iteration selected observation
    let implementation ← orThrow (input.skills selected) .typeError
    let output := implementation run.state (some observation)
    let edge : Edge := {
      sourceComponent := if run.cursor = 0 then js "dynamic_capability_port" else run.graph.getD (run.cursor - 1) []
      targetComponent := selected
      sourceRole := if run.cursor = 0 then js "POST_SYNTHESIZED_CAPABILITY" else js "PROCESS_SKILL"
      targetRole := js "PROCESS_SKILL"
      capabilityId := input.capabilityId
      before := clone run.state }
    let records ← ProcessIntelligence.observe engine run.records (edgeCall digest ctx (readings run.completed.length) edge
      output output.evidenceRefs output.verificationRefs output.receiptRef)
    ensure output.succeeded (.rejected "post_synthesis_skill_failed")
    pure { next with
      state := output.state
      records
      completed := run.completed ++ [selected]
      cursor := run.cursor + 1 }

/-- What is left to do: recompositions, and skills under and after the cursor. -/
def RuntimeRun.left (options : RuntimeOptions) (run : RuntimeRun) : ℕ :=
  (options.maximumRecompositions - run.recompositions) + (run.graph.length - run.cursor)

variable {digest engine} in
/-- An iteration recomposes or moves on. -/
theorem runtimeStep_left {ctx : RunContext} {readings : ℕ → Readings} {options : RuntimeOptions} {input : RuntimeInput}
    {run next : RuntimeRun} {selected : JsString}
    (h : runtimeStep digest engine ctx readings options input run selected = .ok next)
    (hcursor : run.cursor < run.graph.length) : next.left options < run.left options := by
  simp only [runtimeStep, bind_eq_ok, ensure_eq_ok] at h
  obtain ⟨-, -, -, -, -, -, -, -, h⟩ := h
  split at h
  · simp only [bind_eq_ok, ensure_eq_ok, pure_eq_ok, decide_eq_true_eq] at h
    obtain ⟨-, hbudget, -, -, -, -, rfl⟩ := h
    simp only [RuntimeRun.left, List.length_set]
    omega
  · simp only [bind_eq_ok, ensure_eq_ok, pure_eq_ok] at h
    obtain ⟨-, -, -, -, -, -, -, -, rfl⟩ := h
    simp only [RuntimeRun.left]
    omega

/-- `while (cursor < graph.length)`. -/
def runtimeLoop (ctx : RunContext) (readings : ℕ → Readings) (options : RuntimeOptions) (input : RuntimeInput) (run : RuntimeRun) :
    Outcome RuntimeRun :=
  if hcursor : run.cursor < run.graph.length then
    match hstep : runtimeStep digest engine ctx readings options input run run.graph[run.cursor] with
    | .error e => .error e
    | .ok next => runtimeLoop ctx readings options input next
  else .ok run
termination_by run.left options
decreasing_by exact runtimeStep_left hstep hcursor

structure Checkpoint where
  capabilityId : Option Json
  correlationId : Option Json
  graph : List JsString
  completed : List JsString
  recompilationEvents : List Recompilation
  edgeRecordRefs : List Json
  authorityRef : Option Json
  stateRoot : JsString
  fencingToken : Option Json

structure DynamicExecution where
  state : Value
  verified : Bool
  completed : List JsString
  recompositions : ℕ
  events : List Recompilation
  checkpoint : Checkpoint
  records : List EdgeRecord

/-- `execute(input)` with the records of the observer so far. -/
def execute (ctx : RunContext) (readings : ℕ → Readings) (options : RuntimeOptions) (input : RuntimeInput)
    (records : List EdgeRecord) : Outcome DynamicExecution := do
  let run ← runtimeLoop digest engine ctx readings options input
    ⟨input.initialGraph, JsSet.empty, [], [], 0, 0, 0, input.state, records⟩
  pure {
    state := clone run.state
    verified := input.verify run.state
    completed := run.completed
    recompositions := run.recompositions
    events := run.events
    checkpoint := {
      capabilityId := input.capabilityId
      correlationId := ctx.correlationId
      graph := run.graph
      completed := run.completed
      recompilationEvents := run.events
      edgeRecordRefs := (run.records.filter fun r => ctx.correlationId == some (.str r.correlationId)).map
        EdgeRecord.edgeExecutionId
      authorityRef := ctx.authorityRef
      stateRoot := stateRoot digest "post-synthesis-working-set" run.state.json
      fencingToken := input.fencingToken }
    records := run.records }

end

end ProcessIntelligence
