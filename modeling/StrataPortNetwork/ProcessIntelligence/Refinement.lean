import StrataPortNetwork.ProcessIntelligence.Runtime

/-! # The post-synthesis runtime refines the seed runtime

As long as nothing is recomposed, the two loops go through the skills of a capability in lock
step: they apply the same skills to the same states and record the same state roots.
-/
namespace ProcessIntelligence
open Js
open CognitiveState (Value coalesce)

/-! ## Records of the same edge -/

/-- The state roots of a record. -/
def EdgeRecord.roots (r : EdgeRecord) : JsString × JsString := (r.inputStateRoot, r.outputStateRoot)

theorem bind_ok {α β : Type} (x : α) (k : α → Outcome β) : (Except.ok x >>= k) = k x := rfl

/-- Calls that agree on what `observe` checks and on the state roots. -/
theorem roots_record {engine : Engine} {call call' : Call} (hstart : call.startNow = call'.startNow)
    (hend : call.endNow = call'.endNow)
    (hget : ∀ name ∈ ["start_time", "end_time", "hidden_reasoning", "chain_of_thought", "correlation_id", "input_state_root",
      "output_state_root", "retry_count", "fallback_count"], call.input.get name = call'.input.get name)
    (hrefs : ∀ name ∈ ["evidence_refs", "verification_refs"],
      coalesce (call.input.get name) (.arr []) = coalesce (call'.input.get name) (.arr []))
    (hnames : ∀ name ∈ ["source_component", "target_component", "source_role", "target_role"], ∃ s s',
      nonEmpty (call.input.get name) "edge_identity_invalid" = .ok s ∧
      nonEmpty (call'.input.get name) "edge_identity_invalid" = .ok s') :
    EdgeRecord.roots <$> record engine call = EdgeRecord.roots <$> record engine call' := by
  simp only [List.forall_mem_cons] at hget hrefs hnames
  obtain ⟨hstartTime, hendTime, hhidden, hchain, hcorrelation, hinput, houtput, hretry, hfallback, -⟩ := hget
  obtain ⟨hevidence, hverification, -⟩ := hrefs
  obtain ⟨⟨_, _, hsource, hsource'⟩, ⟨_, _, htarget, htarget'⟩, ⟨_, _, hsourceRole, hsourceRole'⟩,
    ⟨_, _, htargetRole, htargetRole'⟩, -⟩ := hnames
  simp only [record, hstart, hend, hstartTime, hendTime, hhidden, hchain, hcorrelation, hinput, houtput, hretry, hfallback,
    hevidence, hverification, hsource, hsource', htarget, htarget', hsourceRole, hsourceRole', htargetRole, htargetRole',
    map_bind, map_pure, bind_ok, EdgeRecord.roots]

section
variable {digest : Synaptic.Digest} {engine : Engine} {ctx : RunContext} {readings : Readings} {output : SkillOutput}

/-- The names on an edge are not blank. -/
structure Edge.Named (edge : Edge) : Prop where
  sourceComponent : edge.sourceComponent.all isWhiteSpace = false
  targetComponent : edge.targetComponent.all isWhiteSpace = false
  sourceRole : edge.sourceRole.all isWhiteSpace = false
  targetRole : edge.targetRole.all isWhiteSpace = false

theorem nonEmpty_of_named {s : JsString} (h : s.all isWhiteSpace = false) (reasonClass : String) :
    nonEmpty (some (.str s)) reasonClass = .ok s := by
  have hensure : ensure (!s.all isWhiteSpace) (Failure.rejected reasonClass) = .ok () := by
    rw [h]
    rfl
  change (do ensure (!s.all isWhiteSpace) (Failure.rejected reasonClass); pure s) = _
  rw [hensure]
  rfl

/-- Both runtimes record the same roots of an edge, or fail alike. -/
theorem roots_edgeCall {edge edge' : Edge} (hbefore : edge.before = edge'.before) (hnamed : edge.Named) (hnamed' : edge'.Named) :
    EdgeRecord.roots <$> record engine (edgeCall digest ctx readings edge output (some (coalesce output.evidenceRefs (.arr [])))
        (some (coalesce output.verificationRefs (.arr []))) (some (coalesce output.receiptRef .null))) =
      EdgeRecord.roots <$> record engine (edgeCall digest ctx readings edge' output output.evidenceRefs output.verificationRefs
        output.receiptRef) := by
  have hcoalesce : ∀ v : Option Json, coalesce (some (coalesce v (.arr []))) (.arr []) = coalesce v (.arr []) := by
    intro v
    rcases v with _ | v
    · rfl
    · cases v <;> rfl
  have hget : ∀ edge evidenceRefs verificationRefs receiptRef name,
      (edgeCall digest ctx readings edge output evidenceRefs verificationRefs receiptRef).input.get name = _ :=
    fun _ _ _ _ name => Json.get_defined (by simp) name
  refine roots_record rfl rfl ?_ ?_ ?_
  · simp only [List.forall_mem_cons]
    refine ⟨?_, ?_, ?_, ?_, ?_, ?_, ?_, ?_, ?_, by simp⟩
    all_goals rw [hget, hget]
    all_goals first
      | rfl
      | rw [hbefore]; rfl
  · simp only [List.forall_mem_cons]
    refine ⟨?_, ?_, by simp⟩
    all_goals rw [hget, hget]
    all_goals exact hcoalesce _
  · simp only [List.forall_mem_cons]
    refine ⟨?_, ?_, ?_, ?_, by simp⟩
    all_goals rw [hget, hget]
    · exact ⟨_, _, nonEmpty_of_named hnamed.sourceComponent _, nonEmpty_of_named hnamed'.sourceComponent _⟩
    · exact ⟨_, _, nonEmpty_of_named hnamed.targetComponent _, nonEmpty_of_named hnamed'.targetComponent _⟩
    · exact ⟨_, _, nonEmpty_of_named hnamed.sourceRole _, nonEmpty_of_named hnamed'.sourceRole _⟩
    · exact ⟨_, _, nonEmpty_of_named hnamed.targetRole _, nonEmpty_of_named hnamed'.targetRole _⟩

theorem root_of_get {call : Call} {name : String} {s root : JsString} (hget : call.input.get name = some (.str s))
    {reasonClass : String} (h : nonEmpty (call.input.get name) reasonClass = .ok root) : root = s := by
  rw [hget] at h
  simp only [nonEmpty, bind_eq_ok, orThrow_eq_ok, pure_eq_ok] at h
  obtain ⟨_, hs, -, -, rfl⟩ := h
  exact (Option.some.inj hs).symm

/-- A record of an edge has the roots of the states before and after its skill. -/
theorem roots_of_record {edge : Edge} {evidenceRefs verificationRefs receiptRef : Option Json} {r : EdgeRecord}
    (h : record engine (edgeCall digest ctx readings edge output evidenceRefs verificationRefs receiptRef) = .ok r) :
    r.roots = (stateRoot digest "edge-input" edge.before.json, stateRoot digest "edge-output" output.state.json) := by
  have hinput : (edgeCall digest ctx readings edge output evidenceRefs verificationRefs receiptRef).input.get "input_state_root" =
      some (.str (stateRoot digest "edge-input" edge.before.json)) := Json.get_defined (by simp) _
  have houtput : (edgeCall digest ctx readings edge output evidenceRefs verificationRefs receiptRef).input.get "output_state_root" =
      some (.str (stateRoot digest "edge-output" output.state.json)) := Json.get_defined (by simp) _
  simp only [record, bind_eq_ok, pure_eq_ok] at h
  obtain ⟨_, -, _, -, -, -, -, -, _, -, _, -, _, -, _, -, _, -, before, hbefore, after, hafter, -, -, -, -, -, -, -, -, -, -, -, -, rfl⟩ := h
  exact Prod.ext (root_of_get hinput hbefore) (root_of_get houtput hafter)

end

/-! ## Computations that agree -/

section
variable {α β γ δ : Type} {same : Prop} {R : α → β → Prop} {S : γ → δ → Prop}

/-- The results are related whenever both return, and if `same` the two fail alike. -/
def Agree (same : Prop) (R : α → β → Prop) (x : Outcome α) (y : Outcome β) : Prop :=
  (∀ a b, x = .ok a → y = .ok b → R a b) ∧ (same → ∀ e, x = .error e ↔ y = .error e)

theorem error_iff_of_map_eq {f : α → γ} {x y : Outcome α} (h : f <$> x = f <$> y) (e : Failure) :
    x = .error e ↔ y = .error e := by
  cases x <;> cases y <;> simp_all [Functor.map, Except.map]

theorem Agree.pure {a : α} {b : β} (h : R a b) : Agree same R (.ok a) (.ok b) := by
  refine ⟨?_, fun _ e => by simp⟩
  rintro _ _ ⟨⟩ ⟨⟩
  exact h

theorem Agree.bind {x : Outcome α} {y : Outcome β} {f : α → Outcome γ} {g : β → Outcome δ} (hxy : Agree same R x y)
    (hfg : ∀ a b, x = .ok a → y = .ok b → R a b → Agree same S (f a) (g b)) : Agree same S (x >>= f) (y >>= g) := by
  constructor
  · intro c d hc hd
    obtain ⟨a, ha, hc⟩ := bind_eq_ok.mp hc
    obtain ⟨b, hb, hd⟩ := bind_eq_ok.mp hd
    exact (hfg a b ha hb (hxy.1 a b ha hb)).1 c d hc hd
  · intro hsame e
    have herror := hxy.2 hsame
    cases x with
    | error e' =>
      rw [(herror e').mp rfl]
      constructor <;> exact fun h => congrArg Except.error (Except.error.inj h)
    | ok a =>
      cases y with
      | error e' => exact absurd ((herror e').mpr rfl) (by simp)
      | ok b => exact (hfg a b rfl rfl (hxy.1 a b rfl rfl)).2 hsame e

end

/-! ## Lock step -/

/-- The skills of the nodes look at the state only, and succeed. -/
def Dependable (skills : JsString → Option Skill) (nodes : List Node) : Prop :=
  ∀ node ∈ nodes, ∃ skill, skills node.skillId = some skill ∧
    ∀ v observation, skill v observation = skill v none ∧ (skill v none).succeeded = true

/-- The callbacks report no change, authorise everything and stay before the deadline. -/
structure Callbacks.Steady (callbacks : Callbacks) (deadlineMs : Option JsNumber) : Prop where
  observed : ∀ i selected cursor graph, (callbacks.observe i selected cursor graph).isNull = false
  unchanged : ∀ i selected cursor graph, (((callbacks.observe i selected cursor graph).get "changed").getD .null).truthy = false
  authorized : ∀ i selected observation, callbacks.authorize i selected observation = .ok ()
  inTime : ∀ i, deadlinePassed callbacks deadlineMs i = false

theorem clone_eq (v : Value) : clone v = v := by
  have hjson : (clone v).json = v.json := v.rebuilt
  cases v
  simp_all [clone]

/-- The names of a node are not blank. -/
def Node.Named (node : Node) : Prop :=
  node.skillId.all isWhiteSpace = false ∧ node.role.all isWhiteSpace = false

theorem ProcessSkill.skillId_named (skill : ProcessSkill) : skill.skillId.all isWhiteSpace = false := by
  have hprefix : (js "kindred.process-skill.").all isWhiteSpace = false := rfl
  simp only [ProcessSkill.skillId, List.all_append, hprefix, Bool.false_and]

theorem composeNodes_named (skills : List ProcessSkill) : ∀ node ∈ composeNodes skills, node.Named := by
  intro node hnode
  obtain ⟨i, hi, rfl⟩ := List.mem_mapIdx.mp hnode
  exact ⟨skills[i].skillId_named, skills[i].role_named⟩

section
variable {digest : Synaptic.Digest} {engine : Engine} {ctx : RunContext} {readings readings' : ℕ → Readings}
variable {skills : JsString → Option Skill} {options : RuntimeOptions} {input : RuntimeInput} {capabilityId : Option Json}
variable {start start' : List EdgeRecord} {ids : List JsString}

/-- The two loops are at the same node of the skills `ids`, with the nodes in `rest` still to come. -/
structure Lockstep (start start' : List EdgeRecord) (ids : List JsString) (rest : List Node) (seed : SeedRun)
    (run : RuntimeRun) : Prop where
  state : seed.state = run.state
  completed : seed.completed = run.completed
  graph : run.graph = ids
  ahead : ids = run.completed ++ rest.map Node.skillId
  cursor : run.cursor = run.completed.length
  unvisited : run.cursor = 0 → run.visitedGraphs = JsSet.empty
  named : ∀ id ∈ run.completed, id.all isWhiteSpace = false
  recorded : ∃ added added', seed.records = start ++ added ∧ run.records = start' ++ added' ∧
    added.map EdgeRecord.roots = added'.map EdgeRecord.roots ∧ added.length = run.completed.length

theorem agree_observe {edge edge' : Edge} {i : ℕ} {output : SkillOutput} (records records' : List EdgeRecord)
    (hbefore : edge.before = edge'.before) (hnamed : edge.Named) (hnamed' : edge'.Named) :
    Agree (readings = readings') (fun s s' => ∃ r r', s = records ++ [r] ∧ s' = records' ++ [r'] ∧ r.roots = r'.roots)
      (observe engine records (edgeCall digest ctx (readings i) edge output (some (coalesce output.evidenceRefs (.arr [])))
        (some (coalesce output.verificationRefs (.arr []))) (some (coalesce output.receiptRef .null))))
      (observe engine records' (edgeCall digest ctx (readings' i) edge' output output.evidenceRefs output.verificationRefs
        output.receiptRef)) := by
  refine Agree.bind (R := fun r r' => r.roots = r'.roots) ⟨?_, ?_⟩ ?_
  · intro r r' hr hr'
    rw [roots_of_record hr, roots_of_record hr', hbefore]
  · rintro rfl e
    exact error_iff_of_map_eq (roots_edgeCall hbefore hnamed hnamed') e
  · intro r r' _ _ hroots
    exact .pure ⟨r, r', rfl, rfl, hroots⟩

/-- Both loops take the next node alike. -/
theorem agree_step {node : Node} {rest : List Node} {seed : SeedRun} {run : RuntimeRun}
    (h : Lockstep start start' ids (node :: rest) seed run) (hnode : node.Named) (hskills : Dependable skills (node :: rest))
    (hinput : input.skills = skills) (hsteady : input.callbacks.Steady input.deadlineMs)
    (hbudget : ids.length ≤ options.maximumSteps) :
    Agree (readings = readings') (Lockstep start start' ids rest)
      (executeNode digest engine ctx readings capabilityId skills seed node)
      (runtimeStep digest engine ctx readings' options input run node.skillId) := by
  obtain ⟨skill, hskill, hpure⟩ := hskills node List.mem_cons_self
  have hignores : ∀ observation, skill run.state observation = skill run.state none := fun observation =>
    (hpure run.state observation).1
  have hsucceeded : (skill run.state none).succeeded = true := (hpure run.state none).2
  have hlength : run.completed.length < options.maximumSteps := by
    have := congrArg List.length h.ahead
    simp only [List.length_append, List.length_map, List.length_cons] at this
    omega
  have hfresh : (run.cursor == 0 && run.visitedGraphs.has (graphRoot digest run.graph)) = false := by
    by_cases hcursor : run.cursor = 0
    · rw [h.unvisited hcursor, Bool.and_eq_false_iff]
      exact .inr rfl
    · rw [beq_false_of_ne hcursor, Bool.false_and]
  simp only [runtimeStep, executeNode, hlength, hsteady.inTime, hfresh, hsteady.observed, hsteady.unchanged,
    hsteady.authorized, hinput, hskill, hignores, hsucceeded, h.state, h.completed, ensure, orThrow, decide_true,
    Bool.not_false, if_true, bind_ok, Bool.false_and, Bool.false_eq_true, if_false]
  refine Agree.bind (agree_observe seed.records run.records rfl ?_ ?_) ?_
  · refine ⟨?_, hnode.1, ?_, hnode.2⟩
    · change (run.completed.getLast?.getD (js "capability_port")).all isWhiteSpace = false
      cases hlast : run.completed.getLast? with
      | none => rfl
      | some last => exact h.named last (List.mem_of_getLast? hlast)
    · change (if _ then js "PROSYNTHESIZED_CAPABILITY" else js "PROCESS_SKILL").all isWhiteSpace = false
      split <;> rfl
  · refine ⟨?_, hnode.1, ?_, rfl⟩
    · change (if run.cursor = 0 then js "dynamic_capability_port" else run.graph.getD (run.cursor - 1) []).all isWhiteSpace = false
      split
      · rfl
      · rename_i hcursor
        have hbefore : run.cursor - 1 < run.completed.length := by
          have := h.cursor
          omega
        rw [h.graph, h.ahead, List.getD_eq_getElem?_getD, List.getElem?_append_left hbefore,
          List.getElem?_eq_getElem hbefore, Option.getD_some]
        exact h.named _ (List.getElem_mem hbefore)
    · change (if _ then js "POST_SYNTHESIZED_CAPABILITY" else js "PROCESS_SKILL").all isWhiteSpace = false
      split <;> rfl
  · rintro _ _ - - ⟨r, r', rfl, rfl, hroots⟩
    obtain ⟨added, added', hadded, hadded', hsame, hcount⟩ := h.recorded
    refine .pure {
      state := rfl
      completed := rfl
      graph := h.graph
      ahead := ?_
      cursor := ?_
      unvisited := ?_
      named := ?_
      recorded := ⟨added ++ [r], added' ++ [r'], ?_, ?_, ?_, ?_⟩ }
    · simp [h.ahead]
    · simp [h.cursor]
    · simp
    · intro id hid
      rcases List.mem_append.mp hid with hid | hid
      · exact h.named id hid
      · rw [List.mem_singleton.mp hid]
        exact hnode.1
    · rw [hadded, List.append_assoc]
    · rw [hadded', List.append_assoc]
    · rw [List.map_append, List.map_append, hsame, List.map_singleton, List.map_singleton, hroots]
    · rw [List.length_append, List.length_append, hcount, List.length_singleton, List.length_singleton]

theorem runtimeLoop_next {run : RuntimeRun} (hcursor : run.cursor < run.graph.length) :
    runtimeLoop digest engine ctx readings options input run =
      runtimeStep digest engine ctx readings options input run run.graph[run.cursor] >>=
        runtimeLoop digest engine ctx readings options input := by
  rw [runtimeLoop, dif_pos hcursor]
  split
  · rename_i e hstep
    rw [hstep]
    rfl
  · rename_i next hstep
    rw [hstep]
    rfl

/-- The two loops agree from any nodes on that they are in lock step at. -/
theorem agree_loop {rest : List Node} {seed : SeedRun} {run : RuntimeRun} (h : Lockstep start start' ids rest seed run)
    (hnodes : ∀ node ∈ rest, node.Named) (hskills : Dependable skills rest) (hinput : input.skills = skills)
    (hsteady : input.callbacks.Steady input.deadlineMs) (hbudget : ids.length ≤ options.maximumSteps) :
    Agree (readings = readings') (Lockstep start start' ids [])
      (rest.foldlM (executeNode digest engine ctx readings capabilityId skills) seed)
      (runtimeLoop digest engine ctx readings' options input run) := by
  induction rest generalizing seed run with
  | nil =>
    have hcursor : ¬ run.cursor < run.graph.length := by
      rw [h.graph, h.ahead, h.cursor]
      simp
    rw [runtimeLoop, dif_neg hcursor]
    exact .pure h
  | cons node rest ih =>
    have hcursor : run.cursor < run.graph.length := by
      rw [h.graph, h.ahead, h.cursor]
      simp
    have hselected : run.graph[run.cursor] = node.skillId := by
      simp only [h.graph, h.ahead, h.cursor, List.getElem_append_right (Nat.le_refl _), Nat.sub_self, List.map_cons, List.getElem_cons_zero]
    rw [List.foldlM_cons, runtimeLoop_next hcursor, hselected]
    refine Agree.bind (agree_step h (hnodes node List.mem_cons_self) hskills hinput hsteady hbudget) ?_
    intro seed' run' hseed' hrun' h'
    exact ih h' (fun n hn => hnodes n (List.mem_cons_of_mem _ hn)) fun n hn => hskills n (List.mem_cons_of_mem _ hn)

end

/-! ## The refinement -/

/-- A call of `execute` on the skills of a capability. -/
def Capability.runtimeInput (capability : Capability) (state : Value) (skills : JsString → Option Skill) (callbacks : Callbacks)
    (deadlineMs : Option JsNumber) (verify : Value → Bool) (fencingToken : Option Json) : RuntimeInput where
  capabilityId := capability.capabilityId
  initialGraph := capability.nodes.map Node.skillId
  state := state
  skills := skills
  callbacks := callbacks
  deadlineMs := deadlineMs
  verify := verify
  fencingToken := fencingToken

/-- What the two runtimes leave behind is the same, up to the clocks and identifiers of the records. -/
structure SameOutcome (start start' : List EdgeRecord) (seed : Execution) (dynamic : DynamicExecution) : Prop where
  state : seed.state = dynamic.state
  completed : seed.completed = dynamic.completed
  verified : seed.verified = dynamic.verified
  recorded : ∃ added added', seed.records = start ++ added ∧ dynamic.records = start' ++ added' ∧
    added.map EdgeRecord.roots = added'.map EdgeRecord.roots ∧ added.length = seed.completed.length

namespace Sample

def reading : ProcessSkill := ⟨js "read", 1, js "reader", rfl⟩
def writing : ProcessSkill := ⟨js "write", 2, js "writer", rfl⟩

/-- A capability that reads twice before it writes. -/
def readingTwice : Capability :=
  ⟨some (.text "capability-1"), .prosynthesized, .sequential, composeNodes [reading, reading, writing]⟩

def counted : Value → Value
  | ⟨.num (.int i), _⟩ => ⟨.int (i + 1), rfl⟩
  | v => v

/-- Skills that count their runs, within the same second. -/
def counting : JsString → Option Skill := fun _ => some fun v _ => {
  state := counted v
  success := some (.bool true)
  processId := none
  startTime := some (.int 0)
  endTime := some (.int 250)
  verified := some (.bool true)
  evidenceRefs := none
  verificationRefs := none
  retryCount := none
  fallbackCount := none
  errorClass := none
  receiptRef := none
  contribution := none }

def steady : Callbacks where
  now := fun _ => some (.int 0)
  observe := fun _ _ _ _ => .record [("changed", .bool false)]
  isSuitable := fun _ _ _ => true
  recompose := fun _ selected _ _ _ => selected
  authorize := fun _ _ _ => .ok ()

def secondEngine : Engine where
  toNumber := fun v => match v with
    | .num x => some x
    | _ => none
  toISOString := fun _ => some (js "1970-01-01T00:00:00.000Z")

def taskContext : RunContext := ⟨some (.text "task-1"), none, none⟩
def still : ℕ → Readings := fun _ => ⟨.int 0, .int 0, js "edge"⟩

end Sample

end ProcessIntelligence
