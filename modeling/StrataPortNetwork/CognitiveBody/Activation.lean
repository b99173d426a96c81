import StrataPortNetwork.CognitiveBody.ContentRoots
import StrataPortNetwork.CognitiveBody.Selection
import StrataPortNetwork.Logged

/-! # Execution of activation plans

The ports of a plan are activated one after another, each with what the one before it returned.
Between two activations other parts of the program may register ports.
-/
namespace CognitiveBody
open Js Logged
open CognitiveState (coalesce)

inductive ActivationFailure
  | rejected (error : CognitiveBodyError)
  /-- What a handler threw. -/
  | handler

/-- Ports are registered between two states of a fabric, and nothing else happens to it. -/
def Registers : CognitivePortFabric → CognitivePortFabric → Prop :=
  Relation.ReflTransGen fun fabric fabric' => ∃ descriptor callable port,
    CognitivePortFabric.registerPort fabric descriptor callable = .ok (fabric', port)

/-- A fabric at run time with the handlers of its ports. A handler returns or throws, and may do anything to the
state but change the fabric otherwise than by `registerPort`. -/
structure PortRuntime (σ α : Type) where
  fabric : σ → CognitivePortFabric
  handler : JsString → ActivationPlan → α → σ → Option α × σ
  registers : ∀ id plan a s, Registers (fabric s) (fabric (handler id plan a s).2)

/-- An activation with the state it was given and what came of it. -/
structure Activation (α : Type) where
  portId : JsString
  given : α
  result : Except ActivationFailure α

section
variable {σ α : Type} (runtime : PortRuntime σ α) (plan : ActivationPlan)

def unknownPort (portId : JsString) : ActivationFailure := .rejected ⟨"unknown_port", js "Unknown Cognitive Port: " ++ portId⟩

/-- `fabric.activate(portId, { plan, state })`. -/
def activate (given : α) (portId : JsString) : Act σ (Activation α) ActivationFailure α :=
  call (fun s =>
    if (runtime.fabric s).has portId then
      let (returned, s') := runtime.handler portId plan given s
      (returned.elim (.error .handler) .ok, s')
    else (.error (unknownPort portId), s)) fun result => ⟨portId, given, result⟩

/-- The loop of `executeActivationPlan` over ports. -/
def activateAll (payload : α) (portIds : List JsString) : Act σ (Activation α) ActivationFailure α :=
  portIds.foldlM (activate runtime plan) payload

/-- `executeActivationPlan({ plan, fabric, payload })`. -/
def executeActivationPlan (payload : α) : Act σ (Activation α) ActivationFailure α :=
  activateAll runtime plan payload plan.activePortIds

end

/-! ## Chains of activations -/

/-- Each activation is given what the one before it returned; a handler that throws ends the chain. -/
inductive Chain {α : Type} : α → List (Activation α) → Except ActivationFailure α → Prop
  | done (a : α) : Chain a [] (.ok a)
  | returned (portId : JsString) {a b : α} {rest : List (Activation α)} {result : Except ActivationFailure α}
      (later : Chain b rest result) : Chain a (⟨portId, a, .ok b⟩ :: rest) result
  | failed (portId : JsString) (a : α) : Chain a [⟨portId, a, .error .handler⟩] (.error .handler)

/-- A port that is registered stays as it was registered. -/
theorem get_of_registers {fabric fabric' : CognitivePortFabric} (h : Registers fabric fabric') {id : JsString} {port : CognitivePort}
    (hget : fabric.get id = some port) : fabric'.get id = some port := by
  induction h with
  | refl => exact hget
  | @tail fabric₁ fabric₂ _ hstep ih =>
    obtain ⟨descriptor, callable, shown, hstep⟩ := hstep
    simp only [CognitivePortFabric.registerPort, bind_eq_ok, ensure_eq_ok, pure_eq_ok, Prod.mk.injEq] at hstep
    obtain ⟨found, -, _, hfresh, _, -, registered, hport, hput, -⟩ := hstep
    have hid : registered.portId = found.1 := by
      simp only [portOf, bind_eq_ok, pure_eq_ok] at hport
      obtain ⟨-, -, -, -, rfl⟩ := hport
      rfl
    have hne : (registered.portId == id) = false := by
      rw [hid, beq_eq_false_iff_ne]
      rintro rfl
      have hhas : fabric₁.has found.1 = true := JsMap.has_iff.mpr ⟨port, ih⟩
      rw [hhas] at hfresh
      cases hfresh
    rw [← hput, Registry.get_put, hne]
    exact ih

section
variable {σ α : Type} {runtime : PortRuntime σ α} {plan : ActivationPlan}

theorem activate_eq {id : JsString} {s : σ} (h : (runtime.fabric s).has id = true) (given : α) (log : List (Activation α)) :
    activate runtime plan given id (s, log) = (((runtime.handler id plan given s).1.elim (.error .handler) .ok),
      (runtime.handler id plan given s).2,
      log ++ [⟨id, given, (runtime.handler id plan given s).1.elim (.error .handler) .ok⟩]) := by
  rw [activate, call, if_pos h]

theorem activateAll_chain {fabric : CognitivePortFabric} {portIds : List JsString} {s : σ} (h : ∀ id ∈ portIds, fabric.has id = true)
    (hfabric : Registers fabric (runtime.fabric s)) (payload : α) (log : List (Activation α)) : ∃ new s' result,
      activateAll runtime plan payload portIds (s, log) = (result, s', log ++ new) ∧ Chain payload new result ∧
      new.map Activation.portId <+: portIds ∧ ((∃ a, result = .ok a) → new.map Activation.portId = portIds) := by
  induction portIds generalizing payload s log with
  | nil =>
    refine ⟨[], s, .ok payload, ?_, .done payload, List.nil_prefix, fun _ => rfl⟩
    rw [List.append_nil]
    rfl
  | cons id rest ih =>
    obtain ⟨port, hport⟩ := JsMap.has_iff.mp (h id List.mem_cons_self)
    have hhas : (runtime.fabric s).has id = true := JsMap.has_iff.mpr ⟨port, get_of_registers hfabric hport⟩
    rw [activateAll, List.foldlM_cons, bind_apply, activate_eq hhas]
    cases hreply : (runtime.handler id plan payload s).1 with
    | none =>
      refine ⟨[⟨id, payload, .error .handler⟩], (runtime.handler id plan payload s).2, .error .handler, rfl, .failed id payload, ?_, ?_⟩
      · exact List.prefix_cons_inj id |>.mpr List.nil_prefix
      · rintro ⟨a, ha⟩
        cases ha
    | some returned =>
      have hlater := hfabric.trans (runtime.registers id plan payload s)
      obtain ⟨new, s', result, hrun, hchain, hprefix, hall⟩ := ih (fun id' hid' => h id' (List.mem_cons_of_mem id hid')) hlater returned
        (log ++ [⟨id, payload, .ok returned⟩])
      refine ⟨⟨id, payload, .ok returned⟩ :: new, s', result, ?_, .returned id hchain, ?_, fun hok => ?_⟩
      · rw [List.append_cons log _ new]
        exact hrun
      · exact List.prefix_cons_inj id |>.mpr hprefix
      · rw [List.map_cons, hall hok]

end

/-! ## Plans of a fabric -/

/-- The place of a type of ports in a plan. -/
def stage : PortType → ℕ
  | .intent => 0
  | .cogniton => 1
  | .process => 2
  | .verification => 3

/-- One port comes at an earlier stage than another. -/
def Precedes (fabric : CognitivePortFabric) (id id' : JsString) : Prop :=
  ∃ port port', fabric.get id = some port ∧ fabric.get id' = some port' ∧ stage port.portType < stage port'.portType

/-- The port is of a type. -/
def IsOfType (fabric : CognitivePortFabric) (portType : PortType) (id : JsString) : Prop :=
  ∃ port, fabric.get id = some port ∧ port.portType = portType

/-- The ports to activate are ports of the fabric, stage by stage, with a process port among them and a
verification port when one is required. -/
structure Staged (fabric : CognitivePortFabric) (plan : ActivationPlan) : Prop where
  present : ∀ id ∈ plan.activePortIds, fabric.has id = true
  staged : plan.activePortIds.Pairwise (Precedes fabric)
  process : ∃ id ∈ plan.activePortIds, IsOfType fabric .process id
  verification : plan.verificationRequired = true → ∃ id ∈ plan.activePortIds, IsOfType fabric .verification id

section
variable {collation : Collation} {fabric : CognitivePortFabric} {input : CompilerInput}

theorem get_of_mem_describePorts {port : CognitivePort} (h : port ∈ CognitivePortFabric.describePorts collation fabric) :
    fabric.get port.portId = some port :=
  Registry.mem_values_iff.mp ((Collation.perm_sortOn _ _).mem_iff.mp h)

/-- The first port of a type is a port of the fabric of that type. -/
theorem IsFirst.ofType (hports : input.fabric.ports = CognitivePortFabric.describePorts collation fabric) {snapshot contextRef : Json}
    {portType : PortType} {port : CognitivePort}
    (h : IsFirst collation snapshot contextRef input.fabric.ports portType input.intentClass (some port)) :
    fabric.get port.portId = some port ∧ port.portType = portType := by
  obtain ⟨hmem, hmatches⟩ := List.mem_filter.mp h.1
  rw [Bool.and_eq_true] at hmatches
  exact ⟨get_of_mem_describePorts (hports ▸ hmem), eq_of_beq hmatches.1⟩

/-- The types of ports in the order in which a plan activates them. -/
def stages : List PortType := [.intent, .cogniton, .process, .verification]

theorem plan_staged (hports : input.fabric.ports = CognitivePortFabric.describePorts collation fabric) {p : ActivationPlan}
    (h : CognitiveBody.plan collation input = .ok p) : Staged fabric p := by
  have hcheck := checkSnapshot_of_plan h
  choose selected hselected hfirst using fun portType => selectOne_eq collation (coalesce input.contextRef .null) input.fabric.ports portType
    input.intentClass hcheck
  have hget : ∀ {portType port}, selected portType = some port → fabric.get port.portId = some port ∧ port.portType = portType :=
    fun {portType port} hport => IsFirst.ofType hports (hport ▸ hfirst portType)
  obtain ⟨ranking, hranking, hhead⟩ := bind_eq_ok.mp (hselected .process)
  rw [pure_eq_ok] at hhead
  simp only [CognitiveBody.plan, bind_eq_ok, hselected, hranking, hhead, Except.ok.injEq, exists_eq_left', orThrow_eq_ok, ensure_eq_ok,
    pure_eq_ok] at h
  obtain ⟨-, -, -, -, intent, hintent, process, hprocess, -, hrequired, rfl⟩ := h
  have hactive : [some intent, selected .cogniton, some process, selected .verification].filterMap (fun port => port) =
      stages.filterMap selected := by
    rw [stages, ← hintent, ← hprocess]
    rfl
  have hmem : ∀ {portType port}, selected portType = some port → port.portId ∈ (stages.filterMap selected).map CognitivePort.portId := by
    intro portType port hport
    refine List.mem_map_of_mem (List.mem_filterMap.mpr ⟨portType, ?_, hport⟩)
    cases portType <;> decide
  refine ⟨?_, ?_, ?_, ?_⟩
  all_goals simp only [hactive]
  · rintro id hid
    obtain ⟨port, hport, rfl⟩ := List.mem_map.mp hid
    obtain ⟨portType, -, hsome⟩ := List.mem_filterMap.mp hport
    exact JsMap.has_iff.mpr ⟨port, (hget hsome).1⟩
  · rw [List.pairwise_map, List.pairwise_filterMap]
    have hstages : stages.Pairwise fun portType portType' => stage portType < stage portType' := by decide
    refine hstages.imp fun {portType portType'} hlt port hport port' hport' => ⟨port, port', (hget hport).1, (hget hport').1, ?_⟩
    rw [(hget hport).2, (hget hport').2]
    exact hlt
  · exact ⟨process.portId, hmem hprocess, process, hget hprocess⟩
  · intro hneeded
    rw [hneeded] at hrequired
    obtain ⟨port, hport⟩ := Option.isSome_iff_exists.mp hrequired
    exact ⟨port.portId, hmem hport, port, hget hport⟩

end

/-! ## Runs of plans -/

/-- The last of the ports that come stage by stage is the verification port, if there is one. -/
theorem last_of_staged {fabric : CognitivePortFabric} {ids : List JsString} (hstaged : ids.Pairwise (Precedes fabric)) {id : JsString}
    (hmem : id ∈ ids) (htype : IsOfType fabric .verification id) : ids.getLast? = some id := by
  obtain ⟨before, after, rfl⟩ := List.append_of_mem hmem
  have hafter : after = [] := by
    refine List.eq_nil_iff_forall_not_mem.mpr fun id' hid' => ?_
    obtain ⟨port, port', hport, -, hlt⟩ := (List.pairwise_cons.mp (List.pairwise_append.mp hstaged).2.1).1 id' hid'
    obtain ⟨verification, hget, hverification⟩ := htype
    obtain rfl : verification = port := Option.some.inj (hget.symm.trans hport)
    rw [hverification] at hlt
    cases hport' : port'.portType <;> rw [hport'] at hlt <;> exact absurd hlt (by decide)
  rw [hafter, List.getLast?_concat]

/-- What the activations of a plan come to. Ports are named by the fabric that the plan was compiled for. -/
structure Follows {α : Type} (fabric : CognitivePortFabric) (plan : ActivationPlan) (payload : α) (log : List (Activation α))
    (result : Except ActivationFailure α) : Prop where
  chain : Chain payload log result
  planned : log.map Activation.portId <+: plan.activePortIds
  staged : (log.map Activation.portId).Pairwise (Precedes fabric)
  processed : (∃ a, result = .ok a) → ∃ activation ∈ log, IsOfType fabric .process activation.portId
  verified : (∃ a, result = .ok a) → plan.verificationRequired = true →
    ∃ activation, log.getLast? = some activation ∧ IsOfType fabric .verification activation.portId

/-- A plan runs on every later state of the fabric it was compiled for: its ports are activated once, stage by
stage, each with what the one before it returned, until one throws. A run that ends well went through the
process port, and ended with the verification port when verification was required. -/
theorem executeActivationPlan_follows {σ α : Type} (digest : Synaptic.Digest) (collation : Collation) (runtime : PortRuntime σ α)
    (input : CompilerInput) (fabric : CognitivePortFabric) (hports : input.fabric.ports = CognitivePortFabric.describePorts collation fabric)
    {compiled : ActivationPlan × JsString} (h : compile digest collation input = .ok compiled) (payload : α) (s : σ)
    (hfabric : Registers fabric (runtime.fabric s)) : ∃ result s' log,
      executeActivationPlan runtime compiled.1 payload (s, []) = (result, s', log) ∧ Follows fabric compiled.1 payload log result := by
  rw [compile, bind_eq_ok] at h
  obtain ⟨p, hplan, h⟩ := h
  obtain rfl : compiled.1 = p := by
    obtain ⟨root, -, hpure⟩ := bind_eq_ok.mp h
    exact (congrArg Prod.fst (Except.ok.inj hpure)).symm
  obtain ⟨hpresent, hstaged, hprocess, hverification⟩ := plan_staged hports hplan
  obtain ⟨log, s', result, hrun, hchain, hprefix, hall⟩ := activateAll_chain hpresent hfabric payload []
  refine ⟨result, s', log, hrun, hchain, hprefix, hstaged.sublist hprefix.sublist, fun hok => ?_, fun hok hneeded => ?_⟩
  · obtain ⟨id, hid, htype⟩ := hprocess
    rw [← hall hok] at hid
    obtain ⟨activation, hmem, rfl⟩ := List.mem_map.mp hid
    exact ⟨activation, hmem, htype⟩
  · obtain ⟨id, hid, htype⟩ := hverification hneeded
    have hlast := last_of_staged hstaged hid htype
    rw [← hall hok, List.getLast?_map] at hlast
    obtain ⟨activation, hactivation, rfl⟩ := Option.map_eq_some_iff.mp hlast
    exact ⟨activation, hactivation, htype⟩

namespace Sample

def fabric : CognitivePortFabric := ports.foldl Registry.put Registry.empty

/-- Handlers that write down their port. -/
def recorder : PortRuntime CognitivePortFabric (List JsString) where
  fabric s := s
  handler id _ given s := (some (given ++ [id]), s)
  registers _ _ _ _ := .refl

def fabricInput : CompilerInput := { input with fabric := ⟨js "fabric", CognitivePortFabric.describePorts codeUnits fabric⟩ }

theorem recorder_follows : ∃ compiled result s' log, compile StateModule.Sample.zeros codeUnits fabricInput = .ok compiled ∧
    executeActivationPlan recorder compiled.1 [] (fabric, []) = (result, s', log) ∧ Follows fabric compiled.1 [] log result ∧
    result.toOption = some [js "intent", js "process-b", js "verification"] := by
  have hids : ((compile StateModule.Sample.zeros codeUnits fabricInput).map fun compiled => compiled.1.activePortIds).toOption =
      some [js "intent", js "process-b", js "verification"] := by decide +kernel
  cases hcompiled : compile StateModule.Sample.zeros codeUnits fabricInput with
  | error e =>
    rw [hcompiled] at hids
    cases hids
  | ok compiled =>
    rw [hcompiled] at hids
    obtain ⟨result, s', log, hrun, hfollows⟩ := executeActivationPlan_follows StateModule.Sample.zeros codeUnits recorder fabricInput fabric
      rfl hcompiled [] fabric .refl
    refine ⟨compiled, result, s', log, rfl, hrun, hfollows, ?_⟩
    have hactive : compiled.1.activePortIds = [js "intent", js "process-b", js "verification"] := Option.some.inj hids
    have hresult : (executeActivationPlan recorder compiled.1 [] (fabric, [])).1.toOption =
        some [js "intent", js "process-b", js "verification"] := by
      rw [executeActivationPlan, hactive]
      rfl
    rwa [hrun] at hresult

end Sample

end CognitiveBody
