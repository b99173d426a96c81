import StrataPortNetwork.CognitiveBody.Compiler

/-! # Cognitons, their graph and the port fabric

What is returned is a frozen copy with the root of its state. Copying assigns the properties of
an object one by one, so a property named `__proto__` sets the prototype of the copy instead.
-/
namespace CognitiveBody
open Js
open CognitiveState (Value coalesce)

inductive Failure
  | rejected (e : CognitiveBodyError)
  | typeError
  deriving DecidableEq

abbrev Attempt := Except Failure

def rejected (code message : String) : Failure := .rejected (reject code message)

/-! ## Frozen copies -/

mutual

/-- `freezeClone(value)`, as far as own properties show. -/
def freezeClone : Json → Json
  | .null => .null
  | .bool b => .bool b
  | .num x => .num x
  | .str s => .str s
  | .arr items => .arr (freezeCloneItems items)
  | .obj fields =>
    .obj (Json.fromEntries ((sortOn Prod.fst (freezeCloneFields fields)).filter fun f => f.1 ≠ js "__proto__"))

def freezeCloneItems : List Json → List Json
  | [] => []
  | v :: rest => freezeClone v :: freezeCloneItems rest

def freezeCloneFields : Fields → Fields
  | [] => []
  | f :: rest => (f.1, freezeClone f.2) :: freezeCloneFields rest

end

section
variable (digest : Synaptic.Digest)

/-- `freezeClone({...state, state_root: cognitiveStateRoot(label, state)})`. -/
def freezeWithRoot (label : String) (state : List (String × Json)) : Attempt Json := do
  let stateRoot ← (cognitiveStateRoot digest label (.record state)).mapError .rejected
  pure (freezeClone (.record (state ++ [("state_root", .str stateRoot)])))

/-! ## Cognitons -/

def COGNITON_CONTRACT_VERSION : String := "kindred.cogniton.v1"

/-- `Number.isInteger(version) && version > 0 ? version : 1`. -/
def versionOf (version : Option Json) : ℤ :=
  match version with
  | some (.num (.int i)) => if 0 < i then i else 1
  | _ => 1

/-- `Array.isArray(value) ? [...new Set(value.map(String))].sort() : []`. -/
def sortedTexts (value : Option Json) : Attempt (List JsString) :=
  match value.bind Json.items? with
  | some items => do
    let texts ← orThrow (items.mapM Json.toStr?) .typeError
    pure (Json.sortKeys (JsSet.ofList texts).items)
  | none => pure []

def nonEmptyText? (value : Option Json) : Option JsString := value.bind Synaptic.Synaptizer.nonEmptyText?

/-- The material of a cogniton. -/
def material (input : Json) (kind : JsString) (relations : List JsString) : List (String × Json) := [
  ("contract", .text COGNITON_CONTRACT_VERSION), ("version", .int (versionOf (input.get "version"))), ("kind", .str kind),
  ("value", coalesce (input.get "value") .null), ("relations", .arr (relations.map .str)),
  ("provenance", coalesce (input.get "provenance") .null)]

/-- The id that the input gives, or the root of the material. -/
def addressOf (input : Json) (material : List (String × Json)) : Attempt JsString :=
  match nonEmptyText? (input.get "cogniton_id") with
  | some id => pure id
  | none => (cognitiveStateRoot digest "cogniton-address" (.record material)).mapError .rejected

/-- What `createCogniton(input)` commits to. -/
def cognitonState (input : Json) : Attempt (List (String × Json)) := do
  ensure (Synaptic.isObject (some input)) (rejected "invalid_cogniton" "Cogniton input must be an object")
  let kind ← orThrow (nonEmptyText? (input.get "kind")) (rejected "invalid_cogniton_kind" "Cogniton kind is required")
  let relations ← sortedTexts (input.get "relations")
  let address ← addressOf digest input (material input kind relations)
  pure (material input kind relations ++ [("cogniton_id", .str address)])

/-- `createCogniton(input)`. -/
def createCogniton (input : Json) : Attempt Json := do
  let state ← cognitonState digest input
  freezeWithRoot digest "cogniton-state" state

/-! ## The graph -/

/-- `cogniton.cogniton_id`. -/
def cognitonId (cogniton : Value) : JsString := ((cogniton.json.get "cogniton_id").bind Json.str?).getD []

/-- The cognitons under their ids and the ids of the active ones. -/
structure CognitiveGraph where
  cognitons : Registry JsString Value cognitonId
  active : JsSet JsString

namespace CognitiveGraph
variable (collation : Collation) (graph : CognitiveGraph)

/-- `new CognitiveGraph()`. -/
def empty : CognitiveGraph := ⟨Registry.empty, JsSet.empty⟩

def invalidCogniton : Failure := rejected "invalid_cogniton_contract" "CognitiveGraph accepts canonical Cognitons only"

/-- `add(cogniton)`. -/
def add (cogniton : Value) : Attempt CognitiveGraph := do
  ensure (cogniton.json.get "contract" == some (.text COGNITON_CONTRACT_VERSION)) invalidCogniton
  let _ ← orThrow ((cogniton.json.get "cogniton_id").bind Json.str?) invalidCogniton
  pure { graph with cognitons := graph.cognitons.put cogniton }

def cognitonsInOrder : List Value := collation.sortOn cognitonId graph.cognitons.values

/-- What `snapshot()` commits to. -/
def state : List (String × Json) := [("contract", .text "kindred.cognitive-graph.v1"),
  ("cognitons", .arr ((graph.cognitonsInOrder collation).map Value.json)),
  ("active_cogniton_ids", .arr ((Json.sortKeys graph.active.items).map .str))]

/-- `snapshot()`. -/
def snapshot : Attempt Json := freezeWithRoot digest "cognitive-graph" (graph.state collation)

/-- `activate(cognitonId)`: the graph afterwards and the snapshot. -/
def activate (id : JsString) : Attempt (CognitiveGraph × Json) := do
  ensure (graph.cognitons.has id) (.rejected ⟨"unknown_cogniton", js "Cannot activate unknown Cogniton: " ++ id⟩)
  let next := { graph with active := graph.active.add id }
  let snapshot ← next.snapshot digest collation
  pure (next, snapshot)

/-- `deactivate(cognitonId)`: the graph afterwards and the snapshot. -/
def deactivate (id : JsString) : Attempt (CognitiveGraph × Json) := do
  let next := { graph with active := ⟨graph.active.items.filter (· ≠ id), graph.active.nodup.filter _⟩ }
  let snapshot ← next.snapshot digest collation
  pure (next, snapshot)

end CognitiveGraph

/-! ## The port fabric -/

def PortType.text : PortType → String
  | intent => "INTENT"
  | cogniton => "COGNITON"
  | process => "PROCESS"
  | verification => "VERIFICATION"

def portType? (value : Option Json) : Option PortType :=
  [PortType.intent, .cogniton, .process, .verification].find? fun portType => value == some (.text portType.text)

/-- The descriptor that `registerPort` makes, before it is copied. -/
def CognitivePort.toJson (port : CognitivePort) : Json := .record [("contract", .text "kindred.cognitive-port.v1"),
  ("port_id", .str port.portId), ("port_type", .text port.portType.text), ("role", .str port.role), ("priority", .num port.priority),
  ("intent_classes", .arr (port.intentClasses.map .str)), ("evidence_targets", .arr (port.evidenceTargets.map .str)),
  ("verification_required", .bool port.verificationRequired)]

/-- `${value}`. -/
def templateText (value : Option Json) : Option JsString :=
  match value with
  | none => some (js "undefined")
  | some v => v.toStr?

/-- `value !== undefined && !Array.isArray(value)` is false. -/
def isArrayOrAbsent (value : Option Json) : Bool := value.all fun v => v.items?.isSome

/-- `validatePortDescriptor(descriptor)`, with the names and the type that it finds. -/
def validatePortDescriptor (descriptor : Json) : Attempt (JsString × PortType × JsString) := do
  ensure (Synaptic.isObject (some descriptor)) (rejected "invalid_port" "Cognitive Port descriptor must be an object")
  let portId ← orThrow (nonEmptyText? (descriptor.get "port_id")) (rejected "invalid_port_id" "Cognitive Port requires port_id")
  let portType ← match portType? (descriptor.get "port_type") with
    | some portType => pure portType
    | none => do
      let text ← orThrow (templateText (descriptor.get "port_type")) .typeError
      throw (.rejected ⟨"invalid_port_type", js "Unsupported Cognitive Port type: " ++ text⟩)
  let role ← orThrow (nonEmptyText? (descriptor.get "role"))
    (rejected "invalid_port_role" "Cognitive Port requires computational role")
  ensure (isArrayOrAbsent (descriptor.get "intent_classes"))
    (rejected "invalid_intent_classes" "intent_classes must be an array when provided")
  ensure (isArrayOrAbsent (descriptor.get "evidence_targets"))
    (rejected "invalid_evidence_targets" "evidence_targets must be an array when provided")
  pure (portId, portType, role)

/-- `Number.isFinite(priority) ? priority : 0`. -/
def priorityOf (priority : Option Json) : JsNumber :=
  match priority with
  | some (.num x) => x
  | _ => .int 0

/-- The port of a descriptor, under the names and the type that were found. -/
def portOf (descriptor : Json) (found : JsString × PortType × JsString) : Attempt CognitivePort := do
  let intentClasses ← sortedTexts (descriptor.get "intent_classes")
  let evidenceTargets ← sortedTexts (descriptor.get "evidence_targets")
  pure {
    portId := found.1
    portType := found.2.1
    role := found.2.2
    priority := priorityOf (descriptor.get "priority")
    intentClasses
    evidenceTargets
    verificationRequired := descriptor.get "verification_required" == some (.bool true) }

/-- The ports that are registered, under their names. -/
abbrev CognitivePortFabric := Registry JsString CognitivePort CognitivePort.portId

namespace CognitivePortFabric
variable (collation : Collation) (fabric : CognitivePortFabric)

/-- `registerPort(descriptor, handler)`, where the handler can be called or not: the fabric
afterwards and the port. -/
def registerPort (descriptor : Json) (callable : Bool) : Attempt (CognitivePortFabric × Json) := do
  let found ← validatePortDescriptor descriptor
  ensure (!fabric.has found.1) (.rejected ⟨"duplicate_port", js "Port already registered: " ++ found.1⟩)
  ensure callable (rejected "invalid_port_handler" "Cognitive Port handler must be callable")
  let port ← portOf descriptor found
  pure (fabric.put port, freezeClone port.toJson)

/-- `describePorts()`. -/
def describePorts : List CognitivePort := collation.sortOn CognitivePort.portId fabric.values

/-- What `snapshot()` commits to. -/
def state : List (String × Json) := [("contract", .text "kindred.cognitive-port-fabric.v1"),
  ("ports", .arr ((describePorts collation fabric).map fun port => freezeClone port.toJson))]

/-- `snapshot()`. -/
def snapshot : Attempt Json := freezeWithRoot digest "cognitive-port-fabric" (state collation fabric)

end CognitivePortFabric

end

end CognitiveBody
