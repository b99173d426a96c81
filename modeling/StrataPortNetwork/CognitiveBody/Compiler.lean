import StrataPortNetwork.CanonicalForms
import StrataPortNetwork.Js.Collation

/-! # The compiler of activation plans

The ports of a fabric are ranked by priority, by the synaptic evidence for their targets and by
name; the compiler takes the first port of each type. The collation of `localeCompare` is a
parameter.
-/
namespace CognitiveBody
open Js
open CognitiveState (coalesce)

inductive PortType
  | intent
  | cogniton
  | process
  | verification
  deriving DecidableEq

/-- The descriptor that `registerPort` keeps. -/
structure CognitivePort where
  portId : JsString
  portType : PortType
  role : JsString
  priority : JsNumber
  intentClasses : List JsString
  evidenceTargets : List JsString
  verificationRequired : Bool

/-- A snapshot of a port fabric. -/
structure PortFabric where
  stateRoot : JsString
  ports : List CognitivePort

def reject (code message : String) : CognitiveBodyError := ⟨code, js message⟩

/-! ## Ranking -/

/-- `matchesIntent(port, intentClass)`. -/
def matchesIntent (port : CognitivePort) (intentClass : JsString) : Bool :=
  port.intentClasses.isEmpty || port.intentClasses.contains (js "*") || port.intentClasses.contains intentClass

/-- A relationship is evidence for a port in a context. -/
def isEvidence (port : CognitivePort) (contextRef : Json) (relationship : Json) : Bool :=
  (port.evidenceTargets.any fun target => relationship.get "target_component" == some (.str target)) &&
    (contextRef.isNull || relationship.get "context_ref" == some .null || relationship.get "context_ref" == some contextRef)

/-- What a relationship adds to the score. -/
def reinforcementOf (relationship : Json) : JsNumber :=
  match relationship.get "reinforcement" with
  | some (.num x) => x
  | _ => .int 0

/-- `synapticEvidenceScore(port, synapticSnapshot, contextRef)`. -/
def synapticEvidenceScore (port : CognitivePort) (snapshot contextRef : Json) : Outcome JsNumber :=
  if snapshot.isNull then pure (.int 0)
  else do
    let relationships ← orThrow ((snapshot.get "relationships").bind Json.items?)
      (reject "invalid_synaptic_snapshot" "Synaptic snapshot must contain relationships")
    if port.evidenceTargets.isEmpty then pure (.int 0)
    else pure (((relationships.filter (isEvidence port contextRef)).map reinforcementOf).foldl Synaptic.add (.int 0))

structure RankedPort where
  port : CognitivePort
  synapticScore : JsNumber

/-- The comparison that ranks ports; two ports that compare as equal stay in order. -/
def ranksBefore (collation : Collation) (a b : RankedPort) : Prop :=
  if a.port.priority ≠ b.port.priority then b.port.priority.toRat ≤ a.port.priority.toRat
  else if a.synapticScore ≠ b.synapticScore then b.synapticScore.toRat ≤ a.synapticScore.toRat
  else collation.le a.port.portId b.port.portId = true

instance (collation : Collation) : DecidableRel (ranksBefore collation) := fun a b => by
  unfold ranksBefore
  infer_instance

/-- `rankPorts(ports, type, intentClass, synapticSnapshot, contextRef)`. -/
def rankPorts (collation : Collation) (ports : List CognitivePort) (portType : PortType) (intentClass : JsString)
    (snapshot contextRef : Json) : Outcome (List RankedPort) := do
  let ranked ← (ports.filter fun port => port.portType == portType && matchesIntent port intentClass).mapM fun port => do
    let score ← synapticEvidenceScore port snapshot contextRef
    pure ⟨port, score⟩
  pure (ranked.insertionSort (ranksBefore collation))

/-- `selectOne(...)`. -/
def selectOne (collation : Collation) (ports : List CognitivePort) (portType : PortType) (intentClass : JsString)
    (snapshot contextRef : Json) : Outcome (Option CognitivePort) := do
  let ranking ← rankPorts collation ports portType intentClass snapshot contextRef
  pure (ranking.head?.map RankedPort.port)

/-! ## Compilation -/

/-- The input of `compile`, with the state root of its graph. -/
structure CompilerInput where
  intentClass : JsString
  graphStateRoot : JsString
  fabric : PortFabric
  synapticSnapshot : Option Json
  contextRef : Option Json
  verificationRequired : Option Json
  authorityScope : Option Json

structure ActivationPlan where
  intentClass : JsString
  graphStateRoot : JsString
  fabricStateRoot : JsString
  selectionEvidenceRoot : Json
  processSelectionTrace : List RankedPort
  activePortIds : List JsString
  processPortId : JsString
  verificationPortId : Option JsString
  verificationRequired : Bool
  authorityScope : Json

/-- An entry of the trace. -/
def RankedPort.toJson (ranked : RankedPort) : Json := .record [("port_id", .str ranked.port.portId),
  ("priority", .num ranked.port.priority), ("synaptic_score", .num ranked.synapticScore),
  ("evidence_targets", .arr (ranked.port.evidenceTargets.map .str))]

/-- The plan before its state root. -/
def ActivationPlan.toJson (plan : ActivationPlan) : Json := .record [
  ("contract", .text "kindred.dcml-activation-plan.v1"), ("intent_class", .str plan.intentClass),
  ("graph_state_root", .str plan.graphStateRoot), ("fabric_state_root", .str plan.fabricStateRoot),
  ("selection_evidence_root", plan.selectionEvidenceRoot),
  ("process_selection_trace", .arr (plan.processSelectionTrace.map RankedPort.toJson)),
  ("active_port_ids", .arr (plan.activePortIds.map .str)), ("process_port_id", .str plan.processPortId),
  ("verification_port_id", (plan.verificationPortId.map Json.str).getD .null),
  ("verification_required", .bool plan.verificationRequired), ("authority_scope", plan.authorityScope)]

/-- The snapshot that the compiler takes. -/
def checkSnapshot (snapshot : Json) : Outcome Unit :=
  ensure (snapshot.isNull || (((snapshot.get "relationships").bind Json.items?).isSome &&
      ((snapshot.get "state_root").bind Json.str?).isSome))
    (reject "invalid_synaptic_snapshot" "DCML synaptic_snapshot must be a canonical Synaptizer snapshot")

/-- The plan that `compile(input)` commits to. -/
def plan (collation : Collation) (input : CompilerInput) : Outcome ActivationPlan := do
  let snapshot := coalesce input.synapticSnapshot .null
  let contextRef := coalesce input.contextRef .null
  ensure (input.intentClass ≠ []) (reject "missing_intent_class" "DCML requires intent_class")
  checkSnapshot snapshot
  let select := fun portType => selectOne collation input.fabric.ports portType input.intentClass snapshot contextRef
  let intentPort ← select .intent
  let cognitonPort ← select .cogniton
  let processRanking ← rankPorts collation input.fabric.ports .process input.intentClass snapshot contextRef
  let verificationPort ← select .verification
  let intentPort ← orThrow intentPort
    ⟨"intent_port_unavailable", js "No Intent Port available for " ++ input.intentClass⟩
  let processPort ← orThrow (processRanking.head?.map RankedPort.port)
    ⟨"process_port_unavailable", js "No Process Port available for " ++ input.intentClass⟩
  let verificationRequired := !(input.verificationRequired == some (.bool false)) || processPort.verificationRequired
  ensure (!verificationRequired || verificationPort.isSome)
    (reject "verification_port_unavailable" "Verification is required but no Verification Port is active")
  pure {
    intentClass := input.intentClass
    graphStateRoot := input.graphStateRoot
    fabricStateRoot := input.fabric.stateRoot
    selectionEvidenceRoot := coalesce (snapshot.get "state_root") .null
    processSelectionTrace := processRanking
    activePortIds := ([some intentPort, cognitonPort, some processPort, verificationPort].filterMap fun port => port).map
      CognitivePort.portId
    processPortId := processPort.portId
    verificationPortId := verificationPort.map CognitivePort.portId
    verificationRequired
    authorityScope := coalesce input.authorityScope .null }

/-- `compile(input)`: the plan and its state root. -/
def compile (digest : Synaptic.Digest) (collation : Collation) (input : CompilerInput) : Outcome (ActivationPlan × JsString) := do
  let plan ← plan collation input
  let stateRoot ← cognitiveStateRoot digest "dcml-activation-plan" plan.toJson
  pure (plan, stateRoot)

end CognitiveBody
