import StrataPortNetwork.CanonicalForms
import StrataPortNetwork.Js.Trim
import StrataPortNetwork.Synaptizer.Tally

/-! # Observed edges and the credit they get

The observer records edge executions and gives credit to the records of a correlation; the
boundary adapter publishes each record as an event to a Synaptizer. `Number(value)` and
`toISOString` are parameters.
-/
namespace ProcessIntelligence
open Js
open CognitiveState (coalesce)

/-- What `observe` throws; a listener's error is thrown on. -/
inductive Failure
  | rejected (reasonClass : String)
  | typeError
  | rangeError
  | listener (e : Synaptic.SynaptizerError)
  deriving DecidableEq

abbrev Outcome := Except Failure

/-- `none` is a number that is not finite, and the RangeError of `toISOString`. -/
structure Engine where
  toNumber : Json → Option JsNumber
  toISOString : JsNumber → Option JsString

/-! ## Small checks -/

/-- `nonEmpty(value, reasonClass)`. -/
def nonEmpty (v : Option Json) (reasonClass : String) : Outcome JsString := do
  let s ← orThrow (v.bind Json.str?) (.rejected reasonClass)
  ensure (!s.all isWhiteSpace) (.rejected reasonClass)
  pure s

/-- `stringArray(value, reasonClass)`. -/
def stringArray (v : Json) (reasonClass : String) : Outcome (List JsString) := do
  let texts ← orThrow (v.items?.bind fun items => items.mapM Synaptic.Synaptizer.nonEmptyText?) (.rejected reasonClass)
  ensure (texts.length ≤ 128 && (JsSet.ofList texts).items.length == texts.length) (.rejected reasonClass)
  pure texts

/-- A safe integer that is not negative. -/
def count? (v : Json) : Option ℕ :=
  match v.safeInteger? with
  | some (.ofNat n) => some n
  | _ => none

def negate : JsNumber → JsNumber
  | .int i => .int (-i)
  | .frac m e _ _ => .reduce (-m) e

/-! ## Records -/

structure EdgeRecord where
  edgeExecutionId : Json
  correlationId : JsString
  sourceComponent : JsString
  targetComponent : JsString
  sourceRole : JsString
  targetRole : JsString
  processId : Json
  skillId : Json
  capabilityId : Json
  inputStateRoot : JsString
  outputStateRoot : JsString
  startTime : JsString
  endTime : JsString
  latency : JsNumber
  resourceUse : Json
  cost : Json
  success : Bool
  verified : Bool
  evidenceRefs : List JsString
  verificationRefs : List JsString
  retryCount : ℕ
  fallbackCount : ℕ
  errorClass : Json
  contextRef : Json
  authorityRef : Json
  receiptRef : Json
  contribution : Json

def EdgeRecord.toJson (r : EdgeRecord) : Json := .record [
  ("contract_version", .text "kindred.process-edge-success.v1"), ("edge_execution_id", r.edgeExecutionId),
  ("correlation_id", .str r.correlationId), ("source_component", .str r.sourceComponent),
  ("target_component", .str r.targetComponent), ("source_role", .str r.sourceRole), ("target_role", .str r.targetRole),
  ("process_id", r.processId), ("skill_id", r.skillId), ("capability_id", r.capabilityId),
  ("input_state_root", .str r.inputStateRoot), ("output_state_root", .str r.outputStateRoot),
  ("start_time", .str r.startTime), ("end_time", .str r.endTime), ("latency", .num r.latency),
  ("resource_use", r.resourceUse), ("cost", r.cost), ("success", .bool r.success), ("verified", .bool r.verified),
  ("evidence_refs", .arr (r.evidenceRefs.map .str)), ("verification_refs", .arr (r.verificationRefs.map .str)),
  ("retry_count", .int r.retryCount), ("fallback_count", .int r.fallbackCount), ("error_class", r.errorClass),
  ("context_ref", r.contextRef), ("authority_ref", r.authorityRef), ("receipt_ref", r.receiptRef),
  ("contribution", r.contribution)]

/-- A call of `observe`, with the readings of the clock and the identifier it falls back on. -/
structure Call where
  input : Json
  startNow : Json
  endNow : Json
  executionId : JsString

/-- The record that `observe` makes of its input. -/
def record (engine : Engine) (call : Call) : Outcome EdgeRecord := do
  let input := call.input
  let optional := fun name => coalesce (input.get name) .null
  let start ← orThrow (engine.toNumber (coalesce (input.get "start_time") call.startNow)) (.rejected "edge_time_invalid")
  let finish ← orThrow (engine.toNumber (coalesce (input.get "end_time") call.endNow)) (.rejected "edge_time_invalid")
  ensure (start.toRat ≤ finish.toRat) (.rejected "edge_time_invalid")
  ensure ((input.get "hidden_reasoning").isNone && (input.get "chain_of_thought").isNone)
    (.rejected "hidden_reasoning_forbidden")
  let correlationId ← nonEmpty (input.get "correlation_id") "edge_identity_invalid"
  let sourceComponent ← nonEmpty (input.get "source_component") "edge_identity_invalid"
  let targetComponent ← nonEmpty (input.get "target_component") "edge_identity_invalid"
  let sourceRole ← nonEmpty (input.get "source_role") "edge_identity_invalid"
  let targetRole ← nonEmpty (input.get "target_role") "edge_identity_invalid"
  let inputStateRoot ← nonEmpty (input.get "input_state_root") "edge_state_invalid"
  let outputStateRoot ← nonEmpty (input.get "output_state_root") "edge_state_invalid"
  let startTime ← orThrow (engine.toISOString start) .rangeError
  let endTime ← orThrow (engine.toISOString finish) .rangeError
  let evidenceRefs ← stringArray (coalesce (input.get "evidence_refs") (.arr [])) "edge_evidence_invalid"
  let verificationRefs ← stringArray (coalesce (input.get "verification_refs") (.arr [])) "edge_evidence_invalid"
  let retryCount ← orThrow (count? (coalesce (input.get "retry_count") (.int 0))) (.rejected "edge_counts_invalid")
  let fallbackCount ← orThrow (count? (coalesce (input.get "fallback_count") (.int 0))) (.rejected "edge_counts_invalid")
  pure {
    edgeExecutionId := coalesce (input.get "edge_execution_id") (.str call.executionId)
    correlationId, sourceComponent, targetComponent, sourceRole, targetRole
    processId := optional "process_id"
    skillId := optional "skill_id"
    capabilityId := optional "capability_id"
    inputStateRoot, outputStateRoot, startTime, endTime
    latency := Synaptic.add finish (negate start)
    resourceUse := (coalesce (input.get "resource_use") (.obj [])).rebuild
    cost := optional "cost"
    success := Synaptic.isTrue (input.get "success")
    verified := Synaptic.isTrue (input.get "verified")
    evidenceRefs, verificationRefs, retryCount, fallbackCount
    errorClass := optional "error_class"
    contextRef := optional "context_ref"
    authorityRef := optional "authority_ref"
    receiptRef := optional "receipt_ref"
    contribution := coalesce (input.get "contribution") (.text "EXECUTION") }

/-! ## Credit -/

structure Credit where
  edgeExecutionId : Json
  processId : Json
  contribution : Json
  reinforcement : JsNumber
  evidenceRefs : List JsString

/-- The credit of one record. -/
def EdgeRecord.credit (r : EdgeRecord) : Credit where
  edgeExecutionId := r.edgeExecutionId
  processId := r.processId
  contribution := r.contribution
  reinforcement :=
    if !r.success then .int (-1)
    else if r.contribution == .text "RECOVERY" then .reduce 15 1
    else if r.contribution == .text "VERIFICATION" then .reduce 125 2
    else if r.verified then .int 1
    else .reduce 25 2
  evidenceRefs := r.evidenceRefs ++ r.verificationRefs

/-- `credit(correlationId)` over the records so far. -/
def credit (records : List EdgeRecord) (correlationId : JsString) : List Credit :=
  (records.filter fun r => r.correlationId == correlationId).map EdgeRecord.credit

/-! ## Publishing -/

section
variable (digest : Synaptic.Digest)

/-- `toSynaptizerEvent(record)`. -/
def toSynaptizerEvent (r : EdgeRecord) : Json := .record [
  ("contract_version", .text "kindred.process-intelligence-event.v1"), ("event_type", .text "PROCESS_EDGE_EVIDENCE"),
  ("edge_relationship", .record [("source_component", .str r.sourceComponent),
    ("target_component", .str r.targetComponent), ("source_role", .str r.sourceRole), ("target_role", .str r.targetRole)]),
  ("context_ref", r.contextRef), ("success", .bool r.success), ("failure", .bool !r.success),
  ("recovery", .bool (r.contribution == .text "RECOVERY")),
  ("verification_contribution", .bool (r.contribution == .text "VERIFICATION")),
  ("fitness_evidence", .record [("verified", .bool r.verified), ("latency", .num r.latency),
    ("retry_count", .int r.retryCount), ("fallback_count", .int r.fallbackCount),
    ("evidence_refs", .arr (r.evidenceRefs.map .str)), ("verification_refs", .arr (r.verificationRefs.map .str))]),
  ("edge_execution_id", r.edgeExecutionId), ("state_root", .str (stateRoot digest "process-intelligence-event" r.toJson))]

/-- An observer whose boundary adapter publishes to a Synaptizer. -/
structure Observer where
  records : List EdgeRecord
  synaptizer : Synaptic.Synaptizer

def Observer.fresh : Observer := ⟨[], .fresh⟩

/-- `observe(input)`: the record is kept before the listener is told. -/
def Observer.observe (engine : Engine) (o : Observer) (call : Call) : Outcome EdgeRecord × Observer :=
  match record engine call with
  | .error e => (.error e, o)
  | .ok r =>
    let published := o.synaptizer.consume digest (toSynaptizerEvent digest r)
    let observed := Observer.mk (o.records ++ [r]) published.2
    match published.1 with
    | .error e => (.error (.listener e), observed)
    | .ok _ => (.ok r, observed)

end

end ProcessIntelligence
