import StrataPortNetwork.Js.JsonText
import StrataPortNetwork.Js.Check
import StrataPortNetwork.Js.OwnOrder
import StrataPortNetwork.Js.Map

/-! # The Synaptizer

Relationships between components, learned from verified edge evidence and kept under the
hash of their identity; the snapshot of the learned state and its hydration. SHA-256 is a
parameter.
-/
namespace Synaptic
open Js

/-- `createHash("sha256").update(text).digest("hex")`. -/
structure Digest where
  hex : Bytes → JsString
  hex_accepts : ∀ bytes, (Regex.run Regex.hex 64 64).accepts (hex bytes) = true

structure SynaptizerError where
  code : String
  message : String
  deriving DecidableEq, Repr

abbrev Outcome := Except SynaptizerError

/-! ## Canonical texts -/

/-- `parts.join(",")`. -/
def join : List JsString → JsString
  | [] => []
  | [s] => s
  | s :: rest => s ++ 44 :: join rest

/-- Entries in the order of their keys. -/
def sortEntries (entries : List (JsString × JsString)) : List (JsString × JsString) :=
  entries.insertionSort fun e e' => Json.leUnits e.1 e'.1 = true

mutual

/-- `canonical(value)`. -/
def canonical : Json → JsString
  | .null => js "null"
  | .bool b => stringify (.bool b)
  | .num x => x.toText
  | .str s => quote s
  | .arr items => 91 :: (join (canonicalItems items) ++ [93])
  | .obj fields => 123 :: (join ((sortEntries (canonicalEntries fields)).map Prod.snd) ++ [125])

def canonicalItems : List Json → List JsString
  | [] => []
  | v :: rest => canonical v :: canonicalItems rest

/-- Each key with the text of its entry. -/
def canonicalEntries : Fields → List (JsString × JsString)
  | [] => []
  | f :: rest => (f.1, quote f.1 ++ 58 :: canonical f.2) :: canonicalEntries rest

end

/-- `synapticStateRoot(label, value)`; the labels in use are not empty. -/
def stateRoot (digest : Digest) (label : String) (value : Json) : JsString :=
  js "sha256:" ++ digest.hex (utf8Encode (js label ++ js ":" ++ canonical value))

/-- `/^sha256:[a-f0-9]{64}$/` -/
def stateRootPattern : Regex := .seq (.text "sha256:") (.run Regex.hex 64 64)

/-- `typeof value === "string" && pattern.test(value)`. -/
def isStateRoot (v : Option Json) : Bool :=
  match v with
  | some (.str s) => stateRootPattern.accepts s
  | _ => false

/-! ## Small checks -/

def require (code message : String) (condition : Bool) : Outcome Unit := ensure condition ⟨code, message⟩

/-- `nonEmpty(value, code)`. -/
def nonEmpty (v : Option Json) (code : String) : Outcome JsString :=
  match v with
  | some (.str (u :: s)) => .ok (u :: s)
  | _ => .error ⟨code, code ++ ": non-empty string required"⟩

/-- Truthy and `typeof value === "object"`. -/
def isObject (v : Option Json) : Bool :=
  match v with
  | some (.obj _) => true
  | some (.arr _) => true
  | _ => false

def isTrue (v : Option Json) : Bool := v == some (.bool true)

/-- `value ?? null`. -/
def orNull (v : Option Json) : Json := v.getD .null

/-- `delete value[name]`. -/
def erase (value : Json) (name : String) : Json := .obj (value.fields.filter fun f => f.1 ≠ js name)

/-- The strings of an array of strings. -/
def textsOf (v : Option Json) : List JsString := ((v.bind Json.items?).getD []).filterMap Json.str?

/-- The exact sum of two decimals. -/
def add (x y : JsNumber) : JsNumber :=
  let parts := fun x : JsNumber => match x with
    | .int i => (i, 0)
    | .frac m e _ _ => (m, e)
  .reduce ((parts x).1 * 10 ^ (parts y).2 + (parts y).1 * 10 ^ (parts x).2) ((parts x).2 + (parts y).2)

/-- `value[name] + amount`, where the property is a number in every relationship learned. -/
def increased (value : Json) (name : String) (amount : JsNumber) : Json :=
  match value.get name with
  | some (.num x) => .num (add x amount)
  | _ => .null

def oneIf (condition : Bool) : JsNumber := .int (if condition then 1 else 0)

/-! ## Learning -/

/-- `relationshipIdentity(event)`, also of a relationship in a snapshot. -/
def relationshipIdentity (edge : Json) (contextRef : Option Json) : Outcome Json := do
  let sourceComponent ← nonEmpty (edge.get "source_component") "synaptic_source_component_invalid"
  let targetComponent ← nonEmpty (edge.get "target_component") "synaptic_target_component_invalid"
  let sourceRole ← nonEmpty (edge.get "source_role") "synaptic_source_role_invalid"
  let targetRole ← nonEmpty (edge.get "target_role") "synaptic_target_role_invalid"
  pure (.record [("source_component", .str sourceComponent), ("target_component", .str targetComponent),
    ("source_role", .str sourceRole), ("target_role", .str targetRole), ("context_ref", orNull contextRef)])

/-- `reinforcement(event)`. -/
def reinforcement (event : Json) : JsNumber :=
  if isTrue (event.get "failure") && isTrue ((event.get "fitness_evidence").bind (·.get "verified")) then .int (-1)
  else if isTrue (event.get "recovery") then .reduce 15 1
  else if isTrue (event.get "verification_contribution") then .reduce 125 2
  else if isTrue (event.get "success") then .int 1
  else .reduce 25 2

/-- The properties an identity spreads into a new relationship. -/
def newRelationship (relationshipId : JsString) (identity : Json) : Json :=
  .obj ([(js "contract", .text "kindred.synaptic-relationship.v1"), (js "relationship_id", .str relationshipId)] ++
    identity.fields ++ [(js "observations", .int 0), (js "verified_successes", .int 0),
    (js "verified_failures", .int 0), (js "recoveries", .int 0), (js "verification_contributions", .int 0),
    (js "reinforcement", .int 0), (js "evidence_state_roots", .arr [])])

/-- `{...existing, observations, ...}`: a state root the relationship has stays in it. -/
def updatedRelationship (existing event : Json) : Json :=
  let evidence := (JsSet.ofList (textsOf (existing.get "evidence_state_roots"))).add
    (((event.get "state_root").bind Json.str?).getD [])
  let counted := fun (value : Json) (name flag : String) =>
    value.set name (increased existing name (oneIf (isTrue (event.get flag))))
  let observed := existing.set "observations" (increased existing "observations" (.int 1))
  let succeeded := counted observed "verified_successes" "success"
  let failed := counted succeeded "verified_failures" "failure"
  let recovered := counted failed "recoveries" "recovery"
  let contributed := counted recovered "verification_contributions" "verification_contribution"
  (contributed.set "reinforcement" (increased existing "reinforcement" (reinforcement event))).set
    "evidence_state_roots" (.arr ((Json.sortKeys evidence.items).map .str))

structure Synaptizer where
  relationships : JsMap JsString Json
  seenEvents : JsSet JsString
  receivedEvents : ℕ
  learnedEvents : ℕ
  ignoredUnverifiedEvents : ℕ
  duplicateEvents : ℕ

/-- `new Synaptizer()`. -/
def Synaptizer.fresh : Synaptizer := ⟨JsMap.empty, JsSet.empty, 0, 0, 0, 0⟩

/-- What a call of `consume` returns. -/
inductive Consumption
  | duplicate
  | unverified
  | learned (relationship : Json)

/-- The checks before anything is counted; the id of the event. -/
def checkEvent (event : Json) : Outcome JsString := do
  require "synaptic_event_invalid" "Synaptizer requires an event object" (isObject (some event))
  require "synaptic_event_type_invalid" "Synaptizer accepts PROCESS_EDGE_EVIDENCE only"
    (event.get "event_type" == some (.text "PROCESS_EDGE_EVIDENCE"))
  let _ ← nonEmpty (event.get "contract_version") "synaptic_contract_version_invalid"
  let eventId ← nonEmpty (event.get "edge_execution_id") "synaptic_edge_execution_id_invalid"
  require "synaptic_evidence_root_invalid" "Process Edge evidence must carry a canonical SHA-256 state root"
    (isStateRoot (event.get "state_root"))
  require "synaptic_relationship_invalid" "edge_relationship is required" (isObject (event.get "edge_relationship"))
  require "synaptic_fitness_evidence_invalid" "fitness_evidence is required" (isObject (event.get "fitness_evidence"))
  pure eventId

namespace Synaptizer
variable (digest : Digest) (s : Synaptizer)

/-- The relationship an event is evidence of. -/
def relationshipId (event : Json) : Outcome (JsString × Json) := do
  let identity ← relationshipIdentity ((event.get "edge_relationship").getD .null) (event.get "context_ref")
  pure (stateRoot digest "synaptic-relationship-identity" identity, identity)

/-- The relationship as it is committed after an event. -/
def committed (id : JsString) (identity event : Json) : Json :=
  let updated := updatedRelationship ((s.relationships.get id).getD (newRelationship id identity)) event
  updated.set "state_root" (.str (stateRoot digest "synaptic-relationship-state" updated))

/-- `consume(event)`: an event that fails on its relationship has been counted and is seen. -/
def consume (event : Json) : Outcome Consumption × Synaptizer :=
  match checkEvent event with
  | .error e => (.error e, s)
  | .ok eventId =>
    let received := { s with receivedEvents := s.receivedEvents + 1 }
    if s.seenEvents.has eventId then
      (.ok .duplicate, { received with duplicateEvents := s.duplicateEvents + 1 })
    else
      let seen := { received with seenEvents := s.seenEvents.add eventId }
      if isTrue ((event.get "fitness_evidence").bind (·.get "verified")) then
        match relationshipId digest event with
        | .error e => (.error e, seen)
        | .ok (id, identity) =>
          let relationship := s.committed digest id identity event
          (.ok (.learned relationship), { seen with
            relationships := s.relationships.set id relationship
            learnedEvents := s.learnedEvents + 1 })
      else (.ok .unverified, { seen with ignoredUnverifiedEvents := s.ignoredUnverifiedEvents + 1 })

/-! ## Snapshots -/

/-- `relationship.relationship_id`, a string in every relationship kept. -/
def idOf (relationship : Json) : JsString := ((relationship.get "relationship_id").bind Json.str?).getD []

/-- `describeRelationships()`. On hashes `localeCompare` is the order of code units. -/
def describeRelationships : List Json :=
  s.relationships.values.insertionSort fun a b => Json.leUnits (idOf a) (idOf b) = true

/-- The snapshot before its own state root. -/
def snapshotState : Json :=
  .record [("contract", .text "kindred.synaptizer-snapshot.v1"), ("relationships", .arr s.describeRelationships),
    ("received_events", .int s.receivedEvents), ("learned_events", .int s.learnedEvents),
    ("ignored_unverified_events", .int s.ignoredUnverifiedEvents), ("duplicate_events", .int s.duplicateEvents),
    ("seen_event_ids", .arr ((Json.sortKeys s.seenEvents.items).map .str))]

/-- `snapshot()`. -/
def snapshot : Json := s.snapshotState.set "state_root" (.str (stateRoot digest "synaptizer-state" s.snapshotState))

/-- The counter of a snapshot. -/
def counter (value : Json) (name : String) : Outcome ℕ :=
  match (value.get name).bind Json.safeInteger? with
  | some (.ofNat n) => .ok n
  | _ => .error ⟨"synaptizer_snapshot_counter_invalid", "Invalid Synaptizer counter: " ++ name⟩

/-- The checks on one relationship of a snapshot; its id. -/
def checkRelationship (relationship : Json) : Outcome JsString := do
  require "synaptizer_relationship_snapshot_invalid" "Synaptic relationship snapshot is invalid"
    (isObject (some relationship))
  require "synaptizer_relationship_contract_invalid" "Synaptic relationship contract is invalid"
    (relationship.get "contract" == some (.text "kindred.synaptic-relationship.v1"))
  let identity ← relationshipIdentity relationship (relationship.get "context_ref")
  let expectedId := stateRoot digest "synaptic-relationship-identity" identity
  require "synaptizer_relationship_identity_mismatch" "Synaptic relationship identity commitment is invalid"
    (relationship.get "relationship_id" == some (.str expectedId))
  let suppliedRoot ← orThrow ((relationship.get "state_root").bind Json.str?)
    ⟨"synaptizer_relationship_root_missing", "Synaptic relationship state root is missing"⟩
  require "synaptizer_relationship_integrity_mismatch" "Synaptic relationship commitment is invalid"
    (suppliedRoot == stateRoot digest "synaptic-relationship-state" (erase relationship "state_root"))
  pure expectedId

def restoreRelationships : List Json → JsMap JsString Json → Outcome (JsMap JsString Json)
  | [], restored => pure restored
  | relationship :: rest, restored => do
    let id ← checkRelationship digest relationship
    require "synaptizer_relationship_duplicate" "Duplicate relationship identity in snapshot" (!restored.has id)
    restoreRelationships rest (restored.set id relationship)

def nonEmptyText? : Json → Option JsString
  | .str (u :: s) => some (u :: s)
  | _ => none

/-- `snapshot.seen_event_ids ?? []`, an array of non-empty strings without duplicates. -/
def seenEventIds (snapshot : Json) : Outcome (List JsString) := do
  let value := orNull (snapshot.get "seen_event_ids")
  let items := if value.isNull then some [] else value.items?
  let ids ← orThrow (items.bind fun items => items.mapM nonEmptyText?)
    ⟨"synaptizer_seen_events_invalid", "Synaptizer seen_event_ids must be an array of identifiers"⟩
  require "synaptizer_seen_events_duplicate" "Synaptizer seen_event_ids contains duplicates"
    ((JsSet.ofList ids).items.length == ids.length)
  pure ids

/-- `hydrate(snapshot)`: the state it leaves; a throw leaves the state as it was. -/
def hydrate (snapshot : Json) : Outcome Synaptizer := do
  require "synaptizer_snapshot_invalid" "Synaptizer hydrate requires a snapshot object" (isObject (some snapshot))
  require "synaptizer_snapshot_contract_invalid" "Synaptizer snapshot contract is invalid"
    (snapshot.get "contract" == some (.text "kindred.synaptizer-snapshot.v1"))
  let relationships ← orThrow ((snapshot.get "relationships").bind Json.items?)
    ⟨"synaptizer_snapshot_relationships_invalid", "Synaptizer snapshot relationships are required"⟩
  require "synaptizer_snapshot_root_invalid" "Synaptizer snapshot state root is invalid"
    (isStateRoot (snapshot.get "state_root"))
  require "synaptizer_snapshot_integrity_mismatch" "Synaptizer snapshot commitment does not match its contents"
    (snapshot.get "state_root" == some (.str (stateRoot digest "synaptizer-state" (erase snapshot "state_root"))))
  let received ← counter snapshot "received_events"
  let learned ← counter snapshot "learned_events"
  let ignored ← counter snapshot "ignored_unverified_events"
  let duplicates ← counter snapshot "duplicate_events"
  let restored ← restoreRelationships digest relationships JsMap.empty
  let ids ← seenEventIds snapshot
  pure ⟨restored, JsSet.ofList ids, received, learned, ignored, duplicates⟩

end Synaptizer

end Synaptic
