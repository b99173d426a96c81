import StrataPortNetwork.Js.Indented
import StrataPortNetwork.Js.Rebuild
import StrataPortNetwork.Js.Check
import StrataPortNetwork.Js.Wire

/-! # The cognitive state store

A save commits to the state by the hash of its canonical text and writes the envelope as
indented JSON; a load reads it back and computes the commitment again. Cloning a JSON value
rebuilds it, and SHA-256 is a parameter.
-/
namespace CognitiveState
open Js

/-- What the store throws. -/
inductive Failure
  | store (code message : String)
  | typeError
  deriving DecidableEq, Repr

abbrev Outcome := Except Failure

def contractVersion : String := "kindred.cognitive-state-store.v1"

mutual

/-- `canonical(value)`: the JSON text with the keys of every object in order. -/
def canonical : Json → JsString
  | .arr items => 91 :: ([44].intercalate (canonicalItems items) ++ [93])
  | .obj fields =>
    let texts := canonicalFields fields
    123 :: ([44].intercalate ((Json.sortKeys (texts.map Prod.fst)).map fun key =>
      quote key ++ 58 :: (texts.lookup key).getD []) ++ [125])
  | v => stringify v

def canonicalItems : List Json → List JsString
  | [] => []
  | v :: rest => canonical v :: canonicalItems rest

/-- The text of the value under each key. -/
def canonicalFields : Fields → List (JsString × JsString)
  | [] => []
  | f :: rest => (f.1, canonical f.2) :: canonicalFields rest

end

/-- The text that `persistentStateRoot` hashes. -/
def rootText (label : String) (value : Json) : JsString := js label ++ 58 :: canonical value

/-- Only an object has a state root, so this covers the checks of the type too. -/
def validateGraphSnapshot (graph : Option Json) : Outcome Unit :=
  ensure (((graph.bind (·.get "state_root")).bind Json.str?).isSome)
    (.store "persistent_graph_invalid" "A canonical Cognitive Graph snapshot is required")

def validateSynapticSnapshot (snapshot : Option Json) : Outcome Unit :=
  ensure (((snapshot.bind (·.get "state_root")).bind Json.str?).isSome &&
      ((snapshot.bind (·.get "relationships")).bind Json.items?).isSome)
    (.store "persistent_synaptic_state_invalid" "A canonical Synaptizer snapshot is required")

def validateSequence (sequence : Option Json) : Outcome Unit :=
  ensure ((sequence.bind Json.safeInteger?).any (1 ≤ ·))
    (.store "persistent_sequence_invalid" "State sequence must be a positive safe integer")

/-- A JSON value in memory: the keys of every object are distinct and in property order. -/
structure Value where
  json : Json
  rebuilt : json.rebuild = json

structure SaveRequest where
  cognitiveGraph : Option Value
  synapticSnapshot : Option Value
  sequence : Option Value
  /-- Left out, it is the empty object. -/
  metadata : Option Value

/-- The fields of a state, in the order of the source. -/
def stateFields (sequence graph snapshot metadata : Json) : List (String × Json) :=
  [("contract_version", .text contractVersion), ("sequence", sequence), ("cognitive_graph", graph),
    ("synaptic_snapshot", snapshot), ("metadata", metadata)]

/-- What a save has done: the bytes of the file and the envelope it returns. -/
structure Saved where
  file : Bytes
  envelope : Json

variable (sha256 : Bytes → JsString)

def persistentStateRoot (label : String) (value : Json) : Outcome JsString := do
  ensure (label ≠ "") (.store "persistent_state_label_invalid" "State-root label is required")
  pure (js "sha256:" ++ sha256 (utf8Encode (rootText label value)))

/-- `save(request)`, the file steps succeeding. -/
def save (request : SaveRequest) : Outcome Saved := do
  let sequence := request.sequence.map Value.json
  let graph := request.cognitiveGraph.map Value.json
  let snapshot := request.synapticSnapshot.map Value.json
  let metadata := (request.metadata.map Value.json).getD (.obj [])
  validateGraphSnapshot graph
  validateSynapticSnapshot snapshot
  validateSequence sequence
  let state := stateFields (sequence.getD .null) (graph.getD .null).rebuild (snapshot.getD .null).rebuild metadata.rebuild
  let stateRoot ← persistentStateRoot sha256 "persistent-cognitive-state" (.record state)
  let envelope := Json.record (state ++ [("state_root", .str stateRoot)])
  pure ⟨utf8Encode (indented envelope ++ [10]), envelope.rebuild⟩

/-- `value ?? other`, which replaces a saved null too. -/
def coalesce (value : Option Json) (other : Json) : Json :=
  match value with
  | none | some .null => other
  | some v => v

/-- `load()` of the text that `readFile` gives, if it gives one. -/
def load (raw : Option JsString) : Outcome Json := do
  let text ← orThrow raw (.store "persistent_state_read_failed" "Unable to read persistent cognitive state")
  let envelope ← orThrow (parse text) (.store "persistent_state_json_invalid" "Persistent cognitive state is not valid JSON")
  ensure (!envelope.isNull) .typeError
  ensure (envelope.get "contract_version" == some (.text contractVersion))
    (.store "persistent_state_contract_invalid" "Persistent cognitive state contract version is invalid")
  validateSequence (envelope.get "sequence")
  validateGraphSnapshot (envelope.get "cognitive_graph")
  validateSynapticSnapshot (envelope.get "synaptic_snapshot")
  let stateRoot ← orThrow ((envelope.get "state_root").bind Json.str?)
    (.store "persistent_state_root_missing" "Persistent cognitive state commitment is missing")
  let material := stateFields ((envelope.get "sequence").getD .null) ((envelope.get "cognitive_graph").getD .null)
    ((envelope.get "synaptic_snapshot").getD .null) (coalesce (envelope.get "metadata") (.obj []))
  let expectedRoot ← persistentStateRoot sha256 "persistent-cognitive-state" (.record material)
  ensure (expectedRoot == stateRoot)
    (.store "persistent_state_integrity_mismatch" "Persistent cognitive state commitment does not match its contents")
  pure envelope.rebuild

end CognitiveState
