import StrataPortNetwork.CognitiveState.Store

/-! # The round trip of a cognitive state

A load reads the fields of the saved envelope back and commits to them again. The two
commitments are over the same value, unless the metadata was null: the load then commits to
an empty object.
-/
namespace CognitiveState
open Js

/-! ## Commitments -/

/-- The canonical text of a state, with that of its metadata inside. -/
theorem canonical_state (sequence graph snapshot : Json) : ∃ before after : JsString, ∀ metadata,
    canonical (.record (stateFields sequence graph snapshot metadata)) = before ++ canonical metadata ++ after := by
  have hsorted : Json.sortKeys [js "contract_version", js "sequence", js "cognitive_graph", js "synaptic_snapshot", js "metadata"] =
      [js "cognitive_graph", js "contract_version", js "metadata", js "sequence", js "synaptic_snapshot"] := by
    decide
  have hne : ∀ name name' : String, name ≠ name' → (js name == js name') = false :=
    fun name name' h => beq_eq_false_iff_ne.mpr (js_injective.ne h)
  refine ⟨123 :: (quote (js "cognitive_graph") ++ 58 :: (canonical graph ++ 44 :: (quote (js "contract_version") ++
    58 :: (canonical (.text contractVersion) ++ 44 :: (quote (js "metadata") ++ [58]))))),
    44 :: (quote (js "sequence") ++ 58 :: (canonical sequence ++ 44 :: (quote (js "synaptic_snapshot") ++
      58 :: (canonical snapshot ++ [125])))), fun metadata => ?_⟩
  simp [canonical, canonicalFields, stateFields, Json.record, hsorted, List.lookup_cons, List.intercalate_cons_cons, hne]

/-! ## Saving and loading -/

/-- The text that commits to a state. -/
def stateText (sequence graph snapshot metadata : Json) : Bytes :=
  utf8Encode (rootText "persistent-cognitive-state" (.record (stateFields sequence graph snapshot metadata)))

/-- A state without metadata and one with none in it commit to different texts. -/
theorem stateText_ne (sequence graph snapshot : Json) :
    stateText sequence graph snapshot (.obj []) ≠ stateText sequence graph snapshot .null := by
  obtain ⟨before, after, htext⟩ := canonical_state sequence graph snapshot
  have hnull : canonical .null = [110, 117, 108, 108] := by decide
  have hempty : canonical (.obj []) = [123, 125] := by decide
  have hbytes : ∀ {u : UInt16} (rest : JsString), u.toNat < 128 →
      utf8Encode (js "persistent-cognitive-state" ++ 58 :: (before ++ u :: rest ++ after)) =
        utf8Encode (js "persistent-cognitive-state" ++ 58 :: before) ++ UInt8.ofNat u.toNat :: utf8Encode (rest ++ after) := by
    intro u rest hu
    rw [← utf8Encode_append_ascii _ hu]
    simp only [List.append_assoc, List.cons_append]
  intro hsame
  rw [stateText, stateText, rootText, rootText, htext, htext, hnull, hempty, hbytes _ (by decide), hbytes _ (by decide)] at hsame
  exact absurd (List.cons.inj (List.append_cancel_left hsame)).1 (by decide)

section
variable {sha256 : Bytes → JsString} {request : SaveRequest} {saved : Saved}

/-- The value of the metadata that a save commits to. -/
def SaveRequest.metadataValue (request : SaveRequest) : Json := (request.metadata.map Value.json).getD (.obj [])

theorem SaveRequest.metadataValue_rebuild (request : SaveRequest) : request.metadataValue.rebuild = request.metadataValue := by
  rw [metadataValue]
  cases request.metadata with
  | none => rfl
  | some v => exact v.rebuilt

variable (sha256) in
/-- The state that a save commits to, under its commitment. -/
def envelopeOf (state : List (String × Json)) : Json :=
  .record (state ++ [("state_root", .str (js "sha256:" ++ sha256 (utf8Encode (rootText "persistent-cognitive-state" (.record state)))))])

/-- The text that commits to the state of a request, with other metadata. -/
def SaveRequest.text (request : SaveRequest) (metadata : Json) : Bytes :=
  stateText ((request.sequence.map Value.json).getD .null) ((request.cognitiveGraph.map Value.json).getD .null)
    ((request.synapticSnapshot.map Value.json).getD .null) metadata

/-- What a save has checked and written. -/
theorem save_eq_ok (h : save sha256 request = .ok saved) : ∃ sequence graph snapshot : Value,
    (∀ metadata, request.text metadata = stateText sequence.json graph.json snapshot.json metadata) ∧
    validateSequence (some sequence.json) = .ok () ∧ validateGraphSnapshot (some graph.json) = .ok () ∧
    validateSynapticSnapshot (some snapshot.json) = .ok () ∧ ∃ envelope,
      envelope = envelopeOf sha256 (stateFields sequence.json graph.json snapshot.json request.metadataValue) ∧
      saved = ⟨utf8Encode (indented envelope ++ [10]), envelope.rebuild⟩ := by
  obtain ⟨graph, snapshot, sequence, metadata⟩ := request
  simp only [save, bind_eq_ok, pure_eq_ok, persistentStateRoot, ensure_eq_ok, exists_const] at h
  obtain ⟨⟨⟩, hgraph, ⟨⟩, hsnapshot, ⟨⟩, hsequence, root, ⟨-, rfl⟩, rfl⟩ := h
  cases graph with
  | none => simp [validateGraphSnapshot] at hgraph
  | some graph => cases snapshot with
    | none => simp [validateSynapticSnapshot] at hsnapshot
    | some snapshot => cases sequence with
      | none => simp [validateSequence] at hsequence
      | some sequence =>
        have hmetadata := SaveRequest.metadataValue_rebuild ⟨some graph, some snapshot, some sequence, metadata⟩
        rw [SaveRequest.metadataValue] at hmetadata
        refine ⟨sequence, graph, snapshot, fun _ => rfl, hsequence, hgraph, hsnapshot, _, rfl, ?_⟩
        simp only [Option.map_some, Option.getD_some, graph.rebuilt, snapshot.rebuilt, hmetadata]
        rfl

/-- The fields of the envelope as they are read back. -/
theorem get_saved (sequence graph snapshot : Value) {metadata : Json} (hmetadata : metadata.rebuild = metadata) :
    let envelope := (envelopeOf sha256 (stateFields sequence.json graph.json snapshot.json metadata)).rebuild
    envelope.get "contract_version" = some (.text contractVersion) ∧ envelope.get "sequence" = some sequence.json ∧
      envelope.get "cognitive_graph" = some graph.json ∧ envelope.get "synaptic_snapshot" = some snapshot.json ∧
      envelope.get "metadata" = some metadata ∧
      envelope.get "state_root" = some (.str (js "sha256:" ++ sha256 (stateText sequence.json graph.json snapshot.json metadata))) := by
  intro envelope
  have hget : ∀ name, envelope.get name = _ := Json.get_rebuild_record (by simp [stateFields])
  simp only [hget]
  simp [stateFields, List.lookup_cons, Json.rebuild, Json.text, sequence.rebuilt, graph.rebuilt, snapshot.rebuilt, hmetadata, stateText]

/-- A load of what was saved compares the commitment with one over the metadata as it completes it. -/
theorem load_saved (h : save sha256 request = .ok saved) (envelope : Json) :
    load sha256 (utf8Decode saved.file) = .ok envelope ↔
      sha256 (request.text (coalesce (some request.metadataValue) (.obj []))) = sha256 (request.text request.metadataValue) ∧
        saved.envelope = envelope := by
  obtain ⟨sequence, graph, snapshot, htext, hsequence, hgraph, hsnapshot, whole, hwhole, rfl⟩ := save_eq_ok h
  have hread : parse (indented whole ++ [10]) = some whole.rebuild := parse_indented whole (by simp [isSpace])
  have hwell : WellFormed (indented whole ++ [10]) := (wellFormed_indented whole 0).append (wellFormed_of_ascii (by decide))
  obtain ⟨hcontract, hseq, hg, hs, hm, hroot⟩ := @get_saved sha256 sequence graph snapshot _ request.metadataValue_rebuild
  rw [← hwhole] at hcontract hseq hg hs hm hroot
  have hobject : (!whole.rebuild.isNull) = true := by
    rw [hwhole]
    rfl
  simp only [htext, load, utf8Decode_utf8Encode hwell, orThrow_eq_ok, bind_eq_ok, ensure_eq_ok, pure_eq_ok, exists_const, Option.some.injEq,
    exists_eq_left', hread, hcontract, hseq, hg, hs, hm, hroot, hsequence, hgraph, hsnapshot, hobject, persistentStateRoot,
    Json.bind_str?_eq_some, Json.str.injEq, Option.getD_some, beq_iff_eq, rebuild_rebuild]
  have hcontract' : (some (Json.text contractVersion) == some (Json.text contractVersion)) = true := Json.some_beq_str_iff.mpr rfl
  have hlabel : decide ("persistent-cognitive-state" ≠ "") = true := by decide
  simp only [hcontract', hlabel, true_and, exists_eq_left']
  rw [stateText, List.append_right_inj, stateText]

/-- A state with null metadata is never loaded. -/
theorem null_refused (h : save sha256 request = .ok saved) (hnull : request.metadata.map Value.json = some .null)
    (hsha : Set.InjOn sha256 {request.text .null, request.text (.obj [])}) (envelope : Json) :
    load sha256 (utf8Decode saved.file) ≠ .ok envelope := by
  have hvalue : request.metadataValue = .null := by rw [SaveRequest.metadataValue, hnull, Option.getD_some]
  have hne : request.text (.obj []) ≠ request.text .null := stateText_ne _ _ _
  intro hload
  have hsame := ((load_saved h envelope).mp hload).1
  rw [hvalue] at hsame
  exact hne (hsha (by simp) (by simp) hsame)

/-- What was saved is loaded as it was returned, exactly if its metadata was not null. -/
theorem saved_loads_iff (h : save sha256 request = .ok saved)
    (hsha : Set.InjOn sha256 {request.text .null, request.text (.obj [])}) :
    load sha256 (utf8Decode saved.file) = .ok saved.envelope ↔ request.metadata.map Value.json ≠ some .null := by
  constructor
  · exact fun hload hnull => null_refused h hnull hsha _ hload
  · intro hnull
    have hsame : coalesce (some request.metadataValue) (.obj []) = request.metadataValue := by
      rw [SaveRequest.metadataValue]
      cases hm : request.metadata.map Value.json with
      | none => rfl
      | some v => cases v with
        | null => exact absurd hm hnull
        | bool _ | num _ | str _ | arr _ | obj _ => rfl
    exact (load_saved h _).mpr ⟨by rw [hsame], rfl⟩

end

/-! ## A sample state -/

namespace Sample

/-- The text itself stands for its hash. -/
def sha256 (bytes : Bytes) : JsString := bytes.map fun b => UInt16.ofNat b.toNat

theorem sha256_injective : Function.Injective sha256 := by
  have hunit : Function.Injective fun b : UInt8 => UInt16.ofNat b.toNat := by
    intro b c h
    have hb := b.toNat_lt
    have hc := c.toNat_lt
    have h' := congrArg UInt16.toNat h
    simp only [UInt16.toNat_ofNat'] at h'
    exact UInt8.toNat_inj.mp (by omega)
  exact List.map_injective_iff.mpr hunit

def graph : Value := ⟨.record [("state_root", .text "sha256:g")], rfl⟩

def snapshot : Value := ⟨.record [("state_root", .text "sha256:s"), ("relationships", .arr [])], rfl⟩

/-- A first state, with given metadata. -/
def request (metadata : Option Value) : SaveRequest := ⟨some graph, some snapshot, some ⟨.int 1, rfl⟩, metadata⟩

theorem request_saved (metadata : Option Value) : ∃ saved, save sha256 (request metadata) = .ok saved :=
  ⟨_, rfl⟩

theorem saved_loads_default : ∃ saved, save sha256 (request none) = .ok saved ∧
    load sha256 (utf8Decode saved.file) = .ok saved.envelope := by
  obtain ⟨saved, hsaved⟩ := request_saved none
  exact ⟨saved, hsaved, (saved_loads_iff hsaved sha256_injective.injOn).mpr (by simp [request])⟩

/-- A state saved with null metadata is refused when it is loaded. -/
theorem null_metadata_refused : ∃ saved, save sha256 (request (some ⟨.null, rfl⟩)) = .ok saved ∧
    ∀ envelope, load sha256 (utf8Decode saved.file) ≠ .ok envelope := by
  obtain ⟨saved, hsaved⟩ := request_saved (some ⟨.null, rfl⟩)
  exact ⟨saved, hsaved, null_refused hsaved rfl sha256_injective.injOn⟩

end Sample

end CognitiveState
