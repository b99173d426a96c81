import StrataPortNetwork.Synaptizer.Tally
import StrataPortNetwork.CognitiveBody.Compiler

/-! # Learning does not depend on the order of events

Two Synaptizers that consume the same valid events in different orders learn the same about
every relationship, and the compiler ranks ports alike by the snapshots of both.
-/
namespace Synaptic
open Js

/-- The same properties but for the state root, and the context up to the order of keys. -/
structure Alike (r r' : Json) : Prop where
  get : ∀ name, name ≠ "state_root" → name ≠ "context_ref" → r.get name = r'.get name
  context : (r.get "context_ref").map Json.sorted = (r'.get "context_ref").map Json.sorted

/-! ## Tallies in any order -/

section
variable {sourceComponent targetComponent sourceRole targetRole : JsString} {contextRef contextRef' : Json}

theorem get_newRelationship_context (id : JsString) {name : String} (h : name ≠ "context_ref") :
    (newRelationship id (identityRecord sourceComponent targetComponent sourceRole targetRole contextRef)).get name =
      (newRelationship id (identityRecord sourceComponent targetComponent sourceRole targetRole contextRef')).get name := by
  simp only [newRelationship, identityRecord, Json.get, Json.fields, Json.record, List.map_cons, List.map_nil, List.cons_append,
    List.nil_append, Json.lookup_cons, js_inj, if_neg h]

/-- The tallies of one edge in contexts equal up to the order of keys. -/
theorem alike_tallied (id : JsString) (events : List Json) (h : contextRef.sorted = contextRef'.sorted) :
    Alike (tallied id (identityRecord sourceComponent targetComponent sourceRole targetRole contextRef) events)
      (tallied id (identityRecord sourceComponent targetComponent sourceRole targetRole contextRef') events) where
  get name hroot hcontext := by
    simp only [tallied, Json.get_set]
    split_ifs
    all_goals first
      | rfl
      | exact get_newRelationship_context id hcontext
  context := by
    have hget : ∀ c, (tallied id (identityRecord sourceComponent targetComponent sourceRole targetRole c) events).get
        "context_ref" = some c := by
      intro c
      simp only [tallied, Json.get_set]
      rfl
    rw [hget, hget, Option.map_some, Option.map_some, h]

end

theorem Tallies.alike {r r' tally tally' : Json} (h : ∀ name, name ≠ "state_root" → r.get name = tally.get name)
    (h' : ∀ name, name ≠ "state_root" → r'.get name = tally'.get name) (halike : Alike tally tally') : Alike r r' where
  get name hroot hcontext := by rw [h name hroot, halike.get name hroot hcontext, h' name hroot]
  context := by rw [h _ (by decide), halike.context, h' _ (by decide)]

/-- Both are absent, or both are there and alike. -/
inductive AlikeOption : Option Json → Option Json → Prop
  | absent : AlikeOption none none
  | present {r r' : Json} (h : Alike r r') : AlikeOption (some r) (some r')

theorem AlikeOption.cases {found found' : Option Json} (h : AlikeOption found found') :
    (found = none ∧ found' = none) ∨ ∃ r r', found = some r ∧ found' = some r' ∧ Alike r r' := by
  cases h with
  | absent => exact .inl ⟨rfl, rfl⟩
  | present h => exact .inr ⟨_, _, rfl, rfl, h⟩

theorem keyed_get {v w : Json} {name : String} (hv : v.Keyed) (h : v.get name = some w) : w.Keyed := by
  cases hv with
  | null | bool _ | num _ | str _ | arr _ => cases h
  | obj _ hfields => exact hfields _ (Json.mem_of_lookup h)

namespace Synaptizer
variable {digest : Digest} {s t : Synaptizer} {events : List Json}

/-- What the Synaptizer hashes for the ids of the relationships it learns. -/
def hashedIdentities (events : List Json) : Set Bytes :=
  {bytes | ∃ event ∈ events, isVerified event = true ∧
    bytes = StateModule.synaptizer.hashed "synaptic-relationship-identity" (identityOf event)}

/-- The identity of a valid verified event. -/
theorem Valid.identity {event : Json} (h : Valid digest event) (hkeyed : event.Keyed) (hverified : isVerified event = true) :
    ∃ sourceComponent targetComponent sourceRole targetRole contextRef, contextRef.Keyed ∧
      identityOf event = identityRecord sourceComponent targetComponent sourceRole targetRole contextRef := by
  obtain ⟨sourceComponent, targetComponent, sourceRole, targetRole, hidentity⟩ := identity_eq_record (h.spec.2 hverified).2
  refine ⟨sourceComponent, targetComponent, sourceRole, targetRole, _, ?_, hidentity⟩
  cases hcontext : event.get "context_ref" with
  | none => exact .null
  | some v => exact keyed_get hkeyed hcontext

/-- Two tallies of the same evidence in different orders are alike. -/
theorem Knows.alike {id : JsString} {evidence evidence' : List Json} (h : s.Knows id evidence) (h' : t.Knows id evidence')
    (hperm : evidence.Perm evidence') (hvalid : ∀ event ∈ evidence, Valid digest event) (hkeyed : ∀ event ∈ evidence, event.Keyed)
    (hof : ∀ event ∈ evidence, isVerified event = true ∧ idFor digest event = id)
    (hdigest : Set.InjOn digest.hex (hashedIdentities evidence)) : AlikeOption (s.relationships.get id) (t.relationships.get id) := by
  cases evidence with
  | nil =>
    rw [List.nil_perm.mp hperm] at h'
    have hnone : s.relationships.get id = none := h
    have hnone' : t.relationships.get id = none := h'
    rw [hnone, hnone']
    exact .absent
  | cons first rest =>
    cases evidence' with
    | nil => exact absurd hperm.symm.nil_eq (by simp)
    | cons first' rest' =>
      obtain ⟨r, hr, htallies⟩ := h
      obtain ⟨r', hr', htallies'⟩ := h'
      rw [hr, hr']
      have hmem : first ∈ first :: rest := List.mem_cons_self
      have hmem' : first' ∈ first :: rest := hperm.mem_iff.mpr List.mem_cons_self
      obtain ⟨a, b, c, d, contextRef, hcontext, hidentity⟩ := (hvalid _ hmem).identity (hkeyed _ hmem) (hof _ hmem).1
      obtain ⟨a', b', c', d', contextRef', hcontext', hidentity'⟩ :=
        (hvalid _ hmem').identity (hkeyed _ hmem') (hof _ hmem').1
      have hids : idFor digest first = idFor digest first' := (hof _ hmem).2.trans (hof _ hmem').2.symm
      rw [idFor, idFor, hidentity, hidentity'] at hids
      obtain ⟨⟨rfl, rfl, rfl, rfl⟩, hsorted⟩ := names_of_stateRoot hcontext hcontext' (hdigest.mono (by
        rintro bytes (rfl | rfl)
        · exact ⟨first, hmem, (hof _ hmem).1, by rw [hidentity]⟩
        · exact ⟨first', hmem', (hof _ hmem').1, by rw [hidentity']⟩)) hids
      rw [Tallies, hidentity] at htallies
      rw [Tallies, hidentity', tallied_perm id _ hperm.symm] at htallies'
      exact .present (Tallies.alike htallies htallies' (alike_tallied id _ hsorted))

/-! ## Snapshots -/

theorem mem_ids (hs : s.Keyed) {id : JsString} :
    id ∈ s.relationships.values.map idOf ↔ (s.relationships.get id).isSome = true := by
  rw [List.mem_map, Option.isSome_iff_exists]
  constructor
  · rintro ⟨r, hr, rfl⟩
    exact ⟨r, hs.mem_values_iff.mp hr⟩
  · rintro ⟨r, hr⟩
    exact ⟨r, JsMap.mem_values_of_get hr, hs id r hr⟩

/-- The description reads the relationships off in the order of their ids. -/
theorem describeRelationships_eq (hs : s.Keyed) :
    s.describeRelationships = (Json.sortKeys (s.relationships.values.map idOf)).filterMap s.relationships.get := by
  have hdescribe : s.describeRelationships = sortOn idOf s.relationships.values := rfl
  rw [sortKeys_map, List.filterMap_map, hdescribe]
  have hget : ∀ r ∈ sortOn idOf s.relationships.values, (s.relationships.get ∘ idOf) r = some r := fun r hr =>
    hs.mem_values_iff.mp ((perm_sortOn idOf _).mem_iff.mp hr)
  rw [List.filterMap_congr hget, List.filterMap_some]

theorem forall₂_filterMap (ids : List JsString) {f g : JsString → Option Json} (h : ∀ id, AlikeOption (f id) (g id)) :
    List.Forall₂ Alike (ids.filterMap f) (ids.filterMap g) := by
  induction ids with
  | nil => exact .nil
  | cons id rest ih =>
    rcases (h id).cases with ⟨hf, hg⟩ | ⟨r, r', hf, hg, halike⟩
    · rw [List.filterMap_cons_none hf, List.filterMap_cons_none hg]
      exact ih
    · rw [List.filterMap_cons_some hf, List.filterMap_cons_some hg]
      exact .cons halike ih

/-- Synaptizers that have learned alike describe relationships alike, in one order. -/
theorem alike_describe (hs : s.Keyed) (ht : t.Keyed)
    (h : ∀ id, AlikeOption (s.relationships.get id) (t.relationships.get id)) :
    List.Forall₂ Alike s.describeRelationships t.describeRelationships := by
  have hids : (s.relationships.values.map idOf).Perm (t.relationships.values.map idOf) := by
    refine (List.perm_ext_iff_of_nodup hs.nodup_ids ht.nodup_ids).mpr fun id => ?_
    rw [mem_ids hs, mem_ids ht]
    rcases (h id).cases with ⟨hf, hg⟩ | ⟨r, r', hf, hg, -⟩
    · rw [hf, hg]
    · rw [hf, hg]
      exact Iff.rfl
  rw [describeRelationships_eq hs, describeRelationships_eq ht, Json.sortKeys_congr hids]
  exact forall₂_filterMap _ h

theorem get_snapshot (digest : Digest) (s : Synaptizer) :
    (s.snapshot digest).get "relationships" = some (.arr s.describeRelationships) := by
  rw [snapshot, Json.get_set, if_neg (by decide)]
  rfl

end Synaptizer

/-! ## Scores -/

open CognitiveBody

/-- Strict equality does not see the order of keys: an array or an object is no other value. -/
theorem beq_of_sorted_eq {v w : Json} (h : v.sorted = w.sorted) (x : Json) : (v == x) = (w == x) := by
  cases v <;> cases w <;> simp only [Json.sorted, reduceCtorEq, Json.bool.injEq, Json.num.injEq, Json.str.injEq] at h <;>
    first | rfl | rw [h]

theorem Alike.context_beq {r r' : Json} (h : Alike r r') (x : Json) :
    (r.get "context_ref" == some x) = (r'.get "context_ref" == some x) := by
  have hcontext := h.context
  revert hcontext
  cases r.get "context_ref" <;> cases r'.get "context_ref" <;> intro hcontext
  · rfl
  · cases hcontext
  · cases hcontext
  · exact beq_of_sorted_eq (Option.some.inj hcontext) x

theorem Alike.isEvidence {r r' : Json} (h : Alike r r') (port : CognitivePort) (contextRef : Json) :
    isEvidence port contextRef r = isEvidence port contextRef r' := by
  rw [CognitiveBody.isEvidence, CognitiveBody.isEvidence, h.get "target_component" (by decide) (by decide), h.context_beq,
    h.context_beq]

theorem Alike.reinforcementOf {r r' : Json} (h : Alike r r') : reinforcementOf r = reinforcementOf r' := by
  rw [CognitiveBody.reinforcementOf, CognitiveBody.reinforcementOf, h.get "reinforcement" (by decide) (by decide)]

theorem evidence_alike (port : CognitivePort) (contextRef : Json) {relationships relationships' : List Json}
    (h : List.Forall₂ Alike relationships relationships') :
    (relationships.filter (isEvidence port contextRef)).map reinforcementOf =
      (relationships'.filter (isEvidence port contextRef)).map reinforcementOf := by
  induction h with
  | nil => rfl
  | cons hhead _ ih =>
    rw [List.filter_cons, List.filter_cons, hhead.isEvidence port contextRef]
    split
    · rw [List.map_cons, List.map_cons, ih, hhead.reinforcementOf]
    · exact ih

/-! ## Plans -/

/-- Scores by the snapshots of Synaptizers that describe relationships alike. -/
theorem score_snapshot (digest : Digest) {s t : Synaptizer} (h : List.Forall₂ Alike s.describeRelationships t.describeRelationships)
    (port : CognitivePort) (contextRef : Json) :
    synapticEvidenceScore port (s.snapshot digest) contextRef = synapticEvidenceScore port (t.snapshot digest) contextRef := by
  have hobject : ∀ s : Synaptizer, (s.snapshot digest).isNull = false := fun _ => rfl
  have hok : ∀ (relationships : List Json) (k : List Json → CognitiveBody.Outcome JsNumber),
      (Except.ok relationships >>= k) = k relationships := fun _ _ => rfl
  rw [synapticEvidenceScore, synapticEvidenceScore, hobject, hobject, Synaptizer.get_snapshot, Synaptizer.get_snapshot]
  simp only [Option.bind_some, Json.items?, orThrow, hok, evidence_alike port contextRef h]

/-- A plan without the root of the snapshot it was selected by. -/
def withoutEvidenceRoot (plan : ActivationPlan) : ActivationPlan := { plan with selectionEvidenceRoot := .null }

section
variable {collation : Collation} {S T : Json}

theorem rankPorts_congr (h : ∀ port contextRef, synapticEvidenceScore port S contextRef = synapticEvidenceScore port T contextRef)
    (ports : List CognitivePort) (portType : PortType) (intentClass : JsString) (contextRef : Json) :
    rankPorts collation ports portType intentClass S contextRef = rankPorts collation ports portType intentClass T contextRef := by
  simp only [rankPorts, h]

/-- Plans by snapshots that score alike differ in the root of the snapshot only. -/
theorem plan_congr (hS : S.isNull = false) (hT : T.isNull = false) (hcheckS : checkSnapshot S = .ok ())
    (hcheckT : checkSnapshot T = .ok ())
    (h : ∀ port contextRef, synapticEvidenceScore port S contextRef = synapticEvidenceScore port T contextRef)
    (input : CompilerInput) :
    withoutEvidenceRoot <$> plan collation { input with synapticSnapshot := some S } =
      withoutEvidenceRoot <$> plan collation { input with synapticSnapshot := some T } := by
  have hcoalesce : ∀ {v : Json}, v.isNull = false → CognitiveState.coalesce (some v) .null = v := by
    intro v hv
    cases v <;> rfl
  simp only [plan, hcoalesce hS, hcoalesce hT, hcheckS, hcheckT, selectOne, rankPorts_congr h, map_bind, map_pure,
    withoutEvidenceRoot]

theorem compile_plan (digest : Digest) (input : CompilerInput) :
    (fun compiled => withoutEvidenceRoot compiled.1) <$> compile digest collation input =
      withoutEvidenceRoot <$> plan collation input := by
  rw [compile, map_bind]
  cases plan collation input with
  | error e => rfl
  | ok plan => rfl

end

theorem checkSnapshot_snapshot (digest : Digest) (s : Synaptizer) : checkSnapshot (s.snapshot digest) = .ok () := by
  have hroot : (s.snapshot digest).get "state_root" =
      some (.str (stateRoot digest "synaptizer-state" s.snapshotState)) := by
    rw [Synaptizer.snapshot, Json.get_set, if_pos rfl]
  rw [checkSnapshot, Synaptizer.get_snapshot, hroot]
  rfl

/-- Valid events with distinct ids teach the same in any order: the relationships are the same
but for the roots of their states, the counters are the same, and the compiler ranks the ports
of any fabric with the same scores by either snapshot. -/
theorem learning_order_independent (digest : Digest) {events events' : List CognitiveState.Value} (hperm : events.Perm events')
    (hvalid : ∀ event ∈ events, Synaptizer.Valid digest event.json)
    (hdistinct : ((events.map (·.json)).map Synaptizer.eventId).Nodup)
    (hdigest : Set.InjOn digest.hex (Synaptizer.hashedIdentities (events.map (·.json)))) :
    let s := Transition.run (Synaptizer.step digest) .fresh (events.map (·.json))
    let t := Transition.run (Synaptizer.step digest) .fresh (events'.map (·.json))
    (∀ id, AlikeOption (s.relationships.get id) (t.relationships.get id)) ∧
    (s.receivedEvents = t.receivedEvents ∧ s.learnedEvents = t.learnedEvents ∧
      s.ignoredUnverifiedEvents = t.ignoredUnverifiedEvents ∧ s.duplicateEvents = t.duplicateEvents) ∧
    (∀ collation ports portType intentClass contextRef,
      rankPorts collation ports portType intentClass (s.snapshot digest) contextRef =
        rankPorts collation ports portType intentClass (t.snapshot digest) contextRef) ∧
    ∀ (collation : Collation) (input : CompilerInput),
      (fun compiled => withoutEvidenceRoot compiled.1) <$>
          compile digest collation { input with synapticSnapshot := some (s.snapshot digest) } =
        (fun compiled => withoutEvidenceRoot compiled.1) <$>
          compile digest collation { input with synapticSnapshot := some (t.snapshot digest) } := by
  intro s t
  have hperm' : (events.map (·.json)).Perm (events'.map (·.json)) := hperm.map _
  have hall : ∀ event ∈ events.map (·.json), Synaptizer.Valid digest event := List.forall_mem_map.mpr hvalid
  have hs : Synaptizer.Learnt digest s (events.map (·.json)) := Synaptizer.learnt_run hall hdistinct
  have ht : Synaptizer.Learnt digest t (events'.map (·.json)) :=
    Synaptizer.learnt_run (fun event hevent => hall event (hperm'.mem_iff.mpr hevent))
      ((hperm'.map Synaptizer.eventId).nodup_iff.mp hdistinct)
  have halike : ∀ id, AlikeOption (s.relationships.get id) (t.relationships.get id) := by
    intro id
    refine (hs.knows id).alike (ht.knows id) (hperm'.filter _) (fun event hevent => hall event (List.mem_of_mem_filter hevent))
      (fun event hevent => ?_) (fun event hevent => ?_) (hdigest.mono ?_)
    · obtain ⟨value, -, rfl⟩ := List.mem_map.mp (List.mem_of_mem_filter hevent)
      exact value.rebuilt ▸ Json.keyed_rebuild value.json
    · have hof := (List.mem_filter.mp hevent).2
      rw [Bool.and_eq_true] at hof
      exact ⟨hof.1, eq_of_beq hof.2⟩
    · rintro bytes ⟨event, hevent, hverified, rfl⟩
      exact ⟨event, List.mem_of_mem_filter hevent, hverified, rfl⟩
  have hdescribe := Synaptizer.alike_describe (Synaptizer.keyed_fresh.run _) (Synaptizer.keyed_fresh.run _) halike
  have hscore := score_snapshot digest hdescribe
  refine ⟨halike, ⟨?_, ?_, ?_, ?_⟩, fun collation => rankPorts_congr hscore, fun collation input => ?_⟩
  · rw [hs.received, ht.received, hperm'.length_eq]
  · rw [hs.learned, ht.learned, hperm'.countP_eq]
  · rw [hs.ignored, ht.ignored, hperm'.countP_eq]
  · rw [hs.duplicates, ht.duplicates]
  · rw [compile_plan, compile_plan]
    exact plan_congr rfl rfl (checkSnapshot_snapshot digest s) (checkSnapshot_snapshot digest t) hscore input

namespace Sample

/-- Verified evidence of one relationship: a recovery or a failure. -/
def evidence (eventId : String) (success recovery : Bool) : CognitiveState.Value where
  json := (Json.record [("contract_version", .text "1.0.0"), ("event_type", .text "PROCESS_EDGE_EVIDENCE"),
    ("edge_relationship", .record [("source_component", .text "planner"), ("target_component", .text "worker"),
      ("source_role", .text "requester"), ("target_role", .text "executor")]),
    ("context_ref", .null), ("success", .bool success), ("failure", .bool !success), ("recovery", .bool recovery),
    ("fitness_evidence", .record [("verified", .bool true)]), ("edge_execution_id", .text eventId),
    ("state_root", .str (js "sha256:" ++ List.replicate 64 97))]).rebuild
  rebuilt := rebuild_rebuild _

theorem valid_of_isOk {event : Json} (h : (Synaptizer.fresh.consume Synaptizer.sampleDigest event).1.isOk = true) :
    Synaptizer.Valid Synaptizer.sampleDigest event := by
  unfold Synaptizer.Valid
  cases hconsumed : (Synaptizer.fresh.consume Synaptizer.sampleDigest event).1 with
  | error e => rw [hconsumed] at h; cases h
  | ok consumed => exact ⟨consumed, rfl⟩

def events : List CognitiveState.Value := [evidence "edge-1" true true, evidence "edge-2" false false]

theorem valid_events : ∀ event ∈ events, Synaptizer.Valid Synaptizer.sampleDigest event.json := by
  simp only [events, List.forall_mem_cons]
  exact ⟨valid_of_isOk (by decide +kernel), valid_of_isOk (by decide +kernel), by simp⟩

theorem distinct_events : ((events.map (·.json)).map Synaptizer.eventId).Nodup := by decide +kernel

/-- Both events are of one identity. -/
theorem hashed_events :
    StateModule.synaptizer.hashed "synaptic-relationship-identity" (Synaptizer.identityOf (evidence "edge-1" true true).json) =
      StateModule.synaptizer.hashed "synaptic-relationship-identity"
        (Synaptizer.identityOf (evidence "edge-2" false false).json) := by
  decide +kernel

theorem injOn_events : Set.InjOn Synaptizer.sampleDigest.hex (Synaptizer.hashedIdentities (events.map (·.json))) := by
  refine Set.Subsingleton.injOn ?_ _
  have hone : ∀ event ∈ events.map (·.json), StateModule.synaptizer.hashed "synaptic-relationship-identity"
      (Synaptizer.identityOf event) = StateModule.synaptizer.hashed "synaptic-relationship-identity"
        (Synaptizer.identityOf (evidence "edge-1" true true).json) := by
    simp only [events, List.map_cons, List.map_nil, List.forall_mem_cons]
    exact ⟨trivial, hashed_events.symm, by simp⟩
  rintro _ ⟨event, hevent, -, rfl⟩ _ ⟨event', hevent', -, rfl⟩
  rw [hone event hevent, hone event' hevent']

def reversed : List CognitiveState.Value := [evidence "edge-2" false false, evidence "edge-1" true true]

/-- A recovery and a failure, in both orders. -/
theorem order_of_two :
    (Transition.run (Synaptizer.step Synaptizer.sampleDigest) .fresh (events.map (·.json))).learnedEvents =
      (Transition.run (Synaptizer.step Synaptizer.sampleDigest) .fresh (reversed.map (·.json))).learnedEvents ∧
    ∀ id, AlikeOption
      ((Transition.run (Synaptizer.step Synaptizer.sampleDigest) .fresh (events.map (·.json))).relationships.get id)
      ((Transition.run (Synaptizer.step Synaptizer.sampleDigest) .fresh (reversed.map (·.json))).relationships.get id) := by
  have hperm : events.Perm reversed := List.Perm.swap _ _ []
  obtain ⟨halike, ⟨-, hlearned, -⟩, -⟩ :=
    learning_order_independent Synaptizer.sampleDigest hperm valid_events distinct_events injOn_events
  exact ⟨hlearned, halike⟩

end Sample

end Synaptic
