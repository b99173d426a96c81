import StrataPortNetwork.Synaptizer.Learning
import StrataPortNetwork.Transition
import StrataPortNetwork.Native.Sample

/-! # Hydration from a snapshot

A Synaptizer is determined, for all it can show, by what it finds under each id, the
events it has seen and its counters. A snapshot carries these over as long as no
relationship was learned twice: a second learning commits to the root of the first.
-/
namespace Synaptic
open Js

/-! ## Events that teach -/

namespace Synaptizer
variable (digest : Digest)

def step (s : Synaptizer) (event : Json) : Synaptizer := (s.consume digest event).2

/-- What successive calls of `consume` return. -/
def outcomes (s : Synaptizer) : List Json → List (Outcome Consumption)
  | [] => []
  | event :: rest => (s.consume digest event).1 :: (s.step digest event).outcomes rest

/-- The event passes every check on the way to the relationship. -/
def Teaches (s : Synaptizer) (event : Json) (id : JsString) (identity : Json) : Prop :=
  ∃ eventId, checkEvent event = .ok eventId ∧ s.seenEvents.has eventId = false ∧
    isTrue ((event.get "fitness_evidence").bind (·.get "verified")) = true ∧
    relationshipId digest event = .ok (id, identity)

/-- An event teaches only a relationship that is not known yet. -/
def TeachesNew (s : Synaptizer) (event : Json) : Prop :=
  ∀ id identity, s.Teaches digest event id identity → s.relationships.get id = none

variable {digest} {s t : Synaptizer} {event : Json}

/-- Everything `consume` does to the relationships. -/
theorem step_relationships :
    (s.step digest event).relationships = s.relationships ∨
      ∃ id identity, s.Teaches digest event id identity ∧
        (s.step digest event).relationships = s.relationships.set id (s.committed digest id identity event) := by
  unfold step consume
  cases hevent : checkEvent event with
  | error e => exact Or.inl rfl
  | ok eventId =>
    by_cases hseen : s.seenEvents.has eventId = true
    · simp only [if_pos hseen, true_or]
    · simp only [if_neg hseen]
      by_cases hverified : isTrue ((event.get "fitness_evidence").bind (·.get "verified")) = true
      · simp only [if_pos hverified]
        cases hid : relationshipId digest event with
        | error e => exact Or.inl rfl
        | ok found =>
          obtain ⟨id, identity⟩ := found
          exact Or.inr ⟨id, identity, ⟨eventId, hevent, (Bool.not_eq_true _).mp hseen, hverified, hid⟩, rfl⟩
      · simp only [if_neg hverified, true_or]

/-- Everything `consume` does to the events seen and to the counters. -/
theorem step_counts :
    ((s.step digest event).seenEvents = s.seenEvents ∨
      ∃ eventId, checkEvent event = .ok eventId ∧ (s.step digest event).seenEvents = s.seenEvents.add eventId) ∧
    (s.step digest event).receivedEvents ≤ s.receivedEvents + 1 ∧
    (s.step digest event).learnedEvents ≤ s.learnedEvents + 1 ∧
    (s.step digest event).ignoredUnverifiedEvents ≤ s.ignoredUnverifiedEvents + 1 ∧
    (s.step digest event).duplicateEvents ≤ s.duplicateEvents + 1 := by
  unfold step consume
  cases hevent : checkEvent event with
  | error e => simp
  | ok eventId =>
    by_cases hseen : s.seenEvents.has eventId = true
    · simp [hseen]
    · simp only [if_neg hseen]
      split
      · split <;> simp
      · simp

/-! ## States that show the same -/

/-- The same relationships under the same ids, the same events seen, the same counters. -/
structure Same (s t : Synaptizer) : Prop where
  relationships : ∀ id, s.relationships.get id = t.relationships.get id
  seenEvents : ∀ eventId, eventId ∈ s.seenEvents.items ↔ eventId ∈ t.seenEvents.items
  receivedEvents : s.receivedEvents = t.receivedEvents
  learnedEvents : s.learnedEvents = t.learnedEvents
  ignoredUnverifiedEvents : s.ignoredUnverifiedEvents = t.ignoredUnverifiedEvents
  duplicateEvents : s.duplicateEvents = t.duplicateEvents

theorem Same.committed (h : Same s t) (id : JsString) (identity event : Json) :
    s.committed digest id identity event = t.committed digest id identity event := by
  simp only [Synaptizer.committed, h.relationships]

/-- The same event gives the same result and again states that show the same. -/
theorem Same.consume (h : Same s t) (event : Json) :
    (s.consume digest event).1 = (t.consume digest event).1 ∧ Same (s.step digest event) (t.step digest event) := by
  have hhas : ∀ eventId, s.seenEvents.has eventId = t.seenEvents.has eventId := by
    intro eventId
    rw [Bool.eq_iff_iff, JsSet.has_iff, JsSet.has_iff, h.seenEvents]
  have hadd : ∀ eventId id, id ∈ (s.seenEvents.add eventId).items ↔ id ∈ (t.seenEvents.add eventId).items := by
    intro eventId id
    rw [JsSet.mem_add, JsSet.mem_add, h.seenEvents]
  unfold step Synaptizer.consume
  cases checkEvent event with
  | error e => exact ⟨rfl, h⟩
  | ok eventId =>
    simp only [hhas eventId, h.committed]
    split
    · exact ⟨rfl, h.relationships, h.seenEvents, by simp [h.receivedEvents], h.learnedEvents,
        h.ignoredUnverifiedEvents, by simp [h.duplicateEvents]⟩
    · split
      · split
        · exact ⟨rfl, h.relationships, hadd eventId, by simp [h.receivedEvents], h.learnedEvents,
            h.ignoredUnverifiedEvents, h.duplicateEvents⟩
        · refine ⟨rfl, ?_, hadd eventId, by simp [h.receivedEvents], by simp [h.learnedEvents],
            h.ignoredUnverifiedEvents, h.duplicateEvents⟩
          intro id
          rw [JsMap.get_set, JsMap.get_set, h.relationships]
      · exact ⟨rfl, h.relationships, hadd eventId, by simp [h.receivedEvents], h.learnedEvents,
          by simp [h.ignoredUnverifiedEvents], h.duplicateEvents⟩

theorem Same.run (h : Same s t) (later : List Json) :
    s.outcomes digest later = t.outcomes digest later ∧
      Same (Transition.run (step digest) s later) (Transition.run (step digest) t later) := by
  induction later generalizing s t with
  | nil => exact ⟨rfl, h⟩
  | cons event rest ih =>
    have hstep := @Same.consume digest _ _ h event
    have hrest := ih hstep.2
    exact ⟨by rw [outcomes, outcomes, hstep.1, hrest.1], hrest.2⟩

/-! ## Snapshots -/

/-- Every relationship is kept under the id it names. -/
def Keyed (s : Synaptizer) : Prop :=
  ∀ id relationship, s.relationships.get id = some relationship → idOf relationship = id

@[simp] theorem idOf_newRelationship (id : JsString) (identity : Json) :
    idOf (newRelationship id identity) = id := by
  simp [idOf, newRelationship, Json.get, Json.fields, Json.lookup_cons, Json.str?]

theorem idOf_updatedRelationship (existing event : Json) :
    idOf (updatedRelationship existing event) = idOf existing := by
  simp [idOf, updatedRelationship]

theorem idOf_committed (hs : s.Keyed) (id : JsString) (identity event : Json) :
    idOf (s.committed digest id identity event) = id := by
  have hset : ∀ root, idOf ((updatedRelationship ((s.relationships.get id).getD (newRelationship id identity))
      event).set "state_root" root) = idOf ((s.relationships.get id).getD (newRelationship id identity)) := by
    intro root
    rw [← idOf_updatedRelationship ((s.relationships.get id).getD (newRelationship id identity)) event]
    simp [idOf]
  rw [committed, hset]
  cases hget : s.relationships.get id with
  | none => simp
  | some existing => exact hs id existing hget

theorem Keyed.step (hs : s.Keyed) (event : Json) : (s.step digest event).Keyed := by
  intro id relationship hget
  rcases @step_relationships digest s event with hsame | ⟨id', identity, -, hset⟩
  · exact hs id relationship (hsame ▸ hget)
  · rw [hset, JsMap.get_set] at hget
    split at hget
    · rename_i hid
      rw [← Option.some.inj hget, idOf_committed hs]
      exact eq_of_beq hid
    · exact hs id relationship hget

theorem Keyed.run (hs : s.Keyed) (events : List Json) : (Transition.run (Synaptizer.step digest) s events).Keyed :=
  Transition.run_invariant (fun _ event h => h.step event) hs events

theorem keyed_fresh : fresh.Keyed := by
  intro id relationship hget
  simp [fresh] at hget

theorem Keyed.mem_values_iff (hs : s.Keyed) {relationship : Json} :
    relationship ∈ s.relationships.values ↔ s.relationships.get (idOf relationship) = some relationship := by
  constructor
  · intro hv
    obtain ⟨e, he, rfl⟩ := List.mem_map.mp hv
    have hget := JsMap.mem_entries_iff.mp he
    rw [hs _ _ hget]
    exact hget
  · exact JsMap.mem_values_of_get

theorem Keyed.nodup_ids (hs : s.Keyed) : (s.relationships.values.map idOf).Nodup := by
  have hids : s.relationships.values.map idOf = s.relationships.entries.map Prod.fst := by
    rw [JsMap.values, List.map_map]
    exact List.map_congr_left fun e he => hs _ _ (JsMap.mem_entries_iff.mp he)
  rw [hids]
  exact s.relationships.nodup_keys

instance : Std.Total (fun a b : Json => Json.leUnits (idOf a) (idOf b) = true) := ⟨fun _ _ => Json.leUnits_total _ _⟩
instance : IsTrans Json (fun a b => Json.leUnits (idOf a) (idOf b) = true) := ⟨fun _ _ _ => Json.leUnits_trans⟩

theorem perm_describeRelationships (s : Synaptizer) : s.describeRelationships.Perm s.relationships.values :=
  List.perm_insertionSort _ _

theorem Same.describeRelationships (h : Same s t) (hs : s.Keyed) : s.describeRelationships = t.describeRelationships := by
  have hperm : s.relationships.values.Perm t.relationships.values :=
    (JsMap.perm_of_get_eq h.relationships).map Prod.snd
  refine List.Perm.eq_of_pairwise ?_ (List.pairwise_insertionSort _ _) (List.pairwise_insertionSort _ _)
    ((perm_describeRelationships s).trans (hperm.trans (perm_describeRelationships t).symm))
  intro a b ha hb hab hba
  -- The ids tell the relationships apart.
  have hid : idOf a = idOf b := Json.leUnits_antisymm hab hba
  have hgeta := hs.mem_values_iff.mp ((perm_describeRelationships s).mem_iff.mp ha)
  have hgetb := hs.mem_values_iff.mp (hperm.mem_iff.mpr ((perm_describeRelationships t).mem_iff.mp hb))
  exact Option.some.inj (hgeta.symm.trans (hid ▸ hgetb))

theorem Same.snapshot (h : Same s t) (hs : s.Keyed) : s.snapshot digest = t.snapshot digest := by
  have hstate : s.snapshotState = t.snapshotState := by
    rw [snapshotState, snapshotState, h.describeRelationships hs, h.receivedEvents, h.learnedEvents,
      h.ignoredUnverifiedEvents, h.duplicateEvents, Json.sortKeys_congr (JsSet.perm_of_mem_iff h.seenEvents)]
  rw [Synaptizer.snapshot, Synaptizer.snapshot, hstate]

end Synaptizer

/-! ## Relationships learned once -/

theorem nonEmpty_eq_ok {v : Option Json} {code : String} {s : JsString} :
    nonEmpty v code = .ok s ↔ v = some (.str s) ∧ s ≠ [] := by
  unfold nonEmpty
  split
  · rename_i u rest
    constructor
    · intro h
      rw [← Except.ok.inj h]
      exact ⟨rfl, by simp⟩
    · rintro ⟨h, -⟩
      rw [Json.str.inj (Option.some.inj h)]
  · rename_i hnot
    refine ⟨fun h => absurd h (by simp), ?_⟩
    rintro ⟨rfl, hs⟩
    cases s with
    | nil => exact absurd rfl hs
    | cons u rest => exact absurd rfl (hnot u rest)

theorem relationshipIdentity_eq_ok {edge identity : Json} {contextRef : Option Json} :
    relationshipIdentity edge contextRef = .ok identity ↔ ∃ source target sourceRole targetRole : JsString,
      (edge.get "source_component" = some (.str source) ∧ source ≠ []) ∧
      (edge.get "target_component" = some (.str target) ∧ target ≠ []) ∧
      (edge.get "source_role" = some (.str sourceRole) ∧ sourceRole ≠ []) ∧
      (edge.get "target_role" = some (.str targetRole) ∧ targetRole ≠ []) ∧
      Json.record [("source_component", .str source), ("target_component", .str target),
        ("source_role", .str sourceRole), ("target_role", .str targetRole), ("context_ref", orNull contextRef)] =
          identity := by
  simp only [relationshipIdentity, bind_eq_ok, nonEmpty_eq_ok, pure_eq_ok]
  constructor
  · rintro ⟨source, hs, target, ht, sourceRole, hsr, targetRole, htr, h⟩
    exact ⟨source, target, sourceRole, targetRole, hs, ht, hsr, htr, h⟩
  · rintro ⟨source, target, sourceRole, targetRole, hs, ht, hsr, htr, h⟩
    exact ⟨source, hs, target, ht, sourceRole, hsr, targetRole, htr, h⟩

/-- A relationship that has no root yet gives back, without its new root, what was hashed. -/
theorem erase_set {value : Json} {name : String} (h : js name ∉ value.keys) (hrecord : value = .obj value.fields)
    (v : Json) : erase (value.set name v) name = value := by
  rw [Json.keys] at h
  rw [erase, Json.set, Json.fields, Json.setField, if_neg h, Json.filter_insertNew h]
  exact hrecord.symm

theorem mem_keys_set {value : Json} {name : String} {v : Json} {k : JsString} :
    k ∈ (value.set name v).keys ↔ k = js name ∨ k ∈ value.keys := Json.mem_keys_setField _ _ _ _

theorem mem_keys_updatedRelationship {existing event : Json} :
    js "state_root" ∈ (updatedRelationship existing event).keys ↔ js "state_root" ∈ existing.keys := by
  simp [updatedRelationship, mem_keys_set]

theorem set_eq_obj (value : Json) (name : String) (v : Json) : value.set name v = .obj (value.set name v).fields := rfl

theorem updatedRelationship_eq_obj (existing event : Json) :
    updatedRelationship existing event = .obj (updatedRelationship existing event).fields := by
  rw [updatedRelationship]
  exact set_eq_obj _ _ _

/-- The properties a learning leaves as they are. -/
theorem get_committed {existing event : Json} {root : Json} {name : String}
    (h : name ∉ ["state_root", "observations", "verified_successes", "verified_failures", "recoveries",
      "verification_contributions", "reinforcement", "evidence_state_roots"]) :
    ((updatedRelationship existing event).set "state_root" root).get name = existing.get name := by
  simp only [List.mem_cons, not_or, List.not_mem_nil, not_false_eq_true, and_true] at h
  simp [updatedRelationship, h]

theorem get_newRelationship {id : JsString} {fields : List (String × Json)} {name : String}
    (h : name ≠ "contract" ∧ name ≠ "relationship_id") {v : Json} (hv : fields.lookup name = some v) :
    (newRelationship id (.record fields)).get name = some v := by
  have hfields : (Json.record fields).fields.lookup (js name) = some v := (Json.get_record fields name).trans hv
  rw [newRelationship, Json.get, Json.fields, List.lookup_append, List.lookup_append, Json.lookup_cons,
    Json.lookup_cons, if_neg (by simpa using h.1), if_neg (by simpa using h.2), hfields]
  rfl

/-- What is committed for a relationship learned for the first time passes every check of hydration. -/
theorem checkRelationship_learned {digest : Digest} {event identity : Json} {id : JsString}
    (h : Synaptizer.relationshipId digest event = .ok (id, identity)) :
    Synaptizer.checkRelationship digest ((updatedRelationship (newRelationship id identity) event).set "state_root"
      (.str (stateRoot digest "synaptic-relationship-state"
        (updatedRelationship (newRelationship id identity) event)))) = .ok id := by
  simp only [Synaptizer.relationshipId, bind_eq_ok, pure_eq_ok] at h
  obtain ⟨_, hidentity, hpair⟩ := h
  obtain ⟨hid, rfl⟩ := Prod.mk.inj hpair
  obtain ⟨source, target, sourceRole, targetRole, hs, ht, hsr, htr, rfl⟩ := relationshipIdentity_eq_ok.mp hidentity
  simp only [Synaptizer.checkRelationship, bind_eq_ok, pure_eq_ok, require, ensure_eq_ok, orThrow_eq_ok,
    Json.bind_str?_eq_some, Json.some_beq_str_iff, Json.text]
  refine ⟨(), rfl, (), ?_, _, relationshipIdentity_eq_ok.mpr ⟨source, target, sourceRole, targetRole,
    ⟨?_, hs.2⟩, ⟨?_, ht.2⟩, ⟨?_, hsr.2⟩, ⟨?_, htr.2⟩, ?_⟩, (), ?_, _, by rw [Json.get_set, if_pos rfl], (), ?_, hid⟩
  · rw [get_committed (by decide)]
    simp [newRelationship, Json.get, Json.fields, Json.text]
  · rw [get_committed (by decide)]
    exact get_newRelationship (by decide) rfl
  · rw [get_committed (by decide)]
    exact get_newRelationship (by decide) rfl
  · rw [get_committed (by decide)]
    exact get_newRelationship (by decide) rfl
  · rw [get_committed (by decide)]
    exact get_newRelationship (by decide) rfl
  · rw [get_committed (by decide), get_newRelationship (by decide) rfl]
    rfl
  · rw [get_committed (by decide), hid]
    simp [newRelationship, Json.get, Json.fields, Json.lookup_cons]
  · have hnew : js "state_root" ∉ (updatedRelationship (newRelationship id (Json.record [("source_component",
        .str source), ("target_component", .str target), ("source_role", .str sourceRole),
        ("target_role", .str targetRole), ("context_ref", orNull (event.get "context_ref"))])) event).keys := by
      rw [mem_keys_updatedRelationship]
      simp [newRelationship, Json.keys, Json.fields, Json.record]
    rw [erase_set hnew (updatedRelationship_eq_obj _ _)]
    exact beq_self_eq_true _

/-! ## Hydration -/

namespace Synaptizer
variable {digest : Digest} {s t : Synaptizer} {event : Json}

/-- Relationships that pass their checks under distinct ids are all restored. -/
theorem restoreRelationships_spec {relationships : List Json} {restored : JsMap JsString Json}
    (hchecks : ∀ r ∈ relationships, checkRelationship digest r = .ok (idOf r))
    (hids : (relationships.map idOf).Nodup) (hnew : ∀ r ∈ relationships, restored.has (idOf r) = false) :
    ∃ m, restoreRelationships digest relationships restored = .ok m ∧
      ∀ id r, m.get id = some r ↔ restored.get id = some r ∨ (r ∈ relationships ∧ idOf r = id) := by
  induction relationships generalizing restored with
  | nil => exact ⟨restored, rfl, by simp⟩
  | cons r rest ih =>
    obtain ⟨hr, hrest⟩ := List.forall_mem_cons.mp hchecks
    obtain ⟨hnotin, hids⟩ := List.nodup_cons.mp hids
    obtain ⟨hrnew, hnew⟩ := List.forall_mem_cons.mp hnew
    have hrestnew : ∀ q ∈ rest, (restored.set (idOf r) r).has (idOf q) = false := by
      intro q hq
      have hne : idOf r ≠ idOf q := fun he => hnotin (he ▸ List.mem_map_of_mem hq)
      rw [← JsMap.get_eq_none_iff, JsMap.get_set, if_neg (by simpa using hne), JsMap.get_eq_none_iff]
      exact hnew q hq
    obtain ⟨m, hm, hget⟩ := ih hrest hids hrestnew
    refine ⟨m, ?_, ?_⟩
    · simp only [restoreRelationships, bind_eq_ok, require, ensure_eq_ok]
      exact ⟨idOf r, hr, (), by simp [hrnew], hm⟩
    · intro id q
      rw [hget, JsMap.get_set]
      by_cases hid : idOf r = id
      · subst hid
        have hnone := JsMap.get_eq_none_iff.mpr hrnew
        simp only [BEq.rfl, if_true, Option.some.injEq, hnone, List.mem_cons, reduceCtorEq, false_or]
        constructor
        · rintro (rfl | ⟨hq, hqid⟩)
          · exact ⟨Or.inl rfl, rfl⟩
          · exact ⟨Or.inr hq, hqid⟩
        · rintro ⟨rfl | hq, hqid⟩
          · exact Or.inl rfl
          · exact Or.inr ⟨hq, hqid⟩
      · rw [if_neg (by simpa using hid), List.mem_cons]
        constructor
        · rintro (hq | ⟨hq, hqid⟩)
          · exact Or.inl hq
          · exact Or.inr ⟨Or.inr hq, hqid⟩
        · rintro (hq | ⟨rfl | hq, hqid⟩)
          · exact Or.inl hq
          · exact absurd hqid hid
          · exact Or.inr ⟨hq, hqid⟩

theorem mapM_nonEmptyText {ids : List JsString} (h : ∀ id ∈ ids, id ≠ []) :
    (ids.map Json.str).mapM nonEmptyText? = some ids := by
  induction ids with
  | nil => rfl
  | cons id rest ih =>
    obtain ⟨hid, hrest⟩ := List.forall_mem_cons.mp h
    obtain ⟨u, us, rfl⟩ := List.exists_cons_of_ne_nil hid
    simp [nonEmptyText?, ih hrest]

theorem seenEventIds_ok {snapshot : Json} {ids : List JsString}
    (hget : snapshot.get "seen_event_ids" = some (.arr (ids.map .str))) (hids : ∀ id ∈ ids, id ≠ []) (hn : ids.Nodup) :
    seenEventIds snapshot = .ok ids := by
  simp only [seenEventIds, hget, bind_eq_ok, require, ensure_eq_ok, orThrow_eq_ok, pure_eq_ok]
  exact ⟨ids, mapM_nonEmptyText hids, (), by rw [JsSet.ofList_of_nodup hn]; exact beq_self_eq_true _, rfl⟩

theorem counter_ok {snapshot : Json} {name : String} {n : ℕ} (hget : snapshot.get name = some (.int n))
    (hn : n < 2 ^ 53) : counter snapshot name = .ok n := by
  have hsafe : (Json.int n).safeInteger? = some (n : ℤ) := by
    rw [Json.int, Json.safeInteger?, JsNumber.safeInteger?, if_pos]
    omega
  rw [counter, hget, Option.bind_some, hsafe]

/-- What a run has to keep for its snapshot to be accepted. -/
structure Restorable (digest : Digest) (calls : ℕ) (s : Synaptizer) : Prop where
  checks : ∀ id relationship, s.relationships.get id = some relationship → checkRelationship digest relationship = .ok id
  seenEvents : ∀ eventId ∈ s.seenEvents.items, eventId ≠ []
  receivedEvents : s.receivedEvents ≤ calls
  learnedEvents : s.learnedEvents ≤ calls
  ignoredUnverifiedEvents : s.ignoredUnverifiedEvents ≤ calls
  duplicateEvents : s.duplicateEvents ≤ calls

theorem eventId_ne_nil {eventId : JsString} (h : checkEvent event = .ok eventId) : eventId ≠ [] := by
  simp only [checkEvent, bind_eq_ok, pure_eq_ok, nonEmpty_eq_ok] at h
  obtain ⟨-, -, -, -, -, -, id, ⟨-, hid⟩, -, -, -, -, -, -, rfl⟩ := h
  exact hid

theorem Restorable.step {calls : ℕ} (hs : Restorable digest calls s) (hnew : s.TeachesNew digest event) :
    Restorable digest (calls + 1) (s.step digest event) := by
  obtain ⟨hseen, hreceived, hlearned, hignored, hduplicate⟩ := @step_counts digest s event
  refine ⟨?_, ?_, ?_, ?_, ?_, ?_⟩
  · intro id relationship hget
    rcases @step_relationships digest s event with hsame | ⟨id', identity, hteaches, hset⟩
    · exact hs.checks id relationship (hsame ▸ hget)
    · rw [hset, JsMap.get_set] at hget
      split at hget
      · rename_i hid
        rw [← Option.some.inj hget, committed, hnew id' identity hteaches, Option.getD_none, ← eq_of_beq hid]
        obtain ⟨eventId, -, -, -, hidentity⟩ := hteaches
        exact checkRelationship_learned hidentity
      · exact hs.checks id relationship hget
  · intro eventId hmem
    rcases hseen with hsame | ⟨seen, hseen, hadd⟩
    · exact hs.seenEvents eventId (hsame ▸ hmem)
    · rw [hadd, JsSet.mem_add] at hmem
      rcases hmem with hmem | rfl
      · exact hs.seenEvents eventId hmem
      · exact eventId_ne_nil hseen
  · exact hreceived.trans (Nat.add_le_add_right hs.receivedEvents 1)
  · exact hlearned.trans (Nat.add_le_add_right hs.learnedEvents 1)
  · exact hignored.trans (Nat.add_le_add_right hs.ignoredUnverifiedEvents 1)
  · exact hduplicate.trans (Nat.add_le_add_right hs.duplicateEvents 1)

theorem restorable_fresh : Restorable digest 0 fresh := by
  constructor <;> simp [fresh, JsSet.empty]

theorem Restorable.run {calls : ℕ} (hs : Restorable digest calls s) {events : List Json}
    (hnew : Transition.Steps (Synaptizer.step digest) (TeachesNew digest) s events) :
    Restorable digest (calls + events.length) (Transition.run (Synaptizer.step digest) s events) := by
  induction events generalizing calls s with
  | nil => exact hs
  | cons event rest ih =>
    rw [List.length_cons, Nat.add_comm rest.length, ← Nat.add_assoc]
    exact ih (hs.step hnew.1) hnew.2

theorem stateRoot_accepts (label : String) (value : Json) : isStateRoot (some (.str (stateRoot digest label value))) = true := by
  rw [isStateRoot, Regex.accepts_iff]
  exact .seq (.lit _) ((Regex.accepts_iff _ _).mp (digest.hex_accepts _))

/-- Hydration from the snapshot of a restorable state gives a state that shows the same. -/
theorem Restorable.hydrate {calls : ℕ} (hs : Restorable digest calls s) (hkeyed : s.Keyed) (hcalls : calls < 2 ^ 53) :
    ∃ t, hydrate digest (s.snapshot digest) = .ok t ∧ Same t s := by
  have hvalues : ∀ r ∈ s.describeRelationships, s.relationships.get (idOf r) = some r := fun r hr =>
    hkeyed.mem_values_iff.mp ((perm_describeRelationships s).mem_iff.mp hr)
  obtain ⟨m, hm, hget⟩ := @restoreRelationships_spec digest s.describeRelationships
    JsMap.empty (fun r hr => hs.checks _ _ (hvalues r hr))
    (((perm_describeRelationships s).map idOf).nodup_iff.mpr hkeyed.nodup_ids) (fun _ _ => rfl)
  have hsorted : (Json.sortKeys s.seenEvents.items).Perm s.seenEvents.items := List.perm_insertionSort _ _
  have hids : ∀ id ∈ Json.sortKeys s.seenEvents.items, id ≠ [] := fun id hid =>
    hs.seenEvents id (Json.mem_sortKeys.mp hid)
  have hfields : ∀ name, name ≠ "state_root" → (s.snapshot digest).get name = s.snapshotState.get name := by
    intro name hname
    rw [snapshot, Json.get_set, if_neg hname]
  have hroot : (s.snapshot digest).get "state_root" = some (.str (stateRoot digest "synaptizer-state" s.snapshotState)) := by
    rw [snapshot, Json.get_set, if_pos rfl]
  have herase : erase (s.snapshot digest) "state_root" = s.snapshotState := by
    rw [snapshot, erase_set (by simp [snapshotState, Json.keys, Json.fields, Json.record]) rfl]
  refine ⟨⟨m, JsSet.ofList (Json.sortKeys s.seenEvents.items), s.receivedEvents, s.learnedEvents,
    s.ignoredUnverifiedEvents, s.duplicateEvents⟩, ?_, ?_, ?_, rfl, rfl, rfl, rfl⟩
  · simp only [Synaptizer.hydrate, bind_eq_ok, pure_eq_ok, require, ensure_eq_ok, orThrow_eq_ok, Json.text,
      Json.some_beq_str_iff, hroot, herase]
    refine ⟨(), rfl, (), ?_, s.describeRelationships, ?_, (), stateRoot_accepts _ _, (), trivial, s.receivedEvents, ?_,
      s.learnedEvents, ?_, s.ignoredUnverifiedEvents, ?_, s.duplicateEvents, ?_, m, hm,
      Json.sortKeys s.seenEvents.items, ?_, rfl⟩
    · rw [hfields _ (by decide), snapshotState, Json.get_record]
      rfl
    · rw [hfields _ (by decide), snapshotState, Json.get_record]
      rfl
    · refine counter_ok ?_ (hs.receivedEvents.trans_lt hcalls)
      rw [hfields _ (by decide), snapshotState, Json.get_record]
      rfl
    · refine counter_ok ?_ (hs.learnedEvents.trans_lt hcalls)
      rw [hfields _ (by decide), snapshotState, Json.get_record]
      rfl
    · refine counter_ok ?_ (hs.ignoredUnverifiedEvents.trans_lt hcalls)
      rw [hfields _ (by decide), snapshotState, Json.get_record]
      rfl
    · refine counter_ok ?_ (hs.duplicateEvents.trans_lt hcalls)
      rw [hfields _ (by decide), snapshotState, Json.get_record]
      rfl
    · refine seenEventIds_ok ?_ hids (hsorted.nodup_iff.mpr s.seenEvents.nodup)
      rw [hfields _ (by decide), snapshotState, Json.get_record]
      rfl
  · intro id
    refine Option.ext fun r => ?_
    rw [hget, JsMap.get_empty, (perm_describeRelationships s).mem_iff, hkeyed.mem_values_iff]
    constructor
    · rintro (h | ⟨h, rfl⟩)
      · simp at h
      · exact h
    · intro h
      have hid := hkeyed id r h
      exact Or.inr ⟨hid.symm ▸ h, hid⟩
  · intro eventId
    rw [JsSet.mem_ofList, Json.mem_sortKeys]

/-- A run of fewer than 2^53 calls in which no relationship is learned twice can be cut at any
point: the snapshot hydrates, gives itself back, and the hydrated Synaptizer goes on as the
first one does. -/
theorem snapshot_round_trip (digest : Digest) (events : List Json)
    (hnew : Transition.Steps (step digest) (TeachesNew digest) fresh events) (hcalls : events.length < 2 ^ 53) :
    ∃ t, hydrate digest ((Transition.run (step digest) fresh events).snapshot digest) = .ok t ∧
      t.snapshot digest = (Transition.run (step digest) fresh events).snapshot digest ∧
      ∀ later, t.outcomes digest later = (Transition.run (step digest) fresh events).outcomes digest later ∧
        (Transition.run (step digest) t later).snapshot digest =
          (Transition.run (step digest) fresh (events ++ later)).snapshot digest := by
  have hs : Restorable digest events.length (Transition.run (step digest) fresh events) := by
    simpa using (@restorable_fresh digest).run hnew
  have hkeyed := @Keyed.run digest _ keyed_fresh events
  obtain ⟨t, ht, hsame⟩ := hs.hydrate hkeyed hcalls
  have htkeyed : t.Keyed := fun id r hget => hkeyed id r ((hsame.relationships id).symm.trans hget)
  refine ⟨t, ht, hsame.snapshot htkeyed, fun later => ?_⟩
  rw [Transition.run_append]
  exact ⟨(hsame.run later).1, (hsame.run later).2.snapshot (htkeyed.run later)⟩

/-! ### A concrete run -/

/-- The polynomial hash of the sample cryptography. -/
def sampleDigest : Digest := ⟨Native.Sample.digest, Native.Sample.digest_accepts⟩

/-- Verified evidence of one relationship. -/
def evidence (eventId : String) : Json := .record [("event_type", .text "PROCESS_EDGE_EVIDENCE"),
  ("contract_version", .text "1.0.0"), ("edge_execution_id", .text eventId),
  ("state_root", .str (js "sha256:" ++ List.replicate 64 97)),
  ("edge_relationship", .record [("source_component", .text "planner"), ("target_component", .text "worker"),
    ("source_role", .text "requester"), ("target_role", .text "executor")]),
  ("fitness_evidence", .record [("verified", .bool true)]), ("success", .bool true)]

theorem first_learning_round_trips :
    ∃ t, hydrate sampleDigest ((Transition.run (step sampleDigest) fresh [evidence "edge-1"]).snapshot sampleDigest) = .ok t ∧
      t.snapshot sampleDigest = (Transition.run (step sampleDigest) fresh [evidence "edge-1"]).snapshot sampleDigest ∧
      ∀ later, t.outcomes sampleDigest later =
          (Transition.run (step sampleDigest) fresh [evidence "edge-1"]).outcomes sampleDigest later ∧
        (Transition.run (step sampleDigest) t later).snapshot sampleDigest =
          (Transition.run (step sampleDigest) fresh ([evidence "edge-1"] ++ later)).snapshot sampleDigest :=
  snapshot_round_trip sampleDigest [evidence "edge-1"] ⟨fun _ _ _ => rfl, trivial⟩ (by decide)

/-- The error of a hydration that fails. -/
def rejection (digest : Digest) (snapshot : Json) : Option SynaptizerError :=
  match hydrate digest snapshot with
  | .error e => some e
  | .ok _ => none

theorem second_learning_rejected :
    rejection sampleDigest
      ((Transition.run (step sampleDigest) fresh [evidence "edge-1", evidence "edge-2"]).snapshot sampleDigest) =
        some ⟨"synaptizer_relationship_integrity_mismatch", "Synaptic relationship commitment is invalid"⟩ := by
  decide +kernel

end Synaptizer

end Synaptic
