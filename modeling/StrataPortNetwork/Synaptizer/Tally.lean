import StrataPortNetwork.Synaptizer.RoundTrip
import StrataPortNetwork.Js.Decimals
import StrataPortNetwork.CanonicalForms
import Mathlib.Tactic.FieldSimp

/-! # What a fresh Synaptizer has learned

After events with distinct ids, the relationship under each id is the tally of the verified
events of that id, apart from its state root, which depends on the order they came in.
-/
namespace Synaptic
open Js

/-! ## Identities -/

/-- The identity of an edge, as it is hashed. -/
def identityRecord (sourceComponent targetComponent sourceRole targetRole : JsString) (contextRef : Json) : Json :=
  .record [("source_component", .str sourceComponent), ("target_component", .str targetComponent),
    ("source_role", .str sourceRole), ("target_role", .str targetRole), ("context_ref", contextRef)]

theorem identity_eq_record {edge identity : Json} {contextRef : Option Json}
    (h : relationshipIdentity edge contextRef = .ok identity) : ∃ sourceComponent targetComponent sourceRole targetRole,
      identity = identityRecord sourceComponent targetComponent sourceRole targetRole (orNull contextRef) := by
  simp only [relationshipIdentity, bind_eq_ok, pure_eq_ok] at h
  obtain ⟨sourceComponent, -, targetComponent, -, sourceRole, -, targetRole, -, rfl⟩ := h
  exact ⟨sourceComponent, targetComponent, sourceRole, targetRole, rfl⟩

section
variable {sourceComponent targetComponent sourceRole targetRole sourceComponent' targetComponent' sourceRole' targetRole' : JsString}
variable {contextRef contextRef' : Json}

theorem keyed_identityRecord (h : contextRef.Keyed) :
    (identityRecord sourceComponent targetComponent sourceRole targetRole contextRef).Keyed := by
  refine .obj (by simp) fun f hf => ?_
  simp only [List.map_cons, List.map_nil, List.mem_cons, List.not_mem_nil, or_false] at hf
  rcases hf with rfl | rfl | rfl | rfl | rfl
  · exact .str _
  · exact .str _
  · exact .str _
  · exact .str _
  · exact h

/-- Identities equal up to the order of keys have the same names. -/
theorem names_of_reordered (hkeyed : contextRef.Keyed)
    (h : (identityRecord sourceComponent targetComponent sourceRole targetRole contextRef).Reordered
      (identityRecord sourceComponent' targetComponent' sourceRole' targetRole' contextRef')) :
    (sourceComponent = sourceComponent' ∧ targetComponent = targetComponent' ∧ sourceRole = sourceRole' ∧
      targetRole = targetRole') ∧ contextRef.sorted = contextRef'.sorted := by
  have hget := h.get_sorted (keyed_identityRecord hkeyed)
  have hsource : some (Json.str sourceComponent) = some (.str sourceComponent') := hget "source_component"
  have htarget : some (Json.str targetComponent) = some (.str targetComponent') := hget "target_component"
  have hsourceRole : some (Json.str sourceRole) = some (.str sourceRole') := hget "source_role"
  have htargetRole : some (Json.str targetRole) = some (.str targetRole') := hget "target_role"
  have hcontext : some contextRef.sorted = some contextRef'.sorted := hget "context_ref"
  simp_all

/-- One id is given to identities of the same names and the same context, unless hashes collide. -/
theorem names_of_stateRoot {digest : Digest} {label : String} (hkeyed : contextRef.Keyed) (hkeyed' : contextRef'.Keyed)
    (hdigest : Set.InjOn digest.hex
      {StateModule.synaptizer.hashed label (identityRecord sourceComponent targetComponent sourceRole targetRole contextRef),
        StateModule.synaptizer.hashed label (identityRecord sourceComponent' targetComponent' sourceRole' targetRole' contextRef')})
    (h : stateRoot digest label (identityRecord sourceComponent targetComponent sourceRole targetRole contextRef) =
      stateRoot digest label (identityRecord sourceComponent' targetComponent' sourceRole' targetRole' contextRef')) :
    (sourceComponent = sourceComponent' ∧ targetComponent = targetComponent' ∧ sourceRole = sourceRole' ∧
      targetRole = targetRole') ∧ contextRef.sorted = contextRef'.sorted := by
  have hbytes := hdigest (Set.mem_insert _ _) (Set.mem_insert_of_mem _ rfl) (List.append_cancel_left h)
  have htext := StateModule.text_eq_of_hashed (keyed_identityRecord hkeyed) (keyed_identityRecord hkeyed') rfl hbytes
  exact names_of_reordered hkeyed ((canonicalEncoder.eq_iff_reordered canonicalEncoder (keyed_identityRecord hkeyed)
    (keyed_identityRecord hkeyed')).mp htext)

end

/-! ## Exact totals -/

theorem toRat_add (x y : JsNumber) : (add x y).toRat = x.toRat + y.toRat := by
  cases x <;> cases y <;> simp only [add, JsNumber.toRat_reduce] <;> simp only [JsNumber.toRat] <;> push_cast <;> field_simp <;>
    ring

def total (amounts : List JsNumber) : JsNumber := amounts.foldl add (.int 0)

theorem toRat_foldl_add (amounts : List JsNumber) (x : JsNumber) :
    (amounts.foldl add x).toRat = x.toRat + (amounts.map JsNumber.toRat).sum := by
  induction amounts generalizing x with
  | nil => simp
  | cons y rest ih => rw [List.foldl_cons, ih, toRat_add, List.map_cons, List.sum_cons, add_assoc]

theorem toRat_total (amounts : List JsNumber) : (total amounts).toRat = (amounts.map JsNumber.toRat).sum := by
  rw [total, toRat_foldl_add]
  simp [JsNumber.toRat]

theorem total_append (amounts : List JsNumber) (x : JsNumber) : total (amounts ++ [x]) = add (total amounts) x := by
  rw [total, List.foldl_append]
  rfl

/-- Totals do not depend on the order of the amounts. -/
theorem total_perm {amounts amounts' : List JsNumber} (h : amounts.Perm amounts') : total amounts = total amounts' := by
  apply JsNumber.toRat_injective
  rw [toRat_total, toRat_total]
  exact (h.map _).sum_eq

theorem add_int (i j : ℤ) : add (.int i) (.int j) = .int (i + j) := by
  apply JsNumber.toRat_injective
  rw [toRat_add]
  simp [JsNumber.toRat]

/-! ## Tallies -/

/-- The number of events with a flag set. -/
def flagged (flag : String) (events : List Json) : ℕ := events.countP fun event => isTrue (event.get flag)

def evidenceRoot (event : Json) : JsString := ((event.get "state_root").bind Json.str?).getD []

def evidenceRoots (events : List Json) : List JsString := Json.sortKeys (JsSet.ofList (events.map evidenceRoot)).items

/-- The relationship of an identity with all that the events teach, without a state root. -/
def tallied (id : JsString) (identity : Json) (events : List Json) : Json :=
  let counted := fun (value : Json) (name flag : String) => value.set name (.int (flagged flag events))
  let observed := (newRelationship id identity).set "observations" (.int events.length)
  let succeeded := counted observed "verified_successes" "success"
  let failed := counted succeeded "verified_failures" "failure"
  let recovered := counted failed "recoveries" "recovery"
  let contributed := counted recovered "verification_contributions" "verification_contribution"
  (contributed.set "reinforcement" (.num (total (events.map reinforcement)))).set
    "evidence_state_roots" (.arr ((evidenceRoots events).map .str))

/-- All properties but the state root are those of the tally. -/
def Tallies (relationship : Json) (id : JsString) (identity : Json) (events : List Json) : Prop :=
  ∀ name, name ≠ "state_root" → relationship.get name = (tallied id identity events).get name

theorem flagged_append (flag : String) (events : List Json) (event : Json) :
    flagged flag (events ++ [event]) = flagged flag events + if isTrue (event.get flag) then 1 else 0 := by
  rw [flagged, List.countP_append, List.countP_singleton]
  rfl

theorem evidenceRoots_append (events : List Json) (event : Json) :
    Json.sortKeys ((JsSet.ofList (evidenceRoots events)).add (evidenceRoot event)).items = evidenceRoots (events ++ [event]) := by
  refine Json.sortKeys_congr (JsSet.perm_of_mem_iff fun root => ?_)
  simp [evidenceRoots]

theorem evidenceRoots_perm {events events' : List Json} (h : events.Perm events') : evidenceRoots events = evidenceRoots events' := by
  refine Json.sortKeys_congr (JsSet.perm_of_mem_iff fun root => ?_)
  rw [JsSet.mem_ofList, JsSet.mem_ofList, (h.map _).mem_iff]

theorem tallied_perm (id : JsString) (identity : Json) {events events' : List Json} (h : events.Perm events') :
    tallied id identity events = tallied id identity events' := by
  simp only [tallied, flagged, h.length_eq, h.countP_eq, total_perm (h.map reinforcement), evidenceRoots_perm h]

theorem filterMap_str (texts : List JsString) : (texts.map Json.str).filterMap Json.str? = texts := by
  induction texts with
  | nil => rfl
  | cons s rest ih =>
    rw [List.map_cons, List.filterMap_cons]
    exact congrArg (s :: ·) ih

section
variable {relationship : Json} {id : JsString} {identity : Json} {events : List Json}

theorem increased_of_tallies (h : Tallies relationship id identity events) {name : String} (hname : name ≠ "state_root")
    {x : JsNumber} (hx : (tallied id identity events).get name = some (.num x)) (amount : JsNumber) :
    increased relationship name amount = .num (add x amount) := by
  rw [increased, h name hname, hx]

/-- One more event of the relationship is counted into its tally. -/
theorem Tallies.updated (h : Tallies relationship id identity events) (event : Json) :
    Tallies (updatedRelationship relationship event) id identity (events ++ [event]) := by
  have hcount : ∀ name flag, name ≠ "state_root" →
      (tallied id identity events).get name = some (.int (flagged flag events)) →
      increased relationship name (oneIf (isTrue (event.get flag))) = .int (flagged flag (events ++ [event])) := by
    intro name flag hname hget
    rw [increased_of_tallies h hname hget, oneIf, add_int, flagged_append]
    split <;> simp [Json.int]
  have hobservations : increased relationship "observations" (.int 1) = .int (events ++ [event]).length := by
    rw [increased_of_tallies h (by decide) (x := .int events.length) (by simp [tallied, Json.int]), add_int]
    simp [Json.int]
  have hreinforcement : increased relationship "reinforcement" (reinforcement event) =
      .num (total ((events ++ [event]).map reinforcement)) := by
    rw [increased_of_tallies h (by decide) (x := total (events.map reinforcement)) (by simp [tallied]), List.map_append,
      List.map_singleton, total_append]
  have hroots : textsOf (relationship.get "evidence_state_roots") = evidenceRoots events := by
    rw [h "evidence_state_roots" (by decide)]
    simp only [tallied, Json.get_set, if_true]
    exact filterMap_str _
  have hsorted : (Json.arr ((Json.sortKeys ((JsSet.ofList (textsOf (relationship.get "evidence_state_roots"))).add
      (((event.get "state_root").bind Json.str?).getD [])).items).map .str)) =
        .arr ((evidenceRoots (events ++ [event])).map .str) := by
    rw [hroots, ← evidenceRoot.eq_1, evidenceRoots_append]
  intro name hname
  have hrest := h name hname
  refine Json.get_set_congr hsorted fun hsorted => ?_
  refine Json.get_set_congr hreinforcement fun hreinforcement => ?_
  refine Json.get_set_congr (hcount _ _ (by decide) (by simp [tallied])) fun hcontributions => ?_
  refine Json.get_set_congr (hcount _ _ (by decide) (by simp [tallied])) fun hrecoveries => ?_
  refine Json.get_set_congr (hcount _ _ (by decide) (by simp [tallied])) fun hfailures => ?_
  refine Json.get_set_congr (hcount _ _ (by decide) (by simp [tallied])) fun hsuccesses => ?_
  refine Json.get_set_congr hobservations fun hobservations => ?_
  rw [hrest]
  simp only [tallied, Json.get_set, if_neg hsorted, if_neg hreinforcement, if_neg hcontributions, if_neg hrecoveries,
    if_neg hfailures, if_neg hsuccesses, if_neg hobservations]

/-- A new relationship is the tally of no events. -/
theorem tallies_new {edge : Json} {contextRef : Option Json} (h : relationshipIdentity edge contextRef = .ok identity) :
    Tallies (newRelationship id identity) id identity [] := by
  simp only [relationshipIdentity, bind_eq_ok, pure_eq_ok] at h
  obtain ⟨sourceComponent, -, targetComponent, -, sourceRole, -, targetRole, -, rfl⟩ := h
  intro name hname
  simp only [tallied, Json.get_set]
  split_ifs with hroots hreinforcement hcontributions hrecoveries hfailures hsuccesses hobservations
  all_goals first
    | rfl
    | subst_vars; rfl

end

/-! ## Runs on a fresh Synaptizer -/

namespace Synaptizer
variable (digest : Digest)

/-- An event that a fresh Synaptizer accepts. -/
def Valid (event : Json) : Prop := ∃ consumed, (fresh.consume digest event).1 = .ok consumed

def eventId (event : Json) : JsString := ((event.get "edge_execution_id").bind Json.str?).getD []

def isVerified (event : Json) : Bool := isTrue ((event.get "fitness_evidence").bind (·.get "verified"))

def identityOf (event : Json) : Json :=
  (relationshipIdentity ((event.get "edge_relationship").getD .null) (event.get "context_ref")).toOption.getD .null

/-- The id of the relationship that an event is evidence of. -/
def idFor (event : Json) : JsString := stateRoot digest "synaptic-relationship-identity" (identityOf event)

/-- The verified events among those given that are evidence of the relationship. -/
def evidenceFor (id : JsString) (events : List Json) : List Json :=
  events.filter fun event => isVerified event && idFor digest event == id

variable {digest} {s : Synaptizer} {event : Json} {events : List Json}

theorem checkEvent_id {id : JsString} (h : checkEvent event = .ok id) : id = eventId event := by
  simp only [checkEvent, bind_eq_ok, pure_eq_ok] at h
  obtain ⟨-, -, -, -, -, -, id', hid, -, -, -, -, -, -, rfl⟩ := h
  unfold nonEmpty at hid
  split at hid
  · rename_i u t hget
    rw [eventId, hget]
    exact (Except.ok.inj hid).symm
  · cases hid

/-- What makes an event valid. -/
theorem Valid.spec (h : Valid digest event) : checkEvent event = .ok (eventId event) ∧
    (isVerified event = true → relationshipId digest event = .ok (idFor digest event, identityOf event) ∧
      relationshipIdentity ((event.get "edge_relationship").getD .null) (event.get "context_ref") = .ok (identityOf event)) := by
  obtain ⟨consumed, hconsumed⟩ := h
  unfold consume at hconsumed
  split at hconsumed
  · cases hconsumed
  · rename_i id hevent
    refine ⟨checkEvent_id hevent ▸ hevent, fun hverified => ?_⟩
    rw [if_neg (by simp [fresh, JsSet.has, JsSet.empty])] at hconsumed
    rw [isVerified] at hverified
    simp only [if_pos hverified] at hconsumed
    split at hconsumed
    · cases hconsumed
    · rename_i found hfound
      rw [relationshipId] at hfound ⊢
      simp only [bind_eq_ok, pure_eq_ok] at hfound
      obtain ⟨identity, hidentity, -⟩ := hfound
      have hof : identityOf event = identity := by rw [identityOf, hidentity]; rfl
      rw [hidentity, idFor, hof]
      exact ⟨rfl, rfl⟩

/-- The relationship under an id is the tally of its evidence. -/
def Knows (s : Synaptizer) (id : JsString) : List Json → Prop
  | [] => s.relationships.get id = none
  | first :: rest => ∃ relationship, s.relationships.get id = some relationship ∧
      Tallies relationship id (identityOf first) (first :: rest)

/-- What a Synaptizer knows and has counted after the events. -/
structure Learnt (digest : Digest) (s : Synaptizer) (events : List Json) : Prop where
  seen : ∀ id, id ∈ s.seenEvents.items ↔ id ∈ events.map eventId
  received : s.receivedEvents = events.length
  learned : s.learnedEvents = events.countP isVerified
  ignored : s.ignoredUnverifiedEvents = events.countP fun event => !isVerified event
  duplicates : s.duplicateEvents = 0
  knows : ∀ id, s.Knows id (evidenceFor digest id events)

theorem learnt_fresh : Learnt digest fresh [] :=
  ⟨fun _ => Iff.rfl, rfl, rfl, rfl, rfl, fun _ => rfl⟩

theorem evidenceFor_append (id : JsString) (events : List Json) (event : Json) : evidenceFor digest id (events ++ [event]) =
    evidenceFor digest id events ++ if isVerified event && idFor digest event == id then [event] else [] := by
  rw [evidenceFor, List.filter_append, List.filter_cons, List.filter_nil, evidenceFor]

theorem tallies_set_root {relationship : Json} {id : JsString} {identity : Json} (h : Tallies relationship id identity events)
    (root : Json) : Tallies (relationship.set "state_root" root) id identity events := by
  intro name hname
  rw [Json.get_set, if_neg hname]
  exact h name hname

theorem tallies_committed {id : JsString} {identity identity' : Json}
    (h : Tallies ((s.relationships.get id).getD (newRelationship id identity)) id identity' events) (event : Json) :
    Tallies (s.committed digest id identity event) id identity' (events ++ [event]) :=
  tallies_set_root (h.updated event) _

theorem Knows.keep {t : Synaptizer} {id : JsString} {evidence : List Json} (h : s.Knows id evidence)
    (hget : t.relationships.get id = s.relationships.get id) : t.Knows id evidence := by
  cases evidence with
  | nil => exact hget.trans h
  | cons first rest =>
    obtain ⟨relationship, hsome, htallies⟩ := h
    exact ⟨relationship, hget.trans hsome, htallies⟩

/-- Committing to an event adds it to what is known under its id. -/
theorem Knows.add {t : Synaptizer} {id : JsString} {evidence : List Json} (h : s.Knows id evidence)
    (hok : relationshipIdentity ((event.get "edge_relationship").getD .null) (event.get "context_ref") = .ok (identityOf event))
    (hget : t.relationships.get id = some (s.committed digest id (identityOf event) event)) : t.Knows id (evidence ++ [event]) := by
  cases evidence with
  | nil =>
    have hnone : s.relationships.get id = none := h
    have hfirst : Tallies (s.committed digest id (identityOf event) event) id (identityOf event) ([] ++ [event]) := by
      apply tallies_committed
      rw [hnone, Option.getD_none]
      exact tallies_new hok
    exact ⟨_, hget, hfirst⟩
  | cons first rest =>
    obtain ⟨relationship, hsome, htallies⟩ := h
    have hnext : Tallies (s.committed digest id (identityOf event) event) id (identityOf first) (first :: rest ++ [event]) := by
      apply tallies_committed
      rw [hsome, Option.getD_some]
      exact htallies
    exact ⟨_, hget, hnext⟩

/-- A valid event under a new id is counted, and adds to the tally it is evidence of. -/
theorem Learnt.step (h : Learnt digest s events) (hvalid : Valid digest event) (hnew : eventId event ∉ events.map eventId) :
    Learnt digest (s.step digest event) (events ++ [event]) := by
  obtain ⟨hevent, hidentity⟩ := hvalid.spec
  have hunseen : s.seenEvents.has (eventId event) = false := by
    rw [← Bool.not_eq_true, JsSet.has_iff, h.seen]
    exact hnew
  have hseen : ∀ id, id ∈ (s.seenEvents.add (eventId event)).items ↔ id ∈ (events ++ [event]).map eventId := by
    intro id
    rw [JsSet.mem_add, h.seen]
    simp
  unfold Synaptizer.step consume
  simp only [hevent, hunseen, Bool.false_eq_true, if_false]
  cases hverified : isVerified event with
  | false =>
    have hflag := hverified
    rw [isVerified] at hflag
    simp only [hflag, Bool.false_eq_true, if_false]
    refine ⟨hseen, ?_, ?_, ?_, h.duplicates, fun id => ?_⟩
    · simp [h.received]
    · simp [h.learned, hverified]
    · simp [h.ignored, hverified]
    · rw [evidenceFor_append, hverified, Bool.false_and, if_neg Bool.false_ne_true, List.append_nil]
      exact (h.knows id).keep rfl
  | true =>
    obtain ⟨hid, hok⟩ := hidentity hverified
    have hflag := hverified
    rw [isVerified] at hflag
    simp only [hflag, if_true, hid]
    refine ⟨hseen, ?_, ?_, ?_, h.duplicates, fun id => ?_⟩
    · simp [h.received]
    · simp [h.learned, hverified]
    · simp [h.ignored, hverified]
    · rw [evidenceFor_append, hverified, Bool.true_and]
      by_cases heq : (idFor digest event == id) = true
      · rw [if_pos heq]
        refine @Knows.add digest _ _ _ _ _ (h.knows id) hok ?_
        rw [JsMap.get_set, if_pos heq, eq_of_beq heq]
      · rw [if_neg heq, List.append_nil]
        refine (h.knows id).keep ?_
        rw [JsMap.get_set, if_neg heq]

/-- After valid events with distinct ids, every relationship is the tally of its evidence. -/
theorem learnt_run (hvalid : ∀ event ∈ events, Valid digest event) (hdistinct : (events.map eventId).Nodup) :
    Learnt digest (Transition.run (Synaptizer.step digest) fresh events) events := by
  induction events using List.reverseRecOn with
  | nil => exact learnt_fresh
  | append_singleton events event ih =>
    rw [List.map_append, List.nodup_append] at hdistinct
    have hrest := ih (fun e he => hvalid e (List.mem_append_left _ he)) hdistinct.1
    rw [Transition.run_append]
    refine hrest.step (hvalid event (List.mem_append_right _ List.mem_cons_self)) fun hmem => ?_
    exact hdistinct.2.2 _ hmem _ List.mem_cons_self rfl

end Synaptizer

end Synaptic
