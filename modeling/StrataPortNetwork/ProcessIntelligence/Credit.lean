import StrataPortNetwork.ProcessIntelligence.Observer

/-! # Credit and learning agree

Every verified record teaches the Synaptizer, about the relationship of its edge, exactly the
reinforcement that the observer's credit gives it.
-/
namespace ProcessIntelligence
open Js
open Synaptic (Digest Synaptizer)
open Synaptic.Synaptizer (Valid identityOf idFor evidenceFor isVerified eventId Learnt Knows)

/-! ## Relationships -/

/-- The components and roles of an edge, in a context or in none. -/
structure Relationship where
  sourceComponent : JsString
  targetComponent : JsString
  sourceRole : JsString
  targetRole : JsString
  context : Option JsString
  deriving DecidableEq

namespace Relationship

def contextRef (R : Relationship) : Json := (R.context.map Json.str).getD .null

def identity (R : Relationship) : Json :=
  Synaptic.identityRecord R.sourceComponent R.targetComponent R.sourceRole R.targetRole R.contextRef

/-- What the Synaptizer hashes for the id of the relationship. -/
def hashed (R : Relationship) : Bytes := StateModule.synaptizer.hashed "synaptic-relationship-identity" R.identity

def id (digest : Digest) (R : Relationship) : JsString := Synaptic.stateRoot digest "synaptic-relationship-identity" R.identity

theorem keyed_contextRef (R : Relationship) : R.contextRef.Keyed := by
  cases hcontext : R.context <;> simp only [contextRef, hcontext]
  · exact .null
  · exact .str _

/-- An id is of one relationship. -/
theorem eq_of_id {digest : Digest} {R R' : Relationship} (hdigest : Set.InjOn digest.hex {R.hashed, R'.hashed})
    (h : R.id digest = R'.id digest) : R = R' := by
  obtain ⟨hnames, hcontext⟩ := Synaptic.names_of_stateRoot R.keyed_contextRef R'.keyed_contextRef hdigest h
  cases R
  cases R'
  rename_i context _ _ _ _ context'
  cases context <;> cases context' <;> simp_all [contextRef, Json.sorted]

end Relationship

/-- The relationship of a record whose context is a string or null. -/
def EdgeRecord.relationship? (r : EdgeRecord) : Option Relationship :=
  match r.contextRef with
  | .null => some ⟨r.sourceComponent, r.targetComponent, r.sourceRole, r.targetRole, none⟩
  | .str s => some ⟨r.sourceComponent, r.targetComponent, r.sourceRole, r.targetRole, some s⟩
  | _ => none

/-! ## Events of records -/

/-- What `observe` has checked of the names on an edge. -/
structure Named (r : EdgeRecord) : Prop where
  sourceComponent : r.sourceComponent ≠ []
  targetComponent : r.targetComponent ≠ []
  sourceRole : r.sourceRole ≠ []
  targetRole : r.targetRole ≠ []

theorem ne_nil_of_nonEmpty {v : Option Json} {reasonClass : String} {s : JsString} (h : nonEmpty v reasonClass = .ok s) :
    s ≠ [] := by
  simp only [nonEmpty, bind_eq_ok, ensure_eq_ok, pure_eq_ok] at h
  obtain ⟨t, -, -, hblank, rfl⟩ := h
  rintro rfl
  exact absurd hblank (by decide)

theorem named_of_record {engine : Engine} {call : Call} {r : EdgeRecord} (h : record engine call = .ok r) : Named r := by
  simp only [record, bind_eq_ok, pure_eq_ok] at h
  obtain ⟨-, -, -, -, -, -, -, -, -, -, source, hsource, target, htarget, sourceRole, hsourceRole, targetRole, htargetRole, -, -, -, -, -,
    -, -, -, -, -, -, -, -, -, -, -, rfl⟩ := h
  exact ⟨ne_nil_of_nonEmpty hsource, ne_nil_of_nonEmpty htarget, ne_nil_of_nonEmpty hsourceRole, ne_nil_of_nonEmpty htargetRole⟩

theorem nonEmpty_str {s : JsString} (h : s ≠ []) (code : String) : Synaptic.nonEmpty (some (.str s)) code = .ok s := by
  cases s with
  | nil => exact absurd rfl h
  | cons u s => rfl

section
variable {digest : Digest} {r : EdgeRecord}

theorem isVerified_event : isVerified (toSynaptizerEvent digest r) = r.verified := by
  have hget : ((toSynaptizerEvent digest r).get "fitness_evidence").bind (·.get "verified") = some (.bool r.verified) := rfl
  rw [isVerified, hget]
  cases r.verified <;> rfl

theorem contextRef_of_relationship {R : Relationship} (hR : r.relationship? = some R) : r.contextRef = R.contextRef ∧
    R.sourceComponent = r.sourceComponent ∧ R.targetComponent = r.targetComponent ∧ R.sourceRole = r.sourceRole ∧
    R.targetRole = r.targetRole := by
  unfold EdgeRecord.relationship? at hR
  split at hR
  · rename_i hcontext
    rw [← Option.some.inj hR]
    exact ⟨hcontext, rfl, rfl, rfl, rfl⟩
  · rename_i hcontext
    rw [← Option.some.inj hR]
    exact ⟨hcontext, rfl, rfl, rfl, rfl⟩
  · cases hR

theorem relationshipIdentity_event (hnamed : Named r) {R : Relationship} (hR : r.relationship? = some R) :
    Synaptic.relationshipIdentity (((toSynaptizerEvent digest r).get "edge_relationship").getD .null)
      ((toSynaptizerEvent digest r).get "context_ref") = .ok R.identity := by
  change (do
    let sourceComponent ← Synaptic.nonEmpty (some (.str r.sourceComponent)) _
    let targetComponent ← Synaptic.nonEmpty (some (.str r.targetComponent)) _
    let sourceRole ← Synaptic.nonEmpty (some (.str r.sourceRole)) _
    let targetRole ← Synaptic.nonEmpty (some (.str r.targetRole)) _
    pure (Json.record [("source_component", .str sourceComponent), ("target_component", .str targetComponent),
      ("source_role", .str sourceRole), ("target_role", .str targetRole), ("context_ref", r.contextRef)])) = _
  rw [nonEmpty_str hnamed.sourceComponent, nonEmpty_str hnamed.targetComponent, nonEmpty_str hnamed.sourceRole,
    nonEmpty_str hnamed.targetRole]
  obtain ⟨hcontext, hsource, htarget, hsourceRole, htargetRole⟩ := contextRef_of_relationship hR
  rw [Relationship.identity, hcontext, hsource, htarget, hsourceRole, htargetRole]
  rfl

theorem identityOf_event (hnamed : Named r) {R : Relationship} (hR : r.relationship? = some R) :
    identityOf (toSynaptizerEvent digest r) = R.identity := by
  rw [identityOf, relationshipIdentity_event hnamed hR]
  rfl

theorem stateRoot_accepts (label : String) (value : Json) : Synaptic.isStateRoot (some (.str (stateRoot digest label value))) = true := by
  rw [Synaptic.isStateRoot, Regex.accepts_iff]
  exact .seq (.lit _) ((Regex.accepts_iff _ _).mp (digest.hex_accepts _))

theorem checkEvent_event {u : UInt16} {s : JsString} (hid : r.edgeExecutionId = .str (u :: s)) :
    Synaptic.checkEvent (toSynaptizerEvent digest r) = .ok (u :: s) := by
  have hget : (toSynaptizerEvent digest r).get "edge_execution_id" = some r.edgeExecutionId := rfl
  have hroot : (toSynaptizerEvent digest r).get "state_root" =
      some (.str (stateRoot digest "process-intelligence-event" r.toJson)) := rfl
  rw [Synaptic.checkEvent, hget, hid, hroot, stateRoot_accepts]
  rfl

/-- A Synaptizer in any state takes the event of a record with a proper identifier. -/
theorem consume_event (hnamed : Named r) {R : Relationship} (hR : r.relationship? = some R) {u : UInt16} {s : JsString}
    (hid : r.edgeExecutionId = .str (u :: s)) (t : Synaptizer) :
    ∃ consumed, (t.consume digest (toSynaptizerEvent digest r)).1 = .ok consumed := by
  have hidentity : Synaptic.Synaptizer.relationshipId digest (toSynaptizerEvent digest r) = .ok (R.id digest, R.identity) := by
    rw [Synaptic.Synaptizer.relationshipId, relationshipIdentity_event hnamed hR]
    rfl
  unfold Synaptizer.consume
  rw [checkEvent_event hid]
  by_cases hseen : t.seenEvents.has (u :: s) = true
  · simp only [if_pos hseen]
    exact ⟨_, rfl⟩
  · simp only [if_neg hseen, hidentity]
    split
    · exact ⟨_, rfl⟩
    · exact ⟨_, rfl⟩

/-- The reward tables agree on verified records. -/
theorem reinforcement_event (hverified : r.verified = true) :
    Synaptic.reinforcement (toSynaptizerEvent digest r) = r.credit.reinforcement := by
  have hfailure : (toSynaptizerEvent digest r).get "failure" = some (.bool !r.success) := rfl
  have hrecovery : (toSynaptizerEvent digest r).get "recovery" = some (.bool (r.contribution == .text "RECOVERY")) := rfl
  have hverification : (toSynaptizerEvent digest r).get "verification_contribution" =
      some (.bool (r.contribution == .text "VERIFICATION")) := rfl
  have hsuccess : (toSynaptizerEvent digest r).get "success" = some (.bool r.success) := rfl
  have hevidence : isVerified (toSynaptizerEvent digest r) = true := isVerified_event.trans hverified
  have htrue : ∀ b, Synaptic.isTrue (some (.bool b)) = b := by
    intro b
    cases b <;> rfl
  rw [isVerified] at hevidence
  rw [Synaptic.reinforcement, hevidence, hfailure, hrecovery, hverification, hsuccess, EdgeRecord.credit]
  simp only [htrue, hverified, Bool.and_true]
  cases r.success <;> simp

end

/-! ## Runs of the observer -/

section
variable (digest : Digest) (engine : Engine)

def step (o : Observer) (call : Call) : Observer := (o.observe digest engine call).2

/-- What successive calls of `observe` return. -/
def outcomes (o : Observer) : List Call → List (Outcome EdgeRecord)
  | [] => []
  | call :: rest => (o.observe digest engine call).1 :: outcomes (step digest engine o call) rest

/-- The calls pass the observer's checks and make the records, whose identifiers are non-empty
strings and whose contexts are strings or null. -/
structure Recorded (calls : List Call) (records : List EdgeRecord) : Prop where
  made : calls.map (record engine) = records.map .ok
  identified : ∀ r ∈ records, ∃ u s, r.edgeExecutionId = .str (u :: s)
  related : ∀ r ∈ records, r.relationship?.isSome = true

variable {digest engine} {calls : List Call} {records : List EdgeRecord}

theorem step_record {o : Observer} {call : Call} {r : EdgeRecord} (h : record engine call = .ok r) :
    step digest engine o call = ⟨o.records ++ [r], o.synaptizer.step digest (toSynaptizerEvent digest r)⟩ := by
  unfold step Observer.observe
  rw [h]
  dsimp only
  split <;> rfl

theorem Recorded.tail {call : Call} {r : EdgeRecord} (h : Recorded engine (call :: calls) (r :: records)) :
    Recorded engine calls records where
  made := (List.cons.inj h.made).2
  identified r hr := h.identified r (List.mem_cons_of_mem _ hr)
  related r hr := h.related r (List.mem_cons_of_mem _ hr)

/-- The adapter publishes every record, and no call throws. -/
theorem Recorded.run (h : Recorded engine calls records) (o : Observer) :
    Transition.run (step digest engine) o calls = ⟨o.records ++ records,
      Transition.run (Synaptizer.step digest) o.synaptizer (records.map (toSynaptizerEvent digest))⟩ ∧
    outcomes digest engine o calls = records.map .ok := by
  induction calls generalizing records o with
  | nil =>
    cases records with
    | nil => exact ⟨by simp, rfl⟩
    | cons r records => exact absurd h.made (by simp)
  | cons call calls ih =>
    cases records with
    | nil => exact absurd h.made (by simp)
    | cons r records =>
      have hr : record engine call = .ok r := (List.cons.inj h.made).1
      obtain ⟨u, s, hid⟩ := h.identified r List.mem_cons_self
      obtain ⟨R, hR⟩ := Option.isSome_iff_exists.mp (h.related r List.mem_cons_self)
      obtain ⟨hrun, houtcomes⟩ := ih h.tail (step digest engine o call)
      rw [step_record hr] at hrun houtcomes
      refine ⟨?_, ?_⟩
      · rw [Transition.run_cons, step_record hr, hrun, List.append_assoc]
        rfl
      · obtain ⟨consumed, hconsumed⟩ : ∃ consumed, (o.synaptizer.consume digest (toSynaptizerEvent digest r)).1 = .ok consumed :=
          consume_event (named_of_record hr) hR hid o.synaptizer
        rw [outcomes, step_record hr, houtcomes, List.map_cons]
        unfold Observer.observe
        rw [hr]
        dsimp only
        rw [hconsumed]

theorem Recorded.named (h : Recorded engine calls records) {r : EdgeRecord} (hr : r ∈ records) : Named r := by
  have hmem : Except.ok r ∈ calls.map (record engine) := h.made ▸ List.mem_map_of_mem hr
  obtain ⟨call, -, hcall⟩ := List.mem_map.mp hmem
  exact named_of_record hcall

theorem eventId_event (r : EdgeRecord) : eventId (toSynaptizerEvent digest r) = r.edgeExecutionId.str?.getD [] := rfl

/-- What the Synaptizer has learned from the events of the records. -/
theorem Recorded.learnt (h : Recorded engine calls records) (hdistinct : (records.map (·.edgeExecutionId)).Nodup) :
    Learnt digest (Transition.run (step digest engine) .fresh calls).synaptizer (records.map (toSynaptizerEvent digest)) := by
  rw [(h.run .fresh).1]
  refine Synaptic.Synaptizer.learnt_run (fun event hevent => ?_) ?_
  · obtain ⟨r, hr, rfl⟩ := List.mem_map.mp hevent
    obtain ⟨u, s, hid⟩ := h.identified r hr
    obtain ⟨R, hR⟩ := Option.isSome_iff_exists.mp (h.related r hr)
    exact consume_event (h.named hr) hR hid .fresh
  · refine List.Nodup.of_map Json.str ?_
    have hids : ((records.map (toSynaptizerEvent digest)).map eventId).map Json.str = records.map (·.edgeExecutionId) := by
      rw [List.map_map, List.map_map]
      refine List.map_congr_left fun r hr => ?_
      obtain ⟨u, s, hid⟩ := h.identified r hr
      rw [Function.comp_apply, Function.comp_apply, eventId_event, hid]
      rfl
    rwa [hids]

/-- The identities that the Synaptizer hashes for the records and for one relationship. -/
def hashedIdentities (records : List EdgeRecord) (R : Relationship) : Set Bytes :=
  {bytes | ∃ R' : Relationship, (R' = R ∨ ∃ r ∈ records, r.relationship? = some R') ∧ bytes = R'.hashed}

/-- The verified records of a relationship. -/
def verifiedRecords (records : List EdgeRecord) (R : Relationship) : List EdgeRecord :=
  records.filter fun r => r.verified && r.relationship? == some R

theorem Recorded.evidenceFor (h : Recorded engine calls records) {R : Relationship}
    (hdigest : Set.InjOn digest.hex (hashedIdentities records R)) :
    evidenceFor digest (R.id digest) (records.map (toSynaptizerEvent digest)) =
      (verifiedRecords records R).map (toSynaptizerEvent digest) := by
  rw [Synaptic.Synaptizer.evidenceFor, List.filter_map, verifiedRecords]
  refine congrArg (List.map _) (List.filter_congr fun r hr => ?_)
  obtain ⟨R', hR'⟩ := Option.isSome_iff_exists.mp (h.related r hr)
  rw [Function.comp_apply, isVerified_event, hR', idFor, identityOf_event (h.named hr) hR']
  congr 1
  rw [Bool.eq_iff_iff, beq_iff_eq, beq_iff_eq, Option.some.injEq]
  constructor
  · intro hid
    refine Relationship.eq_of_id (hdigest.mono ?_) hid
    rintro bytes (rfl | rfl)
    · exact ⟨R', .inr ⟨r, hr, hR'⟩, rfl⟩
    · exact ⟨R, .inl rfl, rfl⟩
  · rintro rfl
    rfl

/-- A property of a relationship; a relationship not learned yet counts as zero. -/
def learned (s : Synaptizer) (id : JsString) (name : String) : Json :=
  ((s.relationships.get id).bind (·.get name)).getD (.int 0)

/-- The reinforcement that `credit` gives the record among those of its correlation. -/
def creditedTo (records : List EdgeRecord) (r : EdgeRecord) : ℚ :=
  (((credit records r.correlationId).find? fun c => c.edgeExecutionId == r.edgeExecutionId).map
    fun c => c.reinforcement.toRat).getD 0

theorem creditedTo_eq (hids : ∀ r ∈ records, ∃ u s, r.edgeExecutionId = .str (u :: s))
    (hdistinct : (records.map (·.edgeExecutionId)).Nodup) {r : EdgeRecord} (hr : r ∈ records) :
    creditedTo records r = r.credit.reinforcement.toRat := by
  rw [creditedTo, credit, List.find?_map]
  cases hfind : (records.filter fun x => x.correlationId == r.correlationId).find?
      ((fun c : Credit => c.edgeExecutionId == r.edgeExecutionId) ∘ EdgeRecord.credit) with
  | none =>
    have hself : r ∈ records.filter fun x => x.correlationId == r.correlationId := by simp [hr]
    obtain ⟨u, s, hid⟩ := hids r hr
    exact absurd (by simp [EdgeRecord.credit, hid]) (List.find?_eq_none.mp hfind r hself)
  | some x =>
    have hx : x ∈ records := List.mem_of_mem_filter (List.mem_of_find?_eq_some hfind)
    have hbeq := List.find?_some hfind
    have hsame : x.edgeExecutionId = r.edgeExecutionId := Json.eq_of_beq hbeq
    rw [List.inj_on_of_nodup_map hdistinct hx hr hsame]
    rfl

theorem tallied_observations (id : JsString) (identity : Json) (events : List Json) :
    (Synaptic.tallied id identity events).get "observations" = some (.int events.length) := by
  simp [Synaptic.tallied]

theorem tallied_reinforcement (id : JsString) (identity : Json) (events : List Json) :
    (Synaptic.tallied id identity events).get "reinforcement" =
      some (.num (Synaptic.total (events.map Synaptic.reinforcement))) := by
  simp [Synaptic.tallied]

/-- What is known under an id counts its evidence and sums its reinforcements. -/
theorem learned_of_knows {s : Synaptizer} {id : JsString} {evidence : List Json} (h : s.Knows id evidence) :
    learned s id "observations" = .int evidence.length ∧
    learned s id "reinforcement" = .num (Synaptic.total (evidence.map Synaptic.reinforcement)) := by
  cases evidence with
  | nil =>
    have hnone : s.relationships.get id = none := h
    rw [learned, learned, hnone]
    exact ⟨rfl, rfl⟩
  | cons first rest =>
    obtain ⟨relationship, hget, htallies⟩ := h
    rw [learned, learned, hget, Option.bind_some, Option.bind_some, htallies "observations" (by decide),
      htallies "reinforcement" (by decide), tallied_observations, tallied_reinforcement]
    exact ⟨rfl, rfl⟩

/-- An unverified event changes no relationship. -/
theorem relationships_of_unverified {s : Synaptizer} {event : Json} (h : isVerified event = false) :
    (s.step digest event).relationships = s.relationships := by
  rcases @Synaptic.Synaptizer.step_relationships digest s event with hsame | ⟨-, -, ⟨-, -, -, hverified, -⟩, -⟩
  · exact hsame
  · rw [isVerified] at h
    rw [h] at hverified
    cases hverified

/-- Over every run of an observer that publishes to a fresh Synaptizer, each relationship has
been observed once for each of its verified records and reinforced by the credit of these, and
unverified records have changed no relationship. -/
theorem credit_agrees_with_learning (digest : Digest) (engine : Engine) {calls : List Call} {records : List EdgeRecord}
    (h : Recorded engine calls records) (hdistinct : (records.map (·.edgeExecutionId)).Nodup) (R : Relationship)
    (hdigest : Set.InjOn digest.hex (hashedIdentities records R)) :
    let o := Transition.run (step digest engine) .fresh calls
    o.records = records ∧ outcomes digest engine .fresh calls = records.map .ok ∧
    learned o.synaptizer (R.id digest) "observations" = .int (verifiedRecords records R).length ∧
    (∃ reinforcement, learned o.synaptizer (R.id digest) "reinforcement" = .num reinforcement ∧
      reinforcement.toRat = ((verifiedRecords records R).map (creditedTo o.records)).sum) ∧
    ∀ before call after r, calls = before ++ call :: after → record engine call = .ok r → r.verified = false →
      (Transition.run (step digest engine) .fresh (before ++ [call])).synaptizer.relationships =
        (Transition.run (step digest engine) .fresh before).synaptizer.relationships := by
  intro o
  obtain ⟨hrun, houtcomes⟩ : Transition.run (step digest engine) .fresh calls = ⟨_, _⟩ ∧
      outcomes digest engine .fresh calls = records.map .ok := h.run .fresh
  have hrecords : o.records = records := congrArg Observer.records hrun
  have hlearnt : Learnt digest o.synaptizer (records.map (toSynaptizerEvent digest)) := h.learnt hdistinct
  have hknows := hlearnt.knows (R.id digest)
  rw [h.evidenceFor hdigest] at hknows
  obtain ⟨hobservations, hreinforcement⟩ := learned_of_knows hknows
  refine ⟨hrecords, houtcomes, ?_, ⟨_, hreinforcement, ?_⟩, fun before call after r _ hr hunverified => ?_⟩
  · rw [hobservations, List.length_map]
  · rw [Synaptic.toRat_total, List.map_map, List.map_map, hrecords]
    refine congrArg List.sum (List.map_congr_left fun r hr => ?_)
    obtain ⟨hmem, hverified⟩ := List.mem_filter.mp hr
    rw [Bool.and_eq_true] at hverified
    rw [Function.comp_apply, Function.comp_apply, reinforcement_event hverified.1,
      creditedTo_eq h.identified hdistinct hmem]
  · rw [Transition.run_append, Transition.run_cons, Transition.run_nil, step_record hr]
    exact relationships_of_unverified (isVerified_event.trans hunverified)

end

/-! ## A sample run -/

namespace Sample

/-- Reads numbers, and writes the two times of the sample. -/
def engine : Engine where
  toNumber v := match v with
    | .num x => some x
    | _ => none
  toISOString x :=
    if x = .int 0 then some (js "1970-01-01T00:00:00.000Z")
    else if x = .int 250 then some (js "1970-01-01T00:00:00.250Z")
    else none

/-- An edge from the planner to the worker, a quarter of a second long. -/
def call (edge contribution : String) (success verified : Bool) : Call where
  input := .record [("edge_execution_id", .text edge), ("correlation_id", .text "task-1"),
    ("source_component", .text "planner"), ("target_component", .text "worker"), ("source_role", .text "requester"),
    ("target_role", .text "executor"), ("input_state_root", .text "before"), ("output_state_root", .text "after"),
    ("start_time", .int 0), ("end_time", .int 250), ("success", .bool success), ("verified", .bool verified),
    ("contribution", .text contribution)]
  startNow := .int 0
  endNow := .int 0
  executionId := js "edge-0"

/-- The record of such a call. -/
def made (edge contribution : String) (success verified : Bool) : EdgeRecord where
  edgeExecutionId := .text edge
  correlationId := js "task-1"
  sourceComponent := js "planner"
  targetComponent := js "worker"
  sourceRole := js "requester"
  targetRole := js "executor"
  processId := .null
  skillId := .null
  capabilityId := .null
  inputStateRoot := js "before"
  outputStateRoot := js "after"
  startTime := js "1970-01-01T00:00:00.000Z"
  endTime := js "1970-01-01T00:00:00.250Z"
  latency := .int 250
  resourceUse := .obj []
  cost := .null
  success := success
  verified := verified
  evidenceRefs := []
  verificationRefs := []
  retryCount := 0
  fallbackCount := 0
  errorClass := .null
  contextRef := .null
  authorityRef := .null
  receiptRef := .null
  contribution := .text contribution

def edge : Relationship := ⟨js "planner", js "worker", js "requester", js "executor", none⟩

def calls : List Call := [call "edge-1" "RECOVERY" true true, call "edge-2" "EXECUTION" true false,
  call "edge-3" "EXECUTION" false true]

def records : List EdgeRecord := [made "edge-1" "RECOVERY" true true, made "edge-2" "EXECUTION" true false,
  made "edge-3" "EXECUTION" false true]

theorem record_call (edge contribution : String) (success verified : Bool) :
    record engine (call edge contribution success verified) = .ok (made edge contribution success verified) := by
  cases success <;> cases verified <;> rfl

theorem recorded : Recorded engine calls records where
  made := by simp only [calls, records, List.map_cons, List.map_nil, record_call]
  identified := by
    simp only [records, List.forall_mem_cons]
    exact ⟨⟨_, _, rfl⟩, ⟨_, _, rfl⟩, ⟨_, _, rfl⟩, by simp⟩
  related := by
    simp only [records, List.forall_mem_cons]
    exact ⟨rfl, rfl, rfl, by simp⟩

theorem hashedIdentities_edge : hashedIdentities records edge = {edge.hashed} := by
  ext bytes
  constructor
  · rintro ⟨R, rfl | ⟨r, hr, hR⟩, rfl⟩
    · rfl
    · simp only [records, List.mem_cons, List.not_mem_nil, or_false] at hr
      rcases hr with rfl | rfl | rfl
      all_goals rw [← Option.some.inj hR]; rfl
  · rintro rfl
    exact ⟨edge, .inl rfl, rfl⟩

theorem distinct_records : (records.map (·.edgeExecutionId)).Nodup := by simp [records, made, Json.text]

theorem verified_edge : verifiedRecords records edge =
    [made "edge-1" "RECOVERY" true true, made "edge-3" "EXECUTION" false true] := rfl

/-- A verified recovery is credited with 1.5 and a verified failure with -1. -/
theorem credited_edge : ((verifiedRecords records edge).map (creditedTo records)).sum = 1 / 2 := by
  have hcredit : (verifiedRecords records edge).map (creditedTo records) =
      [(JsNumber.reduce 15 1).toRat, (JsNumber.int (-1)).toRat] := by
    have hown : (verifiedRecords records edge).map (creditedTo records) =
        (verifiedRecords records edge).map fun r => r.credit.reinforcement.toRat :=
      List.map_congr_left fun r hr => creditedTo_eq recorded.identified distinct_records (List.mem_of_mem_filter hr)
    rw [hown, verified_edge]
    rfl
  rw [hcredit, JsNumber.toRat_reduce]
  norm_num [JsNumber.toRat]

theorem calls_eq : calls = [call "edge-1" "RECOVERY" true true] ++ call "edge-2" "EXECUTION" true false ::
    [call "edge-3" "EXECUTION" false true] := rfl

/-- Two of the three records are verified; the other one changes nothing. -/
theorem learned_edge :
    (Transition.run (step Synaptic.Synaptizer.sampleDigest engine) .fresh calls).records = records ∧
    learned (Transition.run (step Synaptic.Synaptizer.sampleDigest engine) .fresh calls).synaptizer
      (edge.id Synaptic.Synaptizer.sampleDigest) "observations" = .int 2 ∧
    (∃ reinforcement, learned (Transition.run (step Synaptic.Synaptizer.sampleDigest engine) .fresh calls).synaptizer
      (edge.id Synaptic.Synaptizer.sampleDigest) "reinforcement" = .num reinforcement ∧ reinforcement.toRat = 1 / 2) ∧
    (Transition.run (step Synaptic.Synaptizer.sampleDigest engine) .fresh
      ([call "edge-1" "RECOVERY" true true] ++ [call "edge-2" "EXECUTION" true false])).synaptizer.relationships =
      (Transition.run (step Synaptic.Synaptizer.sampleDigest engine) .fresh
        [call "edge-1" "RECOVERY" true true]).synaptizer.relationships := by
  obtain ⟨hrecords, -, hobservations, ⟨reinforcement, hlearned, hsum⟩, hunverified⟩ :=
    credit_agrees_with_learning Synaptic.Synaptizer.sampleDigest engine recorded distinct_records edge
      (by rw [hashedIdentities_edge]; exact Set.injOn_singleton _ _)
  rw [hrecords, credited_edge] at hsum
  rw [verified_edge] at hobservations
  exact ⟨hrecords, hobservations, ⟨reinforcement, hlearned, hsum⟩, hunverified _ _ _ _ calls_eq (record_call ..) rfl⟩

end Sample

end ProcessIntelligence
