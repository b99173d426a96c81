import StrataPortNetwork.Synaptizer.Tally
import Mathlib.Tactic.Linarith

/-! # The accounts of a Synaptizer

A call of `consume` counts the event before it reads the names of the relationship. The counters
agree in every state of a run, and no call that throws leaves a trace, exactly when no verified
event is new and lacks one of these names.
-/
namespace Synaptic
open Js

namespace Synaptizer

/-! ## Sums over a map -/

/-- A write replaces what the key held in the sum of the values. -/
theorem sum_values_set {κ β M : Type} [BEq κ] [LawfulBEq κ] [AddCommMonoid M] (m : JsMap κ β) (k : κ) (v : β) (f : β → M) :
    ((m.set k v).values.map f).sum + ((m.get k).map f).getD 0 = (m.values.map f).sum + f v := by
  have hreplace : ∀ entries : List (κ × β), (entries.Pairwise fun e e' => (e.1 == e'.1) = false) →
      ∀ old, (entries.find? fun e => e.1 == k) = some old →
        ((entries.map fun e => if e.1 == k then (e.1, v) else e).map fun e => f e.2).sum + f old.2 =
          (entries.map fun e => f e.2).sum + f v := by
    intro entries
    induction entries with
    | nil => intro _ old hold; cases hold
    | cons e rest ih =>
      intro hdistinct old hold
      obtain ⟨hhead, htail⟩ := List.pairwise_cons.mp hdistinct
      rw [List.find?_cons] at hold
      by_cases hk : (e.1 == k) = true
      · rw [hk] at hold
        obtain rfl := Option.some.inj hold
        have hrest : (rest.map fun e => if e.1 == k then (e.1, v) else e) = rest := by
          conv_rhs => rw [← List.map_id' rest]
          refine List.map_congr_left fun e' he' => ?_
          have hne := hhead e' he'
          rw [eq_of_beq hk] at hne
          rw [if_neg]
          intro heq
          rw [eq_of_beq heq, BEq.refl] at hne
          cases hne
        simp only [List.map_cons, List.sum_cons, if_pos hk, hrest]
        rw [add_comm _ (f e.2), add_comm (f v), ← add_assoc]
      · rw [Bool.not_eq_true] at hk
        rw [hk] at hold
        have hrest := ih htail old hold
        simp only [List.map_cons, List.sum_cons, hk, Bool.false_eq_true, if_false]
        rw [add_assoc, hrest, add_assoc]
  cases hget : m.get k with
  | none =>
    have hentries := JsMap.entries_set_of_get_eq_none hget v
    simp only [JsMap.values, hentries, List.map_append, List.sum_append, List.map_cons, List.map_nil, List.sum_cons, List.sum_nil,
      add_zero, Option.map_none, Option.getD_none]
  | some old =>
    obtain ⟨e, hfind, rfl⟩ := Option.map_eq_some_iff.mp hget
    have hhas : m.has k = true := JsMap.has_iff.mpr ⟨_, hget⟩
    have hsum := hreplace m.entries m.distinct e hfind
    simp only [JsMap.values, JsMap.set, dif_pos hhas, List.map_map, Function.comp_def, Option.map_some, Option.getD_some]
    simpa only [List.map_map, Function.comp_def] using hsum

/-! ## What a call does -/

variable {digest : Digest} {s : Synaptizer} {event : Json}

/-- One of the names of the relationship is not a string with something in it. -/
def Unnamed (event : Json) : Prop := ∃ name ∈ ["source_component", "target_component", "source_role", "target_role"],
  ∀ u text, ((event.get "edge_relationship").getD .null).get name ≠ some (.str (u :: text))

/-- An event that is counted as received and as seen before its names are read. -/
def HalfTaken (s : Synaptizer) (event : Json) : Prop :=
  (∃ id, checkEvent event = .ok id ∧ s.seenEvents.has id = false) ∧ isVerified event = true ∧ Unnamed event

theorem nonEmpty_error {v : Option Json} {code : String} : (∃ e, nonEmpty v code = .error e) ↔ ∀ u text, v ≠ some (.str (u :: text)) := by
  unfold nonEmpty
  split
  · simp
  · rename_i h
    exact ⟨fun _ u text hv => h u text hv, fun _ => ⟨_, rfl⟩⟩

theorem bind_error_iff {ε α β : Type} {x : Except ε α} {f : α → Except ε β} :
    (∃ e, (x >>= f) = .error e) ↔ (∃ e, x = .error e) ∨ ∃ a, x = .ok a ∧ ∃ e, f a = .error e := by
  cases x <;> simp [bind, Except.bind]

/-- The identity of a relationship fails on its names only. -/
theorem relationshipId_error : (∃ e, relationshipId digest event = .error e) ↔ Unnamed event := by
  have hpure : ∀ {α : Type} {a : α}, ¬ ∃ e, (pure a : Outcome α) = .error e := by
    rintro α a ⟨e, h⟩
    cases h
  have hread : ∀ {v : Option Json} {code : String} {α : Type} {f : JsString → Outcome α} {p : Prop},
      (∀ text, (∃ e, f text = .error e) ↔ p) →
      ((∃ e, (nonEmpty v code >>= f) = .error e) ↔ (∀ u text, v ≠ some (.str (u :: text))) ∨ p) := by
    intro v code α f p hf
    rw [bind_error_iff, nonEmpty_error]
    constructor
    · rintro (h | ⟨text, -, h⟩)
      · exact .inl h
      · exact .inr ((hf text).mp h)
    · rintro (h | h)
      · exact .inl h
      · by_cases hnone : ∀ u text, v ≠ some (.str (u :: text))
        · exact .inl hnone
        · obtain ⟨u, text, hv⟩ : ∃ u text, v = some (.str (u :: text)) := by simpa using hnone
          exact .inr ⟨u :: text, by rw [hv]; rfl, (hf _).mpr h⟩
  unfold relationshipId
  rw [bind_error_iff, or_iff_left (by rintro ⟨a, -, h⟩; exact hpure h), relationshipIdentity,
    hread fun _ => hread fun _ => hread fun _ => hread fun _ => iff_false_intro hpure]
  simp only [Unnamed, List.exists_mem_cons_iff, List.not_mem_nil, false_and, exists_false]

/-- A call rejects the event, finds it seen, puts it aside, fails on its names or learns it. -/
theorem consume_cases (digest : Digest) (s : Synaptizer) (event : Json) :
    (∃ e, checkEvent event = .error e ∧ s.consume digest event = (.error e, s)) ∨
    ∃ id, checkEvent event = .ok id ∧
      ((s.seenEvents.has id = true ∧ s.consume digest event =
          (.ok .duplicate, { s with receivedEvents := s.receivedEvents + 1, duplicateEvents := s.duplicateEvents + 1 })) ∨
        (s.seenEvents.has id = false ∧ isVerified event = false ∧ s.consume digest event =
          (.ok .unverified, { s with
            receivedEvents := s.receivedEvents + 1
            seenEvents := s.seenEvents.add id
            ignoredUnverifiedEvents := s.ignoredUnverifiedEvents + 1 })) ∨
        (s.seenEvents.has id = false ∧ isVerified event = true ∧ ∃ e, relationshipId digest event = .error e ∧
          s.consume digest event =
            (.error e, { s with receivedEvents := s.receivedEvents + 1, seenEvents := s.seenEvents.add id })) ∨
        (s.seenEvents.has id = false ∧ isVerified event = true ∧ ∃ key identity, relationshipId digest event = .ok (key, identity) ∧
          s.consume digest event = (.ok (.learned (s.committed digest key identity event)), { s with
            receivedEvents := s.receivedEvents + 1
            seenEvents := s.seenEvents.add id
            relationships := s.relationships.set key (s.committed digest key identity event)
            learnedEvents := s.learnedEvents + 1 }))) := by
  unfold consume
  cases hevent : checkEvent event with
  | error e => exact .inl ⟨e, rfl, rfl⟩
  | ok id =>
    refine .inr ⟨id, rfl, ?_⟩
    cases hseen : s.seenEvents.has id with
    | true => exact .inl ⟨rfl, by simp only [hseen, if_true]⟩
    | false =>
      cases hverified : isVerified event with
      | false =>
        rw [isVerified] at hverified
        exact .inr (.inl ⟨rfl, rfl, by simp only [hseen, hverified, Bool.false_eq_true, if_false]⟩)
      | true =>
        rw [isVerified] at hverified
        cases hid : relationshipId digest event with
        | error e =>
          exact .inr (.inr (.inl ⟨rfl, rfl, e, rfl, by simp only [hseen, hverified, Bool.false_eq_true, if_false, if_true]⟩))
        | ok found =>
          refine .inr (.inr (.inr ⟨rfl, rfl, found.1, found.2, rfl, ?_⟩))
          simp only [hseen, hverified, Bool.false_eq_true, if_false, if_true]

/-! ## The accounts -/

/-- `relationship.observations`. -/
def observations (relationship : Json) : ℚ :=
  match relationship.get "observations" with
  | some (.num x) => x.toRat
  | _ => 0

/-- The counters account for every event received, every event seen and every observation. -/
structure Accounted (s : Synaptizer) : Prop where
  received : s.receivedEvents = s.learnedEvents + s.ignoredUnverifiedEvents + s.duplicateEvents
  seen : s.seenEvents.items.length = s.learnedEvents + s.ignoredUnverifiedEvents
  observed : (s.relationships.values.map observations).sum = s.learnedEvents

/-- The relationships count in numbers. -/
def Numbered (s : Synaptizer) : Prop := ∀ id relationship, s.relationships.get id = some relationship →
  ∃ x, relationship.get "observations" = some (.num x)

/-- A call that throws leaves the snapshot as it was. -/
def LeavesNoTrace (digest : Digest) (s : Synaptizer) (event : Json) : Prop :=
  ∀ e, (s.consume digest event).1 = .error e → (s.step digest event).snapshot digest = s.snapshot digest

theorem get_observations {existing : Json} {x : JsNumber} (h : existing.get "observations" = some (.num x)) (event root : Json) :
    ((updatedRelationship existing event).set "state_root" root).get "observations" = some (.num (add x (.int 1))) := by
  simp [updatedRelationship, increased, h]

theorem observations_newRelationship {id : JsString} {identity : Json} (h : relationshipId digest event = .ok (id, identity)) :
    (newRelationship id identity).get "observations" = some (.int 0) := by
  simp only [relationshipId, bind_eq_ok, pure_eq_ok] at h
  obtain ⟨_, hidentity, hpair⟩ := h
  obtain ⟨-, rfl⟩ := Prod.mk.inj hpair
  obtain ⟨source, target, sourceRole, targetRole, -, -, -, -, rfl⟩ := relationshipIdentity_eq_ok.mp hidentity
  rfl

/-- A learning observes its relationship once more. -/
theorem observations_committed (hs : s.Numbered) {id : JsString} {identity : Json}
    (h : relationshipId digest event = .ok (id, identity)) : ∃ x,
    (s.committed digest id identity event).get "observations" = some (.num x) ∧
      x.toRat = ((s.relationships.get id).map observations).getD 0 + 1 := by
  cases hget : s.relationships.get id with
  | none =>
    refine ⟨add (.int 0) (.int 1), ?_, ?_⟩
    · rw [committed, hget, Option.getD_none]
      exact get_observations (observations_newRelationship h) event _
    · rw [toRat_add]
      simp [JsNumber.toRat]
  | some relationship =>
    obtain ⟨x, hx⟩ := hs id relationship hget
    refine ⟨add x (.int 1), ?_, ?_⟩
    · rw [committed, hget, Option.getD_some]
      exact get_observations hx event _
    · rw [toRat_add, Option.map_some, Option.getD_some, observations, hx]
      simp [JsNumber.toRat]

theorem numbered_fresh : Numbered fresh := by
  intro id relationship h
  cases h

theorem Numbered.step (hs : s.Numbered) (event : Json) : (s.step digest event).Numbered := by
  intro id relationship hget
  rcases @step_relationships digest s event with hsame | ⟨key, identity, ⟨_, -, -, -, hidentity⟩, hset⟩
  · exact hs id relationship (hsame ▸ hget)
  · rw [hset, JsMap.get_set] at hget
    split at hget
    · obtain ⟨x, hx, -⟩ := observations_committed hs hidentity
      exact ⟨x, Option.some.inj hget ▸ hx⟩
    · exact hs id relationship hget

theorem accounted_fresh : Accounted fresh := ⟨rfl, rfl, rfl⟩

theorem length_add {items : JsSet JsString} {id : JsString} (h : items.has id = false) :
    (items.add id).items.length = items.items.length + 1 := by
  have hnew : id ∉ items.items := by
    rw [← JsSet.has_iff, h]
    exact Bool.false_ne_true
  rw [JsSet.add, dif_neg hnew, List.length_append, List.length_singleton]

theorem received_snapshot (digest : Digest) (s : Synaptizer) :
    (s.snapshot digest).get "received_events" = some (.int s.receivedEvents) := by
  rw [snapshot, Json.get_set, if_neg (by decide), snapshotState, Json.get_record]
  simp [List.lookup_cons]

/-- A call keeps the accounts and leaves no trace of a throw, unless it takes an event by half. -/
theorem step_accounts (digest : Digest) (hnumbered : s.Numbered) (hs : s.Accounted) (event : Json) :
    ((s.step digest event).Accounted ∧ s.LeavesNoTrace digest event) ↔ ¬ s.HalfTaken event := by
  have hhalf : ∀ {id}, checkEvent event = .ok id → (s.HalfTaken event ↔
      s.seenEvents.has id = false ∧ isVerified event = true ∧ ∃ e, relationshipId digest event = .error e) := by
    intro id hid
    rw [relationshipId_error, HalfTaken]
    constructor
    · rintro ⟨⟨id', hid', hseen⟩, hverified, hunnamed⟩
      rw [hid] at hid'
      cases hid'
      exact ⟨hseen, hverified, hunnamed⟩
    · rintro ⟨hseen, hverified, hunnamed⟩
      exact ⟨⟨id, hid, hseen⟩, hverified, hunnamed⟩
  have hquiet : ∀ {consumed}, (s.consume digest event).1 = .ok consumed → s.LeavesNoTrace digest event := by
    intro consumed hok e he
    rw [hok] at he
    cases he
  rcases consume_cases digest s event with ⟨e, hevent, hcall⟩ | ⟨id, hevent, hcalls⟩
  · have hstep : s.step digest event = s := by rw [step, hcall]
    refine iff_of_true ⟨by rw [hstep]; exact hs, fun _ _ => by rw [hstep]⟩ ?_
    rintro ⟨⟨id, hid, -⟩, -⟩
    rw [hevent] at hid
    cases hid
  · rw [hhalf hevent]
    rcases hcalls with ⟨hseen, hcall⟩ | ⟨hseen, hverified, hcall⟩ | ⟨hseen, hverified, e, hid, hcall⟩ |
        ⟨hseen, hverified, key, identity, hid, hcall⟩
    · refine iff_of_true ⟨?_, hquiet (congrArg Prod.fst hcall)⟩ (by simp [hseen])
      rw [step, hcall]
      exact ⟨by rw [hs.received]; rfl, hs.seen, hs.observed⟩
    · refine iff_of_true ⟨?_, hquiet (congrArg Prod.fst hcall)⟩ (by simp [hverified])
      rw [step, hcall]
      refine ⟨?_, ?_, hs.observed⟩
      · have hreceived := hs.received
        dsimp only
        omega
      · rw [length_add hseen, hs.seen]
        rfl
    · refine iff_of_false ?_ (not_not_intro ⟨hseen, hverified, e, hid⟩)
      rintro ⟨haccounted, -⟩
      have hreceived := haccounted.received
      rw [step, hcall] at hreceived
      have hbefore := hs.received
      dsimp only at hreceived
      omega
    · refine iff_of_true ⟨?_, hquiet (congrArg Prod.fst hcall)⟩ (by simp [hid])
      rw [step, hcall]
      refine ⟨?_, ?_, ?_⟩
      · have hreceived := hs.received
        dsimp only
        omega
      · have hlength := hs.seen
        rw [length_add hseen]
        dsimp only
        omega
      · have hsum := sum_values_set s.relationships key (s.committed digest key identity event) observations
        obtain ⟨x, hx, hcount⟩ := observations_committed hnumbered hid
        have hone : observations (s.committed digest key identity event) = x.toRat := by rw [observations, hx]
        rw [hone, hcount, hs.observed] at hsum
        push_cast
        linarith

/-- The accounts of a run agree in every state, and its calls leave no trace when they throw,
exactly when no event of the run is taken by half. -/
theorem consume_accounts (digest : Digest) (events : List Json) :
    (Transition.Always (step digest) Accounted fresh events ∧ Transition.Steps (step digest) (LeavesNoTrace digest) fresh events) ↔
      Transition.Steps (step digest) (fun s event => ¬ s.HalfTaken event) fresh events := by
  have hrun : ∀ {s : Synaptizer}, s.Numbered → s.Accounted →
      ((Transition.Always (step digest) Accounted s events ∧ Transition.Steps (step digest) (LeavesNoTrace digest) s events) ↔
        Transition.Steps (step digest) (fun s event => ¬ s.HalfTaken event) s events) := by
    induction events with
    | nil => exact fun _ hs => by simp [Transition.Always, Transition.Steps, hs]
    | cons event rest ih =>
      intro s hnumbered hs
      have hstep := step_accounts digest hnumbered hs event
      have hfirst : Transition.Always (step digest) Accounted (s.step digest event) rest → (s.step digest event).Accounted := by
        intro h
        cases rest with
        | nil => exact h
        | cons _ _ => exact h.1
      simp only [Transition.Always, Transition.Steps, hs, true_and, ← hstep]
      constructor
      · rintro ⟨halways, hquiet, hrest⟩
        exact ⟨⟨hfirst halways, hquiet⟩, (ih (hnumbered.step event) (hfirst halways)).mp ⟨halways, hrest⟩⟩
      · rintro ⟨⟨haccounted, hquiet⟩, hrest⟩
        obtain ⟨halways, hquiets⟩ := (ih (hnumbered.step event) haccounted).mpr hrest
        exact ⟨halways, hquiet, hquiets⟩
  exact hrun numbered_fresh accounted_fresh

/-- Verified evidence of a relationship whose source has no name. -/
def unnamedEvidence : Json := (evidence "edge-1").set "edge_relationship" (.record [("source_component", .text ""),
  ("target_component", .text "worker"), ("source_role", .text "requester"), ("target_role", .text "executor")])

/-- The event is received and seen, and neither learned nor ignored nor a duplicate. -/
theorem unnamed_unaccounted : ¬ ∀ events, Transition.Always (step sampleDigest) Accounted fresh events ∧
    Transition.Steps (step sampleDigest) (LeavesNoTrace sampleDigest) fresh events := by
  intro h
  have hreceived := (h [unnamedEvidence]).1.2.received
  revert hreceived
  decide +kernel

end Synaptizer

end Synaptic
