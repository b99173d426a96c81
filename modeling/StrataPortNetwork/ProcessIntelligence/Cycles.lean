import StrataPortNetwork.ProcessIntelligence.Mediation

/-! # Cycles of recompositions

The graphs under the first cursor are remembered by their roots, and none is processed twice. Under
a later cursor nothing is remembered: there a configuration comes back when `recompose` answers a
skill that it has replaced before.
-/
namespace ProcessIntelligence
open Js Logged
open CognitiveState (Value)

/-- The configuration that an iteration processes, from its call of `observe`. -/
def Event.configuration? : Event → Option (ℕ × List JsString)
  | .observe _ cursor graph => some (cursor, graph)
  | _ => none

/-- The configurations of a log, each in the iteration that processes it. -/
def processed (log : List Event) : List (ℕ × List JsString) := log.filterMap Event.configuration?

/-- Behind the first cursor, `recompose` answers no skill that was already processed under the same cursor. -/
def NoReturn (log : List Event) : Prop := ∀ before after selected cursor answer,
  log = before ++ .recompose selected cursor (some answer) :: after → 1 ≤ cursor →
    ∀ graph, (cursor, graph) ∈ processed before → graph[cursor]? ≠ some answer

variable {log : List Event} {e : Event} {cursor : ℕ} {selected : JsString} {observation : Json}

theorem NoReturn.of_append {rest : List Event} (h : NoReturn (log ++ rest)) : NoReturn log := by
  intro before after selected cursor answer hlog
  refine h before (after ++ rest) selected cursor answer ?_
  rw [hlog, List.append_assoc, List.cons_append]

/-- The answer at a place of the log is such a skill. -/
def returnsAt (log : List Event) (k : ℕ) : Bool :=
  match log[k]? with
  | some (.recompose _ cursor (some answer)) =>
    decide (1 ≤ cursor) && (processed (log.take k)).any fun config => config.1 = cursor ∧ config.2[cursor]? = some answer
  | _ => false

theorem noReturn_iff : NoReturn log ↔ ∀ k < log.length, returnsAt log k = false := by
  constructor
  · intro h k hk
    unfold returnsAt
    split
    · rename_i selected cursor answer hget
      rw [Bool.and_eq_false_iff, decide_eq_false_iff_not, List.any_eq_false]
      refine Classical.or_iff_not_imp_left.mpr fun hpos config hconfig hmatch => ?_
      obtain ⟨rfl, hanswer⟩ := of_decide_eq_true hmatch
      have hlog : log = log.take k ++ .recompose selected config.1 (some answer) :: log.drop (k + 1) := by
        rw [← (List.getElem?_eq_some_iff.mp hget).2, ← List.drop_eq_getElem_cons, List.take_append_drop]
      exact h _ _ selected config.1 answer hlog (not_not.mp hpos) config.2 hconfig hanswer
    · rfl
  · rintro h before after selected cursor answer rfl hpos graph hmem hanswer
    have hplace := h before.length (by simp)
    rw [returnsAt, List.getElem?_append_right le_rfl, Nat.sub_self, List.getElem?_cons_zero] at hplace
    simp only [hpos, decide_true, Bool.true_and, List.take_left, List.any_eq_false] at hplace
    exact hplace (cursor, graph) hmem (decide_eq_true ⟨rfl, hanswer⟩)

instance : Decidable (NoReturn log) := decidable_of_iff _ noReturn_iff.symm

theorem processed_observe {graph : List JsString} :
    processed (log ++ [.observe selected cursor graph]) = processed log ++ [(cursor, graph)] := by
  simp [processed, Event.configuration?]

theorem processed_snoc (he : e.configuration? = none) : processed (log ++ [e]) = processed log := by
  simp [processed, he]

section
variable (digest : Synaptic.Digest)

/-- No configuration was processed twice, or after the cursor had moved on, and the graphs under the first cursor are visited. -/
structure Visits (visited : JsSet JsString) (cursor : ℕ) (log : List Event) : Prop where
  once : (processed log).Nodup
  behind : ∀ config ∈ processed log, config.1 ≤ cursor
  first : cursor = 0 → ∀ config ∈ processed log, visited.has (graphRoot digest config.2) = true

/-- Behind the first cursor, this skill is yet to be processed under it. -/
def Unseen (cursor : ℕ) (skill : Option JsString) (log : List Event) : Prop :=
  1 ≤ cursor → ∀ graph, (cursor, graph) ∈ processed log → graph[cursor]? ≠ skill

end

variable {digest : Synaptic.Digest} {visited : JsSet JsString}

/-- An iteration whose root was not visited processes a new configuration. -/
theorem Visits.observe {graph : List JsString} (h : Visits digest visited cursor log) (hunseen : Unseen cursor graph[cursor]? log)
    (hroot : (!(cursor == 0 && visited.has (graphRoot digest graph))) = true) :
    Visits digest (visited.add (graphRoot digest graph)) cursor (log ++ [.observe selected cursor graph]) := by
  have hnew : (cursor, graph) ∉ processed log := by
    intro hmem
    rcases Nat.eq_zero_or_pos cursor with hzero | hpos
    · rw [h.first hzero _ hmem, hzero] at hroot
      cases hroot
    · exact hunseen hpos graph hmem rfl
  have hconfigs : ∀ config ∈ processed (log ++ [.observe selected cursor graph]), config ∈ processed log ∨ config = (cursor, graph) := by
    intro config hconfig
    rw [processed_observe] at hconfig
    exact (List.mem_append.mp hconfig).imp id List.mem_singleton.mp
  refine ⟨?_, fun config hconfig => ?_, fun hzero config hconfig => ?_⟩
  · rw [processed_observe, List.nodup_append]
    refine ⟨h.once, List.nodup_singleton _, ?_⟩
    rintro config hconfig _ hlast rfl
    exact hnew (List.mem_singleton.mp hlast ▸ hconfig)
  · rcases hconfigs config hconfig with hmem | rfl
    · exact h.behind config hmem
    · exact le_rfl
  · rw [JsSet.has_iff, JsSet.mem_add]
    rcases hconfigs config hconfig with hmem | rfl
    · exact .inl (JsSet.has_iff.mp (h.first hzero config hmem))
    · exact .inr rfl

/-- Under the next cursor nothing was processed. -/
theorem Visits.move {visited' : JsSet JsString} {skill : Option JsString} (h : Visits digest visited cursor log) :
    Visits digest visited' (cursor + 1) log ∧ Unseen (cursor + 1) skill log := by
  refine ⟨⟨h.once, fun config hconfig => (h.behind config hconfig).trans (Nat.le_succ _), fun hzero => nomatch hzero⟩, ?_⟩
  intro _ graph hmem
  exact absurd (h.behind _ hmem) (Nat.not_succ_le_self cursor)

theorem Visits.snoc (h : Visits digest visited cursor log) (he : e.configuration? = none) :
    Visits digest visited cursor (log ++ [e]) := by
  refine ⟨?_, ?_, fun hzero => ?_⟩ <;> rw [processed_snoc he]
  · exact h.once
  · exact h.behind
  · exact h.first hzero

theorem Unseen.snoc {skill : Option JsString} (h : Unseen cursor skill log) (he : e.configuration? = none) :
    Unseen cursor skill (log ++ [e]) := by
  unfold Unseen
  rw [processed_snoc he]
  exact h

section
variable {σ : Type} {engine : Engine} {ctx : RunContext} {readings : ℕ → Readings} {options : RuntimeOptions} {env : Environment σ}
variable {input : ExecuteInput} {started : Option JsNumber} (run : RuntimeRun)

/-- What holds of a log without returns. -/
def Unless (P : List Event → Prop) (log : List Event) : Prop := NoReturn log → P log

theorem Unless.snoc {P Q : List Event → Prop} (h : Unless P log) (hstep : P log → Q (log ++ [e])) : Unless Q (log ++ [e]) :=
  fun hreturn => hstep (h hreturn.of_append)

def Once (log : List Event) : Prop := (processed log).Nodup

theorem Visits.unless_once (h : Unless (Visits digest visited cursor) log) : Unless Once log := fun hreturn => (h hreturn).once

variable (digest) in
/-- Between two iterations, the skill under the cursor is yet to be processed. -/
def AtRest (run : RuntimeRun) (log : List Event) : Prop :=
  Visits digest run.visitedGraphs run.cursor log ∧ Unseen run.cursor run.graph[run.cursor]? log

theorem recomposition_once (hcursor : run.cursor < run.graph.length) :
    Triple (Unless (Visits digest run.visitedGraphs run.cursor)) (recomposition digest options env run selected observation)
      (fun next => Unless (AtRest digest next)) (Unless Once) := by
  refine Triple.bind (Q := fun _ => Unless (Visits digest run.visitedGraphs run.cursor))
    (.only (fun _ _ _ h => h) fun _ => Visits.unless_once) fun _ => ?_
  refine Triple.bind (Q := fun replacement => Unless fun log => Visits digest run.visitedGraphs run.cursor log ∧
    Unseen run.cursor (some replacement) log) (.call ?_ ?_) fun replacement => ?_
  · intro replacement log h hreturn
    refine ⟨(h hreturn.of_append).snoc rfl, Unseen.snoc ?_ rfl⟩
    intro hpos graph hmem
    exact hreturn log [] selected run.cursor replacement rfl hpos graph hmem
  · exact fun _ log h => Visits.unless_once (h.snoc fun hvisits => hvisits.snoc rfl)
  have hfail : ∀ log, Unless (fun log => Visits digest run.visitedGraphs run.cursor log ∧ Unseen run.cursor (some replacement) log) log →
      Unless Once log := fun log h hreturn => (h hreturn).1.once
  refine Triple.bind (.only (fun _ _ _ h => h) hfail) fun _ => ?_
  refine Triple.bind (Q := fun _ => Unless fun log => Visits digest run.visitedGraphs run.cursor log ∧
    Unseen run.cursor (some replacement) log) (.call ?_ ?_) fun _ => .pure ?_
  · exact fun _ log h => h.snoc fun hlog => ⟨hlog.1.snoc rfl, hlog.2.snoc rfl⟩
  · exact fun _ log h => hfail _ (h.snoc fun hlog => ⟨hlog.1.snoc rfl, hlog.2.snoc rfl⟩)
  · intro log h hreturn
    refine ⟨(h hreturn).1, ?_⟩
    change Unseen run.cursor (run.graph.set run.cursor replacement)[run.cursor]? log
    rw [List.getElem?_set_self hcursor]
    exact (h hreturn).2

theorem invocation_once : Triple (Unless (Visits digest run.visitedGraphs run.cursor))
    (invocation digest engine ctx readings env input run selected observation)
    (fun next => Unless (AtRest digest next)) (Unless Once) := by
  refine Triple.bind (Q := fun _ => Unless (Visits digest run.visitedGraphs run.cursor)) (.call ?_ ?_) fun _ => ?_
  · exact fun _ log h => h.snoc fun hvisits => hvisits.snoc rfl
  · exact fun _ log h => Visits.unless_once (h.snoc fun hvisits => hvisits.snoc rfl)
  refine Triple.bind (.only (fun _ _ _ h => h) fun _ => Visits.unless_once) fun implementation => ?_
  refine Triple.bind (Q := fun _ => Unless (Visits digest run.visitedGraphs run.cursor)) (.call ?_ ?_) fun output => ?_
  · exact fun _ log h => h.snoc fun hvisits => hvisits.snoc rfl
  · exact fun _ log h => Visits.unless_once (h.snoc fun hvisits => hvisits.snoc rfl)
  refine .only (fun next log hsettled h hreturn => ?_) fun _ => Visits.unless_once
  unfold AtRest
  rw [(settled_moved hsettled).1.cursor]
  exact (h hreturn).move

/-- An iteration processes a configuration that was not processed before. -/
theorem turn_once (hcursor : run.cursor < run.graph.length) :
    Triple (Unless (AtRest digest run)) (turn digest engine ctx readings options env input started run run.graph[run.cursor])
      (fun next => Unless (AtRest digest next)) (Unless Once) := by
  have hfail : ∀ log, Unless (AtRest digest run) log → Unless Once log := fun log h hreturn => (h hreturn).1.once
  have hsnoc : ∀ {log e}, e.configuration? = none → Unless (AtRest digest run) log → Unless (AtRest digest run) (log ++ [e]) :=
    fun he h => h.snoc fun hlog => ⟨hlog.1.snoc he, hlog.2.snoc he⟩
  refine Triple.bind (Q := fun _ => Unless (AtRest digest run)) (.note fun _ => hsnoc rfl) fun _ => ?_
  refine Triple.bind (.only (fun _ _ _ h => h) hfail) fun _ => ?_
  refine Triple.bind (Q := fun _ => Unless (AtRest digest run)) (.call (fun _ _ => hsnoc rfl) fun _ _ h => hfail _ (hsnoc rfl h)) fun now => ?_
  refine Triple.bind (.only (fun _ _ _ h => h) hfail) fun _ => ?_
  refine Triple.bind (Q := fun _ log => (!(run.cursor == 0 && run.visitedGraphs.has (graphRoot digest run.graph))) = true ∧
    Unless (AtRest digest run) log) (.only (fun _ _ hcheck h => ⟨ensure_eq_ok.mp hcheck, h⟩) hfail) fun _ => ?_
  have hobserve : ∀ log, (!(run.cursor == 0 && run.visitedGraphs.has (graphRoot digest run.graph))) = true ∧ Unless (AtRest digest run) log →
      Unless (Visits digest (run.visitedGraphs.add (graphRoot digest run.graph)) run.cursor)
        (log ++ [.observe run.graph[run.cursor] run.cursor run.graph]) :=
    fun log h => h.2.snoc fun hlog => hlog.1.observe hlog.2 h.1
  refine Triple.bind (Q := fun _ => Unless (Visits digest (run.visitedGraphs.add (graphRoot digest run.graph)) run.cursor))
    (.call (fun _ => hobserve) fun _ log h => Visits.unless_once (hobserve log h)) fun observation => ?_
  refine Triple.bind (.only (fun _ _ _ h => h) fun _ => Visits.unless_once) fun _ => ?_
  refine Triple.bind (unsuitable_keeps (fun _ h => h.snoc fun hvisits => hvisits.snoc rfl) fun _ => Visits.unless_once) fun recompose => ?_
  split
  · exact recomposition_once { run with visitedGraphs := run.visitedGraphs.add (graphRoot digest run.graph), iteration := _ } hcursor
  · exact invocation_once { run with visitedGraphs := run.visitedGraphs.add (graphRoot digest run.graph), iteration := _ }

end

/-- An execution processes no configuration twice, unless behind the first cursor a recomposition brings
back a skill that was processed under the same cursor. -/
theorem cycles_rejected {σ : Type} (digest : Synaptic.Digest) (engine : Engine) (ctx : RunContext) (readings : ℕ → Readings)
    (options : RuntimeOptions) (env : Environment σ) (input : ExecuteInput) (records : List EdgeRecord) (s : σ)
    (h : NoReturn (logOf digest engine ctx readings options env input records s)) :
    (processed (logOf digest engine ctx readings options env input records s)).Nodup := by
  have hexecute : Triple (fun log => log = []) (executeLogged digest engine ctx readings options env input records)
      (fun _ => Unless Once) (Unless Once) := by
    refine Triple.bind (Q := fun _ log => log = [.now]) (.call ?_ ?_) fun started => ?_
    · exact fun _ log hlog => by rw [hlog]; rfl
    · rintro _ _ rfl -
      exact List.nodup_nil
    refine Triple.bind (Q := fun run => Unless (AtRest digest run)) ?_ fun run => ?_
    · refine (turns_triple turn_once _).weaken ?_ fun _ _ h => h
      rintro _ rfl -
      exact ⟨⟨List.nodup_nil, by simp [processed, Event.configuration?], by simp [processed, Event.configuration?]⟩,
        by simp [Unseen, processed, Event.configuration?]⟩
    · refine Triple.bind (Q := fun _ => Unless Once) (.call ?_ ?_) fun _ => .pure fun _ h => h
      · exact fun _ log h => h.snoc fun hlog => (hlog.1.snoc rfl).once
      · exact fun _ log h => h.snoc fun hlog => (hlog.1.snoc rfl).once
  exact hexecute.always rfl h

namespace Sample

/-- The loop for at most `n` iterations. -/
def turnsFor {σ : Type} (digest : Synaptic.Digest) (engine : Engine) (ctx : RunContext) (readings : ℕ → Readings)
    (options : RuntimeOptions) (env : Environment σ) (input : ExecuteInput) (started : Option JsNumber) :
    ℕ → RuntimeRun → Run σ RuntimeRun
  | 0, run => pure run
  | n + 1, run =>
    if hcursor : run.cursor < run.graph.length then
      turn digest engine ctx readings options env input started run run.graph[run.cursor] >>=
        turnsFor digest engine ctx readings options env input started n
    else pure run

theorem turns_eq_turnsFor {σ : Type} {digest : Synaptic.Digest} {engine : Engine} {ctx : RunContext} {readings : ℕ → Readings}
    {options : RuntimeOptions} {env : Environment σ} {input : ExecuteInput} {started : Option JsNumber} {n : ℕ} {run : RuntimeRun}
    (h : run.left options ≤ n) : turns digest engine ctx readings options env input started run =
      turnsFor digest engine ctx readings options env input started n run := by
  induction n generalizing run with
  | zero =>
    have hcursor : ¬ run.cursor < run.graph.length := by
      unfold RuntimeRun.left at h
      omega
    funext s
    rw [turns, dif_neg hcursor]
    rfl
  | succ n ih =>
    rw [turnsFor]
    split
    · rename_i hcursor
      rw [turns_next hcursor]
      funext s
      rw [bind_apply, bind_apply]
      cases hresult : turn digest engine ctx readings options env input started run run.graph[run.cursor] s with
      | mk result rest =>
        cases result with
        | error e => rfl
        | ok next =>
          have hless := turn_left hresult hcursor
          exact congrFun (ih (by omega)) rest
    · rename_i hcursor
      funext s
      rw [turns, dif_neg hcursor]
      rfl

/-- Callbacks that recompose behind the first cursor, to the skill that `recompose` names. -/
def fickle (recompose : JsString → JsString) : Environment Unit where
  now := fun _ => (.ok (some (.int 0)), ())
  observe := fun _ cursor _ _ => (.ok (.record [("changed", .bool (0 < cursor))]), ())
  isSuitable := fun _ _ _ => (.ok false, ())
  recompose := fun selected _ _ _ _ => (.ok (recompose selected), ())
  authorize := fun _ _ _ => (.ok (), ())
  skills := fun selected => (counting selected).map fun skill v observation _ => (.ok (skill v (some observation)), ())
  verify := fun _ _ => (.ok true, ())

def twoSkills : ExecuteInput where
  capabilityId := some (.text "capability-1")
  initialGraph := [js "a", js "b"]
  state := ⟨.int 0, rfl⟩
  deadlineMs := some (.int 1000)
  fencingToken := none

def logOfFickle (recompose : JsString → JsString) : List Event :=
  logOf Synaptic.Synaptizer.sampleDigest secondEngine taskContext still ⟨2, 64⟩ (fickle recompose) twoSkills [] ()

theorem turns_fickle (recompose : JsString → JsString) (started : Option JsNumber) :
    turns Synaptic.Synaptizer.sampleDigest secondEngine taskContext still ⟨2, 64⟩ (fickle recompose) twoSkills started
        ⟨twoSkills.initialGraph, JsSet.empty, [], [], 0, 0, 0, twoSkills.state, []⟩ =
      turnsFor Synaptic.Synaptizer.sampleDigest secondEngine taskContext still ⟨2, 64⟩ (fickle recompose) twoSkills started 4
        ⟨twoSkills.initialGraph, JsSet.empty, [], [], 0, 0, 0, twoSkills.state, []⟩ :=
  turns_eq_turnsFor (by decide)

/-- Skills that are all new. -/
def primed (selected : JsString) : JsString := selected ++ js "'"

theorem primed_once : NoReturn (logOfFickle primed) ∧ (processed (logOfFickle primed)).length = 4 ∧
    (processed (logOfFickle primed)).Nodup := by
  have hreturn : NoReturn (logOfFickle primed) ∧ (processed (logOfFickle primed)).length = 4 := by
    simp only [logOfFickle, logOf, executeLogged, turns_fickle]
    decide +kernel
  exact ⟨hreturn.1, hreturn.2, cycles_rejected Synaptic.Synaptizer.sampleDigest secondEngine taskContext still ⟨2, 64⟩
    (fickle primed) twoSkills [] () hreturn.1⟩

/-- Two skills that replace each other. -/
def alternating (selected : JsString) : JsString := if selected = js "b" then js "c" else js "b"

/-- Under the second cursor, the first of them is processed again. -/
theorem alternating_twice : ¬ (processed (logOfFickle alternating)).Nodup := by
  simp only [logOfFickle, logOf, executeLogged, turns_fickle]
  decide +kernel

end Sample

end ProcessIntelligence
