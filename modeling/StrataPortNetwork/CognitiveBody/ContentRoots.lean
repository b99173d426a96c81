import StrataPortNetwork.CognitiveBody.Commitments
import StrataPortNetwork.Js.Ties
import StrataPortNetwork.Transition

/-! # Roots and the order of calls

Graphs with the same cognitons and the same active ids have one snapshot, and so have fabrics with
the same ports, unless the collation ties two of their names: tied names are listed in the order in
which they were first added.
-/
namespace CognitiveBody
open Js
open CognitiveState (Value)

/-! ## Copies of equal values -/

theorem freezeClone_reordered {v w : Json} (h : Json.Reordered v w) (hv : v.Keyed) : freezeClone v = freezeClone w := by
  induction h with
  | refl v => rfl
  | perm h =>
    cases hv with
    | obj hnodup _ =>
      rw [freezeClone, freezeClone, freezeCloneFields_eq_map, freezeCloneFields_eq_map, sortOn_congr Prod.fst _ (h.map _)]
      rw [List.map_map]
      exact hnodup
  | item before after _ ih =>
    cases hv with
    | arr hitems =>
      have heq := ih (hitems _ (List.mem_append_right _ List.mem_cons_self))
      simp only [freezeClone, freezeCloneItems_eq_map, List.map_append, List.map_cons, heq]
  | field before key after _ ih =>
    cases hv with
    | obj _ hfields =>
      have heq := ih (hfields _ (List.mem_append_right _ List.mem_cons_self))
      simp only [freezeClone, freezeCloneFields_eq_map, List.map_append, List.map_cons, heq]
  | trans h _ ih ih' => exact (ih hv).trans (ih' (h.sorted_eq hv).1)

theorem freezeClone_congr {v w : Json} (hv : v.Keyed) (h : v.sorted = w.sorted) : freezeClone v = freezeClone w :=
  freezeClone_reordered (Json.reordered_of_sorted_eq h) hv

theorem lookup_filter_map {fields : Fields} {key : JsString} (hkey : key ≠ js "__proto__") :
    ((fields.filter fun f => f.1 ≠ js "__proto__").map fun f => (f.1, freezeClone f.2)).lookup key =
      (fields.lookup key).map freezeClone := by
  induction fields with
  | nil => rfl
  | cons f rest ih =>
    by_cases hf : f.1 = js "__proto__"
    · have hne : key ≠ f.1 := fun heq => hkey (heq.trans hf)
      rw [List.filter_cons_of_neg (by simpa using hf), Json.lookup_cons, if_neg hne, ih]
    · rw [List.filter_cons_of_pos (by simpa using hf), List.map_cons, Json.lookup_cons, Json.lookup_cons, ih]
      split <;> rfl

/-- A property of a copy is the copy of the property. -/
theorem get_freezeClone {v : Json} (hv : v.Keyed) {name : String} (hname : name ≠ "__proto__") :
    (freezeClone v).get name = (v.get name).map freezeClone := by
  cases hv with
  | @obj fields hnodup _ =>
    have hkeys : ((freezeClone (.obj fields)).fields.map Prod.fst).Nodup := by
      rw [freezeClone, Json.fields]
      exact (Json.ownOrdered_fromEntries _).nodup
    rw [Json.get, Json.lookup_of_perm hkeys (perm_fields_freezeClone hnodup),
      lookup_filter_map fun heq => hname (js_injective heq)]
    rfl
  | null | bool _ | num _ | str _ => rfl
  | arr _ =>
    rw [freezeClone]
    rfl

section
variable {digest : Synaptic.Digest} {label : String} {state state' : List (String × Json)}

/-- States that are equal up to the order of keys inside give one object. -/
theorem freezeWithRoot_congr (hlabel : label ≠ "") (hstate : Named state) (hstate' : Named state')
    (h : (state.map fun f => (f.1, f.2.sorted)) = state'.map fun f => (f.1, f.2.sorted)) :
    freezeWithRoot digest label state = freezeWithRoot digest label state' := by
  have hsorted : ∀ {l l' : List (String × Json)}, ((l.map fun f => (f.1, f.2.sorted)) = l'.map fun f => (f.1, f.2.sorted)) →
      (Json.record l).sorted = (Json.record l').sorted := by
    intro l l' hl
    have hfields : ∀ l : List (String × Json), Json.sortedFields (l.map fun f => (js f.1, f.2)) =
        (l.map fun f => (f.1, f.2.sorted)).map fun f => (js f.1, f.2) := by
      intro l
      rw [Json.sortedFields_eq_map, List.map_map, List.map_map]
      rfl
    rw [Json.record, Json.record, Json.sorted, Json.sorted, hfields, hfields, hl]
  have hkeyed := keyed_record hstate.nodup hstate.keyed
  have htext : canonicalize (.record state) = canonicalize (.record state') :=
    (canonicalEncoder.eq_iff_reordered canonicalEncoder hkeyed (keyed_record hstate'.nodup hstate'.keyed)).mpr
      (Json.reordered_of_sorted_eq (hsorted h))
  have hroot : hashed label (.record state) = hashed label (.record state') := by
    rw [hashed, hashed, htext]
  rw [freezeWithRoot_eq hlabel, freezeWithRoot_eq hlabel, hroot, freezeClone_congr]
  · refine keyed_record ?_ ?_
    · rw [List.map_append]
      refine List.Nodup.append hstate.nodup (List.nodup_singleton _) fun name hname hlast => ?_
      exact (hstate.names name hname).1 (List.mem_singleton.mp hlast)
    · intro f hf
      rcases List.mem_append.mp hf with hf | hf
      · exact hstate.keyed f hf
      · rw [List.mem_singleton.mp hf]
        exact .str _
  · exact hsorted (by rw [List.map_append, List.map_append, h])

/-- One object shows one copy of every property. -/
theorem lookup_of_freezeWithRoot (hlabel : label ≠ "") (hstate : Named state) (hstate' : Named state')
    (h : freezeWithRoot digest label state = freezeWithRoot digest label state') {name : String}
    (hname : name ∈ state.map Prod.fst) (hname' : name ∈ state'.map Prod.fst) :
    (state.lookup name).map freezeClone = (state'.lookup name).map freezeClone := by
  have hget : ∀ {l : List (String × Json)} {root : Json}, Named l → root.Keyed → name ∈ l.map Prod.fst →
      (freezeClone (.record (l ++ [("state_root", root)]))).get name = (l.lookup name).map freezeClone := by
    intro l root hl hroot hmem
    have hkeyed : (Json.record (l ++ [("state_root", root)])).Keyed := by
      refine keyed_record ?_ ?_
      · rw [List.map_append]
        refine List.Nodup.append hl.nodup (List.nodup_singleton _) fun n hn hlast => ?_
        exact (hl.names n hn).1 (List.mem_singleton.mp hlast)
      · intro f hf
        rcases List.mem_append.mp hf with hf | hf
        · exact hl.keyed f hf
        · rw [List.mem_singleton.mp hf]
          exact hroot
    have hlast : [("state_root", root)].lookup name = none := by
      rw [List.lookup_cons, beq_eq_false_iff_ne.mpr (hl.names name hmem).1]
      rfl
    rw [get_freezeClone hkeyed (hl.names name hmem).2, Json.get_record, List.lookup_append, hlast, Option.or_none]
  rw [freezeWithRoot_eq hlabel, freezeWithRoot_eq hlabel, Except.ok.injEq] at h
  rw [← hget hstate (.str _) hname, ← hget hstate' (.str _) hname', h]

end

/-! ## Names in the order of their addition -/

section
variable {κ β : Type} [BEq κ] [LawfulBEq κ] {key : β → κ}

/-- The names of a registry, in the order in which they were first put. -/
def ids (r : Registry κ β key) : JsSet κ := ⟨r.values.map key, by
  have hkeys : r.values.map key = r.map.entries.map Prod.fst := by
    rw [Registry.values, JsMap.values, List.map_map]
    exact List.map_congr_left fun e he => eq_of_beq (Registry.key_of_get (r := r) (JsMap.get_of_mem he (BEq.refl _)))
  rw [hkeys]
  exact r.map.nodup_keys⟩

theorem mem_ids {r : Registry κ β key} {k : κ} : k ∈ (ids r).items ↔ r.has k = true := by
  constructor
  · intro hk
    obtain ⟨v, hv, rfl⟩ := List.mem_map.mp hk
    exact JsMap.has_iff.mpr ⟨v, Registry.mem_values_iff.mp hv⟩
  · intro hk
    obtain ⟨v, hv⟩ := JsMap.has_iff.mp hk
    rw [← eq_of_beq (Registry.key_of_get hv)]
    exact List.mem_map_of_mem (JsMap.mem_values_of_get hv)

theorem jsSet_eq_of_items {α : Type} {s t : JsSet α} (h : s.items = t.items) : s = t := by
  cases s
  cases t
  cases h
  rfl

/-- A value put under a new name comes last, one under a known name stays in place. -/
theorem ids_put [DecidableEq κ] (r : Registry κ β key) (v : β) : ids (r.put v) = (ids r).add (key v) := by
  refine jsSet_eq_of_items ?_
  by_cases hhas : r.has (key v) = true
  · have hmem : key v ∈ (ids r).items := mem_ids.mpr hhas
    rw [JsSet.add, dif_pos hmem]
    have hset : (r.put v).map.entries = r.map.entries.map fun e => if e.1 == key v then (e.1, v) else e := by
      have hmap : r.map.has (key v) = true := hhas
      change (r.map.set (key v) v).entries = _
      rw [JsMap.set, dif_pos hmap]
    change (r.put v).values.map key = r.values.map key
    rw [Registry.values, Registry.values, JsMap.values, JsMap.values, hset, List.map_map, List.map_map, List.map_map]
    refine List.map_congr_left fun e he => ?_
    have hkey : key e.2 = e.1 := eq_of_beq (Registry.key_of_get (r := r) (JsMap.get_of_mem he (BEq.refl _)))
    simp only [Function.comp_apply]
    split
    · rename_i heq
      rw [hkey, eq_of_beq heq]
    · rfl
  · have hnew : key v ∉ (ids r).items := fun hmem => hhas (mem_ids.mp hmem)
    have hnone : r.map.get (key v) = none := JsMap.get_eq_none_iff.mpr ((Bool.not_eq_true _).mp hhas)
    rw [JsSet.add, dif_neg hnew]
    change (r.put v).values.map key = r.values.map key ++ [key v]
    rw [Registry.put, Registry.values, JsMap.values, JsMap.entries_set_of_get_eq_none hnone, List.map_append, List.map_append]
    rfl

end

/-- When every call adds at most one name, a run adds the names of its calls. -/
theorem run_adds {σ ι κ : Type} [DecidableEq κ] {step : σ → ι → σ} (names : σ → JsSet κ) {added : ι → Option κ}
    (hstep : ∀ s i, names (step s i) = (added i).toList.foldl JsSet.add (names s)) (s : σ) (calls : List ι) :
    names (Transition.run step s calls) = (calls.filterMap added).foldl JsSet.add (names s) := by
  induction calls generalizing s with
  | nil => rfl
  | cons call rest ih =>
    rw [Transition.run_cons, ih, hstep, List.filterMap_cons]
    cases added call <;> rfl

/-- Values in the order of their names are found by their names. -/
theorem map_sortOn_ids {β γ : Type} {key : β → JsString} (collation : Collation) (r : Registry JsString β key) (show' : β → γ) :
    (collation.sortOn key r.values).map (fun v => some (show' v)) = (collation.sortOn id (ids r).items).map fun k => (r.get k).map show' := by
  have hids : collation.sortOn id (ids r).items = (collation.sortOn key r.values).map key := Collation.sortOn_map collation id key r.values
  rw [hids, List.map_map]
  refine List.map_congr_left fun v hv => ?_
  have hmem : v ∈ r.values := (Collation.perm_sortOn key r.values).mem_iff.mp hv
  rw [Function.comp_apply, Registry.mem_values_iff.mp hmem, Option.map_some]

theorem map_eq_of_ids {β γ : Type} {key : β → JsString} {collation : Collation} {r r' : Registry JsString β key} {show' : β → γ}
    (hcontent : ∀ k, (r.get k).map show' = (r'.get k).map show')
    (h : collation.sortOn id (ids r).items = collation.sortOn id (ids r').items) :
    (collation.sortOn key r.values).map show' = (collation.sortOn key r'.values).map show' := by
  have hsome : ((collation.sortOn key r.values).map show').map some = ((collation.sortOn key r'.values).map show').map some := by
    rw [List.map_map, List.map_map]
    refine (map_sortOn_ids collation r show').trans (Eq.trans ?_ (map_sortOn_ids collation r' show').symm)
    rw [h]
    exact List.map_congr_left fun k _ => hcontent k
  exact List.map_injective_iff.mpr (Option.some_injective γ) hsome

theorem perm_ids {β γ : Type} {key : β → JsString} {r r' : Registry JsString β key} {show' : β → γ}
    (hcontent : ∀ k, (r.get k).map show' = (r'.get k).map show') : (ids r).items.Perm (ids r').items := by
  refine JsSet.perm_of_mem_iff fun k => ?_
  have hhas : ∀ r : Registry JsString β key, r.has k = true ↔ ((r.get k).map show').isSome = true := by
    intro r
    rw [Option.isSome_map, Option.isSome_iff_exists]
    exact JsMap.has_iff
  rw [mem_ids, mem_ids, hhas, hhas, hcontent]

/-! ## Graphs -/

/-- A call on a graph. -/
inductive GraphCall
  | add (cogniton : Value)
  | activate (id : JsString)
  | deactivate (id : JsString)

section
variable (digest : Synaptic.Digest) (collation : Collation)

/-- The graph after a call; one that throws leaves it as it was. -/
def GraphCall.perform (graph : CognitiveGraph) : GraphCall → CognitiveGraph
  | .add cogniton => (graph.add cogniton).toOption.getD graph
  | .activate id => ((graph.activate digest collation id).toOption.map Prod.fst).getD graph
  | .deactivate id => ((graph.deactivate digest collation id).toOption.map Prod.fst).getD graph

/-- The id under which a call adds a cogniton. -/
def GraphCall.added? : GraphCall → Option JsString
  | .add cogniton => if (CognitiveGraph.empty.add cogniton).isOk then some (cognitonId cogniton) else none
  | _ => none

def graphAfter (calls : List GraphCall) : CognitiveGraph := Transition.run (GraphCall.perform digest collation) .empty calls

/-- The ids that were added, in the order of their first addition. -/
def addedIds (calls : List GraphCall) : List JsString := (JsSet.ofList (calls.filterMap GraphCall.added?)).items

/-- The same cognitons, up to the order of their keys, and the same active ids. -/
structure SameContent (graph graph' : CognitiveGraph) : Prop where
  cognitons : ∀ id, (graph.cognitons.get id).map (·.json.sorted) = (graph'.cognitons.get id).map (·.json.sorted)
  active : ∀ id, id ∈ graph.active.items ↔ id ∈ graph'.active.items

variable {digest collation}

theorem add_eq (graph : CognitiveGraph) (cogniton : Value) : graph.add cogniton =
    (CognitiveGraph.empty.add cogniton).map fun _ => { graph with cognitons := graph.cognitons.put cogniton } := by
  unfold CognitiveGraph.add
  cases ensure (cogniton.json.get "contract" == some (.text COGNITON_CONTRACT_VERSION)) CognitiveGraph.invalidCogniton with
  | error e => rfl
  | ok _ =>
    cases orThrow ((cogniton.json.get "cogniton_id").bind Json.str?) CognitiveGraph.invalidCogniton with
    | error e => rfl
    | ok _ => rfl

/-- A snapshot is always made. -/
theorem snapshot_eq (digest : Synaptic.Digest) (collation : Collation) (graph : CognitiveGraph) : ∃ snapshot, graph.snapshot digest collation = .ok snapshot :=
  ⟨_, freezeWithRoot_eq (by decide)⟩

theorem ids_perform (graph : CognitiveGraph) (call : GraphCall) : ids (call.perform digest collation graph).cognitons =
    (call.added?.toList).foldl JsSet.add (ids graph.cognitons) := by
  cases call with
  | add cogniton =>
    rw [GraphCall.perform, GraphCall.added?, add_eq]
    cases CognitiveGraph.empty.add cogniton with
    | error e => rfl
    | ok added => exact ids_put graph.cognitons cogniton
  | activate id =>
    obtain ⟨snapshot, hsnapshot⟩ := snapshot_eq digest collation { graph with active := graph.active.add id }
    simp only [GraphCall.perform, CognitiveGraph.activate, hsnapshot]
    cases ensure (graph.cognitons.has id) (Failure.rejected ⟨"unknown_cogniton", js "Cannot activate unknown Cogniton: " ++ id⟩) <;> rfl
  | deactivate id =>
    obtain ⟨snapshot, hsnapshot⟩ := snapshot_eq digest collation
      { graph with active := ⟨graph.active.items.filter (· ≠ id), graph.active.nodup.filter _⟩ }
    simp only [GraphCall.perform, CognitiveGraph.deactivate, hsnapshot]
    rfl

theorem ids_graphAfter (calls : List GraphCall) : (ids (graphAfter digest collation calls).cognitons).items = addedIds calls :=
  congrArg JsSet.items (run_adds (fun graph : CognitiveGraph => ids graph.cognitons) ids_perform CognitiveGraph.empty calls)

/-- The text under a name. -/
def textUnder (name : String) (v : Json) : JsString := ((v.get name).bind Json.str?).getD []

/-- The id that a copy shows is that of the cogniton. -/
theorem cognitonId_freezeClone (cogniton : Value) : textUnder "cogniton_id" (freezeClone cogniton.json) = cognitonId cogniton := by
  have hstr : ∀ v : Json, (freezeClone v).str? = v.str? := by
    intro v
    cases v <;> rfl
  rw [textUnder, get_freezeClone (keyed_value cogniton) (by decide), cognitonId, Option.bind_map]
  refine congrArg (fun id : Option JsString => id.getD []) ?_
  exact congrArg _ (funext hstr)

/-- Graphs with the same content have one snapshot exactly when they agree on the ties of their ids. -/
theorem snapshot_eq_iff {graph graph' : CognitiveGraph} (h : SameContent graph graph') :
    graph.snapshot digest collation = graph'.snapshot digest collation ↔
      collation.SameTies (ids graph.cognitons).items (ids graph'.cognitons).items := by
  have hperm : (ids graph.cognitons).items.Perm (ids graph'.cognitons).items := perm_ids h.cognitons
  have hactive : Json.sortKeys graph.active.items = Json.sortKeys graph'.active.items := by
    refine List.Perm.eq_of_pairwise (fun _ _ _ _ => Json.leUnits_antisymm) (Json.pairwise_sortKeys _) (Json.pairwise_sortKeys _) ?_
    exact (List.perm_insertionSort _ _).trans ((JsSet.perm_of_mem_iff h.active).trans (List.perm_insertionSort _ _).symm)
  have hids : ∀ graph : CognitiveGraph, collation.sortOn id (ids graph.cognitons).items =
      (((graph.cognitonsInOrder collation).map Value.json).map freezeClone).map (textUnder "cogniton_id") := by
    intro graph
    rw [List.map_map, List.map_map]
    refine (Collation.sortOn_map collation id cognitonId graph.cognitons.values).trans ?_
    refine List.map_congr_left fun cogniton _ => ?_
    rw [Function.comp_apply, Function.comp_apply, cognitonId_freezeClone]
  rw [← Collation.sortOn_eq_iff (ids graph.cognitons).nodup hperm]
  constructor
  · intro heq
    have hcopies : (some (.arr ((graph.cognitonsInOrder collation).map Value.json))).map freezeClone =
        (some (.arr ((graph'.cognitonsInOrder collation).map Value.json))).map freezeClone :=
      lookup_of_freezeWithRoot (by decide) (graph.state_spec collation).1 (graph'.state_spec collation).1 heq
        (List.mem_cons_of_mem "contract" List.mem_cons_self) (List.mem_cons_of_mem "contract" List.mem_cons_self)
    rw [Option.map_some, Option.map_some, Option.some.injEq, freezeClone, freezeClone, Json.arr.injEq,
      freezeCloneItems_eq_map, freezeCloneItems_eq_map] at hcopies
    rw [hids, hids, hcopies]
  · intro heq
    refine freezeWithRoot_congr (by decide) (graph.state_spec collation).1 (graph'.state_spec collation).1 ?_
    have hcognitons : (Json.arr ((graph.cognitonsInOrder collation).map Value.json)).sorted =
        (Json.arr ((graph'.cognitonsInOrder collation).map Value.json)).sorted := by
      rw [Json.sorted, Json.sorted, Json.sortedItems_eq_map, Json.sortedItems_eq_map, List.map_map, List.map_map]
      exact congrArg Json.arr (map_eq_of_ids h.cognitons heq)
    simp only [CognitiveGraph.state, List.map_cons, hcognitons, hactive]

/-! ## Fabrics -/

/-- A call of `registerPort`, with the handler that can be called or not. -/
structure Registration where
  descriptor : Json
  callable : Bool

/-- The fabric after a call; one that throws leaves it as it was. -/
def Registration.perform (fabric : CognitivePortFabric) (r : Registration) : CognitivePortFabric :=
  ((CognitivePortFabric.registerPort fabric r.descriptor r.callable).toOption.map Prod.fst).getD fabric

/-- The port that a call registers in an empty fabric. -/
def Registration.port? (r : Registration) : Option CognitivePort := do
  guard (r.callable = true)
  (validatePortDescriptor r.descriptor >>= portOf r.descriptor).toOption

def fabricAfter (calls : List Registration) : CognitivePortFabric := Transition.run Registration.perform Registry.empty calls

/-- The names under which ports were registered, in that order. -/
def registeredIds (calls : List Registration) : List JsString :=
  (JsSet.ofList (calls.filterMap fun r => r.port?.map CognitivePort.portId)).items

theorem perform_eq (fabric : CognitivePortFabric) (r : Registration) :
    r.perform fabric = match r.port? with
      | some port => if fabric.has port.portId then fabric else fabric.put port
      | none => fabric := by
  unfold Registration.perform Registration.port?
  cases hfound : validatePortDescriptor r.descriptor with
  | error e =>
    rw [CognitivePortFabric.registerPort, hfound]
    cases r.callable <;> rfl
  | ok found =>
    have hregister : CognitivePortFabric.registerPort fabric r.descriptor r.callable =
        (ensure (!fabric.has found.1) (.rejected ⟨"duplicate_port", js "Port already registered: " ++ found.1⟩)).bind fun _ =>
          (ensure r.callable (rejected "invalid_port_handler" "Cognitive Port handler must be callable")).bind fun _ =>
            (portOf r.descriptor found).bind fun port => .ok (fabric.put port, freezeClone port.toJson) := by
      rw [CognitivePortFabric.registerPort, hfound]
      rfl
    have hport : (Except.ok found >>= portOf r.descriptor) = portOf r.descriptor found := rfl
    rw [hregister, hport]
    cases hmade : portOf r.descriptor found with
    | error e => cases fabric.has found.1 <;> cases r.callable <;> rfl
    | ok port =>
      have hname : port.portId = found.1 := by
        simp only [portOf, bind_eq_ok, pure_eq_ok] at hmade
        obtain ⟨_, -, _, -, rfl⟩ := hmade
        rfl
      cases r.callable with
      | false => cases fabric.has found.1 <;> rfl
      | true =>
        change _ = if fabric.has port.portId then fabric else fabric.put port
        rw [hname]
        cases fabric.has found.1 <;> rfl

theorem ids_registration (fabric : CognitivePortFabric) (r : Registration) :
    ids (r.perform fabric) = ((r.port?.map CognitivePort.portId).toList).foldl JsSet.add (ids fabric) := by
  rw [perform_eq]
  cases r.port? with
  | none => rfl
  | some port =>
    change ids (if fabric.has port.portId then fabric else fabric.put port) = (ids fabric).add port.portId
    split
    · rename_i hhas
      rw [JsSet.add, dif_pos (mem_ids.mpr hhas)]
    · exact ids_put fabric port

theorem ids_fabricAfter (calls : List Registration) : (ids (fabricAfter calls)).items = registeredIds calls :=
  congrArg JsSet.items (run_adds ids ids_registration Registry.empty calls)

/-- The name that a copy of a copy shows is that of the port. -/
theorem portId_freezeClone (port : CognitivePort) : textUnder "port_id" (freezeClone (freezeClone port.toJson)) = port.portId := by
  obtain ⟨hkeyed, hproto⟩ := port.keyed_toJson
  rw [textUnder, get_freezeClone (keyed_freezeClone hkeyed hproto) (by decide), get_freezeClone hkeyed (by decide), CognitivePort.toJson,
    Json.get_record]
  rfl

theorem fabric_snapshot_eq_iff {fabric fabric' : CognitivePortFabric} (h : ∀ id, fabric.get id = fabric'.get id) :
    CognitivePortFabric.snapshot digest collation fabric = CognitivePortFabric.snapshot digest collation fabric' ↔
      collation.SameTies (ids fabric).items (ids fabric').items := by
  have hcontent : ∀ id, (fabric.get id).map (fun port => (freezeClone port.toJson).sorted) =
      (fabric'.get id).map fun port => (freezeClone port.toJson).sorted := fun id => by rw [h]
  have hids : ∀ fabric : CognitivePortFabric, collation.sortOn id (ids fabric).items =
      (((CognitivePortFabric.describePorts collation fabric).map fun port => freezeClone port.toJson).map freezeClone).map
        (textUnder "port_id") := by
    intro fabric
    rw [List.map_map, List.map_map]
    refine (Collation.sortOn_map collation id CognitivePort.portId fabric.values).trans ?_
    refine List.map_congr_left fun port _ => ?_
    rw [Function.comp_apply, Function.comp_apply, portId_freezeClone]
  obtain ⟨hnamed, -⟩ := CognitivePortFabric.state_spec collation fabric
  obtain ⟨hnamed', -⟩ := CognitivePortFabric.state_spec collation fabric'
  rw [← Collation.sortOn_eq_iff (ids fabric).nodup (perm_ids hcontent)]
  constructor
  · intro heq
    have hcopies : (some (.arr ((CognitivePortFabric.describePorts collation fabric).map fun port => freezeClone port.toJson))).map
        freezeClone = (some (.arr ((CognitivePortFabric.describePorts collation fabric').map fun port => freezeClone port.toJson))).map
        freezeClone :=
      lookup_of_freezeWithRoot (by decide) hnamed hnamed' heq (List.mem_cons_of_mem "contract" List.mem_cons_self)
        (List.mem_cons_of_mem "contract" List.mem_cons_self)
    rw [Option.map_some, Option.map_some, Option.some.injEq, freezeClone, freezeClone, Json.arr.injEq,
      freezeCloneItems_eq_map, freezeCloneItems_eq_map] at hcopies
    rw [hids, hids, hcopies]
  · intro heq
    refine freezeWithRoot_congr (by decide) hnamed hnamed' ?_
    have hports : (Json.arr ((CognitivePortFabric.describePorts collation fabric).map fun port => freezeClone port.toJson)).sorted =
        (Json.arr ((CognitivePortFabric.describePorts collation fabric').map fun port => freezeClone port.toJson)).sorted := by
      rw [Json.sorted, Json.sorted, Json.sortedItems_eq_map, Json.sortedItems_eq_map, List.map_map, List.map_map]
      exact congrArg Json.arr (map_eq_of_ids hcontent heq)
    simp only [CognitivePortFabric.state, List.map_cons, hports]

end

namespace Sample

/-- A cogniton of which only the id matters. -/
def named (id : JsString) : Value where
  json := .record [("contract", .text COGNITON_CONTRACT_VERSION), ("cogniton_id", .str id)]
  rebuilt := by rfl

/-- The letter é as one code unit, and as the letter e with an accent. -/
def composed : JsString := [0xE9]

def accented : JsString := [0x65, 0x301]

def decomposed (s : JsString) : JsString := s.flatMap fun u => if u = 0xE9 then accented else [u]

/-- A collation under which the two are equal. -/
def canonicalOrder : Collation := ⟨fun a b => Json.leUnits (decomposed a) (decomposed b), fun _ _ => Json.leUnits_total _ _,
  fun _ _ _ => Json.leUnits_trans⟩

def bothWays (id id' : JsString) : List GraphCall := [.add (named id), .add (named id')]

theorem sameContent_bothWays {id id' : JsString} (collation : Collation) (hne : id ≠ id') :
    SameContent (graphAfter zeros collation (bothWays id id')) (graphAfter zeros collation (bothWays id' id)) := by
  have hafter : ∀ id id' : JsString, graphAfter zeros collation (bothWays id id') =
      ⟨(Registry.empty.put (named id)).put (named id'), JsSet.empty⟩ := fun _ _ => rfl
  rw [hafter, hafter]
  refine ⟨fun k => ?_, fun _ => Iff.rfl⟩
  have hkey : ∀ id, cognitonId (named id) = id := fun _ => rfl
  simp only [Registry.get_put, hkey]
  by_cases h : id = k
  · subst h
    simp [hne.symm]
  · by_cases h' : id' = k <;> simp [h, h']

end Sample

end CognitiveBody
