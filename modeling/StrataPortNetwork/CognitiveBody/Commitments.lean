import StrataPortNetwork.CognitiveBody.Graph

/-! # What a root commits to

The root of a returned object is the root of what is returned exactly when nothing committed to
has a property named `__proto__`, at any depth: the copy loses such a property, the root has it.
-/
namespace CognitiveBody
open Js
open CognitiveState (Value coalesce)

/-! ## Keys that copies keep -/

/-- No object in the value has a property named `__proto__`. -/
inductive NoProto : Json → Prop
  | null : NoProto .null
  | bool (b : Bool) : NoProto (.bool b)
  | num (x : JsNumber) : NoProto (.num x)
  | str (s : JsString) : NoProto (.str s)
  | arr {items : List Json} (h : ∀ v ∈ items, NoProto v) : NoProto (.arr items)
  | obj {fields : Fields} (hkeys : ∀ f ∈ fields, f.1 ≠ js "__proto__") (h : ∀ f ∈ fields, NoProto f.2) : NoProto (.obj fields)

theorem freezeCloneItems_eq_map (items : List Json) : freezeCloneItems items = items.map freezeClone := by
  induction items with
  | nil => rfl
  | cons v rest ih => rw [freezeCloneItems, ih, List.map_cons]

theorem freezeCloneFields_eq_map (fields : Fields) : freezeCloneFields fields = fields.map fun f => (f.1, freezeClone f.2) := by
  induction fields with
  | nil => rfl
  | cons f rest ih => rw [freezeCloneFields, ih, List.map_cons]

theorem noProto_freezeClone (v : Json) : NoProto (freezeClone v) := by
  induction v using Json.inductionOn with
  | null => exact .null
  | bool b => exact .bool b
  | num x => exact .num x
  | str s => exact .str s
  | arr items ih =>
    rw [freezeClone, freezeCloneItems_eq_map]
    exact .arr (List.forall_mem_map.mpr ih)
  | obj fields ih =>
    have hmem : ∀ f ∈ Json.fromEntries ((sortOn Prod.fst (freezeCloneFields fields)).filter fun f => f.1 ≠ js "__proto__"),
        f.1 ≠ js "__proto__" ∧ f ∈ freezeCloneFields fields := by
      intro f hf
      obtain ⟨hsorted, hkey⟩ := List.mem_filter.mp (mem_of_mem_fromEntries hf)
      exact ⟨of_decide_eq_true hkey, (perm_sortOn Prod.fst _).mem_iff.mp hsorted⟩
    rw [freezeClone]
    refine .obj (fun f hf => (hmem f hf).1) fun f hf => ?_
    have hcopied := (hmem f hf).2
    rw [freezeCloneFields_eq_map] at hcopied
    obtain ⟨g, hg, rfl⟩ := List.mem_map.mp hcopied
    exact ih g hg

theorem NoProto.reordered {v w : Json} (h : Json.Reordered v w) (hv : NoProto v) : NoProto w := by
  induction h with
  | refl v => exact hv
  | perm h =>
    cases hv with
    | obj hkeys hfields => exact .obj (fun f hf => hkeys f (h.mem_iff.mpr hf)) fun f hf => hfields f (h.mem_iff.mpr hf)
  | @item v w before after _ ih =>
    cases hv with
    | arr hitems =>
      refine .arr fun u hu => ?_
      rcases List.mem_append.mp hu with hu | hu
      · exact hitems u (List.mem_append_left _ hu)
      · rcases List.mem_cons.mp hu with rfl | hu
        · exact ih (hitems v (List.mem_append_right _ List.mem_cons_self))
        · exact hitems u (List.mem_append_right _ (List.mem_cons_of_mem v hu))
  | @field v w before key after _ ih =>
    cases hv with
    | obj hkeys hfields =>
      have hentry : ∀ {P : JsString × Json → Prop}, (∀ f ∈ before ++ (key, v) :: after, P f) → (P (key, v) → P (key, w)) →
          ∀ f ∈ before ++ (key, w) :: after, P f := by
        intro P hP hkey f hf
        rcases List.mem_append.mp hf with hf | hf
        · exact hP f (List.mem_append_left _ hf)
        · rcases List.mem_cons.mp hf with rfl | hf
          · exact hkey (hP (key, v) (List.mem_append_right _ List.mem_cons_self))
          · exact hP f (List.mem_append_right _ (List.mem_cons_of_mem _ hf))
      exact .obj (hentry hkeys fun hkey => hkey) (hentry hfields ih)
  | trans _ _ ih ih' => exact ih' (ih hv)

/-- The properties of a copy, up to their order. -/
theorem perm_fields_freezeClone {fields : Fields} (hnodup : (fields.map Prod.fst).Nodup) :
    (freezeClone (.obj fields)).fields.Perm ((fields.filter fun f => f.1 ≠ js "__proto__").map fun f => (f.1, freezeClone f.2)) := by
  have hentries : ((sortOn Prod.fst (freezeCloneFields fields)).filter fun f => f.1 ≠ js "__proto__").Perm
      ((fields.filter fun f => f.1 ≠ js "__proto__").map fun f => (f.1, freezeClone f.2)) := by
    have hfilter := (perm_sortOn Prod.fst (freezeCloneFields fields)).filter fun f => f.1 ≠ js "__proto__"
    rw [freezeCloneFields_eq_map, List.filter_map] at hfilter
    rw [freezeCloneFields_eq_map]
    exact hfilter
  have hkeys : (((sortOn Prod.fst (freezeCloneFields fields)).filter fun f => f.1 ≠ js "__proto__").map Prod.fst).Nodup := by
    rw [(hentries.map Prod.fst).nodup_iff, List.map_map]
    exact (List.filter_sublist.map Prod.fst).nodup hnodup
  rw [freezeClone, Json.fields]
  have hset : (Json.fromEntries ((sortOn Prod.fst (freezeCloneFields fields)).filter fun f => f.1 ≠ js "__proto__")).Perm
      ((sortOn Prod.fst (freezeCloneFields fields)).filter fun f => f.1 ≠ js "__proto__") := Json.perm_foldl_setField hkeys
  exact hset.trans hentries

/-- A copy that keeps every key is the value up to the order of keys. -/
theorem reordered_freezeClone {v : Json} (hkeyed : v.Keyed) (h : NoProto v) : Json.Reordered v (freezeClone v) := by
  induction v using Json.inductionOn with
  | null | bool _ | num _ | str _ => exact .refl _
  | arr items ih =>
    cases h with
    | arr hitems =>
      cases hkeyed with
      | arr hkeyed =>
        rw [freezeClone, freezeCloneItems_eq_map]
        exact Json.reordered_items [] fun v hv => ih v hv (hkeyed v hv) (hitems v hv)
  | obj fields ih =>
    cases h with
    | obj hkeys hfields =>
      cases hkeyed with
      | obj hnodup hkeyed =>
        have hall : fields.filter (fun f => f.1 ≠ js "__proto__") = fields :=
          List.filter_eq_self.mpr fun f hf => decide_eq_true (hkeys f hf)
        have hperm := perm_fields_freezeClone hnodup
        rw [hall] at hperm
        refine .trans (Json.reordered_fields [] fun f hf => ih f hf (hkeyed f hf) (hfields f hf)) ?_
        exact .perm hperm.symm

/-! ## Returned objects -/

section
variable {digest : Synaptic.Digest} {label : String} {state : List (String × Json)} {returned : Json}

/-- The object carries the root that its other fields have, and these are what was committed to. -/
structure Commits (digest : Synaptic.Digest) (label : String) (state : List (String × Json)) (returned : Json) : Prop where
  recomputed : ∃ root, returned.get "state_root" = some (.str root) ∧
    cognitiveStateRoot digest label (Synaptic.erase returned "state_root") = .ok root
  same : (Json.record state).Reordered (Synaptic.erase returned "state_root")

theorem freezeWithRoot_eq (hlabel : label ≠ "") : freezeWithRoot digest label state =
    .ok (freezeClone (.record (state ++ [("state_root", .str (digest.hex (hashed label (.record state))))]))) := by
  rw [freezeWithRoot, cognitiveStateRoot, ensure, if_pos (decide_eq_true hlabel)]
  rfl

theorem noProto_record (hnames : ∀ f ∈ state, f.1 ≠ "__proto__") : NoProto (.record state) ↔ ∀ f ∈ state, NoProto f.2 := by
  constructor
  · intro h f hf
    cases h with
    | obj _ hfields => exact hfields (js f.1, f.2) (List.mem_map_of_mem hf)
  · intro h
    exact .obj (List.forall_mem_map.mpr fun f hf heq => hnames f hf (js_injective heq)) (List.forall_mem_map.mpr h)

/-- The names of a committed state. -/
structure Named (state : List (String × Json)) : Prop where
  nodup : (state.map Prod.fst).Nodup
  names : ∀ name ∈ state.map Prod.fst, name ≠ "state_root" ∧ name ≠ "__proto__"
  keyed : ∀ f ∈ state, f.2.Keyed

theorem keyed_record (hnodup : (state.map Prod.fst).Nodup) (hkeyed : ∀ f ∈ state, f.2.Keyed) : (Json.record state).Keyed := by
  refine .obj ?_ (List.forall_mem_map.mpr hkeyed)
  rw [List.map_map]
  change (state.map (js ∘ Prod.fst)).Nodup
  rw [← List.map_map]
  exact hnodup.map js_injective

/-- A returned object commits to what it shows exactly when the state keeps every key. -/
theorem commits_iff (hlabel : label ≠ "") (hstate : Named state) (h : freezeWithRoot digest label state = .ok returned) :
    Commits digest label state returned ↔ ∀ f ∈ state, NoProto f.2 := by
  rw [freezeWithRoot_eq hlabel, Except.ok.injEq] at h
  have hnames : ∀ f ∈ state, f.1 ≠ "state_root" ∧ f.1 ≠ "__proto__" := fun f hf => hstate.names f.1 (List.mem_map_of_mem hf)
  have hkeyed : (Json.record state).Keyed := keyed_record hstate.nodup hstate.keyed
  have hnodup : (((state ++ [("state_root", Json.str (digest.hex (hashed label (.record state))))]).map
      fun f => (js f.1, f.2)).map Prod.fst).Nodup := by
    rw [List.map_map]
    change ((state ++ [("state_root", Json.str (digest.hex (hashed label (.record state))))]).map (js ∘ Prod.fst)).Nodup
    rw [← List.map_map, List.map_append]
    refine (List.Nodup.append hstate.nodup (List.nodup_singleton _) ?_).map js_injective
    intro name hname hroot
    exact (hstate.names name hname).1 (List.mem_singleton.mp hroot)
  have hperm : returned.fields.Perm
      (state.map (fun f => (js f.1, freezeClone f.2)) ++ [(js "state_root", .str (digest.hex (hashed label (.record state))))]) := by
    have hcopied := perm_fields_freezeClone hnodup
    rw [← h]
    refine hcopied.trans (.of_eq ?_)
    rw [List.filter_eq_self.mpr, List.map_map, List.map_append]
    · rfl
    · refine List.forall_mem_map.mpr fun f hf => decide_eq_true fun heq => ?_
      rcases List.mem_append.mp hf with hf | hf
      · exact (hnames f hf).2 (js_injective heq)
      · rw [List.mem_singleton.mp hf] at heq
        have hname : "state_root" = "__proto__" := js_injective heq
        exact absurd hname (by decide)
  have hroot : returned.get "state_root" = some (.str (digest.hex (hashed label (.record state)))) := by
    have hkeys : (returned.fields.map Prod.fst).Nodup := by
      rw [← h, Json.record, freezeClone, Json.fields]
      exact (Json.ownOrdered_fromEntries _).nodup
    exact Json.lookup_eq_some_of_mem hkeys (hperm.mem_iff.mpr (List.mem_append_right _ List.mem_cons_self))
  have herase : ∃ rest, Synaptic.erase returned "state_root" = .obj rest ∧ rest.Perm (state.map fun f => (js f.1, freezeClone f.2)) := by
    refine ⟨_, rfl, (hperm.filter _).trans (.of_eq ?_)⟩
    rw [List.filter_append, List.filter_eq_self.mpr, List.filter_cons_of_neg (by simp), List.filter_nil, List.append_nil]
    exact List.forall_mem_map.mpr fun f hf => decide_eq_true fun heq => (hnames f hf).1 (js_injective heq)
  obtain ⟨rest, herase, hrest⟩ := herase
  constructor
  · intro hcommits
    have hsame := hcommits.same
    rw [herase] at hsame
    have hcopies : NoProto (.obj rest) := by
      refine .obj (fun f hf => ?_) fun f hf => ?_
      · obtain ⟨g, hg, rfl⟩ := List.mem_map.mp (hrest.mem_iff.mp hf)
        exact fun heq => (hnames g hg).2 (js_injective heq)
      · obtain ⟨g, -, rfl⟩ := List.mem_map.mp (hrest.mem_iff.mp hf)
        exact noProto_freezeClone g.2
    exact (noProto_record fun f hf => (hnames f hf).2).mp (hcopies.reordered hsame.symm)
  · intro hfields
    have hsame : (Json.record state).Reordered (Synaptic.erase returned "state_root") := by
      rw [herase]
      have hcopies : ∀ e ∈ state.map (fun f => (js f.1, f.2)), Json.Reordered e.2 (freezeClone e.2) :=
        List.forall_mem_map.mpr fun f hf => reordered_freezeClone (hstate.keyed f hf) (hfields f hf)
      refine .trans (Json.reordered_fields [] hcopies) (.perm ?_)
      rw [List.nil_append, List.map_map]
      exact hrest.symm
    refine ⟨⟨_, hroot, ?_⟩, hsame⟩
    have htext := (canonicalEncoder.eq_iff_reordered canonicalEncoder hkeyed (hsame.sorted_eq hkeyed).1).mpr hsame
    rw [cognitiveStateRoot, ensure, if_pos (decide_eq_true hlabel), hashed, hashed, htext]
    rfl

end

/-! ## Cognitons, graphs and fabrics -/

section
variable {digest : Synaptic.Digest}

theorem keyed_value (v : Value) : v.json.Keyed := v.rebuilt ▸ Json.keyed_rebuild v.json

theorem keyed_texts (texts : List JsString) : (Json.arr (texts.map .str)).Keyed := .arr (List.forall_mem_map.mpr fun s _ => .str s)

theorem noProto_texts (texts : List JsString) : NoProto (.arr (texts.map .str)) := .arr (List.forall_mem_map.mpr fun s _ => .str s)

theorem keyed_coalesce {v : Json} (hv : v.Keyed) (name : String) : (coalesce (v.get name) .null).Keyed := by
  cases hget : v.get name with
  | none => exact .null
  | some u =>
    have hu : u.Keyed := by
      cases hv with
      | obj _ hfields => exact hfields _ (Json.mem_of_lookup hget)
      | null | bool _ | num _ | str _ | arr _ => cases hget
    cases u with
    | null => exact .null
    | bool _ | num _ | str _ | arr _ | obj _ => exact hu

/-- What `createCogniton` commits to. -/
theorem cognitonState_spec {input : Json} (hinput : input.Keyed) {state : List (String × Json)} (h : cognitonState digest input = .ok state) :
    Named state ∧ ((∀ f ∈ state, NoProto f.2) ↔
      NoProto (coalesce (input.get "value") .null) ∧ NoProto (coalesce (input.get "provenance") .null)) := by
  simp only [cognitonState, bind_eq_ok, pure_eq_ok] at h
  obtain ⟨-, -, kind, -, relations, -, address, -, rfl⟩ := h
  refine ⟨⟨by simp [material], by simp [material], ?_⟩, ?_⟩
  · simp only [material, List.cons_append, List.nil_append, List.forall_mem_cons]
    exact ⟨.str _, .num _, .str _, keyed_coalesce hinput _, keyed_texts _, keyed_coalesce hinput _, .str _, by simp⟩
  · simp only [material, List.cons_append, List.nil_append, List.forall_mem_cons]
    constructor
    · rintro ⟨-, -, -, hvalue, -, hprovenance, -⟩
      exact ⟨hvalue, hprovenance⟩
    · rintro ⟨hvalue, hprovenance⟩
      exact ⟨.str _, .num _, .str _, hvalue, noProto_texts _, hprovenance, .str _, by simp⟩

theorem CognitiveGraph.state_spec (collation : Collation) (graph : CognitiveGraph) : Named (graph.state collation) ∧
    ((∀ f ∈ graph.state collation, NoProto f.2) ↔ ∀ cogniton ∈ graph.cognitons.values, NoProto cogniton.json) := by
  have hmem : ∀ cogniton, cogniton ∈ graph.cognitonsInOrder collation ↔ cogniton ∈ graph.cognitons.values :=
    fun _ => (List.perm_insertionSort _ _).mem_iff
  refine ⟨⟨by simp [state], by simp [state], ?_⟩, ?_⟩
  · simp only [state, List.forall_mem_cons]
    exact ⟨.str _, .arr (List.forall_mem_map.mpr fun cogniton _ => keyed_value cogniton), keyed_texts _, by simp⟩
  · simp only [state, List.forall_mem_cons]
    constructor
    · rintro ⟨-, hcognitons, -⟩ cogniton hcogniton
      cases hcognitons with
      | arr hitems => exact hitems _ (List.mem_map_of_mem ((hmem cogniton).mpr hcogniton))
    · intro hcognitons
      exact ⟨.str _, .arr (List.forall_mem_map.mpr fun cogniton hcogniton => hcognitons _ ((hmem cogniton).mp hcogniton)),
        noProto_texts _, by simp⟩

theorem keyed_freezeClone {v : Json} (hkeyed : v.Keyed) (h : NoProto v) : (freezeClone v).Keyed :=
  ((reordered_freezeClone hkeyed h).sorted_eq hkeyed).1

theorem CognitivePort.keyed_toJson (port : CognitivePort) : port.toJson.Keyed ∧ NoProto port.toJson := by
  constructor
  · refine keyed_record (by simp) ?_
    simp only [List.forall_mem_cons]
    exact ⟨.str _, .str _, .str _, .str _, .num _, keyed_texts _, keyed_texts _, .bool _, by simp⟩
  · refine (noProto_record (by simp)).mpr ?_
    simp only [List.forall_mem_cons]
    exact ⟨.str _, .str _, .str _, .str _, .num _, noProto_texts _, noProto_texts _, .bool _, by simp⟩

theorem CognitivePortFabric.state_spec (collation : Collation) (fabric : CognitivePortFabric) :
    Named (state collation fabric) ∧ ∀ f ∈ state collation fabric, NoProto f.2 := by
  refine ⟨⟨by simp [state], by simp [state], ?_⟩, ?_⟩
  · simp only [state, List.forall_mem_cons]
    exact ⟨.str _, .arr (List.forall_mem_map.mpr fun port _ => keyed_freezeClone port.keyed_toJson.1 port.keyed_toJson.2), by simp⟩
  · simp only [state, List.forall_mem_cons]
    exact ⟨.str _, .arr (List.forall_mem_map.mpr fun port _ => noProto_freezeClone port.toJson), by simp⟩

end

namespace Sample

def zeros : Synaptic.Digest := StateModule.Sample.zeros

/-- A fact with some value. -/
def fact : Value where
  json := .record [("kind", .text "fact"), ("value", .record [("a", .arr [.null])])]
  rebuilt := by rfl

/-- A fact whose value has a property named `__proto__`. -/
def protoFact : Value where
  json := .record [("kind", .text "fact"), ("value", .record [("__proto__", .int 1)])]
  rebuilt := by rfl

def codeUnitOrder : Collation := ⟨Json.leUnits, Json.leUnits_total, fun _ _ _ => Json.leUnits_trans⟩

theorem fact_created : ∃ returned, createCogniton zeros fact.json = .ok returned := ⟨_, rfl⟩

theorem protoFact_created : ∃ returned, createCogniton zeros protoFact.json = .ok returned := ⟨_, rfl⟩

end Sample

end CognitiveBody
