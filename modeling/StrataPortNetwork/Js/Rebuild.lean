import StrataPortNetwork.Js.JsonText
import StrataPortNetwork.Js.OwnOrder

/-! # Rebuilt values

Parsing and cloning make new objects whose fields stand in property order. A value that is
rebuilt once is rebuilt to itself.
-/
namespace Js

theorem mem_setField {key : JsString} {v : Json} {fields : Fields} {f : JsString × Json}
    (h : f ∈ Json.setField key v fields) : f = (key, v) ∨ f ∈ fields := by
  rw [Json.setField] at h
  split at h
  · obtain ⟨g, hg, rfl⟩ := List.mem_map.mp h
    split
    · exact Or.inl rfl
    · exact Or.inr hg
  · rename_i hnew
    simpa using (Json.perm_insertNew key v fields).mem_iff.mp h

theorem mem_foldl_setField {entries fields : Fields} {f : JsString × Json}
    (h : f ∈ entries.foldl (fun fields f => Json.setField f.1 f.2 fields) fields) : f ∈ fields ∨ f ∈ entries := by
  induction entries generalizing fields with
  | nil => exact Or.inl h
  | cons g rest ih =>
    rcases ih h with hmem | hmem
    · rcases mem_setField hmem with rfl | hmem
      · exact Or.inr List.mem_cons_self
      · exact Or.inl hmem
    · exact Or.inr (List.mem_cons_of_mem g hmem)

theorem mem_of_mem_fromEntries {entries : Fields} {f : JsString × Json} (h : f ∈ Json.fromEntries entries) : f ∈ entries :=
  (mem_foldl_setField h).resolve_left List.not_mem_nil

theorem rebuildItems_eq_map (items : List Json) : Json.rebuildItems items = items.map Json.rebuild := by
  induction items with
  | nil => rfl
  | cons v rest ih => rw [Json.rebuildItems, ih, List.map_cons]

theorem rebuildFields_eq_map (fields : Fields) : Json.rebuildFields fields = fields.map fun f => (f.1, f.2.rebuild) := by
  induction fields with
  | nil => rfl
  | cons f rest ih => rw [Json.rebuildFields, ih, List.map_cons]

theorem rebuildItems_of_fixed {items : List Json} (h : ∀ v ∈ items, v.rebuild = v) : Json.rebuildItems items = items := by
  rw [rebuildItems_eq_map, List.map_congr_left h, List.map_id']

theorem rebuildFields_of_fixed {fields : Fields} (h : ∀ f ∈ fields, f.2.rebuild = f.2) : Json.rebuildFields fields = fields := by
  rw [rebuildFields_eq_map]
  conv_rhs => rw [← List.map_id' fields]
  exact List.map_congr_left fun f hf => by rw [h f hf]

theorem rebuild_rebuild (v : Json) : v.rebuild.rebuild = v.rebuild := by
  induction v using Json.inductionOn with
  | null | bool _ | num _ | str _ => rfl
  | arr items ih =>
    rw [Json.rebuild, Json.rebuild, rebuildItems_of_fixed]
    intro v hv
    rw [rebuildItems_eq_map] at hv
    obtain ⟨u, hu, rfl⟩ := List.mem_map.mp hv
    exact ih u hu
  | obj fields ih =>
    have hfixed : ∀ f ∈ Json.fromEntries (Json.rebuildFields fields), f.2.rebuild = f.2 := by
      intro f hf
      have hmem := mem_of_mem_fromEntries hf
      rw [rebuildFields_eq_map] at hmem
      obtain ⟨g, hg, rfl⟩ := List.mem_map.mp hmem
      exact ih g hg
    rw [Json.rebuild, Json.rebuild, rebuildFields_of_fixed hfixed,
      Json.fromEntries_of_ownOrdered (Json.ownOrdered_fromEntries _)]

/-- A record without index keys keeps its fields in their order. -/
theorem rebuild_record {fields : List (String × Json)} (hnodup : (fields.map Prod.fst).Nodup)
    (hnames : ∀ f ∈ fields, Json.arrayIndex? (js f.1) = none) (hfixed : ∀ f ∈ fields, f.2.rebuild = f.2) :
    (Json.record fields).rebuild = .record fields := by
  have hown : Json.OwnOrdered (fields.map fun f => (js f.1, f.2)) := by
    rw [Json.OwnOrdered, List.map_map, List.pairwise_map]
    rw [List.Nodup, List.pairwise_map] at hnodup
    refine hnodup.imp_of_mem fun hf hg hne => ⟨fun heq => hne (js_injective heq), ?_⟩
    simp [hnames _ hf, hnames _ hg]
  rw [Json.record, Json.rebuild, rebuildFields_of_fixed, Json.fromEntries_of_ownOrdered hown]
  rwa [List.forall_mem_map]

end Js
