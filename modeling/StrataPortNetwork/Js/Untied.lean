import StrataPortNetwork.Js.Ties

/-! # Values whose keys are told apart

Objects list index keys first and by number, all other keys in the order of insertion. Sorting
the keys by a collation gives every such order of a value one form exactly when no two other
keys of one object tie.
-/
namespace Js.Json
variable {collation : Collation}

/-! ## Values in memory -/

theorem rebuild_obj_iff {fields : Fields} : (Json.obj fields).rebuild = .obj fields ↔
    OwnOrdered fields ∧ ∀ f ∈ fields, f.2.rebuild = f.2 := by
  constructor
  · intro h
    have hfields : fromEntries (rebuildFields fields) = fields := Json.obj.inj h
    refine ⟨hfields ▸ ownOrdered_fromEntries _, fun f hf => ?_⟩
    rw [← hfields] at hf
    have hmem := mem_of_mem_fromEntries hf
    rw [rebuildFields_eq_map] at hmem
    obtain ⟨g, -, rfl⟩ := List.mem_map.mp hmem
    exact rebuild_rebuild g.2
  · rintro ⟨hown, hfixed⟩
    rw [rebuild, rebuildFields_of_fixed hfixed, fromEntries_of_ownOrdered hown]

theorem rebuild_arr_iff {items : List Json} : (Json.arr items).rebuild = .arr items ↔ ∀ v ∈ items, v.rebuild = v := by
  constructor
  · intro h v hv
    have hitems : rebuildItems items = items := Json.arr.inj h
    rw [rebuildItems_eq_map] at hitems
    exact List.map_inj_left.mp (hitems.trans (List.map_id' items).symm) v hv
  · intro h
    rw [rebuild, rebuildItems_of_fixed h]

theorem keyed_of_rebuild {v : Json} (h : v.rebuild = v) : Keyed v := h ▸ keyed_rebuild v

/-- Exchanging an entry's value keeps the object in memory. -/
theorem rebuild_replaced {before after : Fields} {key : JsString} {v w : Json}
    (h : (Json.obj (before ++ (key, v) :: after)).rebuild = .obj (before ++ (key, v) :: after)) (hw : w.rebuild = w) :
    (Json.obj (before ++ (key, w) :: after)).rebuild = .obj (before ++ (key, w) :: after) := by
  obtain ⟨hown, hfixed⟩ := rebuild_obj_iff.mp h
  refine rebuild_obj_iff.mpr ⟨?_, fun f hf => ?_⟩
  · have hkeys : (before ++ (key, w) :: after).map Prod.fst = (before ++ (key, v) :: after).map Prod.fst := by simp
    rw [OwnOrdered, hkeys]
    exact hown
  · rcases List.mem_append.mp hf with hf | hf
    · exact hfixed f (List.mem_append_left _ hf)
    · rcases List.mem_cons.mp hf with rfl | hf
      · exact hw
      · exact hfixed f (List.mem_append_right _ (List.mem_cons_of_mem _ hf))

/-! ## Order of the keys in an object -/

theorem not_precedes_both {k k' : JsString} (h : Precedes k k') (h' : Precedes k' k)
    (hindex : arrayIndex? k ≠ none ∨ arrayIndex? k' ≠ none) : False := by
  obtain ⟨-, h⟩ := h
  obtain ⟨-, h'⟩ := h'
  cases hn : arrayIndex? k with
  | none =>
    cases hm : arrayIndex? k' with
    | none => exact hindex.elim (fun hne => hne hn) fun hne => hne hm
    | some m => simp only [hn, hm] at h
  | some n =>
    cases hm : arrayIndex? k' with
    | none => simp only [hn, hm] at h'
    | some m =>
      simp only [hn, hm] at h h'
      omega

theorem OwnOrdered.precedes {fields : Fields} (h : OwnOrdered fields) {a b : JsString} (hab : [a, b].Sublist (fields.map Prod.fst)) :
    Precedes a b := List.pairwise_iff_forall_sublist.mp h hab

/-- An index key has one place among the same keys. -/
theorem OwnOrdered.sublist_congr {fields fields' : Fields} (h : OwnOrdered fields) (h' : OwnOrdered fields')
    (hkeys : (fields.map Prod.fst).Perm (fields'.map Prod.fst)) {a b : JsString}
    (hindex : arrayIndex? a ≠ none ∨ arrayIndex? b ≠ none) (hab : [a, b].Sublist (fields.map Prod.fst)) :
    [a, b].Sublist (fields'.map Prod.fst) := by
  have hbefore := h.precedes hab
  have ha : a ∈ fields'.map Prod.fst := hkeys.mem_iff.mp (hab.subset List.mem_cons_self)
  have hb : b ∈ fields'.map Prod.fst := hkeys.mem_iff.mp (hab.subset (List.mem_cons_of_mem a List.mem_cons_self))
  refine (Collation.pair_sublist ha hb hbefore.1).resolve_right fun hba => ?_
  exact not_precedes_both hbefore (h'.precedes hba) hindex

/-- The same object with the keys that are no indices inserted the other way round. -/
def turned (fields : Fields) : Fields :=
  fields.filter (fun f => (arrayIndex? f.1).isSome) ++ (fields.filter fun f => !(arrayIndex? f.1).isSome).reverse

theorem perm_turned (fields : Fields) : fields.Perm (turned fields) :=
  (List.filter_append_perm _ fields).symm.trans ((List.reverse_perm _).symm.append_left _)

theorem ownOrdered_turned {fields : Fields} (h : OwnOrdered fields) : OwnOrdered (turned fields) := by
  have hpair : fields.Pairwise fun f g => Precedes f.1 g.1 := List.pairwise_map.mp h
  rw [OwnOrdered, List.pairwise_map, turned, List.pairwise_append]
  refine ⟨hpair.sublist List.filter_sublist, ?_, fun f hf g hg => ?_⟩
  · rw [List.pairwise_reverse]
    refine (hpair.sublist List.filter_sublist).imp_of_mem fun {f g} hf hg hfg => ⟨hfg.1.symm, ?_⟩
    have hnone : ∀ {f : JsString × Json}, f ∈ fields.filter (fun f => !(arrayIndex? f.1).isSome) → arrayIndex? f.1 = none := by
      intro f hf
      simpa using (List.mem_filter.mp hf).2
    rw [hnone hf, hnone hg]
    trivial
  · obtain ⟨hf, hindex⟩ := List.mem_filter.mp hf
    obtain ⟨hg, hname⟩ := List.mem_filter.mp (List.mem_reverse.mp hg)
    obtain ⟨n, hn⟩ := Option.isSome_iff_exists.mp hindex
    have hm : arrayIndex? g.1 = none := by simpa using hname
    refine ⟨fun heq => ?_, ?_⟩
    · rw [heq, hm] at hn
      cases hn
    · rw [hn, hm]
      trivial

theorem turned_sublist {fields : Fields} {a b : JsString} (ha : arrayIndex? a = none) (hb : arrayIndex? b = none)
    (h : [a, b].Sublist (fields.map Prod.fst)) : [b, a].Sublist ((turned fields).map Prod.fst) := by
  have hfilter := h.filter fun key => !(arrayIndex? key).isSome
  rw [List.filter_cons_of_pos (by rw [ha]; rfl), List.filter_cons_of_pos (by rw [hb]; rfl), List.filter_nil, List.filter_map] at hfilter
  rw [turned, List.map_append, List.map_reverse]
  exact hfilter.reverse.trans (List.sublist_append_right _ _)

/-! ## One form for every order -/

/-- No object has two keys, other than indices, that tie. -/
inductive Untied (collation : Collation) : Json → Prop
  | null : Untied collation .null
  | bool (b : Bool) : Untied collation (.bool b)
  | num (x : JsNumber) : Untied collation (.num x)
  | str (s : JsString) : Untied collation (.str s)
  | arr {items : List Json} (h : ∀ v ∈ items, Untied collation v) : Untied collation (.arr items)
  | obj {fields : Fields} (hkeys : ∀ f ∈ fields, ∀ g ∈ fields, arrayIndex? f.1 = none → arrayIndex? g.1 = none →
        collation.le f.1 g.1 = true → collation.le g.1 f.1 = true → f.1 = g.1)
      (h : ∀ f ∈ fields, Untied collation f.2) : Untied collation (.obj fields)

theorem keys_collated (fields : Fields) : (collation.sortOn Prod.fst (collatedFields collation fields)).map Prod.fst =
    collation.sortOn id (fields.map Prod.fst) := by
  have hkeys : (collatedFields collation fields).map Prod.fst = fields.map Prod.fst := by
    rw [collatedFields_eq_map, List.map_map]
    rfl
  rw [← hkeys, Collation.sortOn_map]
  rfl

theorem lookup_collatedFields (fields : Fields) (k : JsString) :
    (collatedFields collation fields).lookup k = (fields.lookup k).map (collated collation) := by
  induction fields with
  | nil => rfl
  | cons f rest ih =>
    rw [collatedFields, lookup_cons, lookup_cons]
    split
    · rfl
    · exact ih

theorem lookup_collated {fields : Fields} (hnodup : (fields.map Prod.fst).Nodup) (k : JsString) :
    (collation.sortOn Prod.fst (collatedFields collation fields)).lookup k = (fields.lookup k).map (collated collation) := by
  have hperm : (collation.sortOn Prod.fst (collatedFields collation fields)).Perm (collatedFields collation fields) :=
    Collation.perm_sortOn Prod.fst _
  rw [← lookup_collatedFields]
  refine (lookup_of_perm ?_ hperm.symm k).symm
  rw [collatedFields_eq_map, List.map_map]
  exact hnodup

theorem sameTies_of_untied {fields fields' : Fields} (hown : OwnOrdered fields) (hown' : OwnOrdered fields')
    (hperm : (fields.map Prod.fst).Perm (fields'.map Prod.fst)) (h : Untied collation (.obj fields)) :
    collation.SameTies (fields.map Prod.fst) (fields'.map Prod.fst) := by
  cases h with
  | obj hkeys _ =>
    intro a b hab hba
    have hindex : ∀ {l : List JsString}, l.Nodup → l.Perm (fields.map Prod.fst) → [a, b].Sublist l →
        arrayIndex? a ≠ none ∨ arrayIndex? b ≠ none := by
      intro l hnodup hl hsub
      by_contra hnone
      rw [not_or, not_not, not_not] at hnone
      obtain ⟨f, hf, rfl⟩ := List.mem_map.mp (hl.mem_iff.mp (hsub.subset List.mem_cons_self))
      obtain ⟨g, hg, rfl⟩ := List.mem_map.mp (hl.mem_iff.mp (hsub.subset (List.mem_cons_of_mem _ List.mem_cons_self)))
      exact List.pairwise_iff_forall_sublist.mp hnodup hsub (hkeys f hf g hg hnone.1 hnone.2 hab hba)
    exact ⟨fun hsub => hown.sublist_congr hown' hperm (hindex hown.nodup (.refl _) hsub) hsub,
      fun hsub => hown'.sublist_congr hown hperm.symm (hindex hown'.nodup hperm.symm hsub) hsub⟩

theorem perm_keys_of_sorted {fields fields' : Fields} (h : (Json.obj fields).sorted = (Json.obj fields').sorted) :
    (fields.map Prod.fst).Perm (fields'.map Prod.fst) := by
  have hsorted : sortOn Prod.fst (sortedFields fields) = sortOn Prod.fst (sortedFields fields') := Json.obj.inj h
  have hperm := (perm_sortOn Prod.fst (sortedFields fields)).symm.trans (hsorted ▸ perm_sortOn Prod.fst (sortedFields fields'))
  have hkeys := hperm.map Prod.fst
  rwa [keys_sortedFields, keys_sortedFields] at hkeys

/-- Without ties, values in memory that are equal up to the order of keys have one form. -/
theorem Untied.collated_eq {v w : Json} (hv : v.rebuild = v) (hw : w.rebuild = w) (huntied : Untied collation v)
    (h : v.sorted = w.sorted) : v.collated collation = w.collated collation := by
  induction v using Json.inductionOn generalizing w with
  | null | bool _ | num _ | str _ => rw [eq_of_sorted_scalar rfl h.symm]
  | arr items ih =>
    cases w with
    | arr items' =>
      have hmaps : items.map sorted = items'.map sorted := by
        rw [← sortedItems_eq_map, ← sortedItems_eq_map]
        exact Json.arr.inj h
      rw [collated, collated, collatedItems_eq_map, collatedItems_eq_map]
      have hitems := rebuild_arr_iff.mp hv
      have hitems' := rebuild_arr_iff.mp hw
      cases huntied with
      | arr huntied =>
        refine congrArg Json.arr (List.ext_getElem (by simpa using congrArg List.length hmaps) fun i hi hi' => ?_)
        rw [List.length_map] at hi hi'
        rw [List.getElem_map, List.getElem_map]
        refine ih _ (List.getElem_mem hi) (hitems _ (List.getElem_mem hi)) (hitems' _ (List.getElem_mem hi'))
          (huntied _ (List.getElem_mem hi)) ?_
        have hget := List.getElem_of_eq hmaps (by simpa using hi)
        rwa [List.getElem_map, List.getElem_map] at hget
    | null | bool _ | num _ | str _ | obj _ => cases h
  | obj fields ih =>
    cases w with
    | obj fields' =>
      obtain ⟨hown, hfixed⟩ := rebuild_obj_iff.mp hv
      obtain ⟨hown', hfixed'⟩ := rebuild_obj_iff.mp hw
      have hperm := perm_keys_of_sorted h
      have hkeys := (Collation.sortOn_eq_iff hown.nodup hperm).mpr (sameTies_of_untied hown hown' hperm huntied)
      rw [collated, collated]
      refine congrArg Json.obj (fields_ext ?_ ?_ fun k => ?_)
      · rw [keys_collated, keys_collated, hkeys]
      · rw [keys_collated]
        exact (Collation.perm_sortOn id _).nodup_iff.mpr hown.nodup
      · rw [lookup_collated hown.nodup, lookup_collated hown'.nodup]
        have hvalues : (fields.lookup k).map sorted = (fields'.lookup k).map sorted := by
          have hlookup := congrArg (fun u : Json => u.fields.lookup k) h
          simp only [sorted, Json.fields] at hlookup
          have hnodup : ∀ {fields : Fields}, OwnOrdered fields → ((sortedFields fields).map Prod.fst).Nodup := by
            intro fields hown
            rw [keys_sortedFields]
            exact hown.nodup
          rwa [← lookup_of_perm (hnodup hown) (perm_sortOn Prod.fst _).symm, ← lookup_of_perm (hnodup hown') (perm_sortOn Prod.fst _).symm,
            lookup_sortedFields, lookup_sortedFields] at hlookup
        cases hget : fields.lookup k with
        | none =>
          rw [hget, Option.map_none] at hvalues
          rw [Option.map_eq_none_iff.mp hvalues.symm]
        | some u =>
          rw [hget, Option.map_some] at hvalues
          obtain ⟨u', hget', hsame⟩ := Option.map_eq_some_iff.mp hvalues.symm
          have hu := mem_of_lookup hget
          have hu' := mem_of_lookup hget'
          rw [hget', Option.map_some, Option.map_some]
          cases huntied with
          | obj _ huntied => rw [ih _ hu (hfixed _ hu) (hfixed' _ hu') (huntied _ hu) hsame.symm]
    | null | bool _ | num _ | str _ | arr _ => cases h

/-- A value that has one form in every order has no ties. -/
theorem untied_of_collated {v : Json} (hv : v.rebuild = v)
    (h : ∀ w : Json, w.rebuild = w → Reordered v w → v.collated collation = w.collated collation) : Untied collation v := by
  induction v using Json.inductionOn with
  | null => exact .null
  | bool b => exact .bool b
  | num x => exact .num x
  | str s => exact .str s
  | arr items ih =>
    refine .arr fun v hmem => ih v hmem (rebuild_arr_iff.mp hv v hmem) fun w hw hreordered => ?_
    obtain ⟨before, after, rfl⟩ := List.append_of_mem hmem
    have hitems := rebuild_arr_iff.mp hv
    have hreplaced : (Json.arr (before ++ w :: after)).rebuild = .arr (before ++ w :: after) := by
      refine rebuild_arr_iff.mpr fun u hu => ?_
      rcases List.mem_append.mp hu with hu | hu
      · exact hitems u (List.mem_append_left _ hu)
      · rcases List.mem_cons.mp hu with rfl | hu
        · exact hw
        · exact hitems u (List.mem_append_right _ (List.mem_cons_of_mem _ hu))
    have heq := Json.arr.inj (h _ hreplaced (.item before after hreordered))
    simp only [collatedItems_eq_map, List.map_append, List.map_cons] at heq
    exact (List.cons.inj (List.append_cancel_left heq)).1
  | obj fields ih =>
    obtain ⟨hown, hfixed⟩ := rebuild_obj_iff.mp hv
    refine .obj (fun f hf g hg hfi hgi hle hge => ?_) fun f hmem => ih f hmem (hfixed f hmem) fun w hw hreordered => ?_
    · by_contra hne
      have hturned : (Json.obj (turned fields)).rebuild = .obj (turned fields) :=
        rebuild_obj_iff.mpr ⟨ownOrdered_turned hown, fun f hf => hfixed f ((perm_turned fields).mem_iff.mpr hf)⟩
      have heq := Json.obj.inj (h _ hturned (.perm (perm_turned fields)))
      have hkeys := congrArg (List.map Prod.fst) heq
      rw [keys_collated, keys_collated] at hkeys
      have hties := (Collation.sortOn_eq_iff hown.nodup ((perm_turned fields).map Prod.fst)).mp hkeys
      have hboth : ∀ {a b : JsString}, arrayIndex? a = none → arrayIndex? b = none → collation.le a b = true →
          collation.le b a = true → [a, b].Sublist (fields.map Prod.fst) → a = b := by
        intro a b ha hb hab hba hsub
        exact Collation.eq_of_pair_sublist (ownOrdered_turned hown).nodup ((hties a b hab hba).mp hsub) (turned_sublist ha hb hsub)
      rcases Collation.pair_sublist (List.mem_map_of_mem hf) (List.mem_map_of_mem hg) hne with hsub | hsub
      · exact hne (hboth hfi hgi hle hge hsub)
      · exact hne (hboth hgi hfi hge hle hsub).symm
    · obtain ⟨before, after, rfl⟩ := List.append_of_mem hmem
      have hreplaced := @rebuild_replaced before after f.1 f.2 _ hv hw
      have heq := Json.obj.inj (h _ hreplaced (.field before f.1 after hreordered))
      have hlookup := congrArg (fun fields : Fields => fields.lookup f.1) heq
      rw [lookup_collated hown.nodup, lookup_collated (rebuild_obj_iff.mp hreplaced).1.nodup,
        lookup_eq_some_of_mem hown.nodup hmem,
        lookup_eq_some_of_mem (f := (f.1, w)) (rebuild_obj_iff.mp hreplaced).1.nodup
          (List.mem_append_right _ List.mem_cons_self)] at hlookup
      exact Option.some.inj hlookup

end Js.Json
