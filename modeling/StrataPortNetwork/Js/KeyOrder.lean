import StrataPortNetwork.Js.Rebuild

/-! # Values up to the order of their keys

An encoder that prints scalars as JSON and the entries of objects by sorted key gives the JSON
text of the value with all its keys sorted. The texts of two values agree exactly when the
values are equal up to the order of keys.
-/
namespace Js

/-! ## Sorting by key -/

section
variable {α β : Type*} (key : α → JsString)

instance : Std.Total (fun a b : α => Json.leUnits (key a) (key b) = true) := ⟨fun _ _ => Json.leUnits_total _ _⟩
instance : IsTrans α (fun a b => Json.leUnits (key a) (key b) = true) := ⟨fun _ _ _ => Json.leUnits_trans⟩

def sortOn (l : List α) : List α := l.insertionSort fun a b => Json.leUnits (key a) (key b) = true

theorem perm_sortOn (l : List α) : (sortOn key l).Perm l := List.perm_insertionSort _ l

theorem sortOn_map (f : β → α) (l : List β) : sortOn key (l.map f) = (sortOn (key ∘ f) l).map f :=
  (List.map_insertionSort _ _ f l fun _ _ _ _ => Iff.rfl).symm

theorem sortKeys_map (l : List α) : Json.sortKeys (l.map key) = (sortOn key l).map key :=
  (List.map_insertionSort _ _ key l fun _ _ _ _ => Iff.rfl).symm

/-- Sorting forgets the order of elements with distinct keys. -/
theorem sortOn_congr {l l' : List α} (hnodup : (l.map key).Nodup) (h : l.Perm l') : sortOn key l = sortOn key l' := by
  refine List.Perm.eq_of_pairwise (fun a b ha hb hab hba => ?_) (List.pairwise_insertionSort _ l)
    (List.pairwise_insertionSort _ l') ((perm_sortOn key l).trans (h.trans (perm_sortOn key l').symm))
  have ha' : a ∈ l := (perm_sortOn key l).mem_iff.mp ha
  have hb' : b ∈ l := h.mem_iff.mpr ((perm_sortOn key l').mem_iff.mp hb)
  exact List.inj_on_of_nodup_map hnodup ha' hb' (Json.leUnits_antisymm hab hba)

end

namespace Json

/-! ## Equality up to the order of keys -/

/-- The keys of every object are distinct, as they are in memory. -/
inductive Keyed : Json → Prop
  | null : Keyed .null
  | bool (b : Bool) : Keyed (.bool b)
  | num (x : JsNumber) : Keyed (.num x)
  | str (s : JsString) : Keyed (.str s)
  | arr {items : List Json} (h : ∀ v ∈ items, Keyed v) : Keyed (.arr items)
  | obj {fields : Fields} (hnodup : (fields.map Prod.fst).Nodup) (h : ∀ f ∈ fields, Keyed f.2) : Keyed (.obj fields)

/-- Values in memory have distinct keys. -/
theorem keyed_rebuild (v : Json) : Keyed v.rebuild := by
  induction v using Json.inductionOn with
  | null => exact .null
  | bool b => exact .bool b
  | num x => exact .num x
  | str s => exact .str s
  | arr items ih =>
    rw [rebuild, rebuildItems_eq_map]
    exact .arr (List.forall_mem_map.mpr ih)
  | obj fields ih =>
    rw [rebuild, rebuildFields_eq_map]
    refine .obj (ownOrdered_fromEntries _).nodup fun f hf => ?_
    obtain ⟨g, hg, rfl⟩ := List.mem_map.mp (mem_of_mem_fromEntries hf)
    exact ih g hg

/-- Equal up to the order in which the keys of objects were inserted, at any depth. -/
inductive Reordered : Json → Json → Prop
  | refl (v : Json) : Reordered v v
  | perm {fields fields' : Fields} (h : fields.Perm fields') : Reordered (.obj fields) (.obj fields')
  | item {v w : Json} (before after : List Json) (h : Reordered v w) :
      Reordered (.arr (before ++ v :: after)) (.arr (before ++ w :: after))
  | field {v w : Json} (before : Fields) (key : JsString) (after : Fields) (h : Reordered v w) :
      Reordered (.obj (before ++ (key, v) :: after)) (.obj (before ++ (key, w) :: after))
  | trans {u v w : Json} (h : Reordered u v) (h' : Reordered v w) : Reordered u w

theorem Reordered.symm {v w : Json} (h : Reordered v w) : Reordered w v := by
  induction h with
  | refl v => exact .refl v
  | perm h => exact .perm h.symm
  | item before after _ ih => exact .item before after ih
  | field before key after _ ih => exact .field before key after ih
  | trans _ _ ih ih' => exact ih'.trans ih

theorem reordered_items {f : Json → Json} (before : List Json) {items : List Json} (h : ∀ v ∈ items, Reordered v (f v)) :
    Reordered (.arr (before ++ items)) (.arr (before ++ items.map f)) := by
  induction items generalizing before with
  | nil => exact .refl _
  | cons v rest ih =>
    refine .trans (.item before rest (h v List.mem_cons_self)) ?_
    have hrest := ih (before ++ [f v]) fun w hw => h w (List.mem_cons_of_mem v hw)
    rwa [List.append_assoc, List.append_assoc] at hrest

theorem reordered_fields {f : Json → Json} (before : Fields) {fields : Fields} (h : ∀ e ∈ fields, Reordered e.2 (f e.2)) :
    Reordered (.obj (before ++ fields)) (.obj (before ++ fields.map fun e => (e.1, f e.2))) := by
  induction fields generalizing before with
  | nil => exact .refl _
  | cons e rest ih =>
    refine .trans (.field before e.1 rest (h e List.mem_cons_self)) ?_
    have hrest := ih (before ++ [(e.1, f e.2)]) fun e' he' => h e' (List.mem_cons_of_mem e he')
    rwa [List.append_assoc, List.append_assoc] at hrest

/-! ## Sorted values -/

mutual

/-- The value with the keys of every object in order. -/
def sorted : Json → Json
  | .null => .null
  | .bool b => .bool b
  | .num x => .num x
  | .str s => .str s
  | .arr items => .arr (sortedItems items)
  | .obj fields => .obj (sortOn Prod.fst (sortedFields fields))

def sortedItems : List Json → List Json
  | [] => []
  | v :: rest => v.sorted :: sortedItems rest

def sortedFields : Fields → Fields
  | [] => []
  | f :: rest => (f.1, f.2.sorted) :: sortedFields rest

end

theorem sortedItems_eq_map (items : List Json) : sortedItems items = items.map sorted := by
  induction items with
  | nil => rfl
  | cons v rest ih => rw [sortedItems, ih, List.map_cons]

theorem sortedFields_eq_map (fields : Fields) : sortedFields fields = fields.map fun f => (f.1, f.2.sorted) := by
  induction fields with
  | nil => rfl
  | cons f rest ih => rw [sortedFields, ih, List.map_cons]

theorem reordered_sorted (v : Json) : Reordered v v.sorted := by
  induction v using Json.inductionOn with
  | null | bool _ | num _ | str _ => exact .refl _
  | arr items ih =>
    rw [sorted, sortedItems_eq_map]
    exact reordered_items [] ih
  | obj fields ih =>
    rw [sorted, sortedFields_eq_map]
    exact (reordered_fields [] ih).trans (.perm (perm_sortOn Prod.fst _).symm)

theorem keys_sortedFields (fields : Fields) : (sortedFields fields).map Prod.fst = fields.map Prod.fst := by
  rw [sortedFields_eq_map, List.map_map]
  rfl

/-- Values equal up to the order of keys have distinct keys together, and sort to one value. -/
theorem Reordered.sorted_eq {v w : Json} (h : Reordered v w) (hv : Keyed v) : Keyed w ∧ v.sorted = w.sorted := by
  induction h with
  | refl v => exact ⟨hv, rfl⟩
  | perm h =>
    cases hv with
    | obj hnodup hfields =>
      refine ⟨.obj ((h.map Prod.fst).nodup_iff.mp hnodup) fun f hf => hfields f (h.mem_iff.mpr hf), ?_⟩
      rw [sorted, sorted, sortOn_congr Prod.fst (by rw [keys_sortedFields]; exact hnodup)]
      rw [sortedFields_eq_map, sortedFields_eq_map]
      exact h.map _
  | @item v w before after _ ih =>
    cases hv with
    | arr hitems =>
      obtain ⟨hw, heq⟩ := ih (hitems v (List.mem_append_right _ List.mem_cons_self))
      refine ⟨.arr fun u hu => ?_, ?_⟩
      · rcases List.mem_append.mp hu with hu | hu
        · exact hitems u (List.mem_append_left _ hu)
        · rcases List.mem_cons.mp hu with rfl | hu
          · exact hw
          · exact hitems u (List.mem_append_right _ (List.mem_cons_of_mem v hu))
      · simp only [sorted, sortedItems_eq_map, List.map_append, List.map_cons, heq]
  | @field v w before key after _ ih =>
    cases hv with
    | obj hnodup hfields =>
      obtain ⟨hw, heq⟩ := ih (hfields (key, v) (List.mem_append_right _ List.mem_cons_self))
      refine ⟨.obj ?_ fun f hf => ?_, ?_⟩
      · simpa using hnodup
      · rcases List.mem_append.mp hf with hf | hf
        · exact hfields f (List.mem_append_left _ hf)
        · rcases List.mem_cons.mp hf with rfl | hf
          · exact hw
          · exact hfields f (List.mem_append_right _ (List.mem_cons_of_mem _ hf))
      · simp only [sorted, sortedFields_eq_map, List.map_append, List.map_cons, heq]
  | trans _ _ ih ih' =>
    obtain ⟨hv', heq⟩ := ih hv
    obtain ⟨hw, heq'⟩ := ih' hv'
    exact ⟨hw, heq.trans heq'⟩

theorem mem_of_lookup {fields : Fields} {k : JsString} {v : Json} (h : fields.lookup k = some v) : (k, v) ∈ fields := by
  induction fields with
  | nil => simp at h
  | cons f rest ih =>
    rw [lookup_cons] at h
    split at h
    · rename_i hk
      rw [hk, ← Option.some.inj h]
      exact List.mem_cons_self
    · exact List.mem_cons_of_mem f (ih h)

theorem lookup_of_perm {fields fields' : Fields} (hnodup : (fields.map Prod.fst).Nodup) (h : fields.Perm fields') (k : JsString) :
    fields.lookup k = fields'.lookup k := by
  have hnodup' : (fields'.map Prod.fst).Nodup := (h.map Prod.fst).nodup_iff.mp hnodup
  apply Option.ext
  intro v
  constructor
  · exact fun hv => lookup_eq_some_of_mem hnodup' (h.mem_iff.mp (mem_of_lookup hv))
  · exact fun hv => lookup_eq_some_of_mem hnodup (h.mem_iff.mpr (mem_of_lookup hv))

theorem lookup_sortedFields (fields : Fields) (k : JsString) : (sortedFields fields).lookup k = (fields.lookup k).map sorted := by
  induction fields with
  | nil => rfl
  | cons f rest ih =>
    rw [sortedFields, lookup_cons, lookup_cons]
    split
    · rfl
    · exact ih

theorem Keyed.get_sorted {v : Json} (hv : Keyed v) (name : String) : v.sorted.get name = (v.get name).map sorted := by
  cases hv with
  | null | bool _ | num _ | str _ | arr _ => rfl
  | obj hnodup _ =>
    rw [sorted, get, get, fields, fields, ← lookup_sortedFields]
    exact (lookup_of_perm (by rw [keys_sortedFields]; exact hnodup) (perm_sortOn Prod.fst _).symm _).symm

/-- Values equal up to the order of keys have the same properties, up to that order. -/
theorem Reordered.get_sorted {v w : Json} (h : Reordered v w) (hv : Keyed v) (name : String) :
    (v.get name).map sorted = (w.get name).map sorted := by
  obtain ⟨hw, heq⟩ := h.sorted_eq hv
  rw [← hv.get_sorted, ← hw.get_sorted, heq]

theorem reordered_of_sorted_eq {v w : Json} (h : v.sorted = w.sorted) : Reordered v w :=
  (reordered_sorted v).trans (h ▸ (reordered_sorted w).symm)

/-! ## Undefined properties -/

/-- An object of the properties that are not undefined. -/
def defined (properties : List (String × Option Json)) : Json :=
  .record (properties.filterMap fun p => p.2.map fun v => (p.1, v))

theorem get_defined {properties : List (String × Option Json)} (hnodup : (properties.map Prod.fst).Nodup) (name : String) :
    (defined properties).get name = (properties.lookup name).join := by
  induction properties with
  | nil => rfl
  | cons p rest ih =>
    obtain ⟨key, value⟩ := p
    rw [List.map_cons, List.nodup_cons] at hnodup
    have hrest := ih hnodup.2
    rw [List.lookup_cons]
    cases value with
    | none =>
      have hskip : defined ((key, none) :: rest) = defined rest := rfl
      rw [hskip, hrest]
      by_cases hkey : name = key
      · have habsent : rest.lookup name = none := by
          rw [List.lookup_eq_none_iff]
          intro q hq
          have hne : name ≠ q.1 := by
            intro heq
            apply hnodup.1
            exact List.mem_map.mpr ⟨q, hq, heq.symm.trans hkey⟩
          simpa using hne
        rw [hkey, beq_self_eq_true, ← hkey, habsent]
        rfl
      · rw [beq_false_of_ne hkey]
    | some v =>
      have hcons : (defined ((key, some v) :: rest)).get name = if name = key then some v else (defined rest).get name := by
        change ((js key, v) :: (defined rest).fields).lookup (js name) = _
        simp only [lookup_cons, js_inj]
        rfl
      rw [hcons, hrest]
      by_cases hkey : name = key
      · rw [if_pos hkey, hkey, beq_self_eq_true]
        rfl
      · rw [if_neg hkey, beq_false_of_ne hkey]

end Json

/-! ## Canonical encoders -/

theorem intercalate_cons (s : JsString) (rest : List JsString) :
    [44].intercalate (s :: rest) = s ++ rest.flatMap (44 :: ·) := by
  induction rest generalizing s with
  | nil => simp
  | cons t rest ih =>
    rw [List.intercalate_cons_cons, ih, List.flatMap_cons, List.append_assoc]
    rfl

theorem stringifyItems_eq (items : List Json) :
    stringifyItems items = (items.map stringify).flatMap (44 :: ·) ++ [93] := by
  induction items with
  | nil => rfl
  | cons v rest ih => rw [stringifyItems, ih, List.map_cons, List.flatMap_cons, List.cons_append, List.cons_append, List.append_assoc]

def fieldText (f : JsString × Json) : JsString := quote f.1 ++ 58 :: stringify f.2

theorem stringifyFields_eq (fields : Fields) :
    stringifyFields fields = (fields.map fieldText).flatMap (44 :: ·) ++ [125] := by
  induction fields with
  | nil => rfl
  | cons f rest ih =>
    rw [stringifyFields, ih, List.map_cons, List.flatMap_cons, fieldText]
    simp only [List.cons_append, List.append_assoc]

theorem stringify_arr (items : List Json) : stringify (.arr items) = 91 :: ([44].intercalate (items.map stringify) ++ [93]) := by
  cases items with
  | nil => rfl
  | cons v rest => rw [stringify, stringifyItems_eq, List.map_cons, intercalate_cons, List.append_assoc]

theorem stringify_obj (fields : Fields) : stringify (.obj fields) = 123 :: ([44].intercalate (fields.map fieldText) ++ [125]) := by
  cases fields with
  | nil => rfl
  | cons f rest =>
    rw [stringify, stringifyFields_eq, List.map_cons, intercalate_cons, fieldText]
    simp only [List.cons_append, List.append_assoc]

/-- Scalars as JSON, arrays in order, the entries of objects by sorted key. -/
structure CanonicalEncoder (encode : Json → JsString) : Prop where
  null : encode .null = stringify .null
  bool : ∀ b, encode (.bool b) = stringify (.bool b)
  num : ∀ x, encode (.num x) = stringify (.num x)
  str : ∀ s, encode (.str s) = stringify (.str s)
  arr : ∀ items, encode (.arr items) = 91 :: ([44].intercalate (items.map encode) ++ [93])
  obj : ∀ fields : Fields, (fields.map Prod.fst).Nodup → encode (.obj fields) =
    123 :: ([44].intercalate ((sortOn Prod.fst fields).map fun f => quote f.1 ++ 58 :: encode f.2) ++ [125])

namespace CanonicalEncoder
variable {encode encode' : Json → JsString}

theorem eq_stringify_sorted (h : CanonicalEncoder encode) {v : Json} (hv : v.Keyed) : encode v = stringify v.sorted := by
  induction v using Json.inductionOn with
  | null => exact h.null
  | bool b => exact h.bool b
  | num x => exact h.num x
  | str s => exact h.str s
  | arr items ih =>
    cases hv with
    | arr hitems =>
      rw [h.arr, Json.sorted, Json.sortedItems_eq_map, stringify_arr, List.map_map]
      rw [List.map_congr_left fun v hv => ih v hv (hitems v hv)]
      rfl
  | obj fields ih =>
    cases hv with
    | obj hnodup hfields =>
      rw [h.obj fields hnodup, Json.sorted, Json.sortedFields_eq_map, stringify_obj, sortOn_map, List.map_map]
      have htexts : ∀ f ∈ sortOn Prod.fst fields, quote f.1 ++ 58 :: encode f.2 = fieldText (f.1, f.2.sorted) := by
        intro f hf
        have hmem : f ∈ fields := (perm_sortOn Prod.fst fields).mem_iff.mp hf
        rw [ih f hmem (hfields f hmem), fieldText]
      rw [List.map_congr_left htexts]
      rfl

/-- Any two canonical encoders give one text exactly for values equal up to the order of keys. -/
theorem eq_iff_reordered (h : CanonicalEncoder encode) (h' : CanonicalEncoder encode') {v w : Json} (hv : v.Keyed)
    (hw : w.Keyed) : encode v = encode' w ↔ Json.Reordered v w := by
  rw [h.eq_stringify_sorted hv, h'.eq_stringify_sorted hw, stringify_injective.eq_iff]
  exact ⟨Json.reordered_of_sorted_eq, fun hreordered => (hreordered.sorted_eq hv).2⟩

theorem wellFormed (h : CanonicalEncoder encode) {v : Json} (hv : v.Keyed) : WellFormed (encode v) := by
  rw [h.eq_stringify_sorted hv]
  exact wellFormed_stringify v.sorted

end CanonicalEncoder

/-- Reading the text of each key's entry back from the entries is reading the entries. -/
theorem map_sortKeys_lookup {fields : Fields} (hnodup : (fields.map Prod.fst).Nodup) (encode : Json → JsString) :
    (Json.sortKeys (fields.map Prod.fst)).map (fun key =>
      quote key ++ 58 :: ((fields.map fun f => (f.1, encode f.2)).lookup key).getD []) =
      (sortOn Prod.fst fields).map fun f => quote f.1 ++ 58 :: encode f.2 := by
  rw [sortKeys_map, List.map_map]
  refine List.map_congr_left fun f hf => ?_
  have hmem : f ∈ fields := (perm_sortOn Prod.fst fields).mem_iff.mp hf
  have hlookup : (fields.map fun f => (f.1, encode f.2)).lookup f.1 = some (encode f.2) := by
    clear hf
    induction fields with
    | nil => cases hmem
    | cons g rest ih =>
      rw [List.map_cons, List.nodup_cons] at hnodup
      rw [List.map_cons, List.lookup_cons]
      rcases List.mem_cons.mp hmem with rfl | hmem
      · rw [beq_self_eq_true]
      · have hne : f.1 ≠ g.1 := fun heq => hnodup.1 (heq ▸ List.mem_map_of_mem hmem)
        rw [beq_false_of_ne hne]
        exact ih hnodup.2 hmem
  rw [Function.comp_apply, hlookup, Option.getD_some]

end Js
