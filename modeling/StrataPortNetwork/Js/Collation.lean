import StrataPortNetwork.Js.KeyOrder

/-! # Keys in the order of a locale

`localeCompare` orders strings by a collation, which may let different strings compare as
equal. A text with the entries of objects in that order reads back as the value, up to the order
of keys.
-/
namespace Js

/-- `localeCompare(a, b) <= 0`. -/
structure Collation where
  le : JsString → JsString → Bool
  total : ∀ a b, le a b = true ∨ le b a = true
  trans : ∀ a b c, le a b = true → le b c = true → le a c = true

/-- `items.sort((a, b) => key(a).localeCompare(key(b)))`. -/
def Collation.sortOn {α : Type} (collation : Collation) (key : α → JsString) (items : List α) : List α :=
  items.insertionSort fun a b => collation.le (key a) (key b) = true

theorem Collation.sortOn_map {α β : Type} (collation : Collation) (key : α → JsString) (f : β → α) (items : List β) :
    collation.sortOn key (items.map f) = (collation.sortOn (key ∘ f) items).map f :=
  (List.map_insertionSort _ _ f items fun _ _ _ _ => Iff.rfl).symm

/-- A key of ASCII letters and digits. -/
def isPlainKey (key : JsString) : Bool :=
  key.all fun u => (48 ≤ u.toNat && u.toNat ≤ 57) || (65 ≤ u.toNat && u.toNat ≤ 90) || (97 ≤ u.toNat && u.toNat ≤ 122)

/-- Plain keys that compare as equal are equal. -/
def Collation.Separates (collation : Collation) : Prop :=
  ∀ a b, isPlainKey a = true → isPlainKey b = true → collation.le a b = true → collation.le b a = true → a = b

/-- Sorting forgets the order of entries with distinct plain keys. -/
theorem Collation.sortOn_congr {collation : Collation} (hseparates : collation.Separates) {fields fields' : Fields}
    (hnodup : (fields.map Prod.fst).Nodup) (hplain : ∀ f ∈ fields, isPlainKey f.1 = true) (h : fields.Perm fields') :
    collation.sortOn Prod.fst fields = collation.sortOn Prod.fst fields' := by
  have : Std.Total fun a b : JsString × Json => collation.le a.1 b.1 = true := ⟨fun _ _ => collation.total _ _⟩
  have : IsTrans (JsString × Json) fun a b => collation.le a.1 b.1 = true := ⟨fun _ _ _ => collation.trans _ _ _⟩
  have hsorted : ∀ l : Fields, (collation.sortOn Prod.fst l).Perm l := fun l => List.perm_insertionSort _ l
  refine List.Perm.eq_of_pairwise (fun a b ha hb hab hba => ?_) (List.pairwise_insertionSort _ fields)
    (List.pairwise_insertionSort _ fields') ((hsorted fields).trans (h.trans (hsorted fields').symm))
  have ha' : a ∈ fields := (hsorted fields).mem_iff.mp ha
  have hb' : b ∈ fields := h.mem_iff.mpr ((hsorted fields').mem_iff.mp hb)
  exact List.inj_on_of_nodup_map hnodup ha' hb' (hseparates _ _ (hplain a ha') (hplain b hb') hab hba)

namespace Json
variable (collation : Collation)

mutual

/-- The value with the keys of every object in the order of the collation. -/
def collated : Json → Json
  | .null => .null
  | .bool b => .bool b
  | .num x => .num x
  | .str s => .str s
  | .arr items => .arr (collatedItems items)
  | .obj fields => .obj (collation.sortOn Prod.fst (collatedFields fields))

def collatedItems : List Json → List Json
  | [] => []
  | v :: rest => v.collated :: collatedItems rest

def collatedFields : Fields → Fields
  | [] => []
  | f :: rest => (f.1, f.2.collated) :: collatedFields rest

end

theorem collatedItems_eq_map (items : List Json) : collatedItems collation items = items.map (collated collation) := by
  induction items with
  | nil => rfl
  | cons v rest ih => rw [collatedItems, ih, List.map_cons]

theorem collatedFields_eq_map (fields : Fields) :
    collatedFields collation fields = fields.map fun f => (f.1, f.2.collated collation) := by
  induction fields with
  | nil => rfl
  | cons f rest ih => rw [collatedFields, ih, List.map_cons]

theorem reordered_collated (v : Json) : Reordered v (v.collated collation) := by
  induction v using Json.inductionOn with
  | null | bool _ | num _ | str _ => exact .refl _
  | arr items ih =>
    rw [collated, collatedItems_eq_map]
    exact reordered_items [] ih
  | obj fields ih =>
    rw [collated, collatedFields_eq_map]
    exact (reordered_fields [] ih).trans (.perm (List.perm_insertionSort _ _).symm)

theorem reordered_of_collated_eq {v w : Json} (h : v.collated collation = w.collated collation) : Reordered v w :=
  (reordered_collated collation v).trans (h ▸ (reordered_collated collation w).symm)

/-- The keys of every object are distinct and plain. -/
inductive PlainKeys : Json → Prop
  | null : PlainKeys .null
  | bool (b : Bool) : PlainKeys (.bool b)
  | num (x : JsNumber) : PlainKeys (.num x)
  | str (s : JsString) : PlainKeys (.str s)
  | arr {items : List Json} (h : ∀ v ∈ items, PlainKeys v) : PlainKeys (.arr items)
  | obj {fields : Fields} (hnodup : (fields.map Prod.fst).Nodup) (hplain : ∀ f ∈ fields, isPlainKey f.1 = true)
      (h : ∀ f ∈ fields, PlainKeys f.2) : PlainKeys (.obj fields)

theorem PlainKeys.record {fields : List (String × Json)} (hnodup : (fields.map Prod.fst).Nodup)
    (hplain : ∀ name ∈ fields.map Prod.fst, isPlainKey (js name) = true) (h : ∀ f ∈ fields, PlainKeys f.2) :
    PlainKeys (.record fields) := by
  refine .obj ?_ ?_ ?_
  · rw [List.map_map]
    change (fields.map (js ∘ Prod.fst)).Nodup
    rw [← List.map_map]
    exact hnodup.map js_injective
  · exact List.forall_mem_map.mpr fun f hf => hplain _ (List.mem_map_of_mem hf)
  · exact List.forall_mem_map.mpr h

theorem PlainKeys.keyed {v : Json} (h : PlainKeys v) : Keyed v := by
  induction h with
  | null => exact .null
  | bool b => exact .bool b
  | num x => exact .num x
  | str s => exact .str s
  | arr _ ih => exact .arr ih
  | obj hnodup _ _ ih => exact .obj hnodup ih

theorem PlainKeys.get {v u : Json} (h : PlainKeys v) {name : String} (hget : v.get name = some u) : PlainKeys u := by
  cases h with
  | obj _ _ hfields => exact hfields _ (mem_of_lookup hget)
  | null | bool _ | num _ | str _ | arr _ => cases hget

variable {collation} in
/-- Values with plain keys that are equal up to the order of keys have one canonical order. -/
theorem Reordered.collated_eq (hseparates : collation.Separates) {v w : Json} (h : Reordered v w) (hv : PlainKeys v) :
    PlainKeys w ∧ v.collated collation = w.collated collation := by
  induction h with
  | refl v => exact ⟨hv, rfl⟩
  | perm h =>
    cases hv with
    | obj hnodup hplain hfields =>
      refine ⟨.obj ((h.map Prod.fst).nodup_iff.mp hnodup) (fun f hf => hplain f (h.mem_iff.mpr hf))
        fun f hf => hfields f (h.mem_iff.mpr hf), ?_⟩
      simp only [collated, collatedFields_eq_map]
      rw [Collation.sortOn_congr hseparates _ _ (h.map _)]
      · rw [List.map_map]
        exact hnodup
      · exact List.forall_mem_map.mpr hplain
  | @item v w before after _ ih =>
    cases hv with
    | arr hitems =>
      obtain ⟨hw, heq⟩ := ih (hitems v (List.mem_append_right _ List.mem_cons_self))
      refine ⟨.arr fun u hu => ?_, ?_⟩
      · rcases List.mem_append.mp hu with hu | hu
        · exact hitems u (List.mem_append_left _ hu)
        · rcases List.mem_cons.mp hu with rfl | hu
          · exact hw
          · exact hitems u (List.mem_append_right _ (List.mem_cons_of_mem v hu))
      · simp only [collated, collatedItems_eq_map, List.map_append, List.map_cons, heq]
  | @field v w before key after _ ih =>
    cases hv with
    | obj hnodup hplain hfields =>
      obtain ⟨hw, heq⟩ := ih (hfields (key, v) (List.mem_append_right _ List.mem_cons_self))
      have hentry : ∀ {P : JsString × Json → Prop}, (∀ f ∈ before ++ (key, v) :: after, P f) → P (key, w) →
          ∀ f ∈ before ++ (key, w) :: after, P f := by
        intro P hP hkey f hf
        rcases List.mem_append.mp hf with hf | hf
        · exact hP f (List.mem_append_left _ hf)
        · rcases List.mem_cons.mp hf with rfl | hf
          · exact hkey
          · exact hP f (List.mem_append_right _ (List.mem_cons_of_mem _ hf))
      refine ⟨.obj ?_ (hentry hplain ?_) (hentry hfields hw), ?_⟩
      · simpa using hnodup
      · exact hplain (key, v) (List.mem_append_right _ List.mem_cons_self)
      · simp only [collated, collatedFields_eq_map, List.map_append, List.map_cons, heq]
  | trans _ _ ih ih' =>
    obtain ⟨hv', heq⟩ := ih hv
    obtain ⟨hw, heq'⟩ := ih' hv'
    exact ⟨hw, heq.trans heq'⟩

/-! ## Values read back -/

theorem perm_foldl_setField {entries fields : Fields} (h : ((fields ++ entries).map Prod.fst).Nodup) :
    (entries.foldl (fun fields f => setField f.1 f.2 fields) fields).Perm (fields ++ entries) := by
  induction entries generalizing fields with
  | nil => rw [List.append_nil]; rfl
  | cons f rest ih =>
    have hmiddle : (fields ++ f :: rest).Perm (f :: fields ++ rest) := List.perm_middle
    have hcons : ((f :: fields ++ rest).map Prod.fst).Nodup := (hmiddle.map Prod.fst).nodup_iff.mp h
    have hfresh : f.1 ∉ fields.map Prod.fst := by
      rw [List.cons_append, List.map_cons, List.nodup_cons, List.map_append, List.mem_append] at hcons
      exact fun hmem => hcons.1 (.inl hmem)
    have hinsert : (setField f.1 f.2 fields).Perm (f :: fields) := by
      rw [setField, if_neg hfresh]
      exact perm_insertNew f.1 f.2 fields
    rw [List.foldl_cons]
    refine (ih ?_).trans ((hinsert.append_right rest).trans hmiddle.symm)
    exact ((hinsert.append_right rest).map Prod.fst).nodup_iff.mpr hcons

/-- A value with distinct keys keeps its entries in memory. -/
theorem Keyed.reordered_rebuild {v : Json} (h : Keyed v) : Reordered v v.rebuild := by
  induction v using Json.inductionOn with
  | null | bool _ | num _ | str _ => exact .refl _
  | arr items ih =>
    cases h with
    | arr hitems =>
      rw [rebuild, rebuildItems_eq_map]
      exact reordered_items [] fun v hv => ih v hv (hitems v hv)
  | obj fields ih =>
    cases h with
    | obj hnodup hfields =>
      rw [rebuild]
      have hentries : ((rebuildFields fields).map Prod.fst).Nodup := by
        rw [rebuildFields_eq_map, List.map_map]
        exact hnodup
      have hperm : (fromEntries (rebuildFields fields)).Perm (rebuildFields fields) := perm_foldl_setField hentries
      refine .trans ?_ (.perm hperm.symm)
      rw [rebuildFields_eq_map]
      exact reordered_fields [] fun f hf => ih f hf (hfields f hf)

/-- What is read back from the text of a value. -/
theorem Keyed.parse_collated {v : Json} (h : Keyed v) :
    ∃ w, parse (stringify (v.collated collation)) = some w ∧ Reordered v w ∧ Keyed w := by
  have hcollated := reordered_collated collation v
  have hkeyed := (hcollated.sorted_eq h).1
  exact ⟨_, parse_stringify _, hcollated.trans hkeyed.reordered_rebuild, keyed_rebuild _⟩

def isScalar : Json → Bool
  | .arr _ => false
  | .obj _ => false
  | _ => true

/-- A scalar has no order of keys. -/
theorem eq_of_sorted_scalar {u u' : Json} (hu : u.isScalar = true) (h : u'.sorted = u.sorted) : u' = u := by
  cases u <;> cases u' <;> simp_all [sorted, isScalar]

theorem Reordered.get_some {v w : Json} (h : Reordered v w) (hv : Keyed v) {name : String} {u : Json}
    (hget : v.get name = some u) : ∃ u', w.get name = some u' ∧ Reordered u u' ∧ (u.isScalar = true → u' = u) := by
  have hsame := h.get_sorted hv name
  rw [hget, Option.map_some] at hsame
  obtain ⟨u', hu', hsorted⟩ := Option.map_eq_some_iff.mp hsame.symm
  exact ⟨u', hu', reordered_of_sorted_eq hsorted.symm, fun hscalar => eq_of_sorted_scalar hscalar hsorted⟩

theorem Reordered.get_scalar {v w : Json} (h : Reordered v w) (hv : Keyed v) {name : String} {u : Json}
    (hget : v.get name = some u) (hscalar : u.isScalar = true) : w.get name = some u := by
  obtain ⟨u', hu', -, heq⟩ := h.get_some hv hget
  rw [hu', heq hscalar]

/-- The properties of a record of scalars do not depend on the order of its keys. -/
theorem Reordered.get_flat {v w : Json} (h : Reordered v w) (hv : Keyed v) (hflat : ∀ f ∈ v.fields, f.2.isScalar = true)
    (name : String) : w.get name = v.get name := by
  cases hget : v.get name with
  | none =>
    have hsame := h.get_sorted hv name
    rw [hget, Option.map_none] at hsame
    exact Option.map_eq_none_iff.mp hsame.symm
  | some u => exact h.get_scalar hv hget (hflat _ (mem_of_lookup hget))

end Json

end Js
