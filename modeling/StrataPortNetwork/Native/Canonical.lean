import StrataPortNetwork.Js.Rebuild
import StrataPortNetwork.Js.Check

/-! # Canonical control values

`ordered` sorts the fields of every object and admits no number that is not a safe
integer. Printing its result gives the bytes that are hashed and signed, and parsing
these bytes gives the snapshot that is kept.
-/
namespace Native
open Js

/-- What the native port code throws. -/
inductive Failure
  | error (message : String)
  | typeError
  | syntaxError
  | crypto
  deriving DecidableEq, Repr

abbrev Outcome := Except Failure

mutual

def ordered : Json → Option Json
  | .num x => if x.safeInteger?.isSome then some (.num x) else none
  | .arr items => (orderedItems items).map .arr
  | .obj fields => (orderedFields fields).map fun fields => .obj (Json.canonicalFields fields)
  | v => some v

def orderedItems : List Json → Option (List Json)
  | [] => some []
  | v :: rest => (ordered v).bind fun v => (orderedItems rest).map (v :: ·)

def orderedFields : Fields → Option Fields
  | [] => some []
  | f :: rest => (ordered f.2).bind fun v => (orderedFields rest).map ((f.1, v) :: ·)

end

/-- `Buffer.from(JSON.stringify(ordered(value)))`. -/
def canonicalBytes (v : Json) : Outcome Bytes := do
  let v ← orThrow (ordered v) .typeError
  pure (utf8Encode (stringify v))

/-- `JSON.parse(canonicalBytes(value))`. -/
def snapshot (v : Json) : Outcome Json := do
  let bytes ← canonicalBytes v
  orThrow ((utf8Decode bytes).bind parse) .syntaxError

/-- The keys in order, joined by `|`. -/
def joinedKeys (keys : List JsString) : JsString := [124].intercalate (Json.sortKeys keys)

/-- `exactFields(value, fields)`. -/
def exactFields (v : Option Json) (fields : List String) : Outcome Unit :=
  ensure (match v with
    | some (.obj own) => joinedKeys (own.map Prod.fst) == joinedKeys (fields.map js)
    | _ => false) (.error "Native schema fields rejected")

/-! ## Ordered values are fixed points -/

theorem mem_of_orderedItems {items items' : List Json} (h : orderedItems items = some items')
    {v' : Json} (hv' : v' ∈ items') : ∃ v ∈ items, ordered v = some v' := by
  induction items generalizing items' with
  | nil =>
    simp only [orderedItems, Option.some.injEq] at h
    rw [← h] at hv'
    simp at hv'
  | cons v rest ih =>
    simp only [orderedItems, Option.bind_eq_some_iff, Option.map_eq_some_iff] at h
    obtain ⟨w, hw, rest', hrest, rfl⟩ := h
    rcases List.mem_cons.mp hv' with rfl | hv'
    · exact ⟨v, List.mem_cons_self, hw⟩
    · obtain ⟨u, hu, huv⟩ := ih hrest hv'
      exact ⟨u, List.mem_cons_of_mem v hu, huv⟩

theorem orderedItems_of_fixed {items : List Json} (h : ∀ v ∈ items, ordered v = some v) :
    orderedItems items = some items := by
  induction items with
  | nil => rfl
  | cons v rest ih =>
    rw [orderedItems, h v List.mem_cons_self, Option.bind_some,
      ih (fun w hw => h w (List.mem_cons_of_mem v hw)), Option.map_some]

theorem orderedFields_of_fixed {fields : Fields} (h : ∀ f ∈ fields, ordered f.2 = some f.2) :
    orderedFields fields = some fields := by
  induction fields with
  | nil => rfl
  | cons f rest ih =>
    rw [orderedFields, h f List.mem_cons_self, Option.bind_some,
      ih (fun w hw => h w (List.mem_cons_of_mem f hw)), Option.map_some]

theorem keys_orderedFields {fields fields' : Fields} (h : orderedFields fields = some fields') :
    fields'.map Prod.fst = fields.map Prod.fst := by
  induction fields generalizing fields' with
  | nil =>
    simp only [orderedFields, Option.some.injEq] at h
    rw [← h]
  | cons f rest ih =>
    simp only [orderedFields, Option.bind_eq_some_iff, Option.map_eq_some_iff] at h
    obtain ⟨v, -, rest', hrest, rfl⟩ := h
    rw [List.map_cons, List.map_cons, ih hrest]

/-- Ordering the fields orders the value under each key. -/
theorem lookup_orderedFields {fields fields' : Fields} (h : orderedFields fields = some fields')
    (k : JsString) : fields'.lookup k = (fields.lookup k).bind ordered := by
  induction fields generalizing fields' with
  | nil =>
    simp only [orderedFields, Option.some.injEq] at h
    rw [← h]
    rfl
  | cons f rest ih =>
    simp only [orderedFields, Option.bind_eq_some_iff, Option.map_eq_some_iff] at h
    obtain ⟨v, hv, rest', hrest, rfl⟩ := h
    rw [Json.lookup_cons, Json.lookup_cons]
    split
    · rw [Option.bind_some, hv]
    · exact ih hrest

theorem mem_of_lookup {fields : Fields} {k : JsString} {v : Json} (h : fields.lookup k = some v) :
    (k, v) ∈ fields := by
  induction fields with
  | nil => simp at h
  | cons f rest ih =>
    rw [Json.lookup_cons] at h
    split at h
    · rename_i hk
      rw [hk, ← Option.some.inj h]
      exact List.mem_cons_self
    · exact List.mem_cons_of_mem f (ih h)

theorem ownOrdered_canonicalFields (fields : Fields) : Json.OwnOrdered (Json.canonicalFields fields) :=
  Json.ownOrdered_fromEntries _

/-- Ordering is idempotent. -/
theorem ordered_ordered {v w : Json} (h : ordered v = some w) : ordered w = some w := by
  induction v using Json.inductionOn generalizing w with
  | null => cases h; rfl
  | bool b => cases h; rfl
  | num x =>
    simp only [ordered, Option.ite_none_right_eq_some, Option.some.injEq] at h
    obtain ⟨hx, rfl⟩ := h
    rw [ordered, if_pos hx]
  | str s => cases h; rfl
  | arr items ih =>
    simp only [ordered, Option.map_eq_some_iff] at h
    obtain ⟨items', hitems, rfl⟩ := h
    have hfix : ∀ v ∈ items', ordered v = some v := by
      intro v hv
      obtain ⟨u, hu, huv⟩ := mem_of_orderedItems hitems hv
      exact ih u hu huv
    rw [ordered, orderedItems_of_fixed hfix, Option.map_some]
  | obj fields ih =>
    simp only [ordered, Option.map_eq_some_iff] at h
    obtain ⟨fields', hfields, rfl⟩ := h
    have hfix : ∀ f ∈ Json.canonicalFields fields', ordered f.2 = some f.2 := by
      intro f hf
      have hl := Json.lookup_eq_some_of_mem (ownOrdered_canonicalFields fields').nodup hf
      rw [Json.lookup_canonicalFields, lookup_orderedFields hfields, Option.bind_eq_some_iff] at hl
      obtain ⟨u, hu, huf⟩ := hl
      exact ih (f.1, u) (mem_of_lookup hu) huf
    rw [ordered, orderedFields_of_fixed hfix, Option.map_some, Json.canonicalFields_idem]

/-- Parsing rebuilds an ordered value as it is. -/
theorem rebuild_ordered {v w : Json} (h : ordered v = some w) : w.rebuild = w := by
  induction v using Json.inductionOn generalizing w with
  | null => cases h; rfl
  | bool b => cases h; rfl
  | num x =>
    simp only [ordered, Option.ite_none_right_eq_some, Option.some.injEq] at h
    rw [← h.2]
    rfl
  | str s => cases h; rfl
  | arr items ih =>
    simp only [ordered, Option.map_eq_some_iff] at h
    obtain ⟨items', hitems, rfl⟩ := h
    rw [Json.rebuild, rebuildItems_of_fixed]
    intro v hv
    obtain ⟨u, hu, huv⟩ := mem_of_orderedItems hitems hv
    exact ih u hu huv
  | obj fields ih =>
    simp only [ordered, Option.map_eq_some_iff] at h
    obtain ⟨fields', hfields, rfl⟩ := h
    have hfix : ∀ f ∈ Json.canonicalFields fields', f.2.rebuild = f.2 := by
      intro f hf
      have hl := Json.lookup_eq_some_of_mem (ownOrdered_canonicalFields fields').nodup hf
      rw [Json.lookup_canonicalFields, lookup_orderedFields hfields, Option.bind_eq_some_iff] at hl
      obtain ⟨u, hu, huf⟩ := hl
      exact ih (f.1, u) (mem_of_lookup hu) huf
    rw [Json.rebuild, rebuildFields_of_fixed hfix,
      Json.fromEntries_of_ownOrdered (ownOrdered_canonicalFields fields')]

/-! ## Bytes and snapshots -/

theorem canonicalBytes_eq_ok {v : Json} {bytes : Bytes} :
    canonicalBytes v = .ok bytes ↔ ∃ w, ordered v = some w ∧ bytes = utf8Encode (stringify w) := by
  simp only [canonicalBytes, bind_eq_ok, orThrow_eq_ok, pure_eq_ok, eq_comm (a := bytes)]

/-- A snapshot is the ordered value. -/
theorem snapshot_eq (v : Json) : snapshot v = orThrow (ordered v) .typeError := by
  cases h : ordered v with
  | none => simp [snapshot, canonicalBytes, h, orThrow, bind, Except.bind]
  | some w =>
    have hread : (utf8Decode (utf8Encode (stringify w))).bind parse = some w := by
      rw [utf8Decode_utf8Encode (wellFormed_stringify w), Option.bind_some, parse_stringify,
        rebuild_ordered h]
    simp [snapshot, canonicalBytes, h, orThrow, bind, Except.bind, pure, Except.pure, hread]

theorem snapshot_eq_ok {v w : Json} : snapshot v = .ok w ↔ ordered v = some w := by
  rw [snapshot_eq, orThrow_eq_ok]

/-- Values with the same canonical bytes have the same snapshot. -/
theorem ordered_eq_of_canonicalBytes {v w : Json} {bytes : Bytes} (hv : canonicalBytes v = .ok bytes)
    (hw : canonicalBytes w = .ok bytes) : ordered v = ordered w := by
  obtain ⟨v', hv', hbv⟩ := canonicalBytes_eq_ok.mp hv
  obtain ⟨w', hw', hbw⟩ := canonicalBytes_eq_ok.mp hw
  rw [hv', hw', utf8_stringify_injective (hbv.symm.trans hbw)]

theorem canonicalBytes_congr {v w : Json} (h : ordered v = ordered w) :
    canonicalBytes v = canonicalBytes w := by
  rw [canonicalBytes, canonicalBytes, h]

theorem canonicalBytes_eq_iff {v w : Json} : canonicalBytes v = canonicalBytes w ↔ ordered v = ordered w := by
  refine ⟨fun h => ?_, canonicalBytes_congr⟩
  cases hv : ordered v with
  | some v' =>
    have hb : canonicalBytes v = .ok _ := canonicalBytes_eq_ok.mpr ⟨v', hv, rfl⟩
    rw [← hv]
    exact ordered_eq_of_canonicalBytes hb (h ▸ hb)
  | none => cases hw : ordered w with
    | none => rfl
    | some w' =>
      have hb : canonicalBytes w = .ok _ := canonicalBytes_eq_ok.mpr ⟨w', hw, rfl⟩
      obtain ⟨v', hv', -⟩ := canonicalBytes_eq_ok.mp (h.trans hb)
      rw [hv] at hv'
      exact absurd hv' (by simp)

/-- The fields of a snapshot are the snapshots of the fields. -/
theorem get_ordered {v w : Json} (h : ordered v = some w) (name : String) :
    w.get name = (v.get name).bind ordered := by
  cases v with
  | obj fields =>
    simp only [ordered, Option.map_eq_some_iff] at h
    obtain ⟨fields', hfields, rfl⟩ := h
    change (Json.canonicalFields fields').lookup (js name) = (fields.lookup (js name)).bind ordered
    rw [Json.lookup_canonicalFields, lookup_orderedFields hfields]
  | null => cases h; rfl
  | bool b => cases h; rfl
  | str s => cases h; rfl
  | num x =>
    simp only [ordered, Option.ite_none_right_eq_some, Option.some.injEq] at h
    rw [← h.2]
    rfl
  | arr items =>
    simp only [ordered, Option.map_eq_some_iff] at h
    obtain ⟨items', -, rfl⟩ := h
    rfl

@[simp] theorem ordered_str (s : JsString) : ordered (.str s) = some (.str s) := rfl
@[simp] theorem ordered_bool (b : Bool) : ordered (.bool b) = some (.bool b) := rfl
@[simp] theorem ordered_text (s : String) : ordered (Json.text s) = some (Json.text s) := rfl

theorem ordered_eq_str {v : Json} {s : JsString} (h : ordered v = some (.str s)) : v = .str s := by
  cases v with
  | str t => simpa using h
  | num x => simp [ordered] at h
  | arr items => simp [ordered] at h
  | obj fields => simp [ordered] at h
  | null => simp [ordered] at h
  | bool b => simp [ordered] at h

/-! ## Exact fields -/

theorem exactFields_eq_ok {v : Option Json} {fields : List String} {u : Unit} :
    exactFields v fields = .ok u ↔
      ∃ own, v = some (.obj own) ∧ joinedKeys (own.map Prod.fst) = joinedKeys (fields.map js) := by
  cases v with
  | none => simp [exactFields]
  | some v => cases v <;> simp [exactFields]

theorem sortKeys_congr {keys keys' : List JsString} (h : keys.Perm keys') :
    Json.sortKeys keys = Json.sortKeys keys' := by
  have hperm : (Json.sortKeys keys).Perm (Json.sortKeys keys') :=
    (List.perm_insertionSort _ keys).trans (h.trans (List.perm_insertionSort _ keys').symm)
  exact List.Perm.eq_of_pairwise (fun k k' _ _ => Json.leUnits_antisymm)
    (Json.pairwise_sortKeys keys) (Json.pairwise_sortKeys keys') hperm

/-- An object that holds each listed field once, and no other, has exactly these fields. -/
theorem exactFields_of_keys {own : Fields} {fields : List String} (hn : (own.map Prod.fst).Nodup)
    (hf : fields.Nodup) (h : ∀ k, k ∈ own.map Prod.fst ↔ k ∈ fields.map js) :
    exactFields (some (.obj own)) fields = .ok () := by
  have hperm : (own.map Prod.fst).Perm (fields.map js) :=
    (List.perm_ext_iff_of_nodup hn (hf.map js_injective)).mpr h
  exact exactFields_eq_ok.mpr ⟨own, rfl, by rw [joinedKeys, joinedKeys, sortKeys_congr hperm]⟩

/-! ## What a snapshot keeps -/

theorem mem_keys_canonicalFields {fields : Fields} {k : JsString} :
    k ∈ (Json.canonicalFields fields).map Prod.fst ↔ k ∈ fields.map Prod.fst := by
  have hlookup := Json.lookup_canonicalFields fields k
  constructor <;> intro hk
  · obtain ⟨v, hv⟩ := Json.lookup_isSome_of_mem_keys hk
    exact Json.mem_keys_of_lookup (hlookup.symm.trans hv)
  · obtain ⟨v, hv⟩ := Json.lookup_isSome_of_mem_keys hk
    exact Json.mem_keys_of_lookup (hlookup.trans hv)

theorem splitOn_intercalate_flatMap {x : UInt16} {ls : List JsString} (h : ls ≠ []) :
    ([x].intercalate ls).splitOn x = ls.flatMap (List.splitOn x) := by
  induction ls with
  | nil => exact absurd rfl h
  | cons s rest ih =>
    cases rest with
    | nil => simp
    | cons t rest =>
      rw [List.intercalate_cons_of_ne_nil (by simp), List.append_assoc, List.singleton_append,
        List.splitOn_append_cons_self, ih (by simp), List.flatMap_cons, List.flatMap_cons,
        List.flatMap_cons]

theorem length_le_flatMap {α β : Type} {f : α → List β} (hf : ∀ a, f a ≠ []) (l : List α) :
    l.length ≤ (l.flatMap f).length := by
  induction l with
  | nil => simp
  | cons a rest ih =>
    have hpos := List.length_pos_iff.mpr (hf a)
    rw [List.length_cons, List.flatMap_cons, List.length_append]
    omega

/-- Exact fields without the separator are the fields of distinct keys. -/
theorem nodup_of_exactFields {own : Fields} {fields : List String}
    (h : exactFields (some (.obj own)) fields = .ok ()) (hf : fields.Nodup) (hne : fields ≠ [])
    (hbar : ∀ f ∈ fields, (124 : UInt16) ∉ js f) :
    (own.map Prod.fst).Nodup ∧ own.length ≤ fields.length := by
  obtain ⟨own', hown, hkeys⟩ := exactFields_eq_ok.mp h
  simp only [Option.some.injEq, Json.obj.injEq] at hown
  subst hown
  have hperm : ∀ keys : List JsString, (Json.sortKeys keys).Perm keys := fun keys => List.perm_insertionSort _ keys
  have hfields : Json.sortKeys (fields.map js) ≠ [] := by
    intro heq
    have hlength := (hperm (fields.map js)).length_eq
    rw [heq, List.length_map, List.length_nil] at hlength
    exact hne (List.length_eq_zero_iff.mp hlength.symm)
  have hsplit : (joinedKeys (fields.map js)).splitOn 124 = Json.sortKeys (fields.map js) := by
    refine List.splitOn_intercalate 124 ?_ hfields
    intro k hk
    obtain ⟨f, hmem, rfl⟩ := List.mem_map.mp (Json.mem_sortKeys.mp hk)
    exact hbar f hmem
  by_cases hown : Json.sortKeys (own.map Prod.fst) = []
  · have hlength := (hperm (own.map Prod.fst)).length_eq
    rw [hown, List.length_map, List.length_nil] at hlength
    simp [List.length_eq_zero_iff.mp hlength.symm]
  · have hsegments : (Json.sortKeys (own.map Prod.fst)).flatMap (List.splitOn 124) = Json.sortKeys (fields.map js) := by
      rw [← splitOn_intercalate_flatMap hown, ← hsplit, ← hkeys, joinedKeys]
    have hnodup : ((Json.sortKeys (own.map Prod.fst)).flatMap (List.splitOn 124)).Nodup := by
      rw [hsegments]
      exact (hperm _).nodup_iff.mpr (hf.map js_injective)
    refine ⟨(hperm _).nodup_iff.mp ((List.nodup_flatMap.mp hnodup).2.imp ?_), ?_⟩
    · intro s t hdisjoint heq
      subst heq
      obtain ⟨w, hw⟩ := List.exists_mem_of_ne_nil _ (List.splitOn_ne_nil (124 : UInt16) s)
      exact hdisjoint hw hw
    · have hlength := congrArg List.length hsegments
      have hshort := length_le_flatMap (f := List.splitOn (124 : UInt16))
        (fun s => List.splitOn_ne_nil _ s) (Json.sortKeys (own.map Prod.fst))
      rw [hlength, (hperm _).length_eq, (hperm _).length_eq, List.length_map, List.length_map] at hshort
      exact hshort

theorem exactFields_ordered {v w : Json} (h : ordered v = some w) {fields : List String}
    (hv : exactFields (some v) fields = .ok ()) (hf : fields.Nodup) (hne : fields ≠ [])
    (hbar : ∀ f ∈ fields, (124 : UInt16) ∉ js f) : exactFields (some w) fields = .ok () := by
  obtain ⟨own, hown, hkeys⟩ := exactFields_eq_ok.mp hv
  simp only [Option.some.injEq] at hown
  subst hown
  simp only [ordered, Option.map_eq_some_iff] at h
  obtain ⟨own', hown', rfl⟩ := h
  have hnodup := (nodup_of_exactFields hv hf hne hbar).1
  have hsame : (Json.canonicalFields own').map Prod.fst |>.Perm (own.map Prod.fst) := by
    refine (List.perm_ext_iff_of_nodup (ownOrdered_canonicalFields _).nodup hnodup).mpr ?_
    intro k
    rw [mem_keys_canonicalFields, keys_orderedFields hown']
  refine exactFields_eq_ok.mpr ⟨_, rfl, ?_⟩
  rw [← hkeys, joinedKeys, joinedKeys, sortKeys_congr hsame]

theorem isNull_ordered {v w : Json} (h : ordered v = some w) : w.isNull = v.isNull := by
  cases v with
  | null => cases h; rfl
  | bool b => cases h; rfl
  | str s => cases h; rfl
  | num x =>
    simp only [ordered, Option.ite_none_right_eq_some, Option.some.injEq] at h
    rw [← h.2]
  | arr items =>
    simp only [ordered, Option.map_eq_some_iff] at h
    obtain ⟨items', -, rfl⟩ := h
    rfl
  | obj fields =>
    simp only [ordered, Option.map_eq_some_iff] at h
    obtain ⟨fields', -, rfl⟩ := h
    rfl

/-- A snapshot coerces to the same string. -/
theorem toStr?_ordered {v w : Json} (h : ordered v = some w) : w.toStr? = v.toStr? := by
  induction v using Json.inductionOn generalizing w with
  | null => cases h; rfl
  | bool b => cases h; rfl
  | str s => cases h; rfl
  | num x =>
    simp only [ordered, Option.ite_none_right_eq_some, Option.some.injEq] at h
    rw [← h.2]
  | arr items ih =>
    simp only [ordered, Option.map_eq_some_iff] at h
    obtain ⟨items', hitems, rfl⟩ := h
    change Json.joinItems? items' = Json.joinItems? items
    induction items generalizing items' with
    | nil =>
      simp only [orderedItems, Option.some.injEq] at hitems
      rw [← hitems]
    | cons v rest ihrest =>
      simp only [orderedItems, Option.bind_eq_some_iff, Option.map_eq_some_iff] at hitems
      obtain ⟨v', hv', rest', hrest, rfl⟩ := hitems
      have hjoin := ihrest (fun u hu => ih u (List.mem_cons_of_mem v hu)) rest' hrest
      have hhead := ih v List.mem_cons_self hv'
      cases rest with
      | nil =>
        simp only [orderedItems, Option.some.injEq] at hrest
        subst hrest
        simp only [Json.joinItems?, isNull_ordered hv', hhead]
      | cons u rest =>
        simp only [orderedItems, Option.bind_eq_some_iff, Option.map_eq_some_iff] at hrest
        obtain ⟨u', -, rest'', -, rfl⟩ := hrest
        simp only [Json.joinItems?, isNull_ordered hv', hhead] at hjoin ⊢
        simp only [hjoin]
  | obj fields =>
    simp only [ordered, Option.map_eq_some_iff] at h
    obtain ⟨fields', hfields, rfl⟩ := h
    simp only [Json.toStr?, mem_keys_canonicalFields, keys_orderedFields hfields]

/-- A snapshot passes the same patterns. -/
theorem test_ordered {v : Option Json} {w : Option Json} (h : w = v.bind ordered)
    (hv : ∀ u, v = some u → (ordered u).isSome = true) (pattern : Regex) : pattern.test w = pattern.test v := by
  subst h
  cases v with
  | none => rfl
  | some u =>
    obtain ⟨u', hu'⟩ := Option.isSome_iff_exists.mp (hv u rfl)
    rw [Option.bind_some, hu']
    simp only [Regex.test, toStr?_ordered hu']

/-! ## Values that have a snapshot -/

theorem ordered_obj_isSome {fields : Fields} :
    (ordered (.obj fields)).isSome = true ↔ ∀ f ∈ fields, (ordered f.2).isSome = true := by
  rw [ordered, Option.isSome_map]
  induction fields with
  | nil => simp [orderedFields]
  | cons f rest ih =>
    rw [List.forall_mem_cons, ← ih, orderedFields]
    cases ordered f.2 with
    | none => simp
    | some v => simp

theorem ordered_record_isSome {fields : List (String × Json)} :
    (ordered (.record fields)).isSome = true ↔ ∀ f ∈ fields, (ordered f.2).isSome = true := by
  rw [Json.record, ordered_obj_isSome, List.forall_mem_map]

/-- Replacing a field by a value with a snapshot keeps the snapshot. -/
theorem ordered_set_isSome {value v : Json} (hvalue : (ordered value).isSome = true)
    (hv : (ordered v).isSome = true) (name : String) : (ordered (value.set name v)).isSome = true := by
  refine ordered_obj_isSome.mpr ?_
  intro f hf
  rcases mem_setField hf with rfl | hf
  · exact hv
  · cases value with
    | obj fields => exact ordered_obj_isSome.mp hvalue f hf
    | null => simp [Json.fields] at hf
    | bool b => simp [Json.fields] at hf
    | num x => simp [Json.fields] at hf
    | str s => simp [Json.fields] at hf
    | arr items => simp [Json.fields] at hf

end Native
