import StrataPortNetwork.Js.Collation
import StrataPortNetwork.Native.Sample

/-! # Canonical bytes and signed envelopes

Values whose numbers are safe integers have canonical bytes, which are the same exactly for values
equal up to the order of keys, and which read back as the value. A signed envelope verifies in any
order of its keys.
-/
namespace Native
open Js
open Json (Keyed Reordered)

/-- Every number is a safe integer. -/
inductive SafeIntegers : Json → Prop
  | null : SafeIntegers .null
  | bool (b : Bool) : SafeIntegers (.bool b)
  | num {x : JsNumber} (h : x.safeInteger?.isSome = true) : SafeIntegers (.num x)
  | str (s : JsString) : SafeIntegers (.str s)
  | arr {items : List Json} (h : ∀ v ∈ items, SafeIntegers v) : SafeIntegers (.arr items)
  | obj {fields : Fields} (h : ∀ f ∈ fields, SafeIntegers f.2) : SafeIntegers (.obj fields)

/-! ## Ordering succeeds -/

theorem orderedItems_isSome {items : List Json} (h : ∀ v ∈ items, ∃ u, ordered v = some u) : ∃ items', orderedItems items = some items' := by
  induction items with
  | nil => exact ⟨[], rfl⟩
  | cons v rest ih =>
    obtain ⟨u, hu⟩ := h v List.mem_cons_self
    obtain ⟨rest', hrest⟩ := ih fun w hw => h w (List.mem_cons_of_mem v hw)
    exact ⟨u :: rest', by rw [orderedItems, hu, Option.bind_some, hrest, Option.map_some]⟩

theorem orderedFields_isSome {fields : Fields} (h : ∀ f ∈ fields, ∃ u, ordered f.2 = some u) :
    ∃ fields', orderedFields fields = some fields' := by
  induction fields with
  | nil => exact ⟨[], rfl⟩
  | cons f rest ih =>
    obtain ⟨u, hu⟩ := h f List.mem_cons_self
    obtain ⟨rest', hrest⟩ := ih fun g hg => h g (List.mem_cons_of_mem f hg)
    exact ⟨(f.1, u) :: rest', by rw [orderedFields, hu, Option.bind_some, hrest, Option.map_some]⟩

theorem SafeIntegers.ordered {v : Json} (h : SafeIntegers v) : ∃ u, ordered v = some u := by
  induction h with
  | null => exact ⟨_, rfl⟩
  | bool b => exact ⟨_, rfl⟩
  | @num x h => exact ⟨.num x, by rw [Native.ordered, if_pos h]⟩
  | str s => exact ⟨_, rfl⟩
  | arr _ ih =>
    obtain ⟨items', hitems⟩ := orderedItems_isSome ih
    exact ⟨.arr items', by rw [Native.ordered, hitems, Option.map_some]⟩
  | obj _ ih =>
    obtain ⟨fields', hfields⟩ := orderedFields_isSome ih
    exact ⟨.obj (Json.canonicalFields fields'), by rw [Native.ordered, hfields, Option.map_some]⟩

/-! ## Ordering keeps the entries -/

theorem reordered_of_orderedItems {items items' : List Json} (before : List Json) (h : orderedItems items = some items')
    (hitems : ∀ v ∈ items, ∀ u, ordered v = some u → Reordered v u) : Reordered (.arr (before ++ items)) (.arr (before ++ items')) := by
  induction items generalizing before items' with
  | nil =>
    cases h
    exact .refl _
  | cons v rest ih =>
    simp only [orderedItems, Option.bind_eq_some_iff, Option.map_eq_some_iff] at h
    obtain ⟨u, hu, rest', hrest, rfl⟩ := h
    refine .trans (.item before rest (hitems v List.mem_cons_self u hu)) ?_
    have htail := ih (before ++ [u]) hrest fun w hw => hitems w (List.mem_cons_of_mem v hw)
    rwa [List.append_assoc, List.append_assoc] at htail

theorem reordered_of_orderedFields {fields fields' : Fields} (before : Fields) (h : orderedFields fields = some fields')
    (hfields : ∀ f ∈ fields, ∀ u, ordered f.2 = some u → Reordered f.2 u) :
    Reordered (.obj (before ++ fields)) (.obj (before ++ fields')) := by
  induction fields generalizing before fields' with
  | nil =>
    cases h
    exact .refl _
  | cons f rest ih =>
    simp only [orderedFields, Option.bind_eq_some_iff, Option.map_eq_some_iff] at h
    obtain ⟨u, hu, rest', hrest, rfl⟩ := h
    refine .trans (.field before f.1 rest (hfields f List.mem_cons_self u hu)) ?_
    have htail := ih (before ++ [(f.1, u)]) hrest fun g hg => hfields g (List.mem_cons_of_mem f hg)
    rwa [List.append_assoc, List.append_assoc] at htail

/-- Canonical fields are the fields in another order. -/
theorem perm_canonicalFields {fields : Fields} (hnodup : (fields.map Prod.fst).Nodup) : fields.Perm (Json.canonicalFields fields) := by
  have hcanonical := (ownOrdered_canonicalFields fields).nodup
  refine (List.perm_ext_iff_of_nodup (List.Nodup.of_map _ hnodup) (List.Nodup.of_map _ hcanonical)).mpr fun f => ?_
  have hlookup := Json.lookup_canonicalFields fields f.1
  constructor
  · exact fun hf => Json.mem_of_lookup (hlookup.trans (Json.lookup_eq_some_of_mem hnodup hf))
  · exact fun hf => Json.mem_of_lookup (hlookup.symm.trans (Json.lookup_eq_some_of_mem hcanonical hf))

/-- The ordered value is the value up to the order of keys. -/
theorem reordered_ordered {v u : Json} (hv : Keyed v) (h : ordered v = some u) : Reordered v u := by
  induction v using Json.inductionOn generalizing u with
  | null => cases h; exact .refl _
  | bool b => cases h; exact .refl _
  | num x =>
    simp only [ordered, Option.ite_none_right_eq_some, Option.some.injEq] at h
    rw [← h.2]
    exact .refl _
  | str s => cases h; exact .refl _
  | arr items ih =>
    simp only [ordered, Option.map_eq_some_iff] at h
    obtain ⟨items', hitems, rfl⟩ := h
    cases hv with
    | arr hkeyed => exact reordered_of_orderedItems [] hitems fun v hv u hu => ih v hv (hkeyed v hv) hu
  | obj fields ih =>
    simp only [ordered, Option.map_eq_some_iff] at h
    obtain ⟨fields', hfields, rfl⟩ := h
    cases hv with
    | obj hnodup hkeyed =>
      refine .trans (reordered_of_orderedFields [] hfields fun f hf u hu => ih f hf (hkeyed f hf) hu) (.perm ?_)
      exact perm_canonicalFields (by rwa [List.nil_append, keys_orderedFields hfields])

/-! ## Ordering forgets the order of keys -/

theorem orderedFields_perm {fields fields' : Fields} (h : fields.Perm fields') {out : Fields} (hout : orderedFields fields = some out) :
    ∃ out', orderedFields fields' = some out' ∧ out.Perm out' := by
  induction h generalizing out with
  | nil => exact ⟨out, hout, .refl _⟩
  | cons f _ ih =>
    simp only [orderedFields, Option.bind_eq_some_iff, Option.map_eq_some_iff] at hout
    obtain ⟨u, hu, rest, hrest, rfl⟩ := hout
    obtain ⟨rest', hrest', hperm⟩ := ih hrest
    exact ⟨(f.1, u) :: rest', by rw [orderedFields, hu, Option.bind_some, hrest', Option.map_some], hperm.cons _⟩
  | swap f g rest =>
    simp only [orderedFields, Option.bind_eq_some_iff, Option.map_eq_some_iff] at hout
    obtain ⟨u, hu, -, ⟨u', hu', rest', hrest, rfl⟩, rfl⟩ := hout
    exact ⟨(f.1, u') :: (g.1, u) :: rest', by simp only [orderedFields, hu, hu', hrest, Option.bind_some, Option.map_some], .swap _ _ _⟩
  | trans _ _ ih ih' =>
    obtain ⟨middle, hmiddle, hperm⟩ := ih hout
    obtain ⟨out', hout', hperm'⟩ := ih' hmiddle
    exact ⟨out', hout', hperm.trans hperm'⟩

theorem orderedItems_congr {v w : Json} (h : ordered v = ordered w) (before after : List Json) :
    orderedItems (before ++ v :: after) = orderedItems (before ++ w :: after) := by
  induction before with
  | nil => rw [List.nil_append, List.nil_append, orderedItems, orderedItems, h]
  | cons u rest ih => rw [List.cons_append, List.cons_append, orderedItems, orderedItems, ih]

theorem orderedFields_congr {v w : Json} (h : ordered v = ordered w) (before : Fields) (key : JsString) (after : Fields) :
    orderedFields (before ++ (key, v) :: after) = orderedFields (before ++ (key, w) :: after) := by
  induction before with
  | nil => rw [List.nil_append, List.nil_append, orderedFields, orderedFields, h]
  | cons f rest ih => rw [List.cons_append, List.cons_append, orderedFields, orderedFields, ih]

theorem ordered_of_perm {fields fields' : Fields} (hnodup : (fields.map Prod.fst).Nodup) (h : fields.Perm fields') {u : Json}
    (hu : ordered (.obj fields) = some u) : ordered (.obj fields') = some u := by
  simp only [ordered, Option.map_eq_some_iff] at hu ⊢
  obtain ⟨out, hout, rfl⟩ := hu
  obtain ⟨out', hout', hperm⟩ := orderedFields_perm h hout
  refine ⟨out', hout', congrArg Json.obj (Json.canonicalFields_congr fun k => ?_)⟩
  exact (Json.lookup_of_perm (by rwa [keys_orderedFields hout]) hperm k).symm

theorem ordered_congr {v w : Json} (hv : Keyed v) (h : Reordered v w) : ordered v = ordered w := by
  induction h with
  | refl v => rfl
  | perm h =>
    cases hv with
    | obj hnodup _ =>
      apply Option.ext
      intro u
      exact ⟨ordered_of_perm hnodup h, ordered_of_perm ((h.map Prod.fst).nodup_iff.mp hnodup) h.symm⟩
  | item before after _ ih =>
    cases hv with
    | arr hitems =>
      rw [ordered, ordered, orderedItems_congr (ih (hitems _ (List.mem_append_right _ List.mem_cons_self)))]
  | field before key after _ ih =>
    cases hv with
    | obj _ hfields =>
      rw [ordered, ordered, orderedFields_congr (ih (hfields (key, _) (List.mem_append_right _ List.mem_cons_self)))]
  | trans h h' ih ih' => exact (ih hv).trans (ih' (h.sorted_eq hv).1)

/-! ## Envelopes in any order -/

/-- Objects that are equal up to the order of keys have the same keys. -/
theorem sortKeys_of_reordered {own : Fields} {w : Json} (hv : Keyed (.obj own)) (h : Reordered (.obj own) w) :
    ∃ own', w = .obj own' ∧ Json.sortKeys (own.map Prod.fst) = Json.sortKeys (own'.map Prod.fst) := by
  have hsorted := (h.sorted_eq hv).2
  cases w with
  | obj own' =>
    simp only [Json.sorted, Json.obj.injEq] at hsorted
    have hkeys : ∀ fields : Fields, Json.sortKeys (fields.map Prod.fst) = (sortOn Prod.fst (Json.sortedFields fields)).map Prod.fst := by
      intro fields
      rw [← sortKeys_map, Json.keys_sortedFields]
    exact ⟨own', rfl, by rw [hkeys, hkeys, hsorted]⟩
  | null | bool _ | num _ | str _ | arr _ => simp [Json.sorted] at hsorted

theorem exactFields_congr {v w : Json} (hv : Keyed v) (h : Reordered v w) (fields : List String)
    (hok : exactFields (some v) fields = .ok ()) : exactFields (some w) fields = .ok () := by
  obtain ⟨own, hown, hkeys⟩ := exactFields_eq_ok.mp hok
  cases hown
  obtain ⟨own', rfl, hsame⟩ := sortKeys_of_reordered hv h
  refine exactFields_eq_ok.mpr ⟨own', rfl, ?_⟩
  rw [← hkeys, joinedKeys, joinedKeys, hsame]

section
variable {crypto : Crypto}

theorem keyed_of_get {v u : Json} (h : Keyed v) {name : String} (hget : v.get name = some u) : Keyed u := by
  cases h with
  | obj _ hfields => exact hfields _ (Json.mem_of_lookup hget)
  | null | bool _ | num _ | str _ | arr _ => cases hget

/-- An envelope that verifies, verifies in any order of its keys, with the same body. -/
theorem verifyEnvelope_congr {envelope envelope' body : Json} {expectedId publicKey : Option Json} (hkeyed : Keyed envelope)
    (h : Reordered envelope envelope') (hok : verifyEnvelope crypto envelope expectedId publicKey = .ok body) :
    verifyEnvelope crypto envelope' expectedId publicKey = .ok body := by
  simp only [verifyEnvelope, bind_eq_ok, orThrow_eq_ok, ensure_eq_ok, snapshot_eq_ok, canonicalBytes_eq_ok,
    Json.bind_str?_eq_some] at hok ⊢
  obtain ⟨⟨⟩, hfields, id, hid, ⟨⟩, hexpected, text, htext, ⟨⟩, hlength, ⟨⟩, hcanonical, raw, hraw, bytes, ⟨copy, hcopy, hbytes⟩, key,
    hkey, ⟨⟩, hverify, hbody⟩ := hok
  obtain ⟨raw', hraw', hsame, -⟩ := h.get_some hkeyed hraw
  have hordered : ordered raw' = ordered raw := (ordered_congr (keyed_of_get hkeyed hraw) hsame).symm
  have htext' : envelope'.get "signature" = some (.str text) := h.get_scalar hkeyed htext rfl
  exact ⟨(), exactFields_congr hkeyed h _ hfields, id, hid, (), hexpected, text, htext', (), hlength, (), hcanonical, raw', hraw',
    bytes, ⟨copy, hordered.trans hcopy, hbytes⟩, key, hkey, (), hverify, hordered.trans hbody⟩

end

/-- Values whose numbers are safe integers: the canonical bytes are the same exactly for values equal up to the order of keys,
they read back as the value, and what any identity signs verifies in any order of keys and gives the value back. -/
theorem canonical_and_signed (crypto : Crypto) {v w : Json} (hv : Keyed v) (hw : Keyed w) (hvs : SafeIntegers v) (hws : SafeIntegers w) :
    (canonicalBytes v = canonicalBytes w ↔ Reordered v w) ∧
      (∃ bytes u, canonicalBytes v = .ok bytes ∧ (utf8Decode bytes).bind parse = some u ∧ Reordered v u) ∧
      ∀ identity : Identity crypto, ∃ envelope, identity.sign v = .ok envelope ∧ ∀ envelope', Reordered envelope envelope' →
        ∃ u, verifyEnvelope crypto envelope' (some (.str identity.id)) (some (.str identity.publicKey)) = .ok u ∧ Reordered v u := by
  obtain ⟨u, hu⟩ := hvs.ordered
  obtain ⟨u', hu'⟩ := hws.ordered
  refine ⟨?_, ?_, fun identity => ?_⟩
  · rw [canonicalBytes_eq_iff]
    constructor
    · intro heq
      rw [hu, hu', Option.some.injEq] at heq
      exact (reordered_ordered hv hu).trans (heq ▸ (reordered_ordered hw hu').symm)
    · exact ordered_congr hv
  · refine ⟨_, u, canonicalBytes_eq_ok.mpr ⟨u, hu, rfl⟩, ?_, reordered_ordered hv hu⟩
    rw [utf8Decode_utf8Encode (wellFormed_stringify u), Option.bind_some, parse_stringify, rebuild_ordered hu]
  · obtain ⟨envelope, hsign⟩ : ∃ envelope, identity.sign v = .ok envelope := ⟨_, Identity.sign_eq_ok.mpr ⟨u, hu, rfl⟩⟩
    have hverify := verifyEnvelope_sign hu hsign
    have hkeyed : Keyed envelope := by
      obtain ⟨copy, hcopy, rfl⟩ := Identity.sign_eq_ok.mp hsign
      have hbody : Keyed copy := rebuild_ordered hcopy ▸ Json.keyed_rebuild copy
      refine .obj (by simp) fun f hf => ?_
      simp only [List.map_cons, List.map_nil, List.mem_cons, List.not_mem_nil, or_false] at hf
      rcases hf with rfl | rfl
      · exact hbody
      · exact .str _
    exact ⟨envelope, hsign, fun envelope' h => ⟨u, verifyEnvelope_congr hkeyed h hverify, reordered_ordered hv hu⟩⟩

namespace Sample

/-- A value with an index key, and the same value in another order. -/
def numbered : Json := .record [("b", .int 1), ("2", .arr [.null])]
def renumbered : Json := .record [("2", .arr [.null]), ("b", .int 1)]

theorem keyed_numbered : Keyed numbered := by
  refine .obj (by simp) fun f hf => ?_
  simp only [List.map_cons, List.map_nil, List.mem_cons, List.not_mem_nil, or_false] at hf
  rcases hf with rfl | rfl
  · exact .num _
  · exact .arr fun v hv => List.mem_singleton.mp hv ▸ .null

theorem safe_numbered : SafeIntegers numbered := by
  refine .obj fun f hf => ?_
  simp only [List.map_cons, List.map_nil, List.mem_cons, List.not_mem_nil, or_false] at hf
  rcases hf with rfl | rfl
  · exact .num rfl
  · exact .arr fun v hv => List.mem_singleton.mp hv ▸ .null

theorem reordered_numbered : Reordered numbered renumbered := .perm (List.Perm.swap _ _ [])

/-- Both orders have the same bytes, and every identity's signature of the one verifies. -/
theorem numbered_signed : canonicalBytes numbered = canonicalBytes renumbered ∧ ∀ identity : Identity crypto,
    ∃ envelope, identity.sign numbered = .ok envelope ∧ ∃ u,
      verifyEnvelope crypto envelope (some (.str identity.id)) (some (.str identity.publicKey)) = .ok u ∧ Reordered numbered u := by
  have hsafe : SafeIntegers renumbered := by
    refine .obj fun f hf => ?_
    simp only [List.map_cons, List.map_nil, List.mem_cons, List.not_mem_nil, or_false] at hf
    rcases hf with rfl | rfl
    · exact .arr fun v hv => List.mem_singleton.mp hv ▸ .null
    · exact .num rfl
  obtain ⟨hbytes, -, hsigned⟩ := canonical_and_signed crypto keyed_numbered (reordered_numbered.sorted_eq keyed_numbered).1
    safe_numbered hsafe
  refine ⟨hbytes.mpr reordered_numbered, fun identity => ?_⟩
  obtain ⟨envelope, hsign, hverify⟩ := hsigned identity
  exact ⟨envelope, hsign, hverify envelope (.refl _)⟩

end Sample

end Native
