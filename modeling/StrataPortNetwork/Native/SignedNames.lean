import StrataPortNetwork.Native.PortUri

/-! # Signed port names

A manifest of names is a body with exactly its fields, under the key of its owner, within
its lifetime and its limits. `verifyPortNames` accepts exactly the signed manifests, and what
an identity signs resolves, for as long as it lasts, to what was registered.
-/
namespace Native
open Js

/-! ## Exact fields -/

/-- An object with the named fields, each once, and no other. -/
def HasFields (v : Json) (names : List String) : Prop :=
  ∃ own : Fields, v = .obj own ∧ (own.map Prod.fst).Perm (names.map js)

theorem length_intercalate {x : UInt16} {parts : List JsString} (h : parts ≠ []) :
    ([x].intercalate parts).length + 1 = (parts.map List.length).sum + parts.length := by
  induction parts with
  | nil => exact absurd rfl h
  | cons part rest ih =>
    cases rest with
    | nil => simp
    | cons next rest =>
      have hrest := ih (List.cons_ne_nil _ _)
      simp only [List.intercalate_cons_cons, List.length_append, List.map_cons, List.sum_cons, List.length_cons,
        List.length_nil] at hrest ⊢
      omega

/-- Keys that join to the same text as some of them are no more than these. -/
theorem perm_of_joined {x : UInt16} {keys names : List JsString} (hne : names ≠ []) (hnodup : names.Nodup)
    (hpresent : ∀ name ∈ names, name ∈ keys)
    (h : [x].intercalate (Json.sortKeys keys) = [x].intercalate (Json.sortKeys names)) : keys.Perm names := by
  have hsorted : ∀ keys : List JsString, (Json.sortKeys keys).Perm keys := fun keys => List.perm_insertionSort _ keys
  have hlength : ∀ {keys : List JsString}, keys ≠ [] → ([x].intercalate (Json.sortKeys keys)).length + 1 =
      (keys.map List.length).sum + keys.length := by
    intro keys hkeys
    have hkeys' : Json.sortKeys keys ≠ [] := by
      intro hnil
      have := (hsorted keys).length_eq
      rw [hnil, List.length_nil] at this
      exact hkeys (List.length_eq_zero_iff.mp this.symm)
    rw [length_intercalate hkeys', (hsorted keys).length_eq, ((hsorted keys).map List.length).sum_nat]
  obtain ⟨some, hsome, hsub⟩ := List.subperm_of_subset hnodup hpresent
  obtain ⟨rest, hall⟩ := hsub.exists_perm_append
  have hrest : keys.Perm (names ++ rest) := hall.trans (hsome.append_right rest)
  have hkeys : keys ≠ [] := by
    rintro rfl
    exact hne (List.append_eq_nil_iff.mp (List.nil_perm.mp hrest)).1
  have hboth := congrArg List.length h
  have hsum := (hrest.map List.length).sum_nat
  have hcount := hrest.length_eq
  rw [List.map_append, List.sum_append] at hsum
  rw [List.length_append] at hcount
  have hnone : rest = [] := by
    have := hlength hkeys
    have := hlength hne
    exact List.length_eq_zero_iff.mp (by omega)
  rwa [hnone, List.append_nil] at hrest

theorem mem_keys_of_get {own : Fields} {name : String} {v : Json} (h : (Json.obj own).get name = some v) :
    js name ∈ own.map Prod.fst := Json.mem_keys_of_lookup h

/-- Where every listed field is there, the comparison of the joined keys is exact. -/
theorem exactFields_iff {v : Json} {names : List String} (hne : names ≠ []) (hnodup : names.Nodup)
    (hpresent : ∀ name ∈ names, (v.get name).isSome = true) :
    exactFields (some v) names = .ok () ↔ HasFields v names := by
  rw [exactFields_eq_ok]
  constructor
  · rintro ⟨own, hown, hkeys⟩
    rw [Option.some.injEq] at hown
    subst hown
    refine ⟨own, rfl, perm_of_joined (by simpa using hne) (hnodup.map js_injective) ?_ hkeys⟩
    rw [List.forall_mem_map]
    intro name hname
    obtain ⟨w, hw⟩ := Option.isSome_iff_exists.mp (hpresent name hname)
    exact mem_keys_of_get hw
  · rintro ⟨own, rfl, hperm⟩
    exact ⟨own, rfl, by rw [joinedKeys, joinedKeys, sortKeys_congr hperm]⟩

theorem HasFields.isSome {v : Json} {names : List String} (h : HasFields v names) {name : String} (hname : name ∈ names) :
    (v.get name).isSome = true := by
  obtain ⟨own, rfl, hperm⟩ := h
  obtain ⟨w, hw⟩ := Json.lookup_isSome_of_mem_keys (hperm.mem_iff.mpr (List.mem_map.mpr ⟨name, hname, rfl⟩))
  exact Option.isSome_iff_exists.mpr ⟨w, hw⟩

theorem HasFields.ordered {v w : Json} {names : List String} (hnodup : names.Nodup) (h : HasFields v names)
    (hw : ordered v = some w) : HasFields w names := by
  obtain ⟨own, rfl, hperm⟩ := h
  simp only [Native.ordered, Option.map_eq_some_iff] at hw
  obtain ⟨own', hown', rfl⟩ := hw
  refine ⟨_, rfl, (List.perm_ext_iff_of_nodup (ownOrdered_canonicalFields _).nodup ?_).mpr ?_⟩
  · exact hnodup.map js_injective
  · intro k
    rw [mem_keys_canonicalFields, keys_orderedFields hown', hperm.mem_iff]

/-! ## Manifests -/

def bodyFields : List String := ["schema", "ownerPort", "ownerPublicKey", "revision", "issuedAt", "expiresAt", "entries"]

/-- The name of an entry. -/
def bindingName (entry : Json) : JsString := ((entry.get "name").bind Json.str?).getD []

/-- An entry that binds a name to a port. -/
structure Binding (entry : Json) : Prop where
  fields : HasFields entry ["name", "targetPort"]
  name : ∃ labels, nameParts (entry.get "name") = .ok labels
  target : ∃ id, validPortId (entry.get "targetPort") = .ok id

/-- A body that binds names at a time. -/
structure Manifest (crypto : Crypto) (body : Json) (now : ℤ) : Prop where
  fields : HasFields body bodyFields
  schema : body.get "schema" = some (.text portNamesSchema)
  owner : ∃ id, portId crypto (body.get "ownerPublicKey") = .ok id ∧ body.get "ownerPort" = some (.str id)
  revision : revisionOk body = true
  lifetime : lifetimeOk body now 3600000 = true
  entries : ∃ items, body.get "entries" = some (.arr items) ∧ 1 ≤ items.length ∧ items.length ≤ 128 ∧
    (∀ entry ∈ items, Binding entry) ∧ (items.map bindingName).Nodup
  size : ∃ bytes, canonicalBytes body = .ok bytes ∧ bytes.length ≤ maxManifestBytes

/-- A manifest under the signature of its owner. -/
structure SignedManifest (crypto : Crypto) (record body : Json) (now : ℤ) : Prop where
  fields : HasFields record ["body", "signature"]
  raw : ∃ raw, record.get "body" = some raw ∧ ordered raw = some body
  signature : ∃ key signature, decodePublicKey crypto (body.get "ownerPublicKey") "ed25519" = .ok key ∧
    record.get "signature" = some (.str (base64Encode signature)) ∧ signature.length = 64 ∧
    crypto.verify (utf8Encode (stringify body)) key signature = true
  manifest : Manifest crypto body now

theorem items?_eq_some {v : Option Json} {items : List Json} : v.bind Json.items? = some items ↔ v = some (.arr items) := by
  rcases v with _ | (_ | _ | _ | _ | _ | _) <;> simp [Json.items?]

theorem Binding.of_checks {entry : Json} (hfields : exactFields (some entry) ["name", "targetPort"] = .ok ())
    {labels : List JsString} (hname : nameParts (entry.get "name") = .ok labels) {id : JsString}
    (htarget : validPortId (entry.get "targetPort") = .ok id) : Binding entry := by
  refine ⟨(exactFields_iff (by simp) (by decide) ?_).mp hfields, ⟨labels, hname⟩, id, htarget⟩
  simp only [List.forall_mem_cons, List.not_mem_nil, false_implies, implies_true, and_true, (nameParts_eq_ok.mp hname).1,
    (validPortId_eq_ok.mp htarget).1, Option.isSome_some]

theorem checkEntries_eq_ok {seen : List JsString} {items : List Json} {u : Unit} :
    checkEntries seen items = .ok u ↔ (∀ entry ∈ items, Binding entry) ∧ (items.map bindingName).Nodup ∧
      ∀ entry ∈ items, bindingName entry ∉ seen := by
  cases u
  induction items generalizing seen with
  | nil => simp [checkEntries]
  | cons entry rest ih =>
    have hentry : checkEntries seen (entry :: rest) = .ok () ↔ Binding entry ∧ bindingName entry ∉ seen ∧
        checkEntries (bindingName entry :: seen) rest = .ok () := by
      simp only [checkEntries, bind_eq_ok, ensure_eq_ok, Bool.not_eq_true', List.contains_eq_mem, decide_eq_false_iff_not]
      constructor
      · rintro ⟨⟨⟩, hfields, labels, hname, id, htarget, -, hfresh, hrest⟩
        exact ⟨.of_checks hfields hname htarget, hfresh, hrest⟩
      · rintro ⟨hbinding, hfresh, hrest⟩
        obtain ⟨labels, hname⟩ := hbinding.name
        obtain ⟨id, htarget⟩ := hbinding.target
        refine ⟨(), ?_, labels, hname, id, htarget, (), hfresh, hrest⟩
        exact (exactFields_iff (by simp) (by decide) fun name => hbinding.fields.isSome).mpr hbinding.fields
    rw [hentry, ih]
    simp only [List.forall_mem_cons, List.map_cons, List.nodup_cons]
    simp only [List.mem_cons, not_or, List.mem_map, not_exists, not_and]
    constructor
    · rintro ⟨hbinding, hfresh, hall, hnodup, hapart⟩
      exact ⟨⟨hbinding, hall⟩, ⟨fun other hother hsame => (hapart other hother).1 hsame, hnodup⟩, hfresh,
        fun other hother => (hapart other hother).2⟩
    · rintro ⟨⟨hbinding, hall⟩, ⟨hapart, hnodup⟩, hfresh, hrest⟩
      exact ⟨hbinding, hfresh, hall, hnodup, fun other hother => ⟨hapart other hother, hrest other hother⟩⟩

section
variable {crypto : Crypto}

theorem isSome_of_integerField {body : Json} {name : String} {i : ℤ} (h : integerField body name = some i) :
    (body.get name).isSome = true := by
  obtain ⟨v, hv, -⟩ := Option.bind_eq_some_iff.mp h
  rw [hv]
  rfl

theorem isSome_of_checks {body : Json} {now : ℤ} (hschema : body.get "schema" = some (.text portNamesSchema))
    {id : JsString} (hid : portId crypto (body.get "ownerPublicKey") = .ok id) (howner : body.get "ownerPort" = some (.str id))
    (hrevision : revisionOk body = true) (hlifetime : lifetimeOk body now 3600000 = true) {items : List Json}
    (hitems : body.get "entries" = some (.arr items)) : ∀ name ∈ bodyFields, (body.get name).isSome = true := by
  obtain ⟨publicKey, hkey, -⟩ := portId_eq_ok.mp hid
  obtain ⟨revision, hrevision, -⟩ := revisionOk_iff.mp hrevision
  obtain ⟨issuedAt, expiresAt, hissued, hexpires, -⟩ := lifetimeOk_iff.mp hlifetime
  simp only [bodyFields, List.forall_mem_cons, List.not_mem_nil, false_implies, implies_true, and_true, hschema, howner, hkey,
    hitems, Option.isSome_some, true_and]
  exact ⟨isSome_of_integerField hrevision, isSome_of_integerField hissued, isSome_of_integerField hexpires⟩

/-- `verifyBody` accepts exactly the manifests. -/
theorem verifyBody_eq_ok {body : Json} {now : ℤ} : verifyBody crypto body now = .ok () ↔ Manifest crypto body now := by
  simp only [verifyBody, bind_eq_ok, ensure_eq_ok, orThrow_eq_ok, exists_const, Bool.and_eq_true, decide_eq_true_eq,
    Json.some_beq_str_iff, items?_eq_some, checkEntries_eq_ok]
  have htext : (body.get "schema" == some (Json.text portNamesSchema)) = true ↔
      body.get "schema" = some (.text portNamesSchema) := Json.some_beq_str_iff
  rw [htext]
  constructor
  · rintro ⟨⟨⟩, hfields, hschema, id, hid, ⟨⟨howner, hrevision⟩, hlifetime⟩, items, hitems, ⟨hleast, hmost⟩,
      ⟨hbindings, hnodup, -⟩, bytes, hbytes, hsize⟩
    have hpresent := isSome_of_checks hschema hid howner hrevision hlifetime hitems
    exact ⟨(exactFields_iff (by decide) (by decide) hpresent).mp hfields, hschema, ⟨id, hid, howner⟩, hrevision, hlifetime,
      ⟨items, hitems, hleast, hmost, hbindings, hnodup⟩, bytes, hbytes, hsize⟩
  · rintro ⟨hfields, hschema, ⟨id, hid, howner⟩, hrevision, hlifetime, ⟨items, hitems, hleast, hmost, hbindings, hnodup⟩,
      bytes, hbytes, hsize⟩
    have hexact : exactFields (some body) bodyFields = .ok () :=
      (exactFields_iff (by decide) (by decide) fun _ => hfields.isSome).mpr hfields
    exact ⟨(), hexact, hschema, id, hid, ⟨⟨howner, hrevision⟩, hlifetime⟩, items, hitems, ⟨hleast, hmost⟩,
      ⟨hbindings, hnodup, by simp⟩, bytes, hbytes, hsize⟩

/-- `verifyPortNames` accepts exactly the signed manifests. -/
theorem verifyPortNames_eq_ok {record body : Json} {now : ℤ} :
    verifyPortNames crypto record now = .ok body ↔ SignedManifest crypto record body now := by
  simp only [verifyPortNames, bind_eq_ok, orThrow_eq_ok, pure_eq_ok, Option.filter_eq_some_iff]
  constructor
  · rintro ⟨raw, ⟨hraw, -⟩, body, henvelope, ⟨⟩, hbody, rfl⟩
    have hmanifest := verifyBody_eq_ok.mp hbody
    simp only [verifyEnvelope, bind_eq_ok, orThrow_eq_ok, ensure_eq_ok, snapshot_eq_ok, canonicalBytes_eq_ok,
      Json.bind_str?_eq_some, Bool.and_eq_true, beq_iff_eq] at henvelope
    obtain ⟨⟨⟩, hfields, id, hid, -, hexpected, text, htext, -, -, -, ⟨hlength, hcanonical⟩, raw', hraw', bytes,
      ⟨w, hw, rfl⟩, key, hkey, -, hverify, hbody'⟩ := henvelope
    rw [hraw, Option.some.injEq] at hraw'
    subst hraw'
    rw [hbody', Option.some.injEq] at hw
    subst hw
    have hsame : body.get "ownerPublicKey" = raw.get "ownerPublicKey" := by
      obtain ⟨publicKey, hpublic, -⟩ := portId_eq_ok.mp hid
      rw [get_ordered hbody', hpublic]
      rfl
    have hpresent : ∀ name ∈ ["body", "signature"], (record.get name).isSome = true := by
      simp only [List.forall_mem_cons, List.not_mem_nil, false_implies, implies_true, and_true, hraw, htext,
        Option.isSome_some]
    refine ⟨(exactFields_iff (by simp) (by decide) hpresent).mp hfields, ⟨raw, hraw, hbody'⟩, ⟨key, base64Decode text, ?_, ?_,
      hlength, hverify⟩, hmanifest⟩
    · rw [hsame]
      exact hkey
    · rw [htext, hcanonical]
  · rintro ⟨hfields, ⟨raw, hraw, hbody⟩, ⟨key, signature, hkey, hsignature, hlength, hverify⟩, hmanifest⟩
    obtain ⟨id, hid, howner⟩ := hmanifest.owner
    obtain ⟨publicKey, hpublic, hid_eq⟩ := portId_eq_ok.mp hid
    have hraw_get : ∀ {name : String} {s : JsString}, body.get name = some (.str s) → raw.get name = some (.str s) := by
      intro name s hs
      rw [get_ordered hbody] at hs
      obtain ⟨v, hv, hvs⟩ := Option.bind_eq_some_iff.mp hs
      rw [hv, ordered_eq_str hvs]
    have htruthy : raw.truthy = true := by
      obtain ⟨own, rfl, -⟩ := hmanifest.fields
      cases raw with
      | obj fields => rfl
      | null | bool _ | num _ | str _ | arr _ => simp [ordered] at hbody
    refine ⟨raw, ⟨hraw, htruthy⟩, body, ?_, (), verifyBody_eq_ok.mpr hmanifest, rfl⟩
    simp only [verifyEnvelope, bind_eq_ok, orThrow_eq_ok, ensure_eq_ok, snapshot_eq_ok, canonicalBytes_eq_ok,
      Json.bind_str?_eq_some, Bool.and_eq_true, beq_iff_eq]
    refine ⟨(), (exactFields_iff (by simp) (by decide) fun _ => hfields.isSome).mpr hfields, id, ?_, (), ?_, _, hsignature, (), ?_,
      (), ⟨?_, ?_⟩, raw, hraw, _, ⟨body, hbody, rfl⟩, key, ?_, (), ?_, hbody⟩
    · rw [hraw_get hpublic]
      exact portId_eq_ok.mpr ⟨publicKey, rfl, hid_eq⟩
    · rw [hraw_get howner]
      exact Json.some_beq_str_iff.mpr rfl
    · rw [base64Encode_length, hlength]
    · rw [base64Decode_encode, hlength]
    · rw [base64Decode_encode]
    · rw [hraw_get hpublic, ← hpublic]
      exact hkey
    · rw [base64Decode_encode]
      exact hverify

end

end Native
