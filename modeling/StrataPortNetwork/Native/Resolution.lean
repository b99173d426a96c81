import StrataPortNetwork.Native.SignedNames
import StrataPortNetwork.Native.Sample

/-! # Resolution of signed names

What `signPortNames` signs survives every check of the verifier, so each registered name
resolves to its port for as long as the record lasts, and nothing else does.
-/
namespace Native
open Js

section
variable {crypto : Crypto}

/-! ## Snapshots of a manifest -/

theorem forall₂_of_orderedItems {items items' : List Json} (h : orderedItems items = some items') :
    List.Forall₂ (fun v w => ordered v = some w) items items' := by
  induction items generalizing items' with
  | nil =>
    cases h
    exact .nil
  | cons v rest ih =>
    simp only [orderedItems, Option.bind_eq_some_iff, Option.map_eq_some_iff] at h
    obtain ⟨w, hw, rest', hrest, rfl⟩ := h
    exact .cons hw (ih hrest)

/-- Names and targets are strings, so a snapshot keeps them. -/
theorem get_str_ordered {v w : Json} (h : ordered v = some w) {name : String} {s : JsString}
    (hs : v.get name = some (.str s)) : w.get name = some (.str s) := by
  rw [get_ordered h, hs, Option.bind_some, ordered_str]

theorem Binding.ordered {entry copy : Json} (h : Binding entry) (hcopy : ordered entry = some copy) :
    Binding copy ∧ copy.get "name" = entry.get "name" ∧ copy.get "targetPort" = entry.get "targetPort" := by
  obtain ⟨labels, hname⟩ := h.name
  obtain ⟨id, htarget⟩ := h.target
  have hname' : copy.get "name" = entry.get "name" := by
    rw [(nameParts_eq_ok.mp hname).1]
    exact get_str_ordered hcopy (nameParts_eq_ok.mp hname).1
  have htarget' : copy.get "targetPort" = entry.get "targetPort" := by
    rw [(validPortId_eq_ok.mp htarget).1]
    exact get_str_ordered hcopy (validPortId_eq_ok.mp htarget).1
  exact ⟨⟨h.fields.ordered (by decide) hcopy, ⟨labels, hname' ▸ hname⟩, id, htarget' ▸ htarget⟩, hname', htarget'⟩

theorem get_copied {v w : Json} (h : ordered v = some w) {name : String} {u : Json} (hu : v.get name = some u) :
    ∃ u', ordered u = some u' ∧ w.get name = some u' := by
  have hsome : (ordered u).isSome = true := by
    cases v with
    | obj fields => exact ordered_obj_isSome.mp (h ▸ rfl) _ (mem_of_lookup hu)
    | null | bool _ | num _ | str _ | arr _ => simp [Json.get, Json.fields] at hu
  obtain ⟨u', hu'⟩ := Option.isSome_iff_exists.mp hsome
  exact ⟨u', hu', by rw [get_ordered h, hu, Option.bind_some, hu']⟩

theorem copied_bindings {items items' : List Json} (hpairs : List.Forall₂ (fun v w => ordered v = some w) items items')
    (h : ∀ entry ∈ items, Binding entry) :
    (∀ copy ∈ items', Binding copy) ∧ items'.map bindingName = items.map bindingName ∧
      ∀ entry ∈ items, ∃ copy ∈ items', copy.get "name" = entry.get "name" ∧ copy.get "targetPort" = entry.get "targetPort" := by
  induction hpairs with
  | nil => simp
  | @cons entry copy rest rest' hcopy _ ih =>
    rw [List.forall_mem_cons] at h
    obtain ⟨hbinding, hname, htarget⟩ := h.1.ordered hcopy
    obtain ⟨hrest, hnames, hfound⟩ := ih h.2
    refine ⟨List.forall_mem_cons.mpr ⟨hbinding, hrest⟩, ?_, List.forall_mem_cons.mpr ⟨?_, ?_⟩⟩
    · rw [List.map_cons, List.map_cons, hnames, bindingName, bindingName, hname]
    · exact ⟨copy, List.mem_cons_self, hname, htarget⟩
    · intro other hother
      obtain ⟨found, hmem, hboth⟩ := hfound other hother
      exact ⟨found, List.mem_cons_of_mem copy hmem, hboth⟩

/-- A manifest binds the same names in its snapshot, at any time of its lifetime. -/
theorem Manifest.copied {body copy : Json} {now t : ℤ} (h : Manifest crypto body now) (hcopy : ordered body = some copy)
    (ht : lifetimeOk copy t 3600000 = true) : Manifest crypto copy t := by
  obtain ⟨id, hid, howner⟩ := h.owner
  obtain ⟨publicKey, hpublic, hid_eq⟩ := portId_eq_ok.mp hid
  obtain ⟨items, hitems, hleast, hmost, hbindings, hnodup⟩ := h.entries
  obtain ⟨bytes, hbytes, hsize⟩ := h.size
  obtain ⟨v, hv, hentries⟩ := get_copied hcopy hitems
  obtain ⟨items', hitems', rfl⟩ : ∃ items', orderedItems items = some items' ∧ .arr items' = v := by
    rwa [Native.ordered, Option.map_eq_some_iff] at hv
  have hpairs := forall₂_of_orderedItems hitems'
  obtain ⟨hcopies, hnames, -⟩ := copied_bindings hpairs hbindings
  refine ⟨h.fields.ordered (by decide) hcopy, get_str_ordered hcopy h.schema, ⟨id, ?_, get_str_ordered hcopy howner⟩, ?_, ht,
    ⟨items', hentries, by rw [← hpairs.length_eq]; exact hleast, by rw [← hpairs.length_eq]; exact hmost, hcopies,
      by rw [hnames]; exact hnodup⟩, bytes, ?_, hsize⟩
  · rw [get_str_ordered hcopy hpublic]
    exact portId_eq_ok.mpr ⟨publicKey, rfl, hid_eq⟩
  · obtain ⟨revision, hrevision, hpositive⟩ := revisionOk_iff.mp h.revision
    exact revisionOk_iff.mpr ⟨revision, by rw [integerField_ordered hcopy, hrevision], hpositive⟩
  · rw [canonicalBytes_congr ((ordered_ordered hcopy).trans hcopy.symm)]
    exact hbytes

/-! ## Signing -/

/-- The body that `signPortNames` signs. -/
def manifestBody (identity : Identity crypto) (entries revision : Json) (now ttlMs : ℤ) : Json :=
  .record [("schema", .text portNamesSchema), ("ownerPort", .str identity.id), ("ownerPublicKey", .str identity.publicKey),
    ("revision", revision), ("issuedAt", .int now), ("expiresAt", .int (now + ttlMs)), ("entries", entries)]

/-- What `signPortNames` signs is a manifest, and its record the envelope of the snapshot. -/
theorem signPortNames_eq_ok {identity : Identity crypto} {entries revision record : Json} {now ttlMs : ℤ} :
    signPortNames crypto identity entries revision now ttlMs = .ok record ↔ (1 ≤ ttlMs ∧ ttlMs ≤ 3600000) ∧
      Manifest crypto (manifestBody identity entries revision now ttlMs) now ∧
      ∃ copy, ordered (manifestBody identity entries revision now ttlMs) = some copy ∧ record =
        .record [("body", copy), ("signature", .str (base64Encode (crypto.sign identity.key (utf8Encode (stringify copy)))))] := by
  simp only [signPortNames, bind_eq_ok, ensure_eq_ok, Bool.and_eq_true, decide_eq_true_eq, exists_const,
    Identity.sign_eq_ok]
  constructor
  · rintro ⟨hwindow, ⟨⟩, hbody, hsign⟩
    exact ⟨hwindow, verifyBody_eq_ok.mp hbody, hsign⟩
  · rintro ⟨hwindow, hmanifest, hsign⟩
    exact ⟨hwindow, (), verifyBody_eq_ok.mpr hmanifest, hsign⟩

theorem eq_of_integerField {v : Json} {name : String} {i j : ℤ} (hget : v.get name = some (.int j))
    (h : integerField v name = some i) : i = j := by
  rw [integerField, hget, Option.bind_some, Json.int] at h
  simp only [Json.safeInteger?, JsNumber.safeInteger?, Option.ite_none_right_eq_some, Option.some.injEq] at h
  exact h.2.symm

/-- The lifetime of a signed body. -/
theorem lifetime_signed {identity : Identity crypto} {entries revision copy : Json} {now ttlMs : ℤ}
    (hmanifest : Manifest crypto (manifestBody identity entries revision now ttlMs) now)
    (hcopy : ordered (manifestBody identity entries revision now ttlMs) = some copy) {t : ℤ} :
    lifetimeOk copy t 3600000 = true ↔ now ≤ t ∧ t < now + ttlMs := by
  obtain ⟨issuedAt, expiresAt, hissued, hexpires, -, -, hlong, horder⟩ := lifetimeOk_iff.mp hmanifest.lifetime
  have hissued_eq : issuedAt = now := eq_of_integerField rfl hissued
  have hexpires_eq : expiresAt = now + ttlMs := eq_of_integerField rfl hexpires
  rw [lifetimeOk_iff, integerField_ordered hcopy, integerField_ordered hcopy, hissued, hexpires]
  constructor
  · rintro ⟨i, e, hi, he, hle, hlt, -⟩
    cases hi
    cases he
    omega
  · rintro ⟨hle, hlt⟩
    exact ⟨issuedAt, expiresAt, rfl, rfl, by omega, by omega, hlong, horder⟩

/-- A signed record is a signed manifest throughout its lifetime, and at no other time. -/
theorem signedManifest_iff {identity : Identity crypto} {entries revision record : Json} {now ttlMs : ℤ}
    (hsign : signPortNames crypto identity entries revision now ttlMs = .ok record) {t : ℤ} {body : Json} :
    SignedManifest crypto record body t ↔
      ordered (manifestBody identity entries revision now ttlMs) = some body ∧ now ≤ t ∧ t < now + ttlMs := by
  obtain ⟨-, hmanifest, copy, hcopy, rfl⟩ := signPortNames_eq_ok.mp hsign
  constructor
  · rintro ⟨-, ⟨raw, hraw, hbody⟩, -, hbound⟩
    have hraw_eq : raw = copy := by
      rw [Json.get_record] at hraw
      exact (Option.some.inj hraw).symm
    rw [hraw_eq, ordered_ordered hcopy, Option.some.injEq] at hbody
    subst hbody
    exact ⟨hcopy, (lifetime_signed hmanifest hcopy).mp hbound.lifetime⟩
  · rintro ⟨hbody, hwindow⟩
    rw [hcopy, Option.some.injEq] at hbody
    subst hbody
    have hpublic : copy.get "ownerPublicKey" = some (.str identity.publicKey) :=
      get_str_ordered hcopy (Json.get_record _ _)
    refine ⟨⟨_, rfl, List.Perm.refl _⟩, ⟨copy, by rw [Json.get_record]; rfl, ordered_ordered hcopy⟩,
      ⟨crypto.signingPublic identity.key, crypto.sign identity.key (utf8Encode (stringify copy)), ?_, ?_,
        crypto.sign_length _ _, crypto.verify_sign _ _⟩, hmanifest.copied hcopy ((lifetime_signed hmanifest hcopy).mpr hwindow)⟩
    · rw [hpublic]
      exact decodePublicKey_encode (crypto.signingPublic_length _) (crypto.signingPublic_type _)
    · rw [Json.get_record]
      rfl

/-! ## Resolving -/

/-- The entry with a name is found among distinct names. -/
theorem find?_binding {items : List Json} (hnodup : (items.map bindingName).Nodup) {name : JsString} {entry : Json} :
    (items.find? fun item => item.get "name" == some (.str name)) = some entry ↔
      entry ∈ items ∧ entry.get "name" = some (.str name) := by
  constructor
  · intro h
    have hname := List.find?_some h
    exact ⟨List.mem_of_find?_eq_some h, Json.some_beq_str_iff.mp hname⟩
  · rintro ⟨hmem, hname⟩
    obtain ⟨found, hfound⟩ : ∃ found, (items.find? fun item => item.get "name" == some (.str name)) = some found := by
      refine Option.isSome_iff_exists.mp (List.find?_isSome.mpr ⟨entry, hmem, ?_⟩)
      exact Json.some_beq_str_iff.mpr hname
    have hfound_name := List.find?_some hfound
    have hsame : bindingName found = bindingName entry := by
      rw [bindingName, bindingName, Json.some_beq_str_iff.mp hfound_name, hname]
    rw [hfound, List.inj_on_of_nodup_map hnodup (List.mem_of_find?_eq_some hfound) hmem hsame]

/-- A resolution reads an address, a signed manifest of its namespace, and the entry of its name. -/
theorem resolvePortName_eq_ok {uri record : Json} {now : ℤ} {r : PortResolution} :
    resolvePortName crypto uri record now = .ok r ↔ ∃ (address : PortAddress) (body entry : Json) (items : List Json),
      parsePortUri uri = .ok address ∧ SignedManifest crypto record body now ∧
      body.get "ownerPort" = some (.str address.ownerPort) ∧ body.get "entries" = some (.arr items) ∧ entry ∈ items ∧
      entry.get "name" = some (.str address.name) ∧
      r = ⟨address.uri, address.ownerPort, (entry.get "targetPort").getD .null, address.name, address.path,
        (body.get "revision").getD .null, (body.get "expiresAt").getD .null⟩ := by
  simp only [resolvePortName, bind_eq_ok, ensure_eq_ok, orThrow_eq_ok, pure_eq_ok, exists_const, verifyPortNames_eq_ok,
    Json.some_beq_str_iff]
  constructor
  · rintro ⟨address, haddress, body, hbody, howner, entry, hentry, rfl⟩
    obtain ⟨items, hitems, -, -, -, hnodup⟩ := hbody.manifest.entries
    rw [hitems] at hentry
    obtain ⟨hmem, hname⟩ := (find?_binding hnodup).mp hentry
    exact ⟨address, body, entry, items, haddress, hbody, howner, hitems, hmem, hname, rfl⟩
  · rintro ⟨address, body, entry, items, haddress, hbody, howner, hitems, hmem, hname, rfl⟩
    obtain ⟨items', hitems', -, -, -, hnodup⟩ := hbody.manifest.entries
    rw [hitems, Option.some.injEq, Json.arr.injEq] at hitems'
    subst hitems'
    refine ⟨address, haddress, body, hbody, howner, entry, ?_, rfl⟩
    rw [hitems]
    exact (find?_binding hnodup).mpr ⟨hmem, hname⟩

/-- Nobody but the identity makes signatures and keys that pass for its own in these records. -/
structure Unforgeable (identity : Identity crypto) (signed records : Set Json) : Prop where
  signature : ∀ record ∈ records, ∀ raw message signature, record.get "body" = some raw → canonicalBytes raw = .ok message →
    record.get "signature" = some (.str (base64Encode signature)) →
    crypto.verify message (crypto.signingPublic identity.key) signature = true →
    ∃ body ∈ signed, canonicalBytes body = .ok message
  digest : ∀ record ∈ records, ∀ raw key, record.get "body" = some raw →
    raw.get "ownerPublicKey" = some (.str (base64Encode key)) →
    crypto.digest key = crypto.digest (crypto.signingPublic identity.key) → key = crypto.signingPublic identity.key

/-- A record accepted for the namespace of an identity has a body that the identity signed. -/
theorem signed_of_resolved {identity : Identity crypto} {signed records : Set Json} (hideal : Unforgeable identity signed records)
    {record uri : Json} (hrecord : record ∈ records) {t : ℤ} {r : PortResolution}
    (h : resolvePortName crypto uri record t = .ok r) (howner : r.ownerPort = identity.id) :
    ∃ raw, record.get "body" = some raw ∧ ∃ body ∈ signed, ordered raw = ordered body := by
  obtain ⟨address, body, entry, items, -, hbody, hport, -, -, -, rfl⟩ := resolvePortName_eq_ok.mp h
  change address.ownerPort = identity.id at howner
  obtain ⟨raw, hraw, hordered⟩ := hbody.raw
  obtain ⟨key, signature, hkey, hsignature, -, hverify⟩ := hbody.signature
  obtain ⟨text, hpublic, -, rfl, -⟩ := decodePublicKey_eq_ok.mp hkey
  obtain ⟨id, hid, howner'⟩ := hbody.manifest.owner
  obtain ⟨text', htext', hid_eq⟩ := portId_eq_ok.mp hid
  have hraw_public : raw.get "ownerPublicKey" = some (.str (base64Encode key)) := by
    rw [get_ordered hordered] at hpublic
    obtain ⟨v, hv, hvs⟩ := Option.bind_eq_some_iff.mp hpublic
    rw [hv, ordered_eq_str hvs]
  have hdigest : crypto.digest key = crypto.digest (crypto.signingPublic identity.key) := by
    rw [hpublic, Option.some.injEq, Json.str.injEq] at htext'
    rw [hport, Option.some.injEq, Json.str.injEq, howner, hid_eq, ← htext', base64Decode_encode, Identity.id,
      Identity.publicKey, base64Decode_encode] at howner'
    exact (List.append_cancel_left howner').symm
  have hown := hideal.digest record hrecord raw key hraw hraw_public hdigest
  have hmessage : canonicalBytes raw = .ok (utf8Encode (stringify body)) := canonicalBytes_eq_ok.mpr ⟨body, hordered, rfl⟩
  obtain ⟨body', hsigned, hbytes⟩ := hideal.signature record hrecord raw _ signature hraw hmessage hsignature (hown ▸ hverify)
  exact ⟨raw, hraw, body', hsigned, canonicalBytes_eq_iff.mp (hmessage.trans hbytes.symm)⟩

/-- The address of a name in the namespace of an identity. -/
theorem exists_address (identity : Identity crypto) {name : Option Json} {labels : List JsString}
    (hname : nameParts name = .ok labels) {path : JsString} (hlength : path.length ≤ 512)
    (hpattern : pathPattern.accepts path = true) :
    ∃ a : Address, a.ownerPort = identity.id ∧ name = some (.str a.name) ∧ a.path = orRoot path := by
  obtain ⟨hname_eq, hname_length, hlabels, hatoms⟩ := nameParts_eq_ok.mp hname
  have hid : portIdPattern.accepts identity.id = true := by
    rw [Regex.accepts_iff, portIdPattern]
    exact .seq (.lit _) ((Regex.accepts_iff _ _).mp (crypto.digest_hex _))
  obtain ⟨first, second, hfirst, hsecond, hid_eq⟩ := portIdPattern_iff.mp hid
  obtain ⟨hroot_length, hroot_pattern⟩ := orRoot_ok hlength hpattern
  exact ⟨⟨labels, hlabels, hatoms, hname_length, first, hfirst, second, hsecond, orRoot path, hroot_length, hroot_pattern,
    orRoot_ne_nil path⟩, hid_eq.symm, hname_eq, rfl⟩

/-- The address that a made text is read as. -/
theorem resolved_made {ownerPort name path record : Json} {uri : JsString}
    (hmade : makePortUri (some ownerPort) (some name) (some path) = .ok uri) {t : ℤ} {r : PortResolution}
    (h : resolvePortName crypto (.str uri) record t = .ok r) :
    ownerPort = .str r.ownerPort ∧ name = .str r.name := by
  obtain ⟨a, text, rfl, rfl, -, -, rfl⟩ := makePortUri_eq_ok hmade
  obtain ⟨address, body, entry, items, haddress, -, -, -, -, -, rfl⟩ := resolvePortName_eq_ok.mp h
  have hread := a.parsePortUri a.path_length a.path_pattern (orRoot_of_ne a.path_ne).symm
  rw [← Except.ok.inj (hread.symm.trans haddress)]
  exact ⟨rfl, rfl⟩

/-- The entries of a signed manifest and of its snapshot. -/
theorem entries_signed {identity : Identity crypto} {items : List Json} {revision copy : Json} {now ttlMs : ℤ}
    (hmanifest : Manifest crypto (manifestBody identity (.arr items) revision now ttlMs) now)
    (hcopy : ordered (manifestBody identity (.arr items) revision now ttlMs) = some copy) :
    (∀ entry ∈ items, Binding entry) ∧ ∃ copies, orderedItems items = some copies ∧
      copy.get "entries" = some (.arr copies) := by
  have hitems : (manifestBody identity (.arr items) revision now ttlMs).get "entries" = some (.arr items) :=
    Json.get_record _ _
  obtain ⟨items', hitems', -, -, hbindings, -⟩ := hmanifest.entries
  rw [hitems, Option.some.injEq, Json.arr.injEq] at hitems'
  subst hitems'
  obtain ⟨v, hv, hentries⟩ := get_copied hcopy hitems
  rw [ordered, Option.map_eq_some_iff] at hv
  obtain ⟨copies, hcopies, rfl⟩ := hv
  exact ⟨hbindings, copies, hcopies, hentries⟩

section
variable {identity : Identity crypto} {items : List Json} {revision record : Json} {now ttlMs : ℤ}

/-- A registered name resolves, on an admissible path and throughout the lifetime of the record. -/
theorem registered_resolves (hsign : signPortNames crypto identity (.arr items) revision now ttlMs = .ok record) {entry : Json}
    (hentry : entry ∈ items) {path : JsString} (hlength : path.length ≤ 512) (hpattern : pathPattern.accepts path = true) :
    ∃ uri, makePortUri (some (.str identity.id)) (entry.get "name") (some (.str path)) = .ok uri ∧
      ∀ t, now ≤ t → t < now + ttlMs → ∃ r, resolvePortName crypto (.str uri) record t = .ok r ∧ r.address = uri ∧
        r.ownerPort = identity.id ∧ entry.get "name" = some (.str r.name) ∧ entry.get "targetPort" = some r.targetPort ∧
        r.path = orRoot path := by
  obtain ⟨-, hmanifest, copy, hcopy, -⟩ := signPortNames_eq_ok.mp hsign
  obtain ⟨hbindings, copies, hcopies, hentries⟩ := entries_signed hmanifest hcopy
  obtain ⟨labels, hname⟩ := (hbindings entry hentry).name
  obtain ⟨id, htarget⟩ := (hbindings entry hentry).target
  obtain ⟨a, ha_owner, ha_name, ha_path⟩ := exists_address identity hname hlength hpattern
  obtain ⟨found, hfound, hfound_name, hfound_target⟩ :=
    (copied_bindings (forall₂_of_orderedItems hcopies) hbindings).2.2 entry hentry
  refine ⟨a.uri, by rw [← ha_owner, ha_name]; exact a.makePortUri hlength hpattern ha_path, fun t hle hlt => ?_⟩
  have hread := a.parsePortUri a.path_length a.path_pattern (orRoot_of_ne a.path_ne).symm
  have howner : copy.get "ownerPort" = some (.str a.ownerPort) := by
    rw [ha_owner]
    exact get_str_ordered hcopy (Json.get_record _ _)
  refine ⟨_, resolvePortName_eq_ok.mpr ⟨a.parsed, copy, found, copies, hread, (signedManifest_iff hsign).mpr ⟨hcopy, hle, hlt⟩,
    howner, hentries, hfound, hfound_name.trans ha_name, rfl⟩, rfl, ha_owner, ha_name, ?_, ha_path⟩
  rw [hfound_target, (validPortId_eq_ok.mp htarget).1]
  rfl

/-- A resolved address names the owner, a registered name, and a time of the lifetime. -/
theorem resolved_registered (hsign : signPortNames crypto identity (.arr items) revision now ttlMs = .ok record) {uri : Json}
    {t : ℤ} {r : PortResolution} (h : resolvePortName crypto uri record t = .ok r) :
    r.ownerPort = identity.id ∧ (∃ entry ∈ items, entry.get "name" = some (.str r.name)) ∧ now ≤ t ∧ t < now + ttlMs := by
  obtain ⟨-, hmanifest, copy, hcopy, -⟩ := signPortNames_eq_ok.mp hsign
  obtain ⟨hbindings, copies, hcopies, hentries⟩ := entries_signed hmanifest hcopy
  obtain ⟨address, body, found, copies', -, hbody, hport, hentries', hfound, hfound_name, rfl⟩ := resolvePortName_eq_ok.mp h
  obtain ⟨hbody_eq, hwindow⟩ := (signedManifest_iff hsign).mp hbody
  rw [hcopy, Option.some.injEq] at hbody_eq
  subst hbody_eq
  rw [hentries, Option.some.injEq, Json.arr.injEq] at hentries'
  subst hentries'
  have howner : copy.get "ownerPort" = some (.str identity.id) := get_str_ordered hcopy (Json.get_record _ _)
  rw [howner, Option.some.injEq, Json.str.injEq] at hport
  obtain ⟨entry, hentry, hentry_copy⟩ := mem_of_orderedItems hcopies hfound
  have hname := ((hbindings entry hentry).ordered hentry_copy).2.1
  exact ⟨hport.symm, ⟨entry, hentry, hname.symm.trans hfound_name⟩, hwindow⟩

/-- Every registered name resolves, on every admissible path and throughout the lifetime of the
record, to its target and to that path, the empty path being the root. Other names, other owners
and other times are rejected, and so is every record of the namespace whose body differs from
what was signed. -/
theorem signed_names_resolve (hsign : signPortNames crypto identity (.arr items) revision now ttlMs = .ok record)
    {signed records : Set Json} (hideal : Unforgeable identity signed records) :
    (∀ entry ∈ items, ∀ path : JsString, path.length ≤ 512 → pathPattern.accepts path = true →
      ∃ uri, makePortUri (some (.str identity.id)) (entry.get "name") (some (.str path)) = .ok uri ∧
        ∀ t, now ≤ t → t < now + ttlMs → ∃ r, resolvePortName crypto (.str uri) record t = .ok r ∧ r.address = uri ∧
          r.ownerPort = identity.id ∧ entry.get "name" = some (.str r.name) ∧
          entry.get "targetPort" = some r.targetPort ∧ r.path = if path.isEmpty then [47] else path) ∧
    (∀ ownerPort name path uri t, makePortUri (some ownerPort) (some name) (some path) = .ok uri →
      ownerPort ≠ .str identity.id ∨ (∀ entry ∈ items, entry.get "name" ≠ some name) ∨ t < now ∨ now + ttlMs ≤ t →
        ∀ r, resolvePortName crypto (.str uri) record t ≠ .ok r) ∧
    ∀ record' ∈ records, ∀ raw, record'.get "body" = some raw → (∀ body ∈ signed, ordered raw ≠ ordered body) →
      ∀ name path uri t, makePortUri (some (.str identity.id)) (some name) (some path) = .ok uri →
        ∀ r, resolvePortName crypto (.str uri) record' t ≠ .ok r := by
  refine ⟨fun entry hentry path hlength hpattern => registered_resolves hsign hentry hlength hpattern, ?_, ?_⟩
  · intro ownerPort name path uri t hmade hreject r h
    obtain ⟨rfl, rfl⟩ := resolved_made hmade h
    obtain ⟨howner, ⟨entry, hentry, hname⟩, hle, hlt⟩ := resolved_registered hsign h
    rcases hreject with hother | hunregistered | hearly | hlate
    · exact hother (congrArg Json.str howner)
    · exact hunregistered entry hentry hname
    · omega
    · omega
  · intro record' hrecord raw hraw hdiffers name path uri t hmade r h
    have howner := Json.str.inj (resolved_made hmade h).1
    obtain ⟨raw', hraw', body, hsigned, hsame⟩ := signed_of_resolved hideal hrecord h howner.symm
    rw [hraw, Option.some.injEq] at hraw'
    subst hraw'
    exact hdiffers body hsigned hsame

end

/-- Where a record is the only one there is, nothing is forged. -/
theorem unforgeable_alone {identity : Identity crypto} {entries revision record : Json} {now ttlMs : ℤ}
    (hsign : signPortNames crypto identity entries revision now ttlMs = .ok record) :
    Unforgeable identity {body | record.get "body" = some body} {record} where
  signature := by
    intro other hother raw message signature hraw hmessage _ _
    rw [Set.mem_singleton_iff.mp hother] at hraw
    exact ⟨raw, hraw, hmessage⟩
  digest := by
    intro other hother raw key hraw hkey _
    obtain ⟨-, -, copy, hcopy, hrecord⟩ := signPortNames_eq_ok.mp hsign
    rw [Set.mem_singleton_iff.mp hother, hrecord, Json.get_record] at hraw
    have hcopied : copy.get "ownerPublicKey" = some (.str identity.publicKey) :=
      get_str_ordered hcopy (Json.get_record _ _)
    rw [← Option.some.inj hraw, hcopied, Option.some.injEq, Json.str.injEq] at hkey
    have hdecoded := congrArg base64Decode hkey
    rw [Identity.publicKey, base64Decode_encode, base64Decode_encode] at hdecoded
    exact hdecoded.symm

end

/-! ## A sample record -/

namespace Sample

def rootEntry : Json := .record [("name", .text ""), ("targetPort", .str second.id)]

def rootRecord : Json := (signPortNames crypto first (.arr [rootEntry]) (.int 1) now 60000).toOption.getD .null

theorem rootRecord_signed : signPortNames crypto first (.arr [rootEntry]) (.int 1) now 60000 = .ok rootRecord := by
  have hok : (signPortNames crypto first (.arr [rootEntry]) (.int 1) now 60000).isOk = true := by decide +kernel
  rw [rootRecord]
  cases h : signPortNames crypto first (.arr [rootEntry]) (.int 1) now 60000 with
  | ok record => rfl
  | error e =>
    rw [h] at hok
    cases hok

theorem signed_names_resolve_root : ∃ uri r, resolvePortName crypto (.str uri) rootRecord now = .ok r ∧
    some (Json.str second.id) = some r.targetPort := by
  obtain ⟨uri, -, hresolve⟩ := (signed_names_resolve rootRecord_signed (unforgeable_alone rootRecord_signed)).1 rootEntry
    List.mem_cons_self [] (by simp) (by decide)
  obtain ⟨r, hr, -, -, -, htarget, -⟩ := hresolve now le_rfl (by unfold now; omega)
  exact ⟨uri, r, hr, htarget⟩

/-- On the empty path a registered name resolves to the path `/`. -/
theorem empty_path_resolves : ∃ uri r, makePortUri (some (.str first.id)) (some (.text "")) (some (.str [])) = .ok uri ∧
    resolvePortName crypto (.str uri) rootRecord now = .ok r ∧ r.path ≠ [] := by
  obtain ⟨uri, hmade, hresolve⟩ := registered_resolves rootRecord_signed
    (show rootEntry ∈ [rootEntry] from List.mem_cons_self) (show ([] : JsString).length ≤ 512 from Nat.zero_le _) (by decide)
  obtain ⟨r, hr, -, -, -, -, hpath⟩ := hresolve now le_rfl (by unfold now; omega)
  exact ⟨uri, r, hmade, hr, hpath ▸ orRoot_ne_nil []⟩

end Sample

end Native
