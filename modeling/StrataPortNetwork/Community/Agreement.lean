import StrataPortNetwork.Community.Names

/-! # Agreement of the two implementations

The community client and the native port accept the same addresses and the same signed
names. They read them alike except for an address without a path, which the native parser
completes and the community parser leaves as it is.
-/
namespace Community
open Js Native

/-! ## Patterns -/

theorem matches_path_congr {cls cls' : CharClass} (h : ∀ u, cls.has u = cls'.has u) {tail : Regex} {s : JsString}
    (hs : (Regex.seq (.star (.seq (.text "/") (.plus cls))) tail).Matches s) :
    (Regex.seq (.star (.seq (.text "/") (.plus cls'))) tail).Matches s := by
  obtain ⟨t, u, rfl, ht, hu⟩ := Regex.matches_seq.mp hs
  refine .seq (Regex.matches_star_mono (fun s hs => ?_) ht) hu
  obtain ⟨v, w, rfl, hv, hw⟩ := Regex.matches_seq.mp hs
  exact .seq hv (Regex.matches_plus_congr h hw)

theorem resourcePath_accepts (s : JsString) : resourcePath.accepts s = pathPattern.accepts s := by
  have hclass : ∀ u, CharClass.has (Regex.upper ++ Regex.lower ++ Regex.digits ++ [(95, 95), (45, 45)]) u =
      CharClass.has (Regex.lower ++ Regex.upper ++ Regex.digits ++ [(95, 95), (45, 45)]) u := by
    intro u
    simp only [CharClass.has_append, Bool.or_comm (Regex.upper.has u)]
  rw [Bool.eq_iff_iff, Regex.accepts_iff, Regex.accepts_iff]
  exact ⟨matches_path_congr hclass, matches_path_congr fun u => (hclass u).symm⟩

theorem uriText_accepts (s : JsString) : uriText.accepts s = uriPattern.accepts s := by
  have hpath : ∀ s, resourcePath.Matches s ↔ pathPattern.Matches s := by
    intro s
    rw [← Regex.accepts_iff, ← Regex.accepts_iff, resourcePath_accepts]
  rw [Bool.eq_iff_iff, Regex.accepts_iff, Regex.accepts_iff]
  simp only [uriText, uriPattern, Regex.matches_seq, hpath]

theorem nameAtom_accepts (s : JsString) : nameAtom.accepts s = atom.accepts s := by
  rw [Bool.eq_iff_iff, Regex.accepts_iff, Regex.accepts_iff, nameAtom, atom, Regex.matches_alt, Regex.matches_seq, Regex.matches_seq]
  simp only [Regex.matches_alt]
  constructor
  · rintro ⟨t, u, rfl, ht, hu | hu⟩
    · exact Or.inl ⟨t, u, rfl, ht, hu⟩
    · rw [Regex.text, Regex.matches_lit] at hu
      rw [hu, show js "" = [] from rfl, List.append_nil]
      exact Or.inr ht
  · rintro (⟨t, u, rfl, ht, hu⟩ | ht)
    · exact ⟨t, u, rfl, ht, Or.inl hu⟩
    · exact ⟨s, [], (List.append_nil s).symm, ht, Or.inr (.lit _)⟩

theorem portIdText_accepts (s : JsString) : portIdText.accepts s = portIdPattern.accepts s := by
  have hclass : ∀ u, CharClass.has (Regex.digits ++ [(97, 102)]) u = Regex.hex.has u := by
    intro u
    change _ = CharClass.has ([(97, 102)] ++ Regex.digits) u
    rw [CharClass.has_append, CharClass.has_append, Bool.or_comm]
  rw [Bool.eq_iff_iff, Regex.accepts_iff, Regex.accepts_iff, portIdText, portIdPattern, hex64, Regex.matches_seq, Regex.matches_seq]
  simp only [Regex.matches_run, hclass]

/-- The pattern admits every canonical base64 text. -/
theorem base64Text_encode (bytes : Bytes) : base64Text.accepts (base64Encode bytes) = true := by
  have hsextet : ∀ {n : ℕ}, n < 64 → base64Class.has (sextetChar n) = true := by
    intro n hn
    interval_cases n <;> decide
  rw [Regex.accepts_iff]
  fun_induction base64Encode bytes with
  | case1 => exact .seq (.starNil _) (.altRight _ (.lit []))
  | case2 a =>
    have ha := a.toNat_lt
    have hrun : (Regex.run base64Class 2 2).Matches [sextetChar (a.toNat / 4), sextetChar (a.toNat % 4 * 16)] := by
      refine .run ?_ le_rfl le_rfl
      simp only [List.forall_mem_cons, List.not_mem_nil, false_implies, implies_true, and_true]
      exact ⟨hsextet (by omega), hsextet (by omega)⟩
    exact .seq (.starNil _) (.altLeft _ (.altLeft _ (.seq hrun (.lit (js "==")))))
  | case3 a b =>
    have ha := a.toNat_lt
    have hb := b.toNat_lt
    have hrun : (Regex.run base64Class 3 3).Matches [sextetChar (a.toNat / 4),
        sextetChar (a.toNat % 4 * 16 + b.toNat / 16), sextetChar (b.toNat % 16 * 4)] := by
      refine .run ?_ le_rfl le_rfl
      simp only [List.forall_mem_cons, List.not_mem_nil, false_implies, implies_true, and_true]
      exact ⟨hsextet (by omega), hsextet (by omega), hsextet (by omega)⟩
    exact .seq (.starNil _) (.altLeft _ (.altRight _ (.seq hrun (.lit (js "=")))))
  | case4 a b c rest ih =>
    have ha := a.toNat_lt
    have hb := b.toNat_lt
    have hc := c.toNat_lt
    have hrun : (Regex.run base64Class 4 4).Matches [sextetChar (a.toNat / 4),
        sextetChar (a.toNat % 4 * 16 + b.toNat / 16), sextetChar (b.toNat % 16 * 4 + c.toNat / 64),
        sextetChar (c.toNat % 64)] := by
      refine .run ?_ le_rfl le_rfl
      simp only [List.forall_mem_cons, List.not_mem_nil, false_implies, implies_true, and_true]
      exact ⟨hsextet (by omega), hsextet (by omega), hsextet (by omega), hsextet (by omega)⟩
    obtain ⟨t, u, htu, ht, hu⟩ := Regex.matches_seq.mp ih
    rw [htu]
    exact .seq (.starCons hrun ht) hu

/-! ## Records and keys -/

theorem ordered_eq_ok {v w : Json} : ordered v = .ok w ↔ Native.ordered v = some w := by
  induction v using Json.inductionOn generalizing w with
  | null | bool _ | str _ => simp [ordered, Native.ordered]
  | num x => simp [ordered, Native.ordered]
  | arr items ih =>
    have hitems : ∀ items', orderedItems items = .ok items' ↔ Native.orderedItems items = some items' := by
      induction items with
      | nil => simp [orderedItems, Native.orderedItems]
      | cons v rest ihrest =>
        rw [List.forall_mem_cons] at ih
        have hrest := ihrest ih.2
        simp [orderedItems, Native.orderedItems, ih.1, hrest, Option.bind_eq_some_iff]
    simp [ordered, Native.ordered, hitems]
  | obj fields ih =>
    have hfields : ∀ fields', orderedFields fields = .ok fields' ↔ Native.orderedFields fields = some fields' := by
      induction fields with
      | nil => simp [orderedFields, Native.orderedFields]
      | cons f rest ihrest =>
        rw [List.forall_mem_cons] at ih
        have hrest := ihrest ih.2
        simp [orderedFields, Native.orderedFields, ih.1, hrest, Option.bind_eq_some_iff]
    simp [ordered, Native.ordered, hfields]

theorem canonical_eq_ok {v : Json} {bytes : Bytes} : canonical v = .ok bytes ↔ canonicalBytes v = .ok bytes := by
  simp only [canonical, bind_eq_ok, ordered_eq_ok, pure_eq_ok, canonicalBytes_eq_ok, eq_comm (a := bytes)]

theorem assertExact_iff {v : Json} {names : List String} (hne : names ≠ []) (hnodup : names.Nodup)
    (hpresent : ∀ name ∈ names, (v.get name).isSome = true) :
    assertExact (some v) names = .ok () ↔ HasFields v names := by
  constructor
  · intro h
    cases v with
    | obj own =>
      rw [assertExact, ensure_eq_ok, beq_iff_eq] at h
      refine ⟨own, rfl, perm_of_joined (by simpa using hne) (hnodup.map js_injective) ?_ h⟩
      rw [List.forall_mem_map]
      intro name hname
      obtain ⟨w, hw⟩ := Option.isSome_iff_exists.mp (hpresent name hname)
      exact mem_keys_of_get hw
    | null | bool _ | num _ | str _ | arr _ => cases h
  · rintro ⟨own, rfl, hperm⟩
    rw [assertExact, ensure_eq_ok, beq_iff_eq]
    exact congrArg ([44].intercalate ·) (sortKeys_congr hperm)

section
variable {crypto : Crypto}

/-- The pattern and the bound on the bytes follow from the other checks of a key. -/
theorem decodeKey_eq_ok {encoded : Option Json} {bytes : Bytes} :
    decodeKey crypto encoded = .ok bytes ↔ decodePublicKey crypto encoded "ed25519" = .ok bytes := by
  rw [decodePublicKey_eq_ok]
  simp only [decodeKey, bind_eq_ok, orThrow_eq_ok, ensure_eq_ok, pure_eq_ok, Json.bind_str?_eq_some, exists_const,
    decide_eq_true_eq, Bool.and_eq_true, beq_iff_eq]
  constructor
  · rintro ⟨text, hencoded, ⟨hlength, -⟩, ⟨hcanonical, -⟩, keyType, htype, rfl, rfl⟩
    exact ⟨text, hencoded, hlength, hcanonical, htype⟩
  · rintro ⟨text, hencoded, hlength, rfl, htype⟩
    have hbytes : bytes.length ≤ 96 := by
      rw [base64Encode_length] at hlength
      omega
    refine ⟨_, hencoded, ⟨hlength, base64Text_encode bytes⟩, ?_⟩
    rw [base64Decode_encode]
    exact ⟨⟨rfl, hbytes⟩, _, htype, rfl, rfl⟩

end

/-! ## Names and addresses -/

theorem validateName_eq_ok {name : Option Json} {parts : List JsString} :
    validateName name = .ok parts ↔ nameParts name = .ok parts := by
  have hatoms : nameAtom.accepts = atom.accepts := funext nameAtom_accepts
  simp only [validateName, nameParts, bind_eq_ok, orThrow_eq_ok, ensure_eq_ok, hatoms]

theorem validateId_eq_ok {id : Option Json} {text : JsString} : validateId id = .ok text ↔ validPortId id = .ok text := by
  simp only [validateId, validPortId, bind_eq_ok, orThrow_eq_ok, ensure_eq_ok, portIdText_accepts]

/-- Both implementations make the same addresses. -/
theorem communityPortUri_eq_ok {ownerPort name path : Option Json} {uri : JsString} :
    communityPortUri ownerPort name path = .ok uri ↔ makePortUri ownerPort name path = .ok uri := by
  have hhost : ∀ (parts : List JsString) (hash : JsString),
      [46].intercalate (parts ++ [hash.take 32, hash.drop 32, js "sdpn"]) =
        [46].intercalate (parts ++ [hash.take 32 ++ 46 :: (hash.drop 32 ++ js ".sdpn")]) := by
    intro parts hash
    rw [← intercalate_append_intercalate (List.cons_ne_nil _ _) parts]
    rfl
  simp only [communityPortUri, makePortUri, portNamespaceHost, safePath, bind_eq_ok, orThrow_eq_ok, ensure_eq_ok, pure_eq_ok,
    validateId_eq_ok, validateName_eq_ok, resourcePath_accepts, exists_const, Bool.and_eq_true, decide_eq_true_eq, hhost]
  constructor
  · rintro ⟨owner, howner, parts, hparts, text, htext, hpath, rfl⟩
    exact ⟨parts, hparts, _, ⟨owner, howner, rfl⟩, _, ⟨text, htext, hpath, rfl⟩, rfl⟩
  · rintro ⟨parts, hparts, _, ⟨owner, howner, rfl⟩, _, ⟨text, htext, hpath, rfl⟩, rfl⟩
    exact ⟨owner, howner, parts, hparts, text, htext, hpath, rfl⟩

/-- A path is completed once. -/
theorem safePath_idem {path : Option Json} {text text' : JsString} (h : safePath path = .ok text) :
    safePath (some (.str text)) = .ok text' ↔ text = text' := by
  obtain ⟨s, -, hlength, hpattern, rfl⟩ := safePath_eq_ok.mp h
  obtain ⟨hroot_length, hroot_pattern⟩ := orRoot_ok hlength hpattern
  have hroot : orRoot (orRoot s) = orRoot s := orRoot_of_ne (orRoot_ne_nil s)
  rw [safePath_eq_ok]
  constructor
  · rintro ⟨s', hs', -, -, rfl⟩
    rw [Option.some.injEq, Json.str.injEq] at hs'
    exact hroot.symm.trans (congrArg orRoot hs')
  · intro htext
    exact ⟨_, rfl, hroot_length, hroot_pattern, hroot.trans htext⟩

theorem makePortUri_safePath {ownerPort name path : Json} {uri : JsString} :
    makePortUri (some ownerPort) (some name) (some path) = .ok uri ↔ ∃ text, safePath (some path) = .ok text ∧
      makePortUri (some ownerPort) (some name) (some (.str text)) = .ok uri := by
  simp only [makePortUri, bind_eq_ok, pure_eq_ok, Option.getD_some]
  constructor
  · rintro ⟨parts, hparts, host, hhost, text, htext, rfl⟩
    exact ⟨text, htext, parts, hparts, host, hhost, text, (safePath_idem htext).mpr rfl, rfl⟩
  · rintro ⟨text, htext, parts, hparts, host, hhost, text', htext', rfl⟩
    obtain rfl := (safePath_idem htext).mp htext'
    exact ⟨parts, hparts, host, hhost, text, htext, rfl⟩

/-- What the community parser reads: the address, with the text and the path as they were given. -/
theorem parseCommunityPortUri_eq_ok {uri : Json} {q : CommunityAddress} :
    parseCommunityPortUri uri = .ok q ↔ ∃ (a : Address) (path : JsString), uri = .str (a.bare ++ path) ∧ path.length ≤ 512 ∧
      pathPattern.accepts path = true ∧ a.path = orRoot path ∧ q = ⟨a.bare ++ path, a.ownerPort, a.name, path⟩ := by
  have hnative : parseCommunityPortUri uri = .ok q ↔ ∃ p text, parsePortUri uri = .ok p ∧ uri = .str text ∧
      q = ⟨text, p.ownerPort, p.name, (urlParts text).2⟩ := by
    simp only [parseCommunityPortUri, parsePortUri, bind_eq_ok, orThrow_eq_ok, ensure_eq_ok, pure_eq_ok, exists_const,
      validateName_eq_ok, communityPortUri_eq_ok, uriText_accepts]
    constructor
    · rintro ⟨text, htext, huri, hlabels, hhalves, parts, hparts, made, hmade, hcanonical, rfl⟩
      obtain ⟨path, hpath, hmade'⟩ := makePortUri_safePath.mp hmade
      obtain ⟨a, -, howner, -⟩ := makePortUri_eq_ok hmade
      have hhost := a.portNamespaceHost
      rw [← howner] at hhost
      exact ⟨_, text, ⟨text, htext, huri, hlabels, hhalves, parts, hparts, path, hpath, made, hmade', hcanonical, _, hhost, rfl⟩,
        str?_eq_some.mp htext, rfl⟩
    · rintro ⟨p, text, ⟨text', htext, huri, hlabels, hhalves, parts, hparts, path, hpath, made, hmade, hcanonical, host, hhost, rfl⟩,
        rfl, rfl⟩
      obtain rfl : text = text' := Option.some.inj htext
      exact ⟨text, htext, huri, hlabels, hhalves, parts, hparts, made, makePortUri_safePath.mpr ⟨path, hpath, hmade⟩, hcanonical, rfl⟩
  rw [hnative]
  constructor
  · rintro ⟨p, text, hp, rfl, rfl⟩
    obtain ⟨a, path, rfl, htext, hlength, hpattern, hpath⟩ := parsePortUri_eq_ok hp
    obtain rfl := Json.str.inj htext
    rw [a.urlParts_bare (pathPattern_cases hpattern)]
    exact ⟨a, path, rfl, hlength, hpattern, hpath, rfl⟩
  · rintro ⟨a, path, rfl, hlength, hpattern, hpath, rfl⟩
    refine ⟨a.parsed, _, a.parsePortUri hlength hpattern hpath, rfl, ?_⟩
    rw [a.urlParts_bare (pathPattern_cases hpattern)]
    rfl

/-! ## Signed names -/

theorem Binding.of_checks {binding : Json} (hfields : assertExact (some binding) ["name", "targetPort"] = .ok ())
    {parts : List JsString} (hname : validateName (binding.get "name") = .ok parts) {id : JsString}
    (htarget : validateId (binding.get "targetPort") = .ok id) : Binding binding := by
  rw [validateName_eq_ok] at hname
  rw [validateId_eq_ok] at htarget
  refine ⟨(assertExact_iff (by simp) (by decide) ?_).mp hfields, ⟨parts, hname⟩, id, htarget⟩
  simp only [List.forall_mem_cons, List.not_mem_nil, false_implies, implies_true, and_true, (nameParts_eq_ok.mp hname).1,
    (validPortId_eq_ok.mp htarget).1, Option.isSome_some]

/-- Both implementations admit the same entries. -/
theorem checkBindings_eq_ok {seen : List JsString} {items : List Json} {u : Unit} :
    checkBindings seen items = .ok u ↔ checkEntries seen items = .ok u := by
  cases u
  induction items generalizing seen with
  | nil => simp [checkBindings, checkEntries]
  | cons binding rest ih =>
    simp only [checkBindings, checkEntries, bind_eq_ok, ensure_eq_ok, validateName_eq_ok, validateId_eq_ok, ih]
    constructor
    · rintro ⟨⟨⟩, hfields, parts, hparts, id, hid, hrest⟩
      have hbinding := Binding.of_checks hfields (validateName_eq_ok.mpr hparts) (validateId_eq_ok.mpr hid)
      exact ⟨(), (exactFields_iff (by simp) (by decide) fun _ => hbinding.fields.isSome).mpr hbinding.fields, parts, hparts, id, hid,
        hrest⟩
    · rintro ⟨⟨⟩, hfields, parts, hparts, id, hid, hrest⟩
      have hbinding := Native.Binding.of_checks hfields hparts hid
      exact ⟨(), (assertExact_iff (by simp) (by decide) fun _ => hbinding.fields.isSome).mpr hbinding.fields, parts, hparts, id, hid,
        hrest⟩

section
variable {crypto : Crypto}

theorem portIdentifier_eq_ok {publicKey : Option Json} {id : JsString} :
    portIdentifier crypto publicKey = .ok id ↔ ∃ key, decodePublicKey crypto publicKey "ed25519" = .ok key ∧
      portId crypto publicKey = .ok id := by
  simp only [portIdentifier, bind_eq_ok, pure_eq_ok, decodeKey_eq_ok]
  have hid : ∀ {key : Bytes}, decodePublicKey crypto publicKey "ed25519" = .ok key →
      (portPrefix ++ crypto.digest key = id ↔ portId crypto publicKey = .ok id) := by
    intro key hkey
    obtain ⟨text, rfl, -, rfl, -⟩ := decodePublicKey_eq_ok.mp hkey
    simp only [portId, bind_eq_ok, orThrow_eq_ok, pure_eq_ok, Json.bind_str?_eq_some, Option.some.injEq, Json.str.injEq,
      exists_eq_left', base64Decode_encode]
    rfl
  constructor
  · rintro ⟨key, hkey, h⟩
    exact ⟨key, hkey, (hid hkey).mp h⟩
  · rintro ⟨key, hkey, h⟩
    exact ⟨key, hkey, (hid hkey).mpr h⟩

/-- The community client admits the manifests whose owner key decodes. -/
theorem validateBindings_eq_ok {body : Json} {now : ℤ} : validateBindings crypto body now = .ok () ↔
    Manifest crypto body now ∧ ∃ key, decodePublicKey crypto (body.get "ownerPublicKey") "ed25519" = .ok key := by
  simp only [validateBindings, bind_eq_ok, ensure_eq_ok, orThrow_eq_ok, exists_const, Bool.and_eq_true, decide_eq_true_eq,
    Json.some_beq_str_iff, items?_eq_some, checkBindings_eq_ok, checkEntries_eq_ok, portIdentifier_eq_ok, canonical_eq_ok]
  have htext : (body.get "schema" == some (Json.text communitySchema)) = true ↔
      body.get "schema" = some (.text portNamesSchema) := Json.some_beq_str_iff
  rw [htext]
  constructor
  · rintro ⟨⟨⟩, hfields, hschema, id, ⟨key, hkey, hid⟩, ⟨⟨howner, hrevision⟩, hlifetime⟩, items, hitems, ⟨hleast, hmost⟩,
      ⟨hbindings, hnodup, -⟩, bytes, hbytes, hsize⟩
    have hpresent := isSome_of_checks hschema hid howner hrevision hlifetime hitems
    exact ⟨⟨(assertExact_iff (by decide) (by decide) hpresent).mp hfields, hschema, ⟨id, hid, howner⟩, hrevision, hlifetime,
      ⟨items, hitems, hleast, hmost, hbindings, hnodup⟩, bytes, hbytes, hsize⟩, key, hkey⟩
  · rintro ⟨⟨hfields, hschema, ⟨id, hid, howner⟩, hrevision, hlifetime, ⟨items, hitems, hleast, hmost, hbindings, hnodup⟩,
      bytes, hbytes, hsize⟩, key, hkey⟩
    have hexact : assertExact (some body) bodyFields = .ok () :=
      (assertExact_iff (by decide) (by decide) fun _ => hfields.isSome).mpr hfields
    exact ⟨(), hexact, hschema, id, ⟨key, hkey, hid⟩, ⟨⟨howner, hrevision⟩, hlifetime⟩, items, hitems, ⟨hleast, hmost⟩,
      ⟨hbindings, hnodup, by simp⟩, bytes, hbytes, hsize⟩

/-- Both implementations verify the same records, and return the same body. -/
theorem verifyCommunityNames_eq_ok {envelope body : Json} {now : ℤ} :
    verifyCommunityNames crypto envelope now = .ok body ↔ verifyPortNames crypto envelope now = .ok body := by
  rw [verifyPortNames_eq_ok]
  simp only [verifyCommunityNames, bind_eq_ok, orThrow_eq_ok, ensure_eq_ok, pure_eq_ok, Option.filter_eq_some_iff,
    Json.bind_str?_eq_some, canonical_eq_ok, decodeKey_eq_ok, Bool.and_eq_true, beq_iff_eq]
  have hread : ∀ {raw w : Json}, (∃ bytes, canonicalBytes raw = .ok bytes ∧ (utf8Decode bytes).bind parse = some w) ↔
      Native.ordered raw = some w := by
    intro raw w
    rw [← snapshot_eq_ok]
    simp only [snapshot, bind_eq_ok, orThrow_eq_ok]
  constructor
  · rintro ⟨⟨⟩, hfields, raw, ⟨hraw, hrecord⟩, bytes, hbytes, body', hparsed, ⟨⟩, hbody, key, hkey, text, htext, ⟨⟩, hlength,
      message, hmessage, ⟨⟩, ⟨⟨hsize, hcanonical⟩, hverify⟩, rfl⟩
    have hordered := hread.mp ⟨bytes, hbytes, hparsed⟩
    have hpresent : ∀ name ∈ ["body", "signature"], (envelope.get name).isSome = true := by
      simp only [List.forall_mem_cons, List.not_mem_nil, false_implies, implies_true, and_true, hraw, htext,
        Option.isSome_some]
    obtain ⟨w, hw, rfl⟩ := canonicalBytes_eq_ok.mp hmessage
    rw [ordered_ordered hordered, Option.some.injEq] at hw
    subst hw
    exact ⟨(assertExact_iff (by simp) (by decide) hpresent).mp hfields, ⟨raw, hraw, hordered⟩,
      ⟨key, _, hkey, by rw [htext, hcanonical], hsize, hverify⟩, (validateBindings_eq_ok.mp hbody).1⟩
  · rintro ⟨hfields, ⟨raw, hraw, hordered⟩, ⟨key, signature, hkey, hsignature, hlength, hverify⟩, hmanifest⟩
    have hrecord : raw.isRecord = true := by
      obtain ⟨own, rfl, -⟩ := hmanifest.fields
      cases raw with
      | obj fields => rfl
      | null | bool _ | num _ | str _ | arr _ => simp [Native.ordered] at hordered
    obtain ⟨bytes, hbytes, hparsed⟩ := hread.mpr hordered
    refine ⟨(), (assertExact_iff (by simp) (by decide) fun _ => hfields.isSome).mpr hfields, raw, ⟨hraw, hrecord⟩, bytes, hbytes,
      body, hparsed, (), validateBindings_eq_ok.mpr ⟨hmanifest, key, hkey⟩, key, hkey, _, hsignature, (), ?_,
      utf8Encode (stringify body), canonicalBytes_eq_ok.mpr ⟨body, ordered_ordered hordered, rfl⟩, (), ⟨⟨?_, ?_⟩, ?_⟩, rfl⟩
    · rw [base64Encode_length, hlength]
    · rw [base64Decode_encode, hlength]
    · rw [base64Decode_encode]
    · rw [base64Decode_encode]
      exact hverify

/-! ## Agreement -/

/-- Both reject, or both accept with related results. -/
def SameOutcome {α β : Type} (related : α → β → Prop) : Outcome α → Outcome β → Prop
  | .ok a, .ok b => related a b
  | .error _, .error _ => True
  | _, _ => False

theorem sameOutcome_of {α β : Type} {related : α → β → Prop} {x : Outcome α} {y : Outcome β}
    (hleft : ∀ a, x = .ok a → ∃ b, y = .ok b ∧ related a b) (hright : ∀ b, y = .ok b → ∃ a, x = .ok a) :
    SameOutcome related x y := by
  cases hx : x with
  | ok a =>
    obtain ⟨b, hb, hrelated⟩ := hleft a hx
    rw [hb]
    exact hrelated
  | error e =>
    cases hy : y with
    | ok b =>
      obtain ⟨a, ha⟩ := hright b hy
      rw [hx] at ha
      cases ha
    | error e' => trivial

/-- The same address: its text, its owner, its name and its path. -/
def SameAddress (q : CommunityAddress) (p : PortAddress) : Prop :=
  q.uri = p.uri ∧ q.ownerPort = p.ownerPort ∧ q.name = p.name ∧ q.path = p.path

def SameResolution (q : CommunityResolution) (p : PortResolution) : Prop :=
  q.address = p.address ∧ q.ownerPort = p.ownerPort ∧ q.targetPort = p.targetPort ∧ q.aliasName = p.name ∧
    q.resourcePath = p.path ∧ q.expiresAt = p.expiresAt

variable (crypto) in
/-- The two implementations parse, verify and resolve alike. -/
def Agrees (uri : JsString) (envelope : Json) (now : ℤ) : Prop :=
  SameOutcome SameAddress (parseCommunityPortUri (.str uri)) (parsePortUri (.str uri)) ∧
    SameOutcome (· = ·) (verifyCommunityNames crypto envelope now) (verifyPortNames crypto envelope now) ∧
    SameOutcome SameResolution (resolveCommunityPort crypto (.str uri) envelope now)
      (resolvePortName crypto (.str uri) envelope now)

/-- Both read the same addresses, with the same owner and name. -/
theorem parsed_both {uri : Json} {q : CommunityAddress} (h : parseCommunityPortUri uri = .ok q) :
    ∃ p, parsePortUri uri = .ok p ∧ q.ownerPort = p.ownerPort ∧ q.name = p.name := by
  obtain ⟨a, path, rfl, hlength, hpattern, hpath, rfl⟩ := parseCommunityPortUri_eq_ok.mp h
  exact ⟨a.parsed, a.parsePortUri hlength hpattern hpath, rfl, rfl⟩

theorem parsed_community {uri : Json} {p : PortAddress} (h : parsePortUri uri = .ok p) :
    ∃ q, parseCommunityPortUri uri = .ok q := by
  obtain ⟨a, path, -, rfl, hlength, hpattern, hpath⟩ := parsePortUri_eq_ok h
  exact ⟨_, parseCommunityPortUri_eq_ok.mpr ⟨a, path, rfl, hlength, hpattern, hpath, rfl⟩⟩

/-- Away from addresses without a path, the text and the path are the same too. -/
theorem sameAddress {uri : JsString} (hbare : ∀ a : Address, uri ≠ a.bare) {q : CommunityAddress} {p : PortAddress}
    (hq : parseCommunityPortUri (.str uri) = .ok q) (hp : parsePortUri (.str uri) = .ok p) : SameAddress q p := by
  obtain ⟨a, path, huri, hlength, hpattern, hpath, rfl⟩ := parseCommunityPortUri_eq_ok.mp hq
  obtain rfl := Json.str.inj huri
  have hne : path ≠ [] := by
    rintro rfl
    exact hbare a (List.append_nil _)
  rw [orRoot_of_ne hne] at hpath
  rw [← Except.ok.inj ((a.parsePortUri hlength hpattern (hpath.trans (orRoot_of_ne hne).symm)).symm.trans hp)]
  exact ⟨by rw [← hpath]; rfl, rfl, rfl, hpath.symm⟩

theorem verify_agrees (envelope : Json) (now : ℤ) :
    SameOutcome (· = ·) (verifyCommunityNames crypto envelope now) (verifyPortNames crypto envelope now) :=
  sameOutcome_of (fun body hbody => ⟨body, verifyCommunityNames_eq_ok.mp hbody, rfl⟩)
    fun body hbody => ⟨body, verifyCommunityNames_eq_ok.mpr hbody⟩

/-- A name that is read alike is resolved alike. -/
theorem resolve_agrees {uri : JsString} (hbare : ∀ a : Address, uri ≠ a.bare) (envelope : Json) (now : ℤ) :
    SameOutcome SameResolution (resolveCommunityPort crypto (.str uri) envelope now)
      (resolvePortName crypto (.str uri) envelope now) := by
  apply sameOutcome_of
  · intro r h
    simp only [resolveCommunityPort, bind_eq_ok, ensure_eq_ok, orThrow_eq_ok, pure_eq_ok, exists_const,
      verifyCommunityNames_eq_ok] at h
    obtain ⟨q, hq, body, hbody, howner, entry, hentry, rfl⟩ := h
    obtain ⟨p, hp, -⟩ := parsed_both hq
    obtain ⟨huri, howner_eq, hname, hpath⟩ := sameAddress hbare hq hp
    simp only [resolvePortName, bind_eq_ok, ensure_eq_ok, orThrow_eq_ok, pure_eq_ok, exists_const]
    rw [howner_eq] at howner
    rw [hname] at hentry
    exact ⟨_, ⟨p, hp, body, hbody, howner, entry, hentry, rfl⟩, huri, howner_eq, rfl, hname, hpath, rfl⟩
  · intro r h
    simp only [resolvePortName, bind_eq_ok, ensure_eq_ok, orThrow_eq_ok, pure_eq_ok, exists_const] at h
    obtain ⟨p, hp, body, hbody, howner, entry, hentry, -⟩ := h
    obtain ⟨q, hq⟩ := parsed_community hp
    obtain ⟨-, howner_eq, hname, -⟩ := sameAddress hbare hq hp
    simp only [resolveCommunityPort, bind_eq_ok, ensure_eq_ok, orThrow_eq_ok, pure_eq_ok, exists_const,
      verifyCommunityNames_eq_ok]
    rw [← howner_eq] at howner
    rw [← hname] at hentry
    exact ⟨_, q, hq, body, hbody, howner, entry, hentry, rfl⟩

/-- An address without a path is the one on which the parsers differ. -/
theorem bare_differs (a : Address) :
    ¬ SameOutcome SameAddress (parseCommunityPortUri (.str a.bare)) (parsePortUri (.str a.bare)) := by
  let root : Address := { a with path := [47], path_length := by simp, path_pattern := pathPattern_slash, path_ne := by simp }
  have hcommunity : parseCommunityPortUri (.str a.bare) = .ok ⟨a.bare ++ [], a.ownerPort, a.name, []⟩ :=
    parseCommunityPortUri_eq_ok.mpr ⟨root, [], by rw [List.append_nil]; rfl, by simp, by decide, rfl, rfl⟩
  have hnative : parsePortUri (.str a.bare) = .ok root.parsed := by
    have hread := root.parsePortUri (Nat.zero_le _) (by decide) (show root.path = orRoot [] from rfl)
    rwa [List.append_nil] at hread
  rw [hcommunity, hnative]
  rintro ⟨-, -, -, hpath⟩
  exact absurd hpath (List.cons_ne_nil _ _).symm

variable (crypto) in
/-- The two implementations agree on every text except the addresses without a path. -/
theorem community_agrees_iff (uri : JsString) (envelope : Json) (now : ℤ) :
    Agrees crypto uri envelope now ↔ ∀ a : Address, uri ≠ a.bare := by
  constructor
  · rintro ⟨hparse, -, -⟩ a rfl
    exact bare_differs a hparse
  · intro hbare
    refine ⟨sameOutcome_of (fun q hq => ?_) fun p hp => parsed_community hp, verify_agrees envelope now,
      resolve_agrees hbare envelope now⟩
    obtain ⟨p, hp, -⟩ := parsed_both hq
    exact ⟨p, hp, sameAddress hbare hq hp⟩

end

namespace Sample

/-- The host of a namespace, without a path, is read with a path by one parser only. -/
theorem bare_disagrees : ¬ Agrees Native.Sample.crypto Native.Sample.rootAddress.bare .null 0 :=
  fun h => bare_differs Native.Sample.rootAddress h.1

end Sample

end Community
