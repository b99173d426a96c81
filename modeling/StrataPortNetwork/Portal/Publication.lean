import StrataPortNetwork.Portal.Visibility
import StrataPortNetwork.Native.Resolution
import StrataPortNetwork.Native.Completeness
import StrataPortNetwork.Native.Envelopes

/-! # Sites under signed names

A saved site is published under its slug as a name of its owner, and opened at the PORT
address of that name. A slug may be longer than a label of a name, and may end in a hyphen.
-/
namespace Portal
open Js
open Native (Crypto Identity PortAddress atom nameParts nameParts_eq_ok makePortUri parsePortUri signPortNames manifestBody)

/-! ## Opening a site -/

/-- What is at the path of a site: a file, or a link or a folder. -/
inductive SiteEntry
  | file (content : Bytes)
  | other

/-- The manifest of the operator and what is under `sites`. -/
structure Machine where
  manifest : Option Bytes
  sites : JsString → Option SiteEntry

/-- What is shown of a site, without the constants of the result. -/
structure PortPage where
  uri : JsString
  title : JsString
  html : JsString

/-- `escapeHtml(text)`. -/
def escapeHtml (text : JsString) : JsString := text.flatMap fun c =>
  if c = 38 then js "&amp;" else if c = 60 then js "&lt;" else if c = 62 then js "&gt;"
  else if c = 34 then js "&quot;" else if c = 39 then js "&#39;" else [c]

def pageHtml (address title description body : JsString) : JsString :=
  js "<!doctype html><html lang=\"en\"><head><meta charset=\"utf-8\">" ++
    js "<meta http-equiv=\"Content-Security-Policy\" content=\"default-src &#39;none&#39;; style-src &#39;unsafe-inline&#39;; connect-src &#39;none&#39;; img-src data:; form-action &#39;none&#39;\">" ++
    js "<meta name=\"viewport\" content=\"width=device-width,initial-scale=1\">" ++ js "<title>" ++ escapeHtml title ++
    js " · PORT</title>" ++
    js "<style>body\x7bmargin:0;background:#08131c;color:#edf7fa;font:18px/1.7 system-ui,sans-serif;padding:8vw;overflow-wrap:anywhere\x7d" ++
    js "main\x7bmax-width:860px;margin:auto\x7dh1\x7bfont-size:clamp(36px,6vw,70px);letter-spacing:-.05em;line-height:1.1;color:#86efd5\x7d" ++
    js "small\x7bcolor:#a2c5d1;font-size:13px\x7darticle\x7bwhite-space:pre-wrap;margin-top:28px;border-top:1px solid #315063;padding-top:25px\x7d</style></head>" ++
    js "<body><main><small>PORTAL · SIGNED LOCAL SDPN ADDRESS: " ++ escapeHtml address ++ js "</small><h1>" ++
    escapeHtml title ++ js "</h1><p>" ++ escapeHtml description ++ js "</p><article>" ++ escapeHtml body ++
    js "</article></main></body></html>"

/-- The checks of `readPublishedPort` on the address. -/
def publishedAddress (uri : Json) : Native.Outcome PortAddress := do
  let address ← parsePortUri uri
  ensure (slugPattern.accepts address.name && address.path == js "/")
    (.error "Native website requires a signed top-level PORT alias")
  pure address

/-- The content of a file of at most 25000 bytes. -/
def ownedFile : SiteEntry → Option Bytes
  | .file content => if content.length ≤ 25000 then some content else none
  | .other => none

/-- A text of a site, at most so long. -/
def siteText (site : Json) (name : String) (longest : ℕ) : Native.Outcome JsString := do
  let text ← orThrow ((site.get name).bind Json.str?) (.error "Native website content rejected")
  ensure (text.length ≤ longest) (.error "Native website content rejected")
  pure text

/-- `readPublishedPort(uri)` at a time; reading where nothing is raises `ENOENT`. -/
def readPublishedPort (crypto : Crypto) (machine : Machine) (uri : Json) (now : ℤ) : Native.Outcome PortPage := do
  let address ← publishedAddress uri
  let raw ← orThrow machine.manifest (.error "ENOENT")
  ensure (raw.length ≤ 32768) (.error "Manifest too large")
  let signed ← orThrow (parse (bufferText raw)) .syntaxError
  let result ← Native.resolvePortName crypto uri signed now
  ensure (result.targetPort == .str result.ownerPort)
    (.error "Delegated remote port requires explicit authenticated transport")
  let entry ← orThrow (machine.sites (fileName address.name)) (.error "ENOENT")
  let content ← orThrow (ownedFile entry) (.error "Native port website not present as an owned local site")
  let site ← orThrow (parse (bufferText content)) .syntaxError
  ensure (site != .null) .typeError
  ensure (site.get "slug" == some (.str address.name)) (.error "Native website content rejected")
  let title ← siteText site "title" 100
  let description ← siteText site "description" 250
  let body ← siteText site "body" 20000
  pure ⟨result.address, title, pageHtml result.address title description body⟩

/-! ## Slugs and labels -/

theorem slugPattern_iff {slug : JsString} : slugPattern.accepts slug = true ↔
    ∃ c rest, slug = c :: rest ∧ Regex.lower.has c = true ∧
      (∀ u ∈ rest, (Regex.lower ++ Regex.digits ++ [(45, 45)]).has u = true) ∧ 1 ≤ rest.length ∧ rest.length ≤ 47 := by
  rw [Regex.accepts_iff, slugPattern, Regex.matches_seq]
  constructor
  · rintro ⟨lead, rest, rfl, hlead, hrest⟩
    obtain ⟨hlower, hleast, hmost⟩ := Regex.matches_run.mp hlead
    obtain ⟨c, rfl⟩ := List.length_eq_one_iff.mp (le_antisymm hmost hleast)
    exact ⟨c, rest, rfl, hlower c List.mem_cons_self, Regex.matches_run.mp hrest⟩
  · rintro ⟨c, rest, rfl, hlower, hrest⟩
    exact ⟨[c], rest, rfl, Regex.matches_run.mpr ⟨List.forall_mem_singleton.mpr hlower, by simp, by simp⟩,
      Regex.matches_run.mpr hrest⟩

/-- A label is a slug of one character more at the front: it may be alone, it is shorter and ends in no hyphen. -/
theorem atom_iff_of_slug {slug : JsString} (h : slugPattern.accepts slug = true) :
    atom.accepts slug = true ↔ slug.length ≤ 32 ∧ slug.getLast? ≠ some 45 := by
  obtain ⟨c, rest, rfl, hlower, hrest, hleast, hmost⟩ := slugPattern_iff.mp h
  obtain ⟨mid, z, rfl⟩ : ∃ mid z, rest = mid ++ [z] :=
    ⟨_, _, (List.dropLast_append_getLast (List.ne_nil_of_length_pos hleast)).symm⟩
  have hlast : (c :: (mid ++ [z])).getLast? = some z := by
    rw [← List.cons_append, List.getLast?_concat]
  rw [List.length_append, List.length_singleton] at hleast hmost
  rw [hlast, ne_eq, Option.some.injEq, List.length_cons, List.length_append, List.length_singleton, Regex.accepts_iff, atom,
    Regex.matches_alt, Regex.matches_seq]
  constructor
  · rintro (⟨lead, tail, heq, hlead, htail⟩ | hone)
    · obtain ⟨inner, final, rfl, hinner, hfinal⟩ := Regex.matches_seq.mp htail
      obtain ⟨-, hlead1, hlead2⟩ := Regex.matches_run.mp hlead
      obtain ⟨-, -, hinner2⟩ := Regex.matches_run.mp hinner
      obtain ⟨hclass, hfinal1, hfinal2⟩ := Regex.matches_run.mp hfinal
      have hlength := congrArg List.length heq
      simp only [List.length_cons, List.length_append, List.length_nil] at hlength
      obtain ⟨y, rfl⟩ := List.length_eq_one_iff.mp (le_antisymm hfinal2 hfinal1)
      have hy : z = y := by
        have hends := congrArg List.getLast? heq
        rw [hlast, ← List.append_assoc, List.getLast?_concat, Option.some.injEq] at hends
        exact hends
      refine ⟨by omega, ?_⟩
      rintro rfl
      exact absurd (hclass y List.mem_cons_self) (by rw [← hy]; decide)
    · obtain ⟨-, -, hshort⟩ := Regex.matches_run.mp hone
      simp only [List.length_cons, List.length_append, List.length_nil] at hshort
      omega
  · rintro ⟨hshort, hhyphen⟩
    rw [List.forall_mem_append, List.forall_mem_singleton] at hrest
    have hz : (Regex.lower ++ Regex.digits).has z = true := by
      have hor := hrest.2
      rw [CharClass.has_append, Bool.or_eq_true] at hor
      refine hor.resolve_right fun hdash => hhyphen ?_
      simp only [CharClass.has, List.any_cons, List.any_nil, Bool.or_false, Bool.and_eq_true, decide_eq_true_eq] at hdash
      exact UInt16.toNat_inj.mp (by have : (45 : UInt16).toNat = 45 := rfl; omega)
    refine Or.inl ⟨[c], mid ++ [z], rfl, Regex.matches_run.mpr ⟨List.forall_mem_singleton.mpr hlower, by simp, by simp⟩, ?_⟩
    exact Regex.matches_seq.mpr ⟨mid, [z], rfl, Regex.matches_run.mpr ⟨hrest.1, by omega, by omega⟩,
      Regex.matches_run.mpr ⟨List.forall_mem_singleton.mpr hz, by simp, by simp⟩⟩

/-- A slug is a name exactly where it is a label. -/
theorem nameParts_slug_iff {slug : JsString} (h : slugPattern.accepts slug = true) :
    (∃ labels, nameParts (some (.str slug)) = .ok labels) ↔ atom.accepts slug = true := by
  obtain ⟨c, rest, hslug, -, -, -, hmost⟩ := slugPattern_iff.mp h
  have hdot : (46 : UInt16) ∉ slug := Regex.not_mem_of_accepts h (by decide)
  have hsplit : slug.splitOn 46 = [slug] := by
    have hone := List.splitOn_intercalate (46 : UInt16) (List.forall_mem_singleton.mpr hdot) (List.cons_ne_nil slug [])
    rwa [List.intercalate_singleton] at hone
  have hne : slug.isEmpty = false := by rw [hslug]; rfl
  have hlength : slug.length ≤ 170 := by rw [hslug, List.length_cons]; omega
  simp only [nameParts, bind_eq_ok, orThrow_eq_ok, ensure_eq_ok, pure_eq_ok, Option.bind_some, Json.str?, exists_const,
    Option.some.injEq, exists_eq_left', hne, hsplit, Bool.false_eq_true, if_false]
  simp [hlength]

/-! ## The signed name of a site -/

section
variable {crypto : Crypto} (identity : Identity crypto)

/-- The entry that gives a site its name: the slug, with the owner as the target. -/
def siteEntry (slug : JsString) : Json := .record [("name", .str slug), ("targetPort", .str identity.id)]

variable {identity} {slug : JsString}

theorem length_id (identity : Identity crypto) : identity.id.length = 84 := by
  have hhash := Regex.matches_run.mp ((Regex.accepts_iff _ _).mp (crypto.digest_hex (base64Decode identity.publicKey)))
  have hprefix : Native.portIdPrefix.length = 20 := by decide
  rw [Identity.id, List.length_append, hprefix]
  omega

theorem binding_siteEntry_iff (h : slugPattern.accepts slug = true) :
    Native.Binding (siteEntry identity slug) ↔ atom.accepts slug = true := by
  rw [← nameParts_slug_iff h]
  constructor
  · intro hbinding
    exact hbinding.name
  · intro hname
    obtain ⟨a, howner, -⟩ := Native.exists_address identity hname.choose_spec (show ([] : JsString).length ≤ 512 by simp) (by decide)
    have hid : Native.validPortId (some (.str identity.id)) = .ok identity.id := by
      obtain ⟨text, htext, -⟩ := bind_eq_ok.mp a.portNamespaceHost
      obtain ⟨heq, -⟩ := Native.validPortId_eq_ok.mp htext
      rw [Option.some.injEq, Json.str.injEq, howner] at heq
      rw [howner] at htext
      rwa [← heq] at htext
    exact ⟨⟨_, rfl, .refl _⟩, hname, identity.id, hid⟩

/-- Ordering the fields of a value does not make it longer. -/
theorem weight_ordered {fields fields' : Fields} (hnodup : (fields.map Prod.fst).Nodup)
    (h : Native.orderedFields fields = some fields') : weight (stringify (.obj (Json.canonicalFields fields'))) ≤
      2 + (fields'.map fun f => weight (fieldText f) + 1).sum := by
  have hperm := Native.perm_canonicalFields (show (fields'.map Prod.fst).Nodup by rwa [Native.keys_orderedFields h])
  rw [(hperm.map _).sum_nat]
  exact weight_obj_le _

/-- What an entry becomes in a manifest. -/
theorem ordered_siteEntry (identity : Identity crypto) (h : slug.length ≤ 48) : ∃ entry, Native.ordered (siteEntry identity slug) = some entry ∧
    weight (stringify entry) ≤ 1100 := by
  have hkeys : ([(js "name", .str slug), (js "targetPort", .str identity.id)] : Fields).map Prod.fst |>.Nodup := by
    change [js "name", js "targetPort"].Nodup
    decide
  have hname := weight_fieldText_str (k := js "name") (by decide) h
  have htarget := weight_fieldText_str (k := js "targetPort") (by decide) (length_id identity).le
  refine ⟨_, rfl, (weight_ordered hkeys rfl).trans ?_⟩
  simp only [List.map_cons, List.map_nil, List.sum_cons, List.sum_nil]
  omega

/-- A manifest with the one name is small. -/
theorem size_manifest (identity : Identity crypto) (h : slug.length ≤ 48) {revision now ttlMs : ℤ}
    (hrevision : 1 ≤ revision ∧ revision ≤ 9007199254740991) (hnow : now.natAbs ≤ maxTime)
    (httl : 1 ≤ ttlMs ∧ ttlMs ≤ 3600000) : ∃ bytes,
      Native.canonicalBytes (manifestBody identity (.arr [siteEntry identity slug]) (.int revision) now ttlMs) = .ok bytes ∧
        bytes.length ≤ Native.maxManifestBytes := by
  unfold maxTime at hnow
  obtain ⟨entry, hentry, hweight⟩ := ordered_siteEntry identity h
  have hkey : identity.publicKey.length ≤ 128 := by
    have := crypto.signingPublic_length identity.key
    rw [Identity.publicKey, base64Encode_length]
    omega
  have hentries : weight (fieldText (js "entries", .arr [entry])) + 1 ≤ 1200 := by
    have hquote := weight_quote_le (js "entries")
    have hunits : unitBytes 58 = 1 ∧ unitBytes 91 = 1 ∧ unitBytes 93 = 1 ∧ (js "entries").length = 7 := by decide
    simp only [fieldText, stringify_arr, List.map_cons, List.map_nil, List.intercalate_singleton, weight_append, weight_cons,
      weight_nil, hunits]
    omega
  have hordered : Native.orderedFields (manifestBody identity (.arr [siteEntry identity slug]) (.int revision) now ttlMs).fields =
      some (manifestBody identity (.arr [entry]) (.int revision) now ttlMs).fields := by
    have hrevision' := Native.ordered_int (i := revision) (by omega) hrevision.2
    have hnow' := Native.ordered_int (i := now) (by omega) (by omega)
    have hexpires := Native.ordered_int (i := now + ttlMs) (by omega) (by omega)
    have hlist : Native.ordered (.arr [siteEntry identity slug]) = some (.arr [entry]) := by
      rw [Native.ordered, Native.orderedItems, hentry]
      rfl
    simp only [manifestBody, Json.record, Json.fields, List.map_cons, List.map_nil, Native.orderedFields, hrevision', hnow',
      hexpires, hlist, Option.bind_some, Option.map_some]
    rfl
  have hbounds : List.Forall₂ (fun f bound => weight (fieldText f) + 1 ≤ bound)
      (manifestBody identity (.arr [entry]) (.int revision) now ttlMs).fields
      [108 + 6 * 40, 108 + 6 * 84, 108 + 6 * 128, 128, 128, 128, 1200] :=
    .cons (weight_fieldText_str (k := js "schema") (by decide) (by decide)) <|
    .cons (weight_fieldText_str (k := js "ownerPort") (by decide) (length_id identity).le) <|
    .cons (weight_fieldText_str (k := js "ownerPublicKey") (by decide) hkey) <|
    .cons (weight_fieldText_int (k := js "revision") (by decide) (by omega)) <|
    .cons (weight_fieldText_int (k := js "issuedAt") (by decide) (by omega)) <|
    .cons (weight_fieldText_int (k := js "expiresAt") (by decide) (by omega)) <|
    .cons hentries .nil
  have hkeys : ((manifestBody identity (.arr [siteEntry identity slug]) (.int revision) now ttlMs).fields.map Prod.fst).Nodup := by
    change (Native.bodyFields.map js).Nodup
    decide
  have hbody : Native.ordered (manifestBody identity (.arr [siteEntry identity slug]) (.int revision) now ttlMs) =
      some (.obj (Json.canonicalFields (manifestBody identity (.arr [entry]) (.int revision) now ttlMs).fields)) := by
    change (Native.orderedFields (manifestBody identity (.arr [siteEntry identity slug]) (.int revision) now ttlMs).fields).map _ = _
    rw [hordered]
    rfl
  refine ⟨utf8Encode (stringify (.obj (Json.canonicalFields
    (manifestBody identity (.arr [entry]) (.int revision) now ttlMs).fields))), ?_, ?_⟩
  · rw [Native.canonicalBytes, hbody]
    rfl
  · have hsum := sum_le_of_forall₂ hbounds
    have htotal := (utf8Encode_length_le_weight _).trans (weight_ordered hkeys hordered)
    simp only [List.sum_cons, List.sum_nil] at hsum
    unfold Native.maxManifestBytes
    omega

/-- The name of a site is signed exactly where its slug is a label. -/
theorem signed_slug_iff (identity : Identity crypto) (h : slugPattern.accepts slug = true) {revision now ttlMs : ℤ}
    (hrevision : 1 ≤ revision ∧ revision ≤ 9007199254740991) (hnow : now.natAbs ≤ maxTime)
    (httl : 1 ≤ ttlMs ∧ ttlMs ≤ 3600000) :
    (∃ record, signPortNames crypto identity (.arr [siteEntry identity slug]) (.int revision) now ttlMs = .ok record) ↔
      atom.accepts slug = true := by
  simp only [Native.signPortNames_eq_ok]
  constructor
  · rintro ⟨record, -, hmanifest, -⟩
    obtain ⟨items, hitems, -, -, hbindings, -⟩ := hmanifest.entries
    have hentries : (manifestBody identity (.arr [siteEntry identity slug]) (.int revision) now ttlMs).get "entries" =
        some (.arr [siteEntry identity slug]) := rfl
    obtain rfl : [siteEntry identity slug] = items := Json.arr.inj (Option.some.inj (hentries.symm.trans hitems))
    exact (binding_siteEntry_iff h).mp (hbindings _ List.mem_cons_self)
  · intro hatom
    obtain ⟨c, rest, hslug, -, -, -, hmost⟩ := slugPattern_iff.mp h
    have hlength : slug.length ≤ 48 := by rw [hslug, List.length_cons]; omega
    have hsize := size_manifest identity hlength hrevision hnow httl
    obtain ⟨copy, hcopy⟩ : ∃ copy,
        Native.ordered (manifestBody identity (.arr [siteEntry identity slug]) (.int revision) now ttlMs) = some copy := by
      obtain ⟨bytes, hbytes, -⟩ := hsize
      rw [Native.canonicalBytes, bind_eq_ok] at hbytes
      obtain ⟨copy, hcopy, -⟩ := hbytes
      exact ⟨copy, orThrow_eq_ok.mp hcopy⟩
    unfold maxTime at hnow
    have hinteger : ∀ {name : String} {i : ℤ},
        (manifestBody identity (.arr [siteEntry identity slug]) (.int revision) now ttlMs).get name = some (.int i) →
        -9007199254740991 ≤ i → i ≤ 9007199254740991 → Native.integerField
          (manifestBody identity (.arr [siteEntry identity slug]) (.int revision) now ttlMs) name = some i := by
      intro name i hget hlow hhigh
      rw [Native.integerField, hget]
      exact Native.safeInteger?_int hlow hhigh
    refine ⟨_, httl, ⟨⟨_, rfl, .refl _⟩, rfl, ⟨identity.id, identity.portId_publicKey, rfl⟩, ?_, ?_,
      ⟨_, rfl, by simp, by simp, ?_, by simp⟩, hsize⟩, copy, hcopy, rfl⟩
    · exact Native.revisionOk_iff.mpr ⟨revision, hinteger rfl (by omega) hrevision.2, hrevision.1⟩
    · exact Native.lifetimeOk_iff.mpr ⟨now, now + ttlMs, hinteger rfl (by omega) (by omega),
        hinteger rfl (by omega) (by omega), le_rfl, by omega, by omega, by omega⟩
    · rw [List.forall_mem_singleton]
      exact (binding_siteEntry_iff h).mpr hatom

/-- The address of a slug that is a label passes the checks of the reader. -/
theorem publishedAddress_made (identity : Identity crypto) (h : slugPattern.accepts slug = true) (hatom : atom.accepts slug = true) :
    ∃ uri address, makePortUri (some (.str identity.id)) (some (.str slug)) none = .ok uri ∧
      publishedAddress (.str uri) = .ok address ∧ address.name = slug := by
  obtain ⟨labels, hname⟩ := (nameParts_slug_iff h).mpr hatom
  obtain ⟨a, howner, hslug, hpath⟩ := Native.exists_address identity hname (show (js "/").length ≤ 512 by decide) (by decide)
  have hroot : a.path = Native.orRoot (js "/") := hpath
  have hmade := a.makePortUri (show (js "/").length ≤ 512 by decide) (by decide) hroot
  have hread := a.parsePortUri a.path_length a.path_pattern (Native.orRoot_of_ne a.path_ne).symm
  rw [howner] at hmade
  rw [Option.some.injEq, Json.str.injEq] at hslug
  subst hslug
  refine ⟨a.uri, a.parsed, hmade, ?_⟩
  simp only [publishedAddress, bind_eq_ok, ensure_eq_ok, pure_eq_ok, Bool.and_eq_true, beq_iff_eq]
  exact ⟨⟨a.parsed, hread, (), ⟨h, hpath⟩, rfl⟩, rfl⟩

/-- A site whose name is signed is opened at its address for as long as the record lasts, where its file is within the
limit of the reader. -/
theorem readPublishedPort_saved (published : Published) {identity : Identity crypto} {items : List Json}
    {revision record : Json} {now ttlMs : ℤ} (hsign : signPortNames crypto identity (.arr items) revision now ttlMs = .ok record)
    (hentry : siteEntry identity published.site.slug ∈ items) {machine : Machine} {raw : Bytes}
    (hmanifest : machine.manifest = some raw) (hraw : raw.length ≤ 32768) (hsigned : parse (bufferText raw) = some record)
    (hfile : machine.sites (fileName published.site.slug) = some (.file published.content))
    (hsize : published.content.length ≤ 25000) :
    ∃ uri, makePortUri (some (.str identity.id)) (some (.str published.site.slug)) none = .ok uri ∧
      ∀ t, now ≤ t → t < now + ttlMs → ∃ page, readPublishedPort crypto machine (.str uri) t = .ok page ∧ page.uri = uri ∧
        page.title = published.site.title := by
  have hslug := published.site.slug_ok
  obtain ⟨-, hbody, -⟩ := Native.signPortNames_eq_ok.mp hsign
  have hatom : atom.accepts published.site.slug = true := by
    obtain ⟨items', hitems, -, -, hbindings, -⟩ := hbody.entries
    obtain rfl : items = items' := Json.arr.inj (Option.some.inj hitems)
    exact (binding_siteEntry_iff hslug).mp (hbindings _ hentry)
  obtain ⟨uri, address, hmade, haddress, hname⟩ := publishedAddress_made identity hslug hatom
  obtain ⟨uri', hmade', hresolves⟩ := Native.registered_resolves hsign hentry (show (js "/").length ≤ 512 by decide) (by decide)
  obtain rfl : uri = uri' := Except.ok.inj (hmade.symm.trans hmade')
  refine ⟨uri, hmade, fun t hstart hend => ?_⟩
  obtain ⟨result, hresult, huri, howner, -, htarget, -⟩ := hresolves t hstart hend
  have hread : parse (bufferText published.content) = some published.toJson := by
    rw [Published.content, bufferText_utf8Encode (wellFormed_line _), parse_line, rebuild_toJson]
  have htext : ∀ {name : String} {text : JsString} {longest : ℕ}, published.toJson.get name = some (.str text) →
      text.length ≤ longest → siteText published.toJson name longest = .ok text := by
    intro name text longest hget hlength
    simp only [siteText, bind_eq_ok, orThrow_eq_ok, ensure_eq_ok, pure_eq_ok, hget, decide_eq_true_eq]
    exact ⟨text, rfl, (), hlength, rfl⟩
  have hlimits := published.site.title_ok
  refine ⟨⟨result.address, published.site.title, pageHtml result.address published.site.title published.site.description
    published.site.body⟩, ?_, huri, rfl⟩
  simp only [readPublishedPort, bind_eq_ok, orThrow_eq_ok, ensure_eq_ok, pure_eq_ok, decide_eq_true_eq]
  refine ⟨address, haddress, raw, hmanifest, (), hraw, record, hsigned, result, hresult, (), ?_, .file published.content,
    hname ▸ hfile, published.content, if_pos hsize, published.toJson, hread, (), rfl, (), ?_, _, htext rfl hlimits.2.1, _,
    htext rfl published.site.description_ok.1, _, htext rfl published.site.body_ok.2.1, rfl⟩
  · have hid : (siteEntry identity published.site.slug).get "targetPort" = some (.str identity.id) := rfl
    rw [howner, ← Option.some.inj (hid.symm.trans htarget)]
    exact Json.some_beq_str_iff.mpr rfl
  · rw [hname]
    exact Json.some_beq_str_iff.mpr rfl

/-- The slug of a saved site is signed as a name of the owner, and its address then passes the checks of the reader,
exactly where it has at most 32 characters and ends in no hyphen. -/
theorem saved_slug_published_iff {server : Server} {directory next : Directory} {saved : ℤ} {source : Json}
    {published : Published} (h : server.saveSite directory saved source = .ok (published, next)) (identity : Identity crypto)
    {revision now ttlMs : ℤ} (hrevision : 1 ≤ revision ∧ revision ≤ 9007199254740991) (hnow : now.natAbs ≤ maxTime)
    (httl : 1 ≤ ttlMs ∧ ttlMs ≤ 3600000) :
    ((∃ record, signPortNames crypto identity (.arr [siteEntry identity (textOf source "slug")]) (.int revision) now ttlMs =
        .ok record) ∧
      ∃ uri address, makePortUri (some (.str identity.id)) (some (.str (textOf source "slug"))) none = .ok uri ∧
        publishedAddress (.str uri) = .ok address) ↔
      (textOf source "slug").length ≤ 32 ∧ (textOf source "slug").getLast? ≠ some 45 := by
  have hslug : slugPattern.accepts (textOf source "slug") = true := by
    rw [← (validateSite_spec (server.saveSite_spec h).1).1]
    exact published.site.slug_ok
  rw [← atom_iff_of_slug hslug, signed_slug_iff identity hslug hrevision hnow httl]
  refine ⟨And.left, fun hatom => ⟨hatom, ?_⟩⟩
  obtain ⟨uri, address, hmade, haddress, -⟩ := publishedAddress_made identity hslug hatom
  exact ⟨uri, address, hmade, haddress⟩

end

/-! ## Samples -/

namespace Sample

/-- A site whose slug ends in a hyphen. -/
def hyphened : Site where
  slug := js "ab-"
  title := js "Port"
  description := js ""
  body := js "x"
  slug_ok := by decide
  title_ok := by decide
  description_ok := by decide
  body_ok := by decide

def sourceOf (site : Site) : Json := .record [("slug", .str site.slug), ("title", .str site.title),
  ("description", .str site.description), ("body", .str site.body)]

theorem saveSite_sourceOf (site : Site) : ∃ published next, portal.saveSite .empty 0 (sourceOf site) = .ok (published, next) := by
  have hempty : (portal.listSites .empty).length = 0 := (portal.listSites_spec .empty).1
  have hdate : toISOString 0 = some (js "1970-01-01T00:00:00.000Z") := by decide
  refine ⟨⟨site, js "1970-01-01T00:00:00.000Z"⟩, ?_⟩
  simp only [Server.saveSite, bind_eq_ok, ensure_eq_ok, orThrow_eq_ok, pure_eq_ok, decide_eq_true_eq]
  exact ⟨_, site, validateSite_fields site, (), by omega, _, hdate, _, dif_neg List.not_mem_nil, rfl⟩

theorem port_published : ((∃ record, signPortNames Native.Sample.crypto Native.Sample.first
      (.arr [siteEntry Native.Sample.first (textOf (source (List.replicate 1 0xFFFD)) "slug")]) (.int 1) 0 300000 = .ok record) ∧
    ∃ uri address, makePortUri (some (.str Native.Sample.first.id))
      (some (.str (textOf (source (List.replicate 1 0xFFFD)) "slug"))) none = .ok uri ∧
      publishedAddress (.str uri) = .ok address) ↔
    (textOf (source (List.replicate 1 0xFFFD)) "slug").length ≤ 32 ∧
      (textOf (source (List.replicate 1 0xFFFD)) "slug").getLast? ≠ some 45 := by
  obtain ⟨published, next, hsave⟩ := saveSite_source (n := 1) (by decide) (by decide)
  exact saved_slug_published_iff hsave Native.Sample.first (by decide) (by decide) (by decide)

/-- The portal saves a site whose name is then refused. -/
theorem hyphened_not_signed : ¬∀ (crypto : Crypto) (server : Server) (directory next : Directory) (saved : ℤ) (source : Json)
    (published : Published), server.saveSite directory saved source = .ok (published, next) →
    ∀ (identity : Identity crypto) (revision now ttlMs : ℤ), 1 ≤ revision ∧ revision ≤ 9007199254740991 →
    now.natAbs ≤ maxTime → 1 ≤ ttlMs ∧ ttlMs ≤ 3600000 →
    (∃ record, signPortNames crypto identity (.arr [siteEntry identity (textOf source "slug")]) (.int revision) now ttlMs =
        .ok record) ∧
      ∃ uri address, makePortUri (some (.str identity.id)) (some (.str (textOf source "slug"))) none = .ok uri ∧
        publishedAddress (.str uri) = .ok address := by
  intro hclaim
  obtain ⟨published, next, hsave⟩ := saveSite_sourceOf hyphened
  obtain ⟨hsigned, -⟩ := hclaim Native.Sample.crypto portal .empty next 0 (sourceOf hyphened) published hsave
    Native.Sample.first 1 0 300000 (by decide) (by decide) (by decide)
  have hatom := (signed_slug_iff Native.Sample.first hyphened.slug_ok (by decide) (by decide) (by decide)).mp hsigned
  exact absurd ((atom_iff_of_slug hyphened.slug_ok).mp hatom).2 (by decide)

end Sample

end Portal
