import StrataPortNetwork.Browser.Package
import StrataPortNetwork.Js.Wire
import StrataPortNetwork.Js.Buffers

/-! # Opening sealed packages

The writer bounds the name and the type of a file in UTF-16 units, the reader bounds the metadata
in bytes. So a package opens to the file that was sealed exactly when its metadata fit into 1024
bytes. With an ideal cipher, nothing but what was sealed opens under the passphrase.
-/
namespace Browser
open Js

/-! ## Base64 -/

theorem has_sextetChar {n : ℕ} (h : n < 64) : base64Class.has (sextetChar n) = true := by
  interval_cases n <;> decide

/-- The pattern accepts what the encoder writes. -/
theorem accepts_base64Encode (bytes : Bytes) : base64Pattern.accepts (base64Encode bytes) = true := by
  rw [Regex.accepts_iff, base64Pattern]
  have hrun : ∀ {s : JsString} {n : ℕ}, (∀ u ∈ s, base64Class.has u = true) → s.length = n → (Regex.run base64Class n n).Matches s :=
    fun hall hlength => .run hall hlength.ge hlength.le
  have hlast : ∀ {s : JsString}, (Regex.alt (.seq (.run base64Class 2 2) (.text "==")) (.alt (.seq (.run base64Class 3 3)
      (.text "=")) (.text ""))).Matches s → (Regex.seq (.star (.run base64Class 4 4)) (.alt (.seq (.run base64Class 2 2)
        (.text "==")) (.alt (.seq (.run base64Class 3 3) (.text "=")) (.text "")))).Matches s :=
    fun h => Regex.matches_seq.mpr ⟨[], _, rfl, .starNil _, h⟩
  fun_induction base64Encode bytes with
  | case1 => exact hlast (Regex.matches_alt.mpr (.inr (Regex.matches_alt.mpr (.inr (.lit _)))))
  | case2 a =>
    have ha := a.toNat_lt
    refine hlast (Regex.matches_alt.mpr (.inl (Regex.matches_seq.mpr ⟨[_, _], _, rfl, hrun ?_ rfl, .lit _⟩)))
    simp only [List.forall_mem_cons, List.not_mem_nil, false_implies, implies_true, and_true]
    exact ⟨has_sextetChar (by omega), has_sextetChar (by omega)⟩
  | case3 a b =>
    have ha := a.toNat_lt
    have hb := b.toNat_lt
    refine hlast (Regex.matches_alt.mpr (.inr (Regex.matches_alt.mpr (.inl
      (Regex.matches_seq.mpr ⟨[_, _, _], _, rfl, hrun ?_ rfl, .lit _⟩)))))
    simp only [List.forall_mem_cons, List.not_mem_nil, false_implies, implies_true, and_true]
    exact ⟨has_sextetChar (by omega), has_sextetChar (by omega), has_sextetChar (by omega)⟩
  | case4 a b c rest ih =>
    have ha := a.toNat_lt
    have hb := b.toNat_lt
    have hc := c.toNat_lt
    obtain ⟨groups, tail, hrest, hgroups, htail⟩ := Regex.matches_seq.mp ih
    rw [hrest]
    refine Regex.matches_seq.mpr ⟨[_, _, _, _] ++ groups, tail, rfl, .starCons (hrun ?_ rfl) hgroups, htail⟩
    simp only [List.forall_mem_cons, List.not_mem_nil, false_implies, implies_true, and_true]
    exact ⟨has_sextetChar (by omega), has_sextetChar (by omega), has_sextetChar (by omega), has_sextetChar (by omega)⟩

/-- What was encoded is decoded, within the limit. -/
theorem base64ToBytes_encode {bytes : Bytes} {maximum : ℕ} (h : bytes.length ≤ maximum) :
    base64ToBytes (some (.str (base64Encode bytes))) maximum = .ok bytes := by
  simp only [base64ToBytes, bind_eq_ok, orThrow_eq_ok, ensure_eq_ok, pure_eq_ok, Bool.and_eq_true, decide_eq_true_eq]
  refine ⟨_, rfl, (), ⟨?_, accepts_base64Encode bytes⟩, (), ?_, base64Decode_encode bytes⟩
  · rw [base64Encode_length]
    omega
  · rw [base64Decode_encode]
    exact h

/-! ## Lengths -/

theorem getUint32_uint32 {n : ℕ} (h : n < 4294967296) (rest : Bytes) : getUint32 (uint32 n ++ rest) = n := by
  simp only [uint32, List.cons_append, getUint32, UInt8.toNat_ofNat']
  omega

theorem quotedBytes_le (s : JsString) : quotedBytes s ≤ 18 * s.length + 6 := by
  have hbytes := utf8Encode_length_le (quote s)
  have hunits := quote_length_le s
  rw [quotedBytes]
  omega

section
variable {crypto : WebCrypto} {file : SourceFile} {name : JsString}

theorem digest_length (bytes : Bytes) : (digest crypto bytes).length = 64 := by
  rw [digest, hex, List.length_flatMap]
  simp [crypto.sha256_length]

theorem stringify_natural {n : ℕ} (h : n < 10 ^ 21) : stringify (.int n) = natText n := by
  have hsign : ¬ (n : ℤ) < 0 := by omega
  rw [Json.int, stringify, JsNumber.toText, unsignedText, Int.natAbs_natCast, if_pos h, if_neg hsign, List.nil_append]

/-- The text of the metadata of a file. -/
theorem stringify_metadata (mime sha256 : JsString) {size : ℕ} (h : size < 10 ^ 21) : stringify (metadata name mime size sha256) =
    123 :: (js "\"name\":" ++ (quote name ++ (js ",\"mime\":" ++ (quote mime ++ (js ",\"size\":" ++ (natText size ++
      (js ",\"sha256\":" ++ (quote sha256 ++ [125])))))))) := by
  have hname : quote (js "name") ++ [58] = js "\"name\":" := by decide
  have hmime : 44 :: (quote (js "mime") ++ [58]) = js ",\"mime\":" := by decide
  have hsize : 44 :: (quote (js "size") ++ [58]) = js ",\"size\":" := by decide
  have hsha256 : 44 :: (quote (js "sha256") ++ [58]) = js ",\"sha256\":" := by decide
  simp [metadata, Json.record, stringify, stringifyFields, stringify_natural h, ← hname, ← hmime, ← hsize, ← hsha256]

theorem wellFormed_natText (n : ℕ) : WellFormed (natText n) := wellFormed_of_ascii (ascii_padText _ _)

theorem quotedBytes_digest (bytes : Bytes) : quotedBytes (digest crypto bytes) = 66 := by
  have hdigit : ∀ d < 16, 32 ≤ (hexDigit d).toNat ∧ (hexDigit d).toNat < 128 ∧ (hexDigit d).toNat ≠ 34 ∧ (hexDigit d).toNat ≠ 92 := by
    decide
  have hplain : ∀ u ∈ digest crypto bytes, 32 ≤ u.toNat ∧ u.toNat < 128 ∧ u.toNat ≠ 34 ∧ u.toNat ≠ 92 := by
    intro u hu
    obtain ⟨b, -, hu⟩ := List.mem_flatMap.mp hu
    have hb := b.toNat_lt
    simp only [List.mem_cons, List.not_mem_nil, or_false] at hu
    rcases hu with rfl | rfl
    · exact hdigit _ (by omega)
    · exact hdigit _ (by omega)
  have hascii : Ascii (34 :: (digest crypto bytes ++ [34])) :=
    Ascii.append (s := [34]) (by decide) (Ascii.append (fun u hu => (hplain u hu).2.1) (by decide))
  have hlength := length_utf8Encode_ascii hascii wellFormed_nil
  rw [List.append_nil] at hlength
  rw [quotedBytes, quote, escapeUnits_plain hplain, hlength, List.length_cons, List.length_append, digest_length]
  rfl

/-- The bytes of the metadata of a file. -/
theorem length_metadataBytes (h : file.data.length < 10 ^ 21) : (metadataBytes crypto file name).length =
    quotedBytes name + quotedBytes file.mime + (natText file.data.length).length + 101 := by
  have hascii : ∀ {a s : JsString}, Ascii a → WellFormed s → WellFormed (a ++ s) :=
    fun ha hs => (wellFormed_of_ascii ha).append hs
  have hend : WellFormed ([125] : JsString) := wellFormed_of_ascii (by decide)
  have hsha256 : WellFormed (js ",\"sha256\":" ++ (quote (digest crypto file.data) ++ [125])) :=
    hascii (by decide) ((wellFormed_quote _).append hend)
  have hsize : WellFormed (js ",\"size\":" ++ (natText file.data.length ++ (js ",\"sha256\":" ++
      (quote (digest crypto file.data) ++ [125])))) := hascii (by decide) (hascii (ascii_padText _ _) hsha256)
  have hmime : WellFormed (js ",\"mime\":" ++ (quote file.mime ++ (js ",\"size\":" ++ (natText file.data.length ++
      (js ",\"sha256\":" ++ (quote (digest crypto file.data) ++ [125])))))) :=
    hascii (by decide) ((wellFormed_quote _).append hsize)
  have hbrace : ∀ {s : JsString}, WellFormed s → (utf8Encode (123 :: s)).length = 1 + (utf8Encode s).length :=
    fun hs => @length_utf8Encode_ascii [123] (by decide) _ hs
  have hlast : (utf8Encode [125]).length = 1 := by decide
  have hdigits : Ascii (natText file.data.length) := ascii_padText _ _
  have hname : WellFormed (quote name ++ (js ",\"mime\":" ++ (quote file.mime ++ (js ",\"size\":" ++ (natText file.data.length ++
      (js ",\"sha256\":" ++ (quote (digest crypto file.data) ++ [125]))))))) := (wellFormed_quote _).append hmime
  rw [metadataBytes, stringify_metadata _ _ h, hbrace (hascii (by decide) hname), length_utf8Encode_ascii (by decide) hname,
    length_utf8Encode_quote _ hmime, length_utf8Encode_ascii (by decide) ((wellFormed_quote _).append hsize),
    length_utf8Encode_quote _ hsize, length_utf8Encode_ascii (by decide) (hascii hdigits hsha256),
    length_utf8Encode_ascii hdigits hsha256, length_utf8Encode_ascii (by decide) ((wellFormed_quote _).append hend),
    length_utf8Encode_quote _ hend, quotedBytes_digest, hlast]
  have hlengths : (js "\"name\":").length = 7 ∧ (js ",\"mime\":").length = 8 ∧ (js ",\"size\":").length = 8 ∧
      (js ",\"sha256\":").length = 10 := by decide
  obtain ⟨h1, h2, h3, h4⟩ := hlengths
  rw [h1, h2, h3, h4]
  omega

/-! ## What is read back -/

/-- The metadata are read as they were written. -/
theorem read_metadataBytes : (decodeFatal (metadataBytes crypto file name)).bind parse =
    some (metadata name file.mime file.data.length (digest crypto file.data)) := by
  generalize hvalue : metadata name file.mime file.data.length (digest crypto file.data) = value
  obtain ⟨text, htext⟩ : ∃ text, stringify value = 123 :: text := by
    rw [← hvalue, metadata, Json.record, List.map_cons, stringify]
    exact ⟨_, rfl⟩
  have hbytes : utf8Encode (stringify value) = 123 :: utf8Encode text := by
    rw [htext]
    exact utf8Encode_append_ascii [] (by decide) text
  have hmark : decodeFatal (utf8Encode (stringify value)) = utf8Decode (utf8Encode (stringify value)) := by
    rw [hbytes]
    rfl
  have hrebuild : value.rebuild = value := by
    rw [← hvalue]
    refine rebuild_record (by simp) (by simp only [List.forall_mem_cons]; decide) ?_
    simp [Json.rebuild, Json.int]
  rw [metadataBytes, hvalue, hmark, utf8Decode_utf8Encode (wellFormed_stringify value), Option.bind_some, parse_stringify, hrebuild]

theorem mime_length (file : SourceFile) : file.mime.length ≤ 128 := by
  rw [SourceFile.mime]
  cases file.type.str? with
  | none => simp
  | some s => simp

theorem has_hexDigit : ∀ d < 16, CharClass.has Regex.hex (hexDigit d) = true := by decide

theorem hex_units (bytes : Bytes) : ∀ u ∈ hex bytes, Regex.hex.has u = true := by
  intro u hu
  obtain ⟨b, -, hu⟩ := List.mem_flatMap.mp hu
  have hb := b.toNat_lt
  simp only [List.mem_cons, List.not_mem_nil, or_false] at hu
  rcases hu with rfl | rfl
  · exact has_hexDigit _ (by omega)
  · exact has_hexDigit _ (by omega)

/-- The metadata of a file describe it. -/
theorem openContents_metadata (hname : safeName (some (.str name)) = .ok name) (hsize : file.data.length ≤ MAX_FILE_BYTES) :
    openContents crypto (metadata name file.mime file.data.length (digest crypto file.data)) file.data =
      .ok ⟨name, file.mime, file.data, digest crypto file.data⟩ := by
  have hdigest : sha256Pattern.accepts (digest crypto file.data) = true := by
    rw [Regex.accepts_iff]
    exact .run (hex_units _) (digest_length _).ge (digest_length _).le
  have hint : ((some (Json.int file.data.length)) == some (Json.int file.data.length)) = true := by simp
  simp only [openContents, metadata, Json.get_record, List.lookup_cons, String.reduceBEq, hname, bind_eq_ok, orThrow_eq_ok, ensure_eq_ok,
    ensureTest_eq_ok, pure_eq_ok, Bool.and_eq_true, decide_eq_true_eq]
  exact ⟨(), rfl, _, rfl, _, rfl, (), ⟨⟨mime_length file, hint⟩, hsize⟩, (), congrArg some hdigest, (),
    Json.some_beq_str_iff.mpr rfl, rfl⟩

/-- The metadata are within what the reader takes. -/
def Fits (file : SourceFile) (name : JsString) : Prop :=
  quotedBytes name + quotedBytes file.mime + (natText file.data.length).length + 101 ≤ 1024

theorem safeName_spec {value : Option Json} {name : JsString} (h : safeName value = .ok name) : value = some (.str name) ∧ name.length ≤ 255 := by
  simp only [safeName, bind_eq_ok, orThrow_eq_ok, ensure_eq_ok, pure_eq_ok, Json.bind_str?_eq_some, Bool.and_eq_true,
    decide_eq_true_eq] at h
  obtain ⟨text, hvalue, -, hchecks, rfl⟩ := h
  exact ⟨hvalue, hchecks.1.1.1.2⟩

/-- The clear text of a file opens exactly when its metadata fit. -/
theorem openClear_iff (hname : safeName (some (.str name)) = .ok name) (hsize : file.data.length ≤ MAX_FILE_BYTES) {opened : Opened} :
    openClear crypto (clearText crypto file name) = .ok opened ↔
      Fits file name ∧ opened = ⟨name, file.mime, file.data, digest crypto file.data⟩ := by
  have hlimit : file.data.length < 10 ^ 21 := hsize.trans_lt (by decide)
  have hmeta := @length_metadataBytes crypto file name hlimit
  have hdigits : (natText file.data.length).length ≤ 21 := by
    rw [natText, length_padText, digitCount]
    exact Nat.succ_le_of_lt (Nat.log_lt_of_lt_pow' (by decide) hlimit)
  have hsmall : (metadataBytes crypto file name).length < 4294967296 := by
    have hquoted := quotedBytes_le name
    have hquotedMime := quotedBytes_le file.mime
    have hmime := mime_length file
    have hlength := (safeName_spec hname).2
    omega
  have hheader : (uint32 (metadataBytes crypto file name).length).length = 4 := rfl
  have hmetadata : ((clearText crypto file name).drop 4).take (metadataBytes crypto file name).length = metadataBytes crypto file name := by
    rw [clearText, List.drop_left' hheader, List.take_left' rfl]
  have hdata : (clearText crypto file name).drop (4 + (metadataBytes crypto file name).length) = file.data := by
    rw [clearText, ← List.append_assoc, List.drop_left' (by rw [List.length_append, hheader])]
  have hlength : (clearText crypto file name).length = 4 + (metadataBytes crypto file name).length + file.data.length := by
    rw [clearText, List.length_append, List.length_append, hheader, Nat.add_assoc]
  have huint32 : getUint32 (clearText crypto file name) = (metadataBytes crypto file name).length := getUint32_uint32 hsmall _
  simp only [openClear, bind_eq_ok, ensure_eq_ok, orThrow_eq_ok, Bool.and_eq_true, decide_eq_true_eq, huint32, hmetadata, hdata,
    read_metadataBytes, Option.some.injEq]
  constructor
  · rintro ⟨-, -, -, ⟨⟨-, hle⟩, -⟩, value, rfl, hopened⟩
    rw [openContents_metadata hname hsize] at hopened
    exact ⟨by rw [Fits]; omega, (Except.ok.inj hopened).symm⟩
  · rintro ⟨hfits, rfl⟩
    rw [Fits] at hfits
    exact ⟨(), by omega, (), ⟨⟨by omega, by omega⟩, by omega⟩, _, rfl, openContents_metadata hname hsize⟩

end

/-! ## The package -/

theorem plain_base64 {bytes : Bytes} {u : UInt16} (h : u ∈ base64Encode bytes) :
    32 ≤ u.toNat ∧ u.toNat < 128 ∧ u.toNat ≠ 34 ∧ u.toNat ≠ 92 := by
  have hsextet : ∀ n < 64, 32 ≤ (sextetChar n).toNat ∧ (sextetChar n).toNat < 128 ∧ (sextetChar n).toNat ≠ 34 ∧ (sextetChar n).toNat ≠ 92 := by
    decide
  rcases mem_base64Encode h with rfl | ⟨n, hn, rfl⟩
  · decide
  · exact hsextet n hn

theorem quote_base64 (bytes : Bytes) : quote (base64Encode bytes) = 34 :: (base64Encode bytes ++ [34]) := by
  rw [quote, escapeUnits_plain fun u hu => plain_base64 hu]

theorem stringify_packageOf (salt iv ciphertext : Bytes) : ∃ before, before.length = 105 ∧ stringify (packageOf salt iv ciphertext) =
    before ++ (base64Encode salt ++ (js "\",\"iv\":\"" ++ (base64Encode iv ++ (js "\",\"ciphertext\":\"" ++ (base64Encode ciphertext ++
      js "\"\x7d"))))) := by
  have hiv : 34 :: 44 :: (quote (js "iv") ++ [58, 34]) = js "\",\"iv\":\"" := by decide
  have hciphertext : 34 :: 44 :: (quote (js "ciphertext") ++ [58, 34]) = js "\",\"ciphertext\":\"" := by decide
  have hend : js "\"\x7d" = [34, 125] := by decide
  refine ⟨123 :: (quote (js "version") ++ 58 :: (quote (js PACKAGE_VERSION) ++ 44 :: (quote (js "kdf") ++ 58 ::
    (quote (js "PBKDF2-SHA256-310000") ++ 44 :: (quote (js "cipher") ++ 58 :: (quote (js "AES-256-GCM") ++ 44 ::
      (quote (js "salt") ++ [58, 34]))))))), by decide, ?_⟩
  simp [packageOf, Json.record, Json.text, stringify, stringifyFields, quote_base64, ← hiv, ← hciphertext, hend]

theorem rebuild_packageOf (salt iv ciphertext : Bytes) : (packageOf salt iv ciphertext).rebuild = packageOf salt iv ciphertext :=
  rebuild_record (by simp) (by simp only [List.forall_mem_cons]; decide) (by simp [Json.rebuild, Json.text])

theorem isPackage_packageOf (salt iv ciphertext : Bytes) : isPackage (packageOf salt iv ciphertext) = true := by
  have hkeys : [44].intercalate (Json.sortKeys ((packageOf salt iv ciphertext).fields.map Prod.fst)) =
      js "cipher,ciphertext,iv,kdf,salt,version" := by
    show [44].intercalate (Json.sortKeys [js "version", js "kdf", js "cipher", js "salt", js "iv", js "ciphertext"]) = _
    decide +kernel
  have htexts : (packageOf salt iv ciphertext).get "version" = some (.text PACKAGE_VERSION) ∧
      (packageOf salt iv ciphertext).get "kdf" = some (.text "PBKDF2-SHA256-310000") ∧
        (packageOf salt iv ciphertext).get "cipher" = some (.text "AES-256-GCM") := by
    simp only [packageOf, Json.get_record]
    exact ⟨rfl, rfl, rfl⟩
  obtain ⟨hversion, hkdf, hcipher⟩ := htexts
  have hobject : (packageOf salt iv ciphertext).truthy = true ∧ (packageOf salt iv ciphertext).items? = none := ⟨rfl, rfl⟩
  simp [isPackage, hkeys, hversion, hkdf, hcipher, hobject, Json.text]

/-- What a package decodes to. -/
theorem decodePackage_packageOf {salt iv ciphertext : Bytes} (hsalt : salt.length = 16) (hiv : iv.length = 12)
    (hciphertext : ciphertext.length ≤ MAX_FILE_BYTES + 4096) :
    decodePackage (stringify (packageOf salt iv ciphertext)) = .ok ⟨salt, iv, ciphertext⟩ := by
  have hget : ∀ name value, List.lookup name [("version", Json.text PACKAGE_VERSION), ("kdf", .text "PBKDF2-SHA256-310000"),
      ("cipher", .text "AES-256-GCM"), ("salt", .str (base64Encode salt)), ("iv", .str (base64Encode iv)),
      ("ciphertext", .str (base64Encode ciphertext))] = value → (packageOf salt iv ciphertext).get name = value := by
    intro name value h
    rw [packageOf, Json.get_record, h]
  have hlength : (stringify (packageOf salt iv ciphertext)).length ≤ 24 * 1024 * 1024 := by
    obtain ⟨before, hbefore, htext⟩ := stringify_packageOf salt iv ciphertext
    have hlengths : (js "\",\"iv\":\"").length = 8 ∧ (js "\",\"ciphertext\":\"").length = 16 ∧ (js "\"\x7d").length = 2 := by decide
    rw [htext]
    simp only [List.length_append, hbefore, hlengths, base64Encode_length, hsalt, hiv]
    rw [MAX_FILE_BYTES] at hciphertext
    omega
  simp only [decodePackage, bind_eq_ok, ensure_eq_ok, orThrow_eq_ok, pure_eq_ok, Bool.and_eq_true, decide_eq_true_eq, beq_iff_eq]
  refine ⟨(), hlength, packageOf salt iv ciphertext, by rw [parse_stringify, rebuild_packageOf], (), isPackage_packageOf .., salt, ?_, iv, ?_,
    (), ⟨hsalt, hiv⟩, ciphertext, ?_, rfl⟩
  · rw [hget "salt" _ rfl]
    exact base64ToBytes_encode hsalt.le
  · rw [hget "iv" _ rfl]
    exact base64ToBytes_encode hiv.le
  · rw [hget "ciphertext" _ rfl]
    exact base64ToBytes_encode hciphertext

theorem base64ToBytes_length {value : Option Json} {maximum : ℕ} {bytes : Bytes} (h : base64ToBytes value maximum = .ok bytes) :
    bytes.length ≤ maximum := by
  simp only [base64ToBytes, bind_eq_ok, orThrow_eq_ok, ensure_eq_ok, pure_eq_ok, decide_eq_true_eq] at h
  obtain ⟨_, _, _, _, _, hlength, rfl⟩ := h
  exact hlength

theorem decodePackage_bounds {text : JsString} {parts : Parts} (h : decodePackage text = .ok parts) : parts.salt.length = 16 ∧
    parts.iv.length = 12 ∧ parts.ciphertext.length ≤ MAX_FILE_BYTES + 4096 := by
  simp only [decodePackage, bind_eq_ok, orThrow_eq_ok, ensure_eq_ok, pure_eq_ok, Bool.and_eq_true, beq_iff_eq] at h
  obtain ⟨_, _, _, _, _, _, salt, _, iv, _, _, ⟨hsalt, hiv⟩, ciphertext, hciphertext, rfl⟩ := h
  exact ⟨hsalt, hiv, base64ToBytes_length hciphertext⟩

end Browser
