import StrataPortNetwork.ExternalProof.Challenge

/-! # Tokens are accepted in their window

The token of a challenge is never too long to verify. It is accepted from a minute before its
issue until it expires, and gives the claims that were issued; without forged MACs no other
token is accepted.
-/
namespace ExternalProof
open Js

/-! ## Issued claims -/

/-- A string that passes `boundedString`. -/
structure Bounded (max : ℕ) (s : JsString) : Prop where
  nonempty : 1 ≤ s.length
  short : s.length ≤ max
  line : ∀ u ∈ s, isLineBreak u = false

theorem boundedString_eq_ok {v : Option Json} {label : String} {max : ℕ} {s : JsString} :
    boundedString v label max = .ok s ↔ v = some (.str s) ∧ Bounded max s := by
  simp only [boundedString, bind_eq_ok, orThrow_eq_ok, Json.bind_str?_eq_some, ensure_eq_ok, pure_eq_ok, Bool.not_eq_true',
    Bool.or_eq_false_iff, decide_eq_false_iff_not, List.any_eq_false, Bool.not_eq_true, not_lt]
  constructor
  · rintro ⟨s', rfl, -, ⟨⟨hfirst, hlast⟩, hline⟩, rfl⟩
    exact ⟨rfl, hfirst, hlast, hline⟩
  · rintro ⟨rfl, h⟩
    exact ⟨s, rfl, (), ⟨⟨h.nonempty, h.short⟩, h.line⟩, rfl⟩

/-- A string that passes `validSha256`. -/
structure IsSha256 (s : JsString) : Prop where
  length : s.length = 64
  hex : ∀ u ∈ s, (hexValue? u).isSome = true

theorem sha256?_eq_some {v : Option Json} {s : JsString} : sha256? v = some s ↔ v = some (.str s) ∧ IsSha256 s := by
  simp only [sha256?, Option.filter_eq_some_iff, Json.bind_str?_eq_some, Bool.and_eq_true, beq_iff_eq, List.all_eq_true]
  constructor
  · rintro ⟨h, hlength, hhex⟩
    exact ⟨h, hlength, hhex⟩
  · rintro ⟨h, hs⟩
    exact ⟨h, hs.length, hs.hex⟩

theorem hexValue?_isSome {u : UInt16} : (hexValue? u).isSome = true ↔
    (48 ≤ u.toNat ∧ u.toNat ≤ 57) ∨ (97 ≤ u.toNat ∧ u.toNat ≤ 102) ∨ (65 ≤ u.toNat ∧ u.toNat ≤ 70) := by
  unfold hexValue?
  split
  · simp_all
  · split
    · simp_all
    · split <;> simp_all

theorem isLineBreak_eq_false {u : UInt16} (h : 14 ≤ u.toNat) : isLineBreak u = false := by
  have h13 : u ≠ 13 := ne_of_toNat_ne (by simp only [UInt16.reduceToNat]; omega)
  have h10 : u ≠ 10 := ne_of_toNat_ne (by simp only [UInt16.reduceToNat]; omega)
  simp [isLineBreak, h13, h10]

theorem IsSha256.asciiLower {s : JsString} (h : IsSha256 s) : IsSha256 (asciiLower s) := by
  refine ⟨by rw [ExternalProof.asciiLower, List.length_map, h.length], ?_⟩
  intro u hu
  obtain ⟨c, hc, rfl⟩ := List.mem_map.mp hu
  have hhex := hexValue?_isSome.mp (h.hex c hc)
  rw [hexValue?_isSome]
  split
  · have hlower : (c + 32).toNat = c.toNat + 32 := by
      have h32 : (32 : UInt16).toNat = 32 := rfl
      rw [UInt16.toNat_add, h32, Nat.mod_eq_of_lt (by omega)]
    omega
  · exact hhex

/-- What the issuer checks of the claims. -/
structure Claims.Sound (claims : Claims) : Prop where
  challengeId : Bounded 64 claims.challengeId
  nonce : Bounded 128 claims.nonce
  sourceNodeId : Bounded 256 claims.sourceNodeId
  destinationNodeId : Bounded 256 claims.destinationNodeId
  stateId : Bounded 512 claims.stateId
  stateHash : IsSha256 claims.stateHash
  sameHash : claims.payloadSha256 = claims.stateHash
  generation : (Json.int claims.generation).safeInteger? = some claims.generation ∧ 0 ≤ claims.generation
  payloadBytes : 1 ≤ claims.payloadBytes ∧ claims.payloadBytes ≤ EXTERNAL_PROOF_MAX_BYTES

section
variable {engine : Engine} {secret : JsString} {request : Json} {destination ttlMs : Option Json} {nowMs : ℤ} {drawn : Drawn}
variable {challenge : Challenge}

theorem safeInteger?_int {v : Json} {i : ℤ} (h : v.safeInteger? = some i) : (Json.int i).safeInteger? = some i := by
  have hint : ∀ {x : JsNumber}, x.safeInteger? = some i → (JsNumber.int i).safeInteger? = some i := by
    rintro (j | _) hj
    · have hj' := hj
      simp only [JsNumber.safeInteger?, Option.ite_none_right_eq_some, Option.some.injEq] at hj'
      rwa [hj'.2] at hj
    · simp [JsNumber.safeInteger?] at hj
  cases v with
  | num x => exact hint h
  | null | bool _ | str _ | arr _ | obj _ => cases h

theorem bounded_uuid (drawn : Drawn) : Bounded 64 drawn.uuid where
  nonempty := by
    rw [drawn.uuid_length]
    decide
  short := by
    rw [drawn.uuid_length]
    decide
  line u hu := by
    apply isLineBreak_eq_false
    rcases drawn.uuid_chars u hu with hhex | rfl
    · have := hexValue?_isSome.mp hhex
      omega
    · decide

theorem length_hexText (bytes : Bytes) : (hexText bytes).length = 2 * bytes.length := by
  induction bytes with
  | nil => rfl
  | cons b rest ih =>
    rw [hexText, List.flatMap_cons, List.length_append, List.length_cons]
    change 2 + (hexText rest).length = 2 * (rest.length + 1)
    omega

theorem bounded_hexText (drawn : Drawn) : Bounded 128 (hexText drawn.bytes) where
  nonempty := by
    rw [length_hexText, drawn.bytes_length]
    decide
  short := by
    rw [length_hexText, drawn.bytes_length]
    decide
  line u hu := by
    apply isLineBreak_eq_false
    obtain ⟨b, -, hb⟩ := List.mem_flatMap.mp hu
    have hlt := b.toNat_lt
    have hdigit : ∀ d : ℕ, d < 16 → 14 ≤ (hexDigit d).toNat := by decide
    simp only [List.mem_cons, List.not_mem_nil, or_false] at hb
    rcases hb with rfl | rfl
    · exact hdigit _ (by omega)
    · exact hdigit _ (by omega)

/-- What `issueExternalProofChallenge` returns. -/
structure Issued (engine : Engine) (secret : JsString) (nowMs ttl : ℤ) (challenge : Challenge) : Prop where
  longSecret : 32 ≤ secret.length
  sound : challenge.claims.Sound
  token : challenge.token = encodeClaims engine challenge.claims ++
    46 :: base64UrlEncode (hmac engine secret (encodeClaims engine challenge.claims))
  window : 10000 ≤ ttl ∧ ttl ≤ 600000
  issuedAt : toISOString nowMs = some challenge.claims.issuedAt
  expiresAt : toISOString (nowMs + ttl) = some challenge.claims.expiresAt

theorem issued_of_ok (h : issueExternalProofChallenge engine secret request destination ttlMs nowMs drawn = .ok challenge) :
    ∃ ttl, (ttlMs.getD (.int 120000)).safeInteger? = some ttl ∧ Issued engine secret nowMs ttl challenge := by
  simp only [issueExternalProofChallenge, requireSecret, bind_eq_ok, ensure_eq_ok, orThrow_eq_ok, pure_eq_ok, boundedString_eq_ok,
    sha256?_eq_some, Bool.not_eq_true', Bool.or_eq_false_iff, decide_eq_false_iff_not, not_lt, beq_iff_eq] at h
  obtain ⟨-, hsecret, destinationNodeId, ⟨-, hdestination⟩, sourceNodeId, ⟨-, hsource⟩, stateId, ⟨-, hstate⟩, stateHash,
    ⟨-, hstateHash⟩, payloadSha256, ⟨-, hpayload⟩, -, hsame, generation, hgeneration, -, hpositive, payloadBytes, -, -, hbytes,
    ttl, httl, -, hwindow, issuedAt, hissued, expiresAt, hexpires, rfl⟩ := h
  obtain ⟨v, -, hv⟩ := Option.bind_eq_some_iff.mp hgeneration
  exact ⟨ttl, httl, {
    longSecret := hsecret
    sound := {
      challengeId := bounded_uuid drawn
      nonce := bounded_hexText drawn
      sourceNodeId := hsource
      destinationNodeId := hdestination
      stateId := hstate
      stateHash := hstateHash.asciiLower
      sameHash := hsame.symm
      generation := ⟨safeInteger?_int hv, hpositive⟩
      payloadBytes := hbytes }
    token := rfl
    window := hwindow
    issuedAt := hissued
    expiresAt := hexpires }⟩

/-! ## Claims read back -/

theorem keyed_claims (claims : Claims) : claims.toJson.Keyed ∧ ∀ f ∈ claims.toJson.fields, f.2.isScalar = true := by
  have hnodup : (claims.toJson.fields.map Prod.fst).Nodup := by
    change ["schemaVersion", "challengeId", "nonce", "issuedAt", "expiresAt", "sourceNodeId", "destinationNodeId", "stateId",
      "stateHash", "generation", "payloadSha256", "payloadBytes"].map js |>.Nodup
    exact List.Nodup.map js_injective (by decide)
  have hscalar : ∀ f ∈ claims.toJson.fields, f.2.isScalar = true := by
    simp [Claims.toJson, Json.record, Json.fields, Json.isScalar, Json.text, Json.int]
  refine ⟨.obj hnodup fun f hf => ?_, hscalar⟩
  have := hscalar f hf
  cases hv : f.2 with
  | null => exact .null
  | bool b => exact .bool b
  | num x => exact .num x
  | str s => exact .str s
  | arr _ | obj _ => simp [hv, Json.isScalar] at this

/-- The checks of the verifier on claims that were issued. -/
theorem checkClaims_eq_ok {claims : Claims} {ttl : ℤ} (hsound : claims.Sound) (hwindow : 10000 ≤ ttl)
    (hissued : toISOString nowMs = some claims.issuedAt) (hexpires : toISOString (nowMs + ttl) = some claims.expiresAt)
    {v : Json} (hget : ∀ name, v.get name = claims.toJson.get name) {t : ℚ} :
    checkClaims engine v t = .ok () ↔ nowMs - 60000 ≤ t ∧ t ≤ nowMs + ttl := by
  have hnull : v.isNull = false := by
    cases v with
    | null => exact absurd (hget "schemaVersion") (by simp [Json.get, Json.fields, Claims.toJson, Json.record])
    | bool _ | num _ | str _ | arr _ | obj _ => rfl
  have hschema : v.get "schemaVersion" = some (.text EXTERNAL_PROOF_CHALLENGE_SCHEMA) := (hget _).trans (by simp [Claims.toJson])
  have hstateHash : sha256? (v.get "stateHash") = some claims.stateHash :=
    sha256?_eq_some.mpr ⟨(hget _).trans (by simp [Claims.toJson, List.lookup_cons]), hsound.stateHash⟩
  have hpayload : sha256? (v.get "payloadSha256") = some claims.stateHash :=
    sha256?_eq_some.mpr ⟨(hget _).trans (by simp [Claims.toJson, List.lookup_cons, hsound.sameHash]), hsound.stateHash⟩
  have hgeneration : (v.get "generation").bind Json.safeInteger? = some claims.generation := by
    rw [hget]
    simpa [Claims.toJson, List.lookup_cons] using hsound.generation.1
  have hbytes : (v.get "payloadBytes").bind Json.safeInteger? = some claims.payloadBytes := by
    rw [hget]
    have hle := hsound.payloadBytes
    unfold EXTERNAL_PROOF_MAX_BYTES at hle
    have hsafe : (Json.int claims.payloadBytes).safeInteger? = some claims.payloadBytes := if_pos (by omega)
    simpa [Claims.toJson, List.lookup_cons] using hsafe
  have hissuedAt : parseDate engine (v.get "issuedAt") = .ok (some nowMs) := by
    rw [hget]
    have hdate : parseDate engine (some (.str claims.issuedAt)) = .ok (some nowMs) := congrArg Except.ok (dateParse_toISOString _ hissued)
    simpa [Claims.toJson, List.lookup_cons] using hdate
  have hexpiresAt : parseDate engine (v.get "expiresAt") = .ok (some (nowMs + ttl)) := by
    rw [hget]
    have hdate : parseDate engine (some (.str claims.expiresAt)) = .ok (some (nowMs + ttl)) :=
      congrArg Except.ok (dateParse_toISOString _ hexpires)
    simpa [Claims.toJson, List.lookup_cons] using hdate
  have hbounded : ∀ (name label : String) {max : ℕ} {s : JsString}, claims.toJson.get name = some (.str s) → Bounded max s →
      boundedString (v.get name) label max = .ok s := fun _ _ _ _ hname hs => boundedString_eq_ok.mpr ⟨(hget _).trans hname, hs⟩
  have hchallengeId := hbounded "challengeId" "challengeId" (by simp [Claims.toJson, List.lookup_cons]) hsound.challengeId
  have hnonce := hbounded "nonce" "nonce" (by simp [Claims.toJson, List.lookup_cons]) hsound.nonce
  have hsource := hbounded "sourceNodeId" "sourceNodeId" (by simp [Claims.toJson, List.lookup_cons]) hsound.sourceNodeId
  have hdestination := hbounded "destinationNodeId" "destinationNodeId" (by simp [Claims.toJson, List.lookup_cons])
    hsound.destinationNodeId
  have hstate := hbounded "stateId" "stateId" (by simp [Claims.toJson, List.lookup_cons]) hsound.stateId
  simp only [checkClaims, bind_eq_ok, ensure_eq_ok, orThrow_eq_ok, hnull, hschema, hstateHash, hpayload, hgeneration, hbytes,
    hissuedAt, hexpiresAt, hchallengeId, hnonce, hsource, hdestination, hstate, Bool.not_eq_true', decide_eq_false_iff_not, not_lt,
    not_le]
  constructor
  · rintro ⟨-, -, -, -, _, -, _, -, -, -, _, -, -, -, _, -, -, -, _, -, _, -, _, -, _, -, _, -, _, hissued, _, hexpires, _, rfl, _, rfl,
      -, -, -, hexpired, hfuture⟩
    cases hissued
    cases hexpires
    push_cast at hexpired
    exact ⟨by linarith, hexpired⟩
  · rintro ⟨hstart, hend⟩
    have hlimits : (decide (claims.payloadBytes < 1) || decide (EXTERNAL_PROOF_MAX_BYTES < claims.payloadBytes)) = false := by
      simpa using hsound.payloadBytes
    refine ⟨(), trivial, (), Json.some_beq_str_iff.mpr rfl, _, rfl, _, rfl, (), beq_self_eq_true _, _, rfl, (), hsound.generation.2, _, rfl, (), hlimits,
      _, rfl, _, rfl, _, rfl, _, rfl, _, rfl, _, rfl, _, rfl, _, rfl, _, rfl, (), by omega, (), ?_, by linarith⟩
    push_cast
    exact hend

/-! ## Sizes -/

/-- The canonical text of issued claims is short. -/
theorem weight_claims (collation : Collation) {claims : Claims} (hsound : claims.Sound) (hissued : claims.issuedAt.length ≤ 27)
    (hexpires : claims.expiresAt.length ≤ 27) : weight (canonicalize collation claims.toJson) ≤ 10000 := by
  have hcollated : claims.toJson.collated collation = .obj (collation.sortOn Prod.fst claims.toJson.fields) := rfl
  have hsum : ((collation.sortOn Prod.fst claims.toJson.fields).map fun f => weight (fieldText f) + 1).sum =
      (claims.toJson.fields.map fun f => weight (fieldText f) + 1).sum :=
    ((List.perm_insertionSort _ claims.toJson.fields).map _).sum_nat
  have hle := weight_obj_le (collation.sortOn Prod.fst claims.toJson.fields)
  rw [hsum] at hle
  have hgeneration : claims.generation.natAbs ≤ 9007199254740991 := by
    have hsafe := hsound.generation.1
    simp only [Json.int, Json.safeInteger?, JsNumber.safeInteger?, Option.ite_none_right_eq_some] at hsafe
    exact hsafe.1
  have hbytes : claims.payloadBytes.natAbs ≤ 9007199254740991 := by
    have hle := hsound.payloadBytes
    unfold EXTERNAL_PROOF_MAX_BYTES at hle
    omega
  have hpayload : claims.payloadSha256.length ≤ 64 := by
    rw [hsound.sameHash, hsound.stateHash.length]
  have hbounds : List.Forall₂ (fun f bound => weight (fieldText f) + 1 ≤ bound) claims.toJson.fields
      [108 + 6 * 35, 108 + 6 * 64, 108 + 6 * 128, 108 + 6 * 27, 108 + 6 * 27, 108 + 6 * 256, 108 + 6 * 256, 108 + 6 * 512,
        108 + 6 * 64, 128, 108 + 6 * 64, 128] :=
    .cons (weight_fieldText_str (k := js "schemaVersion") (by decide) (by decide)) <|
    .cons (weight_fieldText_str (k := js "challengeId") (by decide) hsound.challengeId.short) <|
    .cons (weight_fieldText_str (k := js "nonce") (by decide) hsound.nonce.short) <|
    .cons (weight_fieldText_str (k := js "issuedAt") (by decide) hissued) <|
    .cons (weight_fieldText_str (k := js "expiresAt") (by decide) hexpires) <|
    .cons (weight_fieldText_str (k := js "sourceNodeId") (by decide) hsound.sourceNodeId.short) <|
    .cons (weight_fieldText_str (k := js "destinationNodeId") (by decide) hsound.destinationNodeId.short) <|
    .cons (weight_fieldText_str (k := js "stateId") (by decide) hsound.stateId.short) <|
    .cons (weight_fieldText_str (k := js "stateHash") (by decide) hsound.stateHash.length.le) <|
    .cons (weight_fieldText_int (k := js "generation") (by decide) hgeneration) <|
    .cons (weight_fieldText_str (k := js "payloadSha256") (by decide) hpayload) <|
    .cons (weight_fieldText_int (k := js "payloadBytes") (by decide) hbytes) .nil
  rw [canonicalize_eq, hcollated]
  exact hle.trans (Nat.add_le_add_left (sum_le_of_forall₂ hbounds) 2 |>.trans (by decide))

theorem token_length {ttl : ℤ} (h : Issued engine secret nowMs ttl challenge) : challenge.token.length ≤ 16384 := by
  have hweight := weight_claims engine.collation h.sound (toISOString_length h.issuedAt).2 (toISOString_length h.expiresAt).2
  have hbytes := utf8Encode_length_le_weight (canonicalize engine.collation challenge.claims.toJson)
  have hencoded := base64UrlEncode_length_le (canonicalBytes engine.collation challenge.claims.toJson)
  have hmac := base64UrlEncode_length_le (hmac engine secret (encodeClaims engine challenge.claims))
  rw [show (ExternalProof.hmac engine secret (encodeClaims engine challenge.claims)).length = 32 from engine.hmac_length _ _] at hmac
  rw [h.token, List.length_append, List.length_cons]
  change (base64UrlEncode (canonicalBytes engine.collation challenge.claims.toJson)).length + _ ≤ _
  unfold canonicalBytes at *
  omega

/-! ## Verification -/

theorem parse_encodeClaims (engine : Engine) (claims : Claims) : ∃ v, parse (bufferText (base64Decode (encodeClaims engine claims))) = some v ∧
    Json.Reordered claims.toJson v := by
  obtain ⟨v, hparse, hreordered, -⟩ := (keyed_claims claims).1.parse_collated engine.collation
  refine ⟨v, ?_, hreordered⟩
  rw [encodeClaims, base64Decode_urlEncode, canonicalBytes, canonicalize_eq, bufferText_utf8Encode (wellFormed_stringify _), hparse]

theorem dot_not_mem_base64Url (bytes : Bytes) : (46 : UInt16) ∉ base64UrlEncode bytes := fun h =>
  absurd (isUrlChar_of_mem h) (by decide)

theorem splitOn_dot {s t : JsString} (hs : 46 ∉ s) (ht : 46 ∉ t) : (s ++ 46 :: t).splitOn 46 = [s, t] := by
  have hparts : s ++ 46 :: t = [46].intercalate [s, t] := by simp
  rw [hparts]
  refine List.splitOn_intercalate 46 ?_ (by simp)
  intro part hpart
  simp only [List.mem_cons, List.not_mem_nil, or_false] at hpart
  rcases hpart with rfl | rfl
  · exact hs
  · exact ht

theorem splitOn_token {ttl : ℤ} (h : Issued engine secret nowMs ttl challenge) : challenge.token.splitOn 46 =
    [encodeClaims engine challenge.claims, base64UrlEncode (hmac engine secret (encodeClaims engine challenge.claims))] := by
  rw [h.token]
  exact splitOn_dot (dot_not_mem_base64Url _) (dot_not_mem_base64Url _)

theorem isLineBreak_of_isUrlChar {c : UInt16} (h : isUrlChar c = true) : isLineBreak c = false := by
  apply isLineBreak_eq_false
  simp only [isUrlChar, Bool.or_eq_true, Bool.and_eq_true, decide_eq_true_eq, beq_iff_eq] at h
  omega

theorem bounded_token {ttl : ℤ} (h : Issued engine secret nowMs ttl challenge) : Bounded 16384 challenge.token where
  nonempty := by
    rw [h.token, List.length_append, List.length_cons]
    omega
  short := token_length h
  line u hu := by
    rw [h.token, List.mem_append, List.mem_cons] at hu
    rcases hu with hu | rfl | hu
    · exact isLineBreak_of_isUrlChar (isUrlChar_of_mem hu)
    · rfl
    · exact isLineBreak_of_isUrlChar (isUrlChar_of_mem hu)

/-- The token of a challenge passes from a minute before its issue until it expires. -/
theorem verify_issued {ttl : ℤ} (h : Issued engine secret nowMs ttl challenge) :
    ∃ claims, Json.Reordered challenge.claims.toJson claims ∧ ∀ t result,
      verifyExternalProofToken engine secret (some (.str challenge.token)) t = .ok result ↔
        result = claims ∧ nowMs - 60000 ≤ t ∧ t ≤ nowMs + ttl := by
  obtain ⟨claims, hparse, hreordered⟩ := parse_encodeClaims engine challenge.claims
  refine ⟨claims, hreordered, ?_⟩
  intro t result
  obtain ⟨hkeyed, hflat⟩ := keyed_claims challenge.claims
  have hcheck : checkClaims engine claims t = .ok () ↔ nowMs - 60000 ≤ t ∧ t ≤ nowMs + ttl :=
    checkClaims_eq_ok h.sound h.window.1 h.issuedAt h.expiresAt (hreordered.get_flat hkeyed hflat)
  have hmac : safeEqualEncoded (base64UrlEncode (hmac engine secret (encodeClaims engine challenge.claims)))
      (base64UrlEncode (hmac engine secret (encodeClaims engine challenge.claims))) = true := beq_self_eq_true _
  have htoken : boundedString (some (.str challenge.token)) "token" 16384 = .ok challenge.token :=
    boundedString_eq_ok.mpr ⟨rfl, bounded_token h⟩
  have hsecret : requireSecret secret = .ok () := by
    simpa [requireSecret] using h.longSecret
  simp only [verifyExternalProofToken, bind_eq_ok, hsecret, htoken, Except.ok.injEq, exists_eq_left', splitOn_token h, ensure_eq_ok, hmac,
    orThrow_eq_ok, hparse, Option.some.injEq, pure_eq_ok]
  constructor
  · rintro ⟨-, -, -, -, _, hclaims, rfl⟩
    exact ⟨rfl, hcheck.mp hclaims⟩
  · rintro ⟨rfl, hwindow⟩
    exact ⟨(), trivial, (), trivial, (), hcheck.mpr hwindow, rfl⟩

end

/-! ## Tokens that nobody issued -/

/-- A call of the issuer. -/
structure IssueCall where
  request : Json
  destination : Option Json
  ttlMs : Option Json
  nowMs : ℤ
  drawn : Drawn

section
variable (engine : Engine) (secret : JsString)

def IssueCall.issue (call : IssueCall) : Outcome Challenge :=
  issueExternalProofChallenge engine secret call.request call.destination call.ttlMs call.nowMs call.drawn

/-- The messages that the calls have computed a MAC of. -/
def authenticated (calls : List IssueCall) : Set Bytes :=
  {bytes | ∃ call ∈ calls, ∃ challenge, call.issue engine secret = .ok challenge ∧
    bytes = utf8Encode (encodeClaims engine challenge.claims)}

/-- Nobody without the secret makes a MAC: one in the token is the MAC of such a message. -/
def Unforged (messages : Set Bytes) (token : JsString) : Prop :=
  ∀ message mac, token = message ++ 46 :: mac → base64Decode mac = hmac engine secret message → utf8Encode message ∈ messages

variable {engine secret}

/-- A token that is accepted carries claims that were issued. -/
theorem verify_unforged {calls : List IssueCall} {token : JsString} {t : ℚ} {result : Json}
    (hunforged : Unforged engine secret (authenticated engine secret calls) token)
    (h : verifyExternalProofToken engine secret (some (.str token)) t = .ok result) :
    ∃ call ∈ calls, ∃ challenge, call.issue engine secret = .ok challenge ∧ Json.Reordered challenge.claims.toJson result := by
  simp only [verifyExternalProofToken, bind_eq_ok, boundedString_eq_ok, Option.some.injEq, Json.str.injEq] at h
  obtain ⟨-, -, _, ⟨rfl, -⟩, h⟩ := h
  split at h
  · rename_i encoded suppliedMac hsplit
    simp only [bind_eq_ok, ensure_eq_ok, orThrow_eq_ok, pure_eq_ok] at h
    obtain ⟨-, hequal, claims, hparse, -, -, rfl⟩ := h
    have htoken : token = encoded ++ 46 :: suppliedMac := by
      have hjoin : [46].intercalate (token.splitOn 46) = token := List.intercalate_splitOn 46
      rw [hsplit] at hjoin
      rw [← hjoin]
      simp
    have hdecoded : base64Decode suppliedMac = hmac engine secret encoded := by
      rw [eq_of_beq hequal, base64Decode_urlEncode]
    obtain ⟨call, hcall, challenge, hissue, hbytes⟩ := hunforged encoded suppliedMac htoken hdecoded
    refine ⟨call, hcall, challenge, hissue, ?_⟩
    have hunambiguous : Unambiguous (encodeClaims engine challenge.claims) := by
      have hascii := ascii_base64UrlEncode (canonicalBytes engine.collation challenge.claims.toJson)
      exact ⟨wellFormed_of_ascii hascii, fun hmem => absurd (hascii _ hmem) (by decide)⟩
    obtain ⟨v, hv, hreordered⟩ := parse_encodeClaims engine challenge.claims
    rw [hunambiguous.eq_of_bytes hbytes, hv] at hparse
    rw [← Option.some.inj hparse]
    exact hreordered
  · cases h

/-- Tokens are accepted in their window with the claims that were issued, and no others are. -/
theorem token_round_trip (engine : Engine) (secret : JsString) :
    (∀ (call : IssueCall) (challenge : Challenge), call.issue engine secret = .ok challenge →
      ∃ ttl, (call.ttlMs.getD (.int 120000)).safeInteger? = some ttl ∧ ∃ claims, Json.Reordered challenge.claims.toJson claims ∧
        ∀ t result, verifyExternalProofToken engine secret (some (.str challenge.token)) t = .ok result ↔
          result = claims ∧ call.nowMs - 60000 ≤ t ∧ t ≤ call.nowMs + ttl) ∧
    ∀ (calls : List IssueCall) (token : JsString) (t : ℚ) (result : Json),
      Unforged engine secret (authenticated engine secret calls) token →
      verifyExternalProofToken engine secret (some (.str token)) t = .ok result →
      ∃ call ∈ calls, ∃ challenge, call.issue engine secret = .ok challenge ∧ Json.Reordered challenge.claims.toJson result := by
  refine ⟨?_, fun calls token t result => verify_unforged⟩
  intro call challenge h
  obtain ⟨ttl, httl, hissued⟩ := issued_of_ok h
  exact ⟨ttl, httl, verify_issued hissued⟩

end

/-- There is one way to read a text with one dot. -/
theorem eq_of_append_dot {s t s' t' : JsString} (hs : 46 ∉ s) (ht : 46 ∉ t) (h : s ++ 46 :: t = s' ++ 46 :: t') : s' = s := by
  rcases List.append_eq_append_iff.mp h with ⟨_ | ⟨c, rest⟩, rfl, hrest⟩ | ⟨_ | ⟨c, rest⟩, rfl, hrest⟩
  · rw [List.append_nil]
  · rw [List.cons_append, List.cons.injEq] at hrest
    exact absurd (hrest.2 ▸ by simp) ht
  · rw [List.append_nil]
  · rw [List.cons_append, List.cons.injEq] at hrest
    exact absurd (by simp [← hrest.1]) hs

namespace Sample

def codeUnits : Collation := ⟨Json.leUnits, Json.leUnits_total, fun _ _ _ => Json.leUnits_trans⟩

/-- An engine whose MAC is the start of the message. -/
def engine : Engine where
  collation := codeUnits
  hmacSha256 := fun _ message => (message ++ List.replicate 32 0).take 32
  hmac_length := by simp
  otherDate := fun _ => none
  coercedDate := fun _ => .ok none

def secret : JsString := List.replicate 32 115

/-- A request at the start of 1970 for two minutes. -/
def call : IssueCall where
  request := .record [("sourceNodeId", .text "node-a"), ("stateId", .str [34, 0xD800]), ("stateHash", .str (List.replicate 64 65)),
    ("payloadSha256", .str (List.replicate 64 97)), ("generation", .int 0), ("payloadBytes", .int 1)]
  destination := some (.text "node-b")
  ttlMs := none
  nowMs := 0
  drawn := ⟨List.replicate 36 48, rfl, fun u hu => .inl (by rw [List.eq_of_mem_replicate hu]; rfl), List.replicate 32 7, rfl⟩

theorem call_issued : ∃ challenge, call.issue engine secret = .ok challenge := ⟨_, rfl⟩

/-- The token of the call passes at 2 minutes, not later, and is one that was issued. -/
theorem token_accepted : ∃ challenge claims, call.issue engine secret = .ok challenge ∧
    verifyExternalProofToken engine secret (some (.str challenge.token)) 120000 = .ok claims ∧
    (∀ result, verifyExternalProofToken engine secret (some (.str challenge.token)) 120001 ≠ .ok result) ∧
    ∃ call' ∈ [call], ∃ challenge', call'.issue engine secret = .ok challenge' ∧ Json.Reordered challenge'.claims.toJson claims := by
  obtain ⟨challenge, hissue⟩ := call_issued
  obtain ⟨hwindow, hforged⟩ := token_round_trip engine secret
  obtain ⟨ttl, httl, claims, -, hverify⟩ := hwindow call challenge hissue
  have httl : ttl = 120000 := (Option.some.inj httl).symm
  subst httl
  have hnow : call.nowMs = 0 := rfl
  simp only [hnow] at hverify
  have haccepted := (hverify 120000 claims).mpr ⟨rfl, by norm_num, by norm_num⟩
  refine ⟨challenge, claims, hissue, haccepted, ?_, hforged [call] challenge.token 120000 claims ?_ haccepted⟩
  · intro result hresult
    exact absurd ((hverify 120001 result).mp hresult).2.2 (by norm_num)
  · obtain ⟨_, -, hissued⟩ := issued_of_ok hissue
    intro message mac htoken _
    rw [hissued.token] at htoken
    refine ⟨call, List.mem_singleton.mpr rfl, challenge, hissue, ?_⟩
    exact congrArg utf8Encode (eq_of_append_dot (dot_not_mem_base64Url _) (dot_not_mem_base64Url _) htoken)

end Sample

end ExternalProof
