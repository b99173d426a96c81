import StrataPortNetwork.ExternalProof.Tokens
import StrataPortNetwork.ExternalProof.Transfer
import StrataPortNetwork.ExternalProof.Canonical

/-! # From a challenge to a verified receipt

The payload of a challenge can be sealed, the endpoint accepts what was sealed, and its envelope
verifies wherever JSON takes it. What was not sealed, or not signed, is rejected.
-/
namespace ExternalProof
open Js

/-- An ideal cipher opens what was sealed and nothing else. -/
structure IdealCipher (crypto : Crypto) (made : Bytes → Bytes → Bytes → Bytes → Prop) : Prop where
  opens : ∀ key iv aad ciphertext tag payload, crypto.decrypt key iv aad ciphertext tag = some payload ↔
    made key iv aad payload ∧ (ciphertext, tag) = crypto.encrypt key iv aad payload

/-- An ideal signature verifies on what was signed and on nothing else. -/
structure IdealSignature (crypto : Crypto) (signed : crypto.SigningKey → Bytes → Prop) : Prop where
  verifies : ∀ key message, signed key message → crypto.verify (crypto.spki key) message (crypto.sign key message) = true
  unforged : ∀ key message signature, crypto.verify (crypto.spki key) message signature = true → signed key message

section
variable {crypto : Crypto} {secret : JsString} {nowMs ttl : ℤ} {challenge : Challenge}

/-! ## Sealing -/

/-- A value that has the claims among its properties, such as the challenge itself. -/
def Carries (claims : Claims) (v : Json) : Prop := ∀ name u, claims.toJson.get name = some u → v.get name = some u

theorem carries_of_reordered {claims : Claims} {v : Json} (h : Json.Reordered claims.toJson v) : Carries claims v := by
  intro name u hu
  rw [h.get_flat (keyed_claims claims).1 (keyed_claims claims).2, hu]

theorem claims_get (claims : Claims) : claims.toJson.get "challengeId" = some (.str claims.challengeId) ∧
    claims.toJson.get "nonce" = some (.str claims.nonce) ∧ claims.toJson.get "sourceNodeId" = some (.str claims.sourceNodeId) ∧
    claims.toJson.get "destinationNodeId" = some (.str claims.destinationNodeId) ∧
    claims.toJson.get "stateId" = some (.str claims.stateId) ∧ claims.toJson.get "stateHash" = some (.str claims.stateHash) ∧
    claims.toJson.get "generation" = some (.int claims.generation) ∧
    claims.toJson.get "payloadSha256" = some (.str claims.payloadSha256) ∧
    claims.toJson.get "payloadBytes" = some (.int claims.payloadBytes) := by
  simp [Claims.toJson, List.lookup_cons]

/-- The key of a challenge. -/
def proofKey (crypto : Crypto) (secret : JsString) (claims : Claims) : Bytes :=
  crypto.hkdfSha256 (utf8Encode secret) (Native.hexDecode claims.nonce)
    (utf8Encode (js "kindred-external-proof-v1|" ++ claims.challengeId))

theorem deriveExternalProofKey_eq {claims : Claims} {v : Json} (hsecret : 32 ≤ secret.length) (hv : Carries claims v) :
    deriveExternalProofKey crypto secret v = .ok (proofKey crypto secret claims) := by
  obtain ⟨hchallengeId, hnonce, -⟩ := claims_get claims
  have hrequire : requireSecret secret = .ok () := by
    simpa [requireSecret] using hsecret
  rw [deriveExternalProofKey, hrequire, hv _ _ hnonce, hv _ _ hchallengeId]
  rfl

/-- A payload that matches the claims. -/
structure Matches (crypto : Crypto) (claims : Claims) (payload : Bytes) : Prop where
  length : (payload.length : ℤ) = claims.payloadBytes
  digest : sha256Hex crypto payload = claims.payloadSha256

/-- The encryption of a payload for a challenge. -/
def Sealing (crypto : Crypto) (secret : JsString) (challenge : Challenge) (payload iv : Bytes) : Bytes → Bytes → Bytes → Bytes → Prop :=
  fun key iv' aad payload' => key = proofKey crypto secret challenge.claims ∧ iv' = iv ∧ aad = utf8Encode challenge.token ∧
    payload' = payload

/-- What `encryptExternalProofPayload` makes of a payload. -/
def sealed (crypto : Crypto) (secret : JsString) (challenge : Challenge) (payload iv : Bytes) : SealedPayload :=
  let parts := crypto.encrypt (proofKey crypto secret challenge.claims) iv (utf8Encode challenge.token) payload
  ⟨base64UrlEncode parts.1, base64UrlEncode iv, base64UrlEncode parts.2⟩

/-- A payload that matches the challenge can be sealed. -/
theorem encrypt_eq_sealed (hsecret : 32 ≤ secret.length) {v : Json} (hv : Carries challenge.claims v) {payload : Bytes}
    (hpayload : Matches crypto challenge.claims payload) (iv : Bytes) :
    encryptExternalProofPayload crypto secret challenge.token v payload iv = .ok (sealed crypto secret challenge payload iv) := by
  obtain ⟨-, -, -, -, -, -, -, hsha, hbytes⟩ := claims_get challenge.claims
  simp only [encryptExternalProofPayload, bind_eq_ok, ensure_eq_ok, pure_eq_ok, deriveExternalProofKey_eq hsecret hv,
    Json.some_beq_int_iff, Json.some_beq_str_iff]
  refine ⟨(), ?_, (), ?_, _, rfl, rfl⟩
  · rw [hv _ _ hbytes, hpayload.length]
  · rw [hv _ _ hsha, hpayload.digest]

theorem bounded_base64Url {bytes : Bytes} (hbytes : bytes ≠ []) {max : ℕ} (hmax : (bytes.length + 2) / 3 * 4 ≤ max) :
    Bounded max (base64UrlEncode bytes) where
  nonempty := by
    refine List.length_pos_of_ne_nil fun hnil => hbytes ?_
    rw [← base64Decode_urlEncode bytes, hnil]
    rfl
  short := (base64UrlEncode_length_le bytes).trans hmax
  line u hu := isLineBreak_of_isUrlChar (isUrlChar_of_mem hu)

/-- The endpoint opens what was sealed. -/
theorem decrypt_sealed (hsecret : 32 ≤ secret.length) (hsound : challenge.claims.Sound) {v : Json}
    (hv : Carries challenge.claims v) {payload iv : Bytes} (hpayload : Matches crypto challenge.claims payload)
    (hiv : iv.length = 12) (hcipher : IdealCipher crypto (Sealing crypto secret challenge payload iv)) :
    decryptExternalProofPayload crypto secret challenge.token v (sealed crypto secret challenge payload iv).ciphertextB64
      (sealed crypto secret challenge payload iv).ivB64 (sealed crypto secret challenge payload iv).tagB64 =
      .ok ⟨payload, challenge.claims.payloadSha256, payload.length⟩ := by
  obtain ⟨-, -, -, -, -, -, -, hsha, hbytes⟩ := claims_get challenge.claims
  have hlimits := hsound.payloadBytes
  rw [← hpayload.length] at hlimits
  unfold EXTERNAL_PROOF_MAX_BYTES at hlimits
  have hlength := crypto.encrypt_length (proofKey crypto secret challenge.claims) iv (utf8Encode challenge.token) payload
  have htag := crypto.tag_length (proofKey crypto secret challenge.claims) iv (utf8Encode challenge.token) payload
  simp only [decryptExternalProofPayload, bind_eq_ok, deriveExternalProofKey_eq hsecret hv, ensure_eq_ok, orThrow_eq_ok,
    boundedString_eq_ok, pure_eq_ok, Json.some_beq_int_iff, Json.some_beq_str_iff, Option.some.injEq, Json.str.injEq, Bool.and_eq_true,
    beq_iff_eq, sealed]
  refine ⟨_, rfl, _, ⟨rfl, bounded_base64Url ?_ (by omega)⟩, _, ⟨rfl, bounded_base64Url ?_ (by omega)⟩, _,
    ⟨rfl, bounded_base64Url ?_ (by omega)⟩, (), ?_, payload, ?_, (), ?_, (), ?_, ?_⟩
  · exact List.ne_nil_of_length_pos (by omega)
  · exact List.ne_nil_of_length_pos (by omega)
  · exact List.ne_nil_of_length_pos (by omega)
  · rw [base64Decode_urlEncode, base64Decode_urlEncode]
    exact ⟨hiv, htag⟩
  · rw [base64Decode_urlEncode, base64Decode_urlEncode, base64Decode_urlEncode]
    exact (hcipher.opens ..).mpr ⟨⟨rfl, rfl, rfl, rfl⟩, rfl⟩
  · rw [hv _ _ hbytes, hpayload.length]
  · rw [hv _ _ hsha, hpayload.digest]
  · rw [base64Decode_urlEncode, hlength, hpayload.digest]

/-! ## Receipts -/

/-- The receipt of a payload that matches the claims. -/
def Claims.receipt (claims : Claims) (execution : DestinationExecution) (observedAt : JsString) : Json :=
  createExternalProofReceipt claims.toJson claims.payloadSha256 claims.payloadBytes.toNat execution observedAt

theorem receipt_eq_record (claims : Claims) (execution : DestinationExecution) (observedAt : JsString) :
    claims.receipt execution observedAt = .record [("schemaVersion", .text EXTERNAL_PROOF_RECEIPT_SCHEMA),
      ("challengeId", .str claims.challengeId), ("sourceNodeId", .str claims.sourceNodeId),
      ("destinationNodeId", .str claims.destinationNodeId), ("stateId", .str claims.stateId), ("stateHash", .str claims.stateHash),
      ("generation", .int claims.generation), ("payloadSha256", .str claims.payloadSha256),
      ("receivedSha256", .str claims.payloadSha256), ("payloadBytes", .int claims.payloadBytes),
      ("ciphertextBytes", .int claims.payloadBytes.toNat),
      ("transport", .record [("protocol", .text "HTTPS"), ("applicationCipher", .text EXTERNAL_PROOF_CIPHER),
        ("challengeAuthentication", .text "HMAC-SHA256"), ("statelessChallenge", .bool true), ("authenticationVerified", .bool true),
        ("integrityVerified", .bool true), ("encryptedApplicationPayload", .bool true)]),
      ("destinationExecution", execution.toJson),
      ("claims", .record [("externalRuntime", .bool true),
        ("distinctServiceIdentity", .bool (!(some (Json.str claims.sourceNodeId) == some (.str claims.destinationNodeId)))),
        ("physicalMachineAttestationProven", .bool false), ("productionReadyClaim", .bool false)]),
      ("observedAt", .str observedAt)] := by
  obtain ⟨hchallengeId, -, hsource, hdestination, hstateId, hstateHash, hgeneration, hsha, hbytes⟩ := claims_get claims
  have hsame : (some (Json.str claims.payloadSha256) == some (.str claims.payloadSha256)) = true := Json.some_beq_str_iff.mpr rfl
  simp only [Claims.receipt, createExternalProofReceipt, hchallengeId, hsource, hdestination, hstateId, hstateHash, hgeneration, hsha,
    hbytes, hsame]
  rfl

theorem plainKeys_receipt (claims : Claims) (execution : DestinationExecution) (observedAt : JsString) :
    (claims.receipt execution observedAt).PlainKeys := by
  have hnullable : ∀ v : Option JsString, (nullable v).PlainKeys := by
    intro v
    cases v with
    | none => exact .null
    | some s => exact .str s
  have hkeys : ∀ name ∈ ["schemaVersion", "challengeId", "sourceNodeId", "destinationNodeId", "stateId", "stateHash", "generation",
      "payloadSha256", "receivedSha256", "payloadBytes", "ciphertextBytes", "transport", "destinationExecution", "claims",
      "observedAt"], isPlainKey (js name) = true := by decide
  have htransport : ∀ name ∈ ["protocol", "applicationCipher", "challengeAuthentication", "statelessChallenge",
      "authenticationVerified", "integrityVerified", "encryptedApplicationPayload"], isPlainKey (js name) = true := by decide
  have hexecution : ∀ name ∈ ["provider", "deploymentId", "deploymentUrl", "commitSha", "region"], isPlainKey (js name) = true := by
    decide
  have hclaims : ∀ name ∈ ["externalRuntime", "distinctServiceIdentity", "physicalMachineAttestationProven", "productionReadyClaim"],
      isPlainKey (js name) = true := by decide
  rw [receipt_eq_record]
  refine .record (by simp) hkeys ?_
  simp only [List.forall_mem_cons]
  refine ⟨.str _, .str _, .str _, .str _, .str _, .str _, .num _, .str _, .str _, .num _, .num _, ?_, ?_, ?_, .str _, by simp⟩
  · refine .record (by simp) htransport ?_
    simp only [List.forall_mem_cons]
    exact ⟨.str _, .str _, .str _, .bool _, .bool _, .bool _, .bool _, by simp⟩
  · refine .record (by simp) hexecution ?_
    simp only [List.forall_mem_cons]
    exact ⟨.str _, hnullable _, hnullable _, hnullable _, hnullable _, by simp⟩
  · refine .record (by simp) hclaims ?_
    simp only [List.forall_mem_cons]
    exact ⟨.bool _, .bool _, .bool _, .bool _, by simp⟩

/-! ## Envelopes -/

variable {key : crypto.SigningKey} {execution : DestinationExecution} {observedAt : JsString}

/-- The signature on a receipt. -/
def Signing (crypto : Crypto) (key : crypto.SigningKey) (receipt : Json) : crypto.SigningKey → Bytes → Prop :=
  fun key' message => key' = key ∧ message = canonicalBytes crypto.collation receipt

/-- The envelope of a receipt under a key. -/
def envelopeOf (crypto : Crypto) (key : crypto.SigningKey) (receipt : Json) : Json :=
  .record [("receipt", receipt), ("signatureAlgorithm", .text "Ed25519"), ("keyId", .str (sha256Hex crypto (crypto.spki key))),
    ("publicKeySpkiBase64", .str (base64Encode (crypto.spki key))),
    ("signature", .str (base64UrlEncode (crypto.sign key (canonicalBytes crypto.collation receipt))))]

theorem plainKeys_envelope {receipt : Json} (h : receipt.PlainKeys) : (envelopeOf crypto key receipt).PlainKeys := by
  have hkeys : ∀ name ∈ ["receipt", "signatureAlgorithm", "keyId", "publicKeySpkiBase64", "signature"], isPlainKey (js name) = true := by
    decide
  refine .record (by simp) hkeys ?_
  simp only [List.forall_mem_cons]
  exact ⟨h, .str _, .str _, .str _, .str _, by simp⟩

theorem canonicalBytes_reordered (hseparates : crypto.collation.Separates) {v w : Json} (h : Json.Reordered v w) (hv : v.PlainKeys) :
    canonicalBytes crypto.collation w = canonicalBytes crypto.collation v := by
  rw [canonicalBytes, canonicalBytes, canonicalize_eq, canonicalize_eq, (h.collated_eq hseparates hv).2]

theorem bounded_publicKey (crypto : Crypto) (key : crypto.SigningKey) : Bounded 4096 (base64Encode (crypto.spki key)) := by
  have hlength : (base64Encode (crypto.spki key)).length = 60 := by
    rw [base64Encode_length, crypto.spki_length]
  refine ⟨by omega, by omega, fun u hu => ?_⟩
  rcases mem_base64Encode hu with rfl | ⟨n, hn, rfl⟩
  · rfl
  · have hsextet : ∀ n < 64, isLineBreak (sextetChar n) = false := by decide
    exact hsextet n hn

/-- The envelope of a receipt verifies wherever JSON takes it. -/
theorem verify_envelope (hseparates : crypto.collation.Separates) (claims : Claims) {delivered : Json}
    (hideal : IdealSignature crypto (Signing crypto key (claims.receipt execution observedAt)))
    (hdelivered : Json.Reordered (envelopeOf crypto key (claims.receipt execution observedAt)) delivered) {trusted : Option JsString}
    (htrusted : ∀ text ∈ trusted, text = base64Encode (crypto.spki key)) :
    verifyExternalProofEnvelope crypto delivered trusted = .ok ⟨some (.str (sha256Hex crypto (crypto.spki key))),
      some (.str claims.stateHash), some (.str claims.challengeId)⟩ ∧
    ∃ receipt, delivered.get "receipt" = some receipt ∧ Json.Reordered (claims.receipt execution observedAt) receipt := by
  have hplain := plainKeys_receipt claims execution observedAt
  have hkeyed := (@plainKeys_envelope crypto key _ hplain).keyed
  have hget : ∀ {name : String} {u : Json}, (envelopeOf crypto key (claims.receipt execution observedAt)).get name = some u →
      u.isScalar = true → delivered.get name = some u := fun h hscalar => hdelivered.get_scalar hkeyed h hscalar
  have halgorithm : delivered.get "signatureAlgorithm" = some (.text "Ed25519") := hget (by simp [envelopeOf, List.lookup_cons]) rfl
  have hkeyId : delivered.get "keyId" = some (.str (sha256Hex crypto (crypto.spki key))) :=
    hget (by simp [envelopeOf, List.lookup_cons]) rfl
  have hpublic : delivered.get "publicKeySpkiBase64" = some (.str (base64Encode (crypto.spki key))) :=
    hget (by simp [envelopeOf, List.lookup_cons]) rfl
  have hsignature : delivered.get "signature" = some (.str (base64UrlEncode (crypto.sign key
      (canonicalBytes crypto.collation (claims.receipt execution observedAt))))) := hget (by simp [envelopeOf, List.lookup_cons]) rfl
  have hsigned : (envelopeOf crypto key (claims.receipt execution observedAt)).get "receipt" =
      some (claims.receipt execution observedAt) := by simp [envelopeOf]
  obtain ⟨receipt, hreceipt, hreordered, -⟩ := hdelivered.get_some hkeyed hsigned
  refine ⟨?_, receipt, hreceipt, hreordered⟩
  have htruthy : delivered.truthy = true := by
    cases delivered with
    | obj fields => rfl
    | null | bool _ | num _ | str _ | arr _ => cases hkeyId
  have hfield : ∀ {name : String} {u : Json}, (claims.receipt execution observedAt).get name = some u → u.isScalar = true →
      receipt.get name = some u := fun h hscalar => hreordered.get_scalar hplain.keyed h hscalar
  have hschema : receipt.get "schemaVersion" = some (.text EXTERNAL_PROOF_RECEIPT_SCHEMA) :=
    hfield (by simp [receipt_eq_record]) rfl
  have hpayload : receipt.get "payloadSha256" = some (.str claims.payloadSha256) := hfield (by simp [receipt_eq_record, List.lookup_cons]) rfl
  have hreceived : receipt.get "receivedSha256" = some (.str claims.payloadSha256) := hfield (by simp [receipt_eq_record, List.lookup_cons]) rfl
  have hstateHash : receipt.get "stateHash" = some (.str claims.stateHash) := hfield (by simp [receipt_eq_record, List.lookup_cons]) rfl
  have hchallengeId : receipt.get "challengeId" = some (.str claims.challengeId) := hfield (by simp [receipt_eq_record, List.lookup_cons]) rfl
  obtain ⟨transport, htransport, hintegrity, hauthentication⟩ : ∃ transport, receipt.get "transport" = some transport ∧
      transport.get "integrityVerified" = some (.bool true) ∧ transport.get "authenticationVerified" = some (.bool true) := by
    have hmade : (claims.receipt execution observedAt).get "transport" = some (.record [("protocol", .text "HTTPS"),
        ("applicationCipher", .text EXTERNAL_PROOF_CIPHER), ("challengeAuthentication", .text "HMAC-SHA256"),
        ("statelessChallenge", .bool true), ("authenticationVerified", .bool true), ("integrityVerified", .bool true),
        ("encryptedApplicationPayload", .bool true)]) := by simp [receipt_eq_record, List.lookup_cons]
    obtain ⟨transport, htransport, hsame, -⟩ := hreordered.get_some hplain.keyed hmade
    have hmade_keyed := (hplain.get hmade).keyed
    exact ⟨transport, htransport, hsame.get_scalar hmade_keyed (by simp [List.lookup_cons]) rfl,
      hsame.get_scalar hmade_keyed (by simp [List.lookup_cons]) rfl⟩
  have hbytes := canonicalBytes_reordered hseparates hreordered hplain
  have hkey : base64Decode (trusted.getD (base64Encode (crypto.spki key))) = crypto.spki key := by
    cases trusted with
    | none => exact base64Decode_encode _
    | some text => rw [Option.getD_some, htrusted text rfl, base64Decode_encode]
  have htrustedAll : (trusted.all fun text => text.isEmpty || base64Encode (crypto.spki key) == text) = true := by
    cases trusted with
    | none => rfl
    | some text => simp [htrusted text rfl]
  simp only [verifyExternalProofEnvelope, bind_eq_ok, ensure_eq_ok, orThrow_eq_ok, pure_eq_ok, htruthy, halgorithm, hkeyId, hpublic,
    hsignature, hreceipt, Bool.true_and, Option.bind_some, Json.str?, boundedString_eq_ok]
  refine ⟨(), Json.some_beq_str_iff.mpr rfl, _, rfl, _, ⟨rfl, bounded_publicKey crypto key⟩, (), htrustedAll, (), ?_, (), ?_,
    receipt, rfl, (), ?_, (), Json.some_beq_str_iff.mpr hschema, (), ?_, (), ?_, ?_⟩
  · rw [hkey]
    exact Json.some_beq_str_iff.mpr rfl
  · rw [hkey]
    exact crypto.spki_accepted key
  · rw [hkey, hbytes, base64Decode_urlEncode]
    exact hideal.verifies key _ ⟨rfl, rfl⟩
  · rw [hpayload, hreceived]
    exact Json.some_beq_str_iff.mpr rfl
  · rw [htransport, Option.getD_some, hintegrity, hauthentication]
    rfl
  · rw [hstateHash, hchallengeId]

/-! ## The endpoint -/

/-- The body of a transfer. -/
def SealedPayload.body (payload : SealedPayload) (token : JsString) : Json :=
  .record [("token", .str token), ("ciphertextB64", .str payload.ciphertextB64), ("ivB64", .str payload.ivB64),
    ("tagB64", .str payload.tagB64)]

/-- A request posts the body: parsed by the platform, with its keys in any order, or as the bytes of
its JSON text. -/
def Posts (body : Json) (request : Request) : Prop := request.method = js "POST" ∧
  ((∃ v, request.body = some v ∧ Json.Reordered body v) ∨
    request.body.filter isObject = none ∧ request.stream = utf8Encode (stringify body))

theorem keyed_body (payload : SealedPayload) (token : JsString) : (payload.body token).Keyed ∧
    ∀ f ∈ (payload.body token).fields, f.2.isScalar = true := by
  have hkeys : ∀ name ∈ ["token", "ciphertextB64", "ivB64", "tagB64"], isPlainKey (js name) = true := by decide
  constructor
  · have hplain : (payload.body token).PlainKeys := by
      refine .record (by simp) hkeys ?_
      simp only [List.forall_mem_cons]
      exact ⟨.str _, .str _, .str _, .str _, by simp⟩
    exact hplain.keyed
  · simp [SealedPayload.body, Json.record, Json.fields, Json.isScalar]

theorem plain_of_isUrlChar {u : UInt16} (h : isUrlChar u = true) : 32 ≤ u.toNat ∧ u.toNat < 128 ∧ u.toNat ≠ 34 ∧ u.toNat ≠ 92 := by
  simp only [isUrlChar, Bool.or_eq_true, Bool.and_eq_true, decide_eq_true_eq, beq_iff_eq] at h
  omega

theorem plain_token {ttl : ℤ} (h : Issued crypto.toEngine secret nowMs ttl challenge) :
    ∀ u ∈ challenge.token, 32 ≤ u.toNat ∧ u.toNat < 128 ∧ u.toNat ≠ 34 ∧ u.toNat ≠ 92 := by
  intro u hu
  rw [h.token, List.mem_append, List.mem_cons] at hu
  rcases hu with hu | rfl | hu
  · exact plain_of_isUrlChar (isUrlChar_of_mem hu)
  · decide
  · exact plain_of_isUrlChar (isUrlChar_of_mem hu)

/-- The text of a body is within the limit of the endpoint. -/
theorem body_size {ttl : ℤ} (h : Issued crypto.toEngine secret nowMs ttl challenge) {payload iv : Bytes}
    (hpayload : Matches crypto challenge.claims payload) (hiv : iv.length = 12) :
    (utf8Encode (stringify ((sealed crypto secret challenge payload iv).body challenge.token))).length ≤ 2 * 1024 * 1024 := by
  have hbytes := utf8Encode_length_le_weight (stringify ((sealed crypto secret challenge payload iv).body challenge.token))
  have hobject := weight_obj_le ((sealed crypto secret challenge payload iv).body challenge.token).fields
  have hurl : ∀ bytes : Bytes, ∀ u ∈ base64UrlEncode bytes, 32 ≤ u.toNat ∧ u.toNat < 128 ∧ u.toNat ≠ 34 ∧ u.toNat ≠ 92 :=
    fun bytes u hu => plain_of_isUrlChar (isUrlChar_of_mem hu)
  have hfields : List.Forall₂ (fun f bound => weight (fieldText f) + 1 ≤ bound)
      ((sealed crypto secret challenge payload iv).body challenge.token).fields
      [110 + challenge.token.length, 110 + (sealed crypto secret challenge payload iv).ciphertextB64.length,
        110 + (sealed crypto secret challenge payload iv).ivB64.length, 110 + (sealed crypto secret challenge payload iv).tagB64.length] :=
    .cons (weight_fieldText_plain (k := js "token") (by decide) (plain_token h)) <|
    .cons (weight_fieldText_plain (k := js "ciphertextB64") (by decide) (hurl _)) <|
    .cons (weight_fieldText_plain (k := js "ivB64") (by decide) (hurl _)) <|
    .cons (weight_fieldText_plain (k := js "tagB64") (by decide) (hurl _)) .nil
  have hsum := sum_le_of_forall₂ hfields
  have htoken := token_length h
  have hlimits := h.sound.payloadBytes
  rw [← hpayload.length] at hlimits
  unfold EXTERNAL_PROOF_MAX_BYTES at hlimits
  have hciphertext : (sealed crypto secret challenge payload iv).ciphertextB64.length ≤ (payload.length + 2) / 3 * 4 := by
    have hle := base64UrlEncode_length_le (crypto.encrypt (proofKey crypto secret challenge.claims) iv (utf8Encode challenge.token) payload).1
    rwa [crypto.encrypt_length] at hle
  have hivText : (sealed crypto secret challenge payload iv).ivB64.length ≤ (12 + 2) / 3 * 4 := by
    have hle := base64UrlEncode_length_le iv
    rwa [hiv] at hle
  have htagText : (sealed crypto secret challenge payload iv).tagB64.length ≤ (16 + 2) / 3 * 4 := by
    have hle := base64UrlEncode_length_le (crypto.encrypt (proofKey crypto secret challenge.claims) iv (utf8Encode challenge.token) payload).2
    rwa [crypto.tag_length] at hle
  simp only [List.sum_cons, List.sum_nil] at hsum
  change weight (stringify ((sealed crypto secret challenge payload iv).body challenge.token)) ≤ _ at hobject
  refine hbytes.trans (hobject.trans ?_)
  omega

/-- The endpoint reads the body that a request posts. -/
theorem read_posts {ttl : ℤ} (h : Issued crypto.toEngine secret nowMs ttl challenge) {payload iv : Bytes}
    (hpayload : Matches crypto challenge.claims payload) (hiv : iv.length = 12) {request : Request}
    (hposts : Posts ((sealed crypto secret challenge payload iv).body challenge.token) request) :
    ∃ v, readJson request = .ok v ∧ Json.Reordered ((sealed crypto secret challenge payload iv).body challenge.token) v := by
  obtain ⟨hkeyed, hflat⟩ := keyed_body (sealed crypto secret challenge payload iv) challenge.token
  obtain ⟨-, ⟨v, hv, hreordered⟩ | ⟨hnone, hstream⟩⟩ := hposts
  · refine ⟨v, ?_, hreordered⟩
    have htoken : v.get "token" = some (.str challenge.token) :=
      (hreordered.get_flat hkeyed hflat "token").trans (by simp [SealedPayload.body])
    have hobject : isObject v = true := by
      cases v with
      | obj fields => rfl
      | null | bool _ | num _ | str _ | arr _ => cases htoken
    rw [readJson, hv, Option.filter_some, hobject]
    rfl
  · refine ⟨_, ?_, hkeyed.reordered_rebuild⟩
    have hsize := body_size h hpayload hiv
    have hne : (utf8Encode (stringify ((sealed crypto secret challenge payload iv).body challenge.token))).isEmpty = false := by
      rw [List.isEmpty_eq_false_iff]
      exact fun hnil => by cases hnil
    rw [readJson, hnone, hstream]
    simp only [hne]
    rw [if_neg (by omega), if_neg Bool.false_ne_true, bufferText_utf8Encode (wellFormed_stringify _), parse_stringify]
    rfl

theorem textOf_str {v : Json} {name : String} {s : JsString} (h : v.get name = some (.str s)) : textOf v name = .ok s := by
  have hnull : v.isNull = false := by
    cases v with
    | null => cases h
    | bool _ | num _ | str _ | arr _ | obj _ => rfl
  rw [textOf, h, hnull]
  rfl

/-- The endpoint of a key, under the secret of the issuer. -/
structure Configured (config : TransferConfig) (secret : JsString) (key : crypto.SigningKey) : Prop where
  secret : config.secret = secret
  keyText : Bounded 8192 config.privateKeyPkcs8Base64
  key : crypto.privateKey? (base64Decode config.privateKeyPkcs8Base64) = some key

variable {config : TransferConfig} {request : Request}

/-- The endpoint accepts what was sealed for it. -/
theorem handler_sealed (h : Issued crypto.toEngine secret nowMs ttl challenge) (hconfig : Configured config secret key)
    {payload iv : Bytes} (hpayload : Matches crypto challenge.claims payload) (hiv : iv.length = 12)
    (hcipher : IdealCipher crypto (Sealing crypto secret challenge payload iv))
    (hposts : Posts ((sealed crypto secret challenge payload iv).body challenge.token) request) {t : ℚ}
    (hstart : nowMs - 60000 ≤ t) (hend : t ≤ nowMs + ttl) :
    handler crypto config request t observedAt =
      .accepted (envelopeOf crypto key (challenge.claims.receipt config.execution observedAt)) := by
  obtain ⟨v, hread, hbody⟩ := read_posts h hpayload hiv hposts
  obtain ⟨hkeyed, hflat⟩ := keyed_body (sealed crypto secret challenge payload iv) challenge.token
  have hget := hbody.get_flat hkeyed hflat
  have htoken : textOf v "token" = .ok challenge.token := textOf_str ((hget "token").trans (by simp [SealedPayload.body]))
  have hciphertext : textOf v "ciphertextB64" = .ok (sealed crypto secret challenge payload iv).ciphertextB64 :=
    textOf_str ((hget "ciphertextB64").trans (by simp [SealedPayload.body, List.lookup_cons]))
  have hivText : textOf v "ivB64" = .ok (sealed crypto secret challenge payload iv).ivB64 :=
    textOf_str ((hget "ivB64").trans (by simp [SealedPayload.body, List.lookup_cons]))
  have htag : textOf v "tagB64" = .ok (sealed crypto secret challenge payload iv).tagB64 :=
    textOf_str ((hget "tagB64").trans (by simp [SealedPayload.body, List.lookup_cons]))
  obtain ⟨claims, hclaims, hverify⟩ := verify_issued h
  have hverified := (hverify t claims).mpr ⟨rfl, hstart, hend⟩
  have hopened := decrypt_sealed h.longSecret h.sound (carries_of_reordered hclaims) hpayload hiv hcipher
  have hreceipt : createExternalProofReceipt claims challenge.claims.payloadSha256 payload.length config.execution observedAt =
      challenge.claims.receipt config.execution observedAt := by
    have hnat : challenge.claims.payloadBytes.toNat = payload.length := by
      rw [← hpayload.length, Int.toNat_natCast]
    simp only [Claims.receipt, createExternalProofReceipt, hnat, hclaims.get_flat (keyed_claims challenge.claims).1
      (keyed_claims challenge.claims).2]
  have htransfer : transfer crypto config request t observedAt =
      .ok (envelopeOf crypto key (challenge.claims.receipt config.execution observedAt)) := by
    simp only [transfer, bind_eq_ok, hread, htoken, hciphertext, hivText, htag, hconfig.secret, Except.ok.injEq, exists_eq_left',
      hverified, hopened, signExternalProofReceipt, boundedString_eq_ok, Option.some.injEq, Json.str.injEq, orThrow_eq_ok, pure_eq_ok,
      hreceipt]
    exact ⟨_, ⟨rfl, hconfig.keyText⟩, key, hconfig.key, rfl⟩
  have hlong := h.longSecret
  have hkeyText := hconfig.keyText.nonempty
  rw [← hconfig.secret] at hlong
  have hset : (config.secret.isEmpty || config.privateKeyPkcs8Base64.isEmpty) = false := by
    rw [Bool.or_eq_false_iff, List.isEmpty_eq_false_iff, List.isEmpty_eq_false_iff]
    exact ⟨List.ne_nil_of_length_pos (by omega), List.ne_nil_of_length_pos hkeyText⟩
  rw [handler, hposts.1, if_neg (by decide), if_neg (by decide), hset, htransfer]
  rfl

/-! ## Tampering -/

/-- Only what was sealed is opened for a challenge. -/
theorem opened_sealed (hsecret : 32 ≤ secret.length) {v : Json} (hv : Carries challenge.claims v) {payload iv : Bytes}
    (hcipher : IdealCipher crypto (Sealing crypto secret challenge payload iv)) {ciphertextB64 ivB64 tagB64 : JsString}
    {opened : OpenedPayload}
    (h : decryptExternalProofPayload crypto secret challenge.token v ciphertextB64 ivB64 tagB64 = .ok opened) :
    base64Decode ciphertextB64 = base64Decode (sealed crypto secret challenge payload iv).ciphertextB64 ∧
      base64Decode ivB64 = base64Decode (sealed crypto secret challenge payload iv).ivB64 ∧
        base64Decode tagB64 = base64Decode (sealed crypto secret challenge payload iv).tagB64 := by
  simp only [decryptExternalProofPayload, bind_eq_ok, deriveExternalProofKey_eq hsecret hv, ensure_eq_ok, orThrow_eq_ok,
    boundedString_eq_ok, pure_eq_ok, Option.some.injEq, Json.str.injEq] at h
  obtain ⟨key, hkey, _, ⟨rfl, -⟩, _, ⟨rfl, -⟩, _, ⟨rfl, -⟩, -, -, received, hdecrypted, -⟩ := h
  obtain rfl := Except.ok.inj hkey
  obtain ⟨⟨-, hiv, -, rfl⟩, hparts⟩ := (hcipher.opens ..).mp hdecrypted
  rw [hiv] at hparts
  simp only [sealed, base64Decode_urlEncode]
  exact ⟨congrArg Prod.fst hparts, hiv, congrArg Prod.snd hparts⟩

/-- A verified envelope under the key has the receipt that was signed. -/
theorem verified_signed {receipt : Json} (hsignature : IdealSignature crypto (Signing crypto key receipt)) {envelope : Json}
    {trusted : Option JsString} {verified : VerifiedEnvelope} (hkey : trusted = some (base64Encode (crypto.spki key)) ∨
      trusted = none ∧ envelope.get "publicKeySpkiBase64" = some (.str (base64Encode (crypto.spki key))))
    (h : verifyExternalProofEnvelope crypto envelope trusted = .ok verified) :
    ∃ receipt', envelope.get "receipt" = some receipt' ∧ Json.Reordered receipt receipt' := by
  simp only [verifyExternalProofEnvelope, bind_eq_ok, ensure_eq_ok, orThrow_eq_ok, pure_eq_ok, boundedString_eq_ok] at h
  obtain ⟨-, -, signature, -, supplied, ⟨hsupplied, -⟩, -, -, -, -, -, -, receipt', hreceipt, -, hverified, -⟩ := h
  have hpublic : base64Decode (trusted.getD supplied) = crypto.spki key := by
    rcases hkey with rfl | ⟨rfl, hown⟩
    · exact base64Decode_encode _
    · obtain rfl : supplied = base64Encode (crypto.spki key) := Json.str.inj (Option.some.inj (hsupplied.symm.trans hown))
      exact base64Decode_encode _
  rw [hpublic] at hverified
  obtain ⟨-, hbytes⟩ := hsignature.unforged _ _ _ hverified
  exact ⟨receipt', hreceipt, Json.reordered_of_collated_eq _ (canonicalBytes_eq_iff.mp hbytes.symm)⟩

end

/-! ## The pipeline -/

/-- What the issuer answers: the claims, the token and the cipher. -/
def Challenge.toJson (challenge : Challenge) : Json :=
  .obj (challenge.claims.toJson.fields ++ [(js "token", .str challenge.token), (js "cipher", .text challenge.cipher)])

theorem keyed_flat {fields : Fields} (hnodup : (fields.map Prod.fst).Nodup) (hscalar : ∀ f ∈ fields, f.2.isScalar = true) :
    (Json.obj fields).Keyed := by
  refine .obj hnodup fun f hf => ?_
  have hf := hscalar f hf
  cases hv : f.2 with
  | null => exact .null
  | bool b => exact .bool b
  | num x => exact .num x
  | str s => exact .str s
  | arr _ | obj _ => rw [hv] at hf; cases hf

theorem carries_challenge {challenge : Challenge} {v : Json} (h : Json.Reordered challenge.toJson v) : Carries challenge.claims v := by
  have hnodup : (challenge.toJson.fields.map Prod.fst).Nodup := by
    change ["schemaVersion", "challengeId", "nonce", "issuedAt", "expiresAt", "sourceNodeId", "destinationNodeId", "stateId",
      "stateHash", "generation", "payloadSha256", "payloadBytes", "token", "cipher"].map js |>.Nodup
    exact List.Nodup.map js_injective (by decide)
  have hscalar : ∀ f ∈ challenge.toJson.fields, f.2.isScalar = true := by
    simp [Challenge.toJson, Claims.toJson, Json.record, Json.fields, Json.isScalar, Json.text, Json.int]
  intro name u hu
  rw [h.get_flat (keyed_flat hnodup hscalar) hscalar, Challenge.toJson, Json.get, Json.fields, List.lookup_append]
  change (challenge.claims.toJson.get name).or _ = some u
  rw [hu, Option.some_or]

/-- The receipt carries what the challenge says of the state. -/
structure CarriesClaims (claims : Claims) (receipt : Json) : Prop where
  source : receipt.get "sourceNodeId" = some (.str claims.sourceNodeId)
  destination : receipt.get "destinationNodeId" = some (.str claims.destinationNodeId)
  stateId : receipt.get "stateId" = some (.str claims.stateId)
  stateHash : receipt.get "stateHash" = some (.str claims.stateHash)
  generation : receipt.get "generation" = some (.int claims.generation)
  payloadBytes : receipt.get "payloadBytes" = some (.int claims.payloadBytes)

theorem carriesClaims_of_reordered {claims : Claims} {execution : DestinationExecution} {observedAt : JsString} {receipt : Json}
    (h : Json.Reordered (claims.receipt execution observedAt) receipt) : CarriesClaims claims receipt := by
  have hfield : ∀ {name : String} {u : Json}, (claims.receipt execution observedAt).get name = some u → u.isScalar = true →
      receipt.get name = some u := fun hget hscalar => h.get_scalar (plainKeys_receipt claims execution observedAt).keyed hget hscalar
  exact ⟨hfield (by simp [receipt_eq_record, List.lookup_cons]) rfl, hfield (by simp [receipt_eq_record, List.lookup_cons]) rfl,
    hfield (by simp [receipt_eq_record, List.lookup_cons]) rfl, hfield (by simp [receipt_eq_record, List.lookup_cons]) rfl,
    hfield (by simp [receipt_eq_record, List.lookup_cons]) rfl, hfield (by simp [receipt_eq_record, List.lookup_cons]) rfl⟩

section
variable (crypto : Crypto) (key : crypto.SigningKey)

/-- A verifier without a trusted key, or that trusts the key of the endpoint. -/
def Trusts (trusted : Option JsString) : Prop := trusted = none ∨ trusted = some (base64Encode (crypto.spki key))

/-- An envelope verifies after any JSON transport, and its receipt carries the claims. -/
def VerifiesAnywhere (claims : Claims) (envelope : Json) : Prop := ∀ delivered, Json.Reordered envelope delivered →
  (∀ trusted, Trusts crypto key trusted → ∃ verified, verifyExternalProofEnvelope crypto delivered trusted = .ok verified) ∧
    ∃ receipt, delivered.get "receipt" = some receipt ∧ CarriesClaims claims receipt

/-- No envelope under the key with another receipt verifies. -/
def RejectsReceipts (envelope : Json) : Prop := ∀ altered trusted verified,
  altered.get "publicKeySpkiBase64" = envelope.get "publicKeySpkiBase64" → Trusts crypto key trusted →
    verifyExternalProofEnvelope crypto altered trusted = .ok verified →
      ∃ receipt receipt', envelope.get "receipt" = some receipt ∧ altered.get "receipt" = some receipt' ∧ Json.Reordered receipt receipt'

/-- The endpoint accepts no other ciphertext, IV or tag for the token. -/
def RejectsPayloads (config : TransferConfig) (token : JsString) (payload : SealedPayload) : Prop :=
  ∀ request t observedAt envelope body ciphertextB64 ivB64 tagB64, handler crypto config request t observedAt = .accepted envelope →
    readJson request = .ok body → textOf body "token" = .ok token → textOf body "ciphertextB64" = .ok ciphertextB64 →
      textOf body "ivB64" = .ok ivB64 → textOf body "tagB64" = .ok tagB64 →
        base64Decode ciphertextB64 = base64Decode payload.ciphertextB64 ∧ base64Decode ivB64 = base64Decode payload.ivB64 ∧
          base64Decode tagB64 = base64Decode payload.tagB64

end

/-- What the endpoint accepts for a token was sealed for it. -/
theorem handler_rejects {crypto : Crypto} {key : crypto.SigningKey} {secret : JsString} {nowMs ttl : ℤ} {challenge : Challenge}
    {config : TransferConfig} {payload iv : Bytes} (h : Issued crypto.toEngine secret nowMs ttl challenge)
    (hconfig : Configured config secret key) (hcipher : IdealCipher crypto (Sealing crypto secret challenge payload iv)) :
    RejectsPayloads crypto config challenge.token (sealed crypto secret challenge payload iv) := by
  intro request t observedAt envelope body ciphertextB64 ivB64 tagB64 haccepted hbody htoken hciphertext hivText htag
  obtain ⟨claims, hclaims, hverify⟩ := verify_issued h
  rw [handler] at haccepted
  split_ifs at haccepted
  split at haccepted
  · rename_i result htransfer
    simp only [transfer, bind_eq_ok, hbody, htoken, hciphertext, hivText, htag, hconfig.secret, Except.ok.injEq, exists_eq_left'] at htransfer
    obtain ⟨verified, hverified, opened, hopened, -⟩ := htransfer
    obtain ⟨rfl, -⟩ := (hverify t verified).mp hverified
    exact opened_sealed h.longSecret (carries_of_reordered hclaims) hcipher hopened
  · cases haccepted

/-- A payload goes from the challenge to a receipt that verifies anywhere, and what was altered on the
way is rejected. -/
theorem transfer_pipeline {crypto : Crypto} {key : crypto.SigningKey} {secret : JsString} {call : IssueCall} {challenge : Challenge}
    {ttl : ℤ} {config : TransferConfig} {payload iv : Bytes} {observedAt : JsString} (hseparates : crypto.collation.Separates)
    (hissued : call.issue crypto.toEngine secret = .ok challenge) (httl : (call.ttlMs.getD (.int 120000)).safeInteger? = some ttl)
    (hconfig : Configured config secret key) (hpayload : Matches crypto challenge.claims payload) (hiv : iv.length = 12)
    (hcipher : IdealCipher crypto (Sealing crypto secret challenge payload iv))
    (hsignature : IdealSignature crypto (Signing crypto key (challenge.claims.receipt config.execution observedAt))) :
    ∃ sealed, (∀ v, Json.Reordered challenge.toJson v →
        encryptExternalProofPayload crypto secret challenge.token v payload iv = .ok sealed) ∧
      RejectsPayloads crypto config challenge.token sealed ∧
      ∃ envelope, VerifiesAnywhere crypto key challenge.claims envelope ∧ RejectsReceipts crypto key envelope ∧
        ∀ request (t : ℚ), Posts (sealed.body challenge.token) request → call.nowMs - 60000 ≤ t → t ≤ call.nowMs + ttl →
          handler crypto config request t observedAt = .accepted envelope := by
  obtain ⟨ttl', httl', h⟩ := issued_of_ok hissued
  obtain rfl := Option.some.inj (httl.symm.trans httl')
  refine ⟨sealed crypto secret challenge payload iv, fun v hv => encrypt_eq_sealed h.longSecret (carries_challenge hv) hpayload iv,
    handler_rejects h hconfig hcipher, envelopeOf crypto key (challenge.claims.receipt config.execution observedAt), ?_, ?_,
    fun request t hposts hstart hend => handler_sealed h hconfig hpayload hiv hcipher hposts hstart hend⟩
  · intro delivered hdelivered
    refine ⟨fun trusted htrusted => ⟨_, (verify_envelope hseparates challenge.claims hsignature hdelivered ?_).1⟩, ?_⟩
    · rcases htrusted with rfl | rfl
      · exact fun text htext => by cases htext
      · exact fun text htext => (Option.some.inj htext).symm
    · have hnone : ∀ text ∈ (none : Option JsString), text = base64Encode (crypto.spki key) := fun text htext => by cases htext
      obtain ⟨-, receipt, hreceipt, hreordered⟩ := verify_envelope hseparates challenge.claims hsignature hdelivered hnone
      exact ⟨receipt, hreceipt, carriesClaims_of_reordered hreordered⟩
  · intro altered trusted verified hkey htrusted hverified
    have hpublic : (envelopeOf crypto key (challenge.claims.receipt config.execution observedAt)).get "publicKeySpkiBase64" =
        some (.str (base64Encode (crypto.spki key))) := by simp [envelopeOf, List.lookup_cons]
    have hreceipt : (envelopeOf crypto key (challenge.claims.receipt config.execution observedAt)).get "receipt" =
        some (challenge.claims.receipt config.execution observedAt) := by simp [envelopeOf]
    have hown : trusted = some (base64Encode (crypto.spki key)) ∨
        trusted = none ∧ altered.get "publicKeySpkiBase64" = some (.str (base64Encode (crypto.spki key))) := by
      rcases htrusted with rfl | rfl
      · exact .inr ⟨rfl, hkey.trans hpublic⟩
      · exact .inl rfl
    obtain ⟨receipt', hget, hreordered⟩ := verified_signed hsignature hown hverified
    exact ⟨_, receipt', hreceipt, hget, hreordered⟩

namespace Sample

theorem codeUnits_separates : codeUnits.Separates := fun _ _ _ _ hle hge => Json.leUnits_antisymm hle hge

def zeroIv : Bytes := List.replicate 12 0

def config : TransferConfig := ⟨secret, [65], none, none, none, none⟩

/-- A toy digest and a cipher and a signature that know one payload and one receipt of a challenge. -/
def crypto (challenge : Challenge) : Crypto where
  toEngine := engine
  digest _ := List.replicate 32 0xAA
  digest_length _ := List.length_replicate
  hkdfSha256 _ _ _ := []
  encrypt _ _ _ payload := (payload, List.replicate 16 0)
  encrypt_length _ _ _ _ := rfl
  tag_length _ _ _ _ := List.length_replicate
  decrypt key iv aad ciphertext tag := if key = [] ∧ iv = zeroIv ∧ aad = utf8Encode challenge.token ∧ ciphertext = [7] ∧
    tag = List.replicate 16 0 then some [7] else none
  SigningKey := Unit
  privateKey? _ := some ()
  spki _ := List.replicate 44 0
  spki_length _ := List.length_replicate
  isPublicKey _ := true
  spki_accepted _ := rfl
  sign _ _ := []
  verify publicKey message _ := publicKey = List.replicate 44 0 ∧
    message = canonicalBytes codeUnits (challenge.claims.receipt config.execution (js "1970-01-01T00:01:00.000Z"))

theorem call_issued_for : ∃ challenge, call.issue engine secret = .ok challenge ∧ challenge.claims.payloadBytes = 1 ∧
    challenge.claims.payloadSha256 = List.replicate 64 97 := ⟨_, rfl, rfl, rfl⟩

/-- The payload of one byte passes the pipeline. -/
theorem byte_transferred : ∃ challenge sealed envelope, call.issue (crypto challenge).toEngine secret = .ok challenge ∧
    encryptExternalProofPayload (crypto challenge) secret challenge.token challenge.toJson [7] zeroIv = .ok sealed ∧
      VerifiesAnywhere (crypto challenge) () challenge.claims envelope := by
  obtain ⟨challenge, hissued, hbytes, hsha256⟩ := call_issued_for
  have hcipher : IdealCipher (crypto challenge) (Sealing (crypto challenge) secret challenge [7] zeroIv) := by
    refine ⟨fun key iv aad ciphertext tag payload => ?_⟩
    change (if key = [] ∧ iv = zeroIv ∧ aad = utf8Encode challenge.token ∧ ciphertext = [7] ∧ tag = List.replicate 16 0 then some [7]
      else none) = some payload ↔ (key = [] ∧ iv = zeroIv ∧ aad = utf8Encode challenge.token ∧ payload = [7]) ∧
        (ciphertext, tag) = (payload, List.replicate 16 0)
    rw [Option.ite_none_right_eq_some, Option.some.injEq, Prod.mk.injEq]
    constructor
    · rintro ⟨⟨hkey, hiv, haad, hciphertext, htag⟩, rfl⟩
      exact ⟨⟨hkey, hiv, haad, rfl⟩, hciphertext, htag⟩
    · rintro ⟨⟨hkey, hiv, haad, rfl⟩, hciphertext, htag⟩
      exact ⟨⟨hkey, hiv, haad, hciphertext, htag⟩, rfl⟩
  have hsignature : IdealSignature (crypto challenge) (Signing (crypto challenge) () (challenge.claims.receipt config.execution
      (js "1970-01-01T00:01:00.000Z"))) := by
    refine ⟨fun _ message hsigned => decide_eq_true ⟨rfl, hsigned.2⟩, fun _ message signature hverified => ?_⟩
    exact ⟨rfl, (of_decide_eq_true hverified).2⟩
  have hpayload : Matches (crypto challenge) challenge.claims [7] := by
    refine ⟨hbytes.symm, ?_⟩
    rw [hsha256]
    rfl
  have hconfig : @Configured (crypto challenge) config secret () :=
    ⟨rfl, ⟨by decide, by decide, List.forall_mem_singleton.mpr (by decide)⟩, rfl⟩
  have hseparates : (crypto challenge).collation.Separates := codeUnits_separates
  have hissued' : call.issue (crypto challenge).toEngine secret = .ok challenge := hissued
  have httl : (call.ttlMs.getD (.int 120000)).safeInteger? = some 120000 := rfl
  obtain ⟨sealed, hsealed, -, envelope, hverifies, -, -⟩ :=
    transfer_pipeline hseparates hissued' httl hconfig hpayload rfl hcipher hsignature
  exact ⟨challenge, sealed, envelope, hissued, hsealed _ (.refl _), hverifies⟩

end Sample

end ExternalProof
