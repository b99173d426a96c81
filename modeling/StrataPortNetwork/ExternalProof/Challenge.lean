import StrataPortNetwork.Js.Buffers
import StrataPortNetwork.Js.Check
import StrataPortNetwork.Js.Collation
import StrataPortNetwork.Js.Date

/-! # Challenges of external proofs

A challenge is issued as a token: its claims as canonical JSON in base64 for URLs, and a MAC of
that text. Whoever holds the secret can verify the token without any other state.
-/
namespace ExternalProof
open Js

inductive Failure
  | error (message : String)
  | typeError (message : String)
  | rangeError (message : String)
  /-- Thrown by the engine: a property of null, a date out of range. -/
  | engine
  deriving DecidableEq

abbrev Outcome := Except Failure

/-- The primitives in use; `Date.parse` is given on what `toISOString` does not write. -/
structure Engine where
  collation : Collation
  hmacSha256 : Bytes → Bytes → Bytes
  hmac_length : ∀ key message, (hmacSha256 key message).length = 32
  otherDate : JsString → Option ℤ
  /-- `Date.parse` of a value that is no string. -/
  coercedDate : Option Json → Outcome (Option ℤ)

def EXTERNAL_PROOF_CHALLENGE_SCHEMA : String := "kindred.external-proof.challenge.v1"
def EXTERNAL_PROOF_CIPHER : String := "AES-256-GCM"
def EXTERNAL_PROOF_MAX_BYTES : ℤ := 1024 * 1024

/-! ## Small checks -/

def isLineBreak (u : UInt16) : Bool := u == 13 || u == 10

/-- `boundedString(value, label, max)`. -/
def boundedString (v : Option Json) (label : String) (max : ℕ) : Outcome JsString := do
  let s ← orThrow (v.bind Json.str?) (.typeError (label ++ " must be a bounded single-line string"))
  ensure (!(s.length < 1 || max < s.length || s.any isLineBreak)) (.typeError (label ++ " must be a bounded single-line string"))
  pure s

/-- The string of a value that passes `validSha256`. -/
def sha256? (v : Option Json) : Option JsString :=
  (v.bind Json.str?).filter fun s => s.length == 64 && s.all fun u => (hexValue? u).isSome

/-- `toLowerCase()` of an ASCII string. -/
def asciiLower (s : JsString) : JsString := s.map fun u => if 65 ≤ u.toNat ∧ u.toNat ≤ 90 then u + 32 else u

def requireSecret (secret : JsString) : Outcome Unit :=
  ensure (!decide (secret.length < 32)) (.error "KINDRED external proof secret must be at least 32 characters")

def parseDate (engine : Engine) (v : Option Json) : Outcome (Option ℤ) :=
  match v with
  | some (.str s) => .ok (dateParse engine.otherDate s)
  | v => engine.coercedDate v

/-! ## Canonical text -/

section
variable (collation : Collation)

mutual

/-- `canonicalize(value)`. -/
def canonicalize : Json → JsString
  | .arr items => 91 :: ([44].intercalate (canonicalizeItems items) ++ [93])
  | .obj fields => 123 :: ([44].intercalate ((collation.sortOn Prod.fst (canonicalizeEntries fields)).map fun e =>
      quote e.1 ++ 58 :: e.2) ++ [125])
  | .null => stringify .null
  | .bool b => stringify (.bool b)
  | .num x => stringify (.num x)
  | .str s => stringify (.str s)

def canonicalizeItems : List Json → List JsString
  | [] => []
  | v :: rest => canonicalize v :: canonicalizeItems rest

def canonicalizeEntries : Fields → List (JsString × JsString)
  | [] => []
  | f :: rest => (f.1, canonicalize f.2) :: canonicalizeEntries rest

end

/-- `canonicalBytes(value)`. -/
def canonicalBytes (v : Json) : Bytes := utf8Encode (canonicalize collation v)

theorem canonicalizeItems_eq_map (items : List Json) : canonicalizeItems collation items = items.map (canonicalize collation) := by
  induction items with
  | nil => rfl
  | cons v rest ih => rw [canonicalizeItems, ih, List.map_cons]

theorem canonicalizeEntries_eq_map (fields : Fields) :
    canonicalizeEntries collation fields = fields.map fun f => (f.1, canonicalize collation f.2) := by
  induction fields with
  | nil => rfl
  | cons f rest ih => rw [canonicalizeEntries, ih, List.map_cons]

/-- The canonical text is the JSON of the value with sorted keys. -/
theorem canonicalize_eq (v : Json) : canonicalize collation v = stringify (v.collated collation) := by
  induction v using Json.inductionOn with
  | null | bool _ | num _ | str _ => rfl
  | arr items ih =>
    rw [canonicalize, canonicalizeItems_eq_map, Json.collated, Json.collatedItems_eq_map, stringify_arr, List.map_map]
    rw [List.map_congr_left fun v hv => ih v hv]
    rfl
  | obj fields ih =>
    rw [canonicalize, canonicalizeEntries_eq_map, Json.collated, Json.collatedFields_eq_map, stringify_obj,
      Collation.sortOn_map, Collation.sortOn_map, List.map_map, List.map_map]
    change 123 :: ([44].intercalate ((collation.sortOn Prod.fst fields).map _) ++ [125]) =
      123 :: ([44].intercalate ((collation.sortOn Prod.fst fields).map _) ++ [125])
    have htexts : ∀ f ∈ collation.sortOn Prod.fst fields, quote f.1 ++ 58 :: canonicalize collation f.2 =
        fieldText (f.1, f.2.collated collation) := by
      intro f hf
      rw [ih f ((List.perm_insertionSort _ fields).mem_iff.mp hf), fieldText]
    exact congrArg (fun texts => 123 :: ([44].intercalate texts ++ [125])) (List.map_congr_left htexts)

end

/-! ## Claims -/

structure Claims where
  challengeId : JsString
  nonce : JsString
  issuedAt : JsString
  expiresAt : JsString
  sourceNodeId : JsString
  destinationNodeId : JsString
  stateId : JsString
  stateHash : JsString
  generation : ℤ
  payloadSha256 : JsString
  payloadBytes : ℤ

def Claims.toJson (claims : Claims) : Json := .record [("schemaVersion", .text EXTERNAL_PROOF_CHALLENGE_SCHEMA),
  ("challengeId", .str claims.challengeId), ("nonce", .str claims.nonce), ("issuedAt", .str claims.issuedAt),
  ("expiresAt", .str claims.expiresAt), ("sourceNodeId", .str claims.sourceNodeId),
  ("destinationNodeId", .str claims.destinationNodeId), ("stateId", .str claims.stateId), ("stateHash", .str claims.stateHash),
  ("generation", .int claims.generation), ("payloadSha256", .str claims.payloadSha256), ("payloadBytes", .int claims.payloadBytes)]

structure Challenge where
  claims : Claims
  token : JsString
  cipher : String

/-- What `randomUUID()` and `randomBytes(32)` return. -/
structure Drawn where
  uuid : JsString
  uuid_length : uuid.length = 36
  uuid_chars : ∀ u ∈ uuid, (hexValue? u).isSome = true ∨ u = 45
  bytes : Bytes
  bytes_length : bytes.length = 32

def hexText (bytes : Bytes) : JsString := bytes.flatMap fun b => [hexDigit (b.toNat / 16), hexDigit (b.toNat % 16)]

section
variable (engine : Engine)

/-- `hmac(secret, value)` before it is encoded. -/
def hmac (secret value : JsString) : Bytes := engine.hmacSha256 (utf8Encode secret) (utf8Encode value)

/-- The payload of a token. -/
def encodeClaims (claims : Claims) : JsString := base64UrlEncode (canonicalBytes engine.collation claims.toJson)

/-- `issueExternalProofChallenge(input)`. -/
def issueExternalProofChallenge (secret : JsString) (request : Json) (destination ttlMs : Option Json) (nowMs : ℤ)
    (drawn : Drawn) : Outcome Challenge := do
  requireSecret secret
  let destinationNodeId ← boundedString destination "destinationNodeId" 256
  let sourceNodeId ← boundedString (request.get "sourceNodeId") "sourceNodeId" 256
  let stateId ← boundedString (request.get "stateId") "stateId" 512
  let stateHash ← orThrow (sha256? (request.get "stateHash"))
    (.typeError "stateHash and payloadSha256 must be SHA-256 hex digests")
  let payloadSha256 ← orThrow (sha256? (request.get "payloadSha256"))
    (.typeError "stateHash and payloadSha256 must be SHA-256 hex digests")
  ensure (asciiLower stateHash == asciiLower payloadSha256)
    (.error "stateHash must equal payloadSha256 for canonical proof payloads")
  let generation ← orThrow ((request.get "generation").bind Json.safeInteger?)
    (.typeError "generation must be a non-negative safe integer")
  ensure (!decide (generation < 0)) (.typeError "generation must be a non-negative safe integer")
  let payloadBytes ← orThrow ((request.get "payloadBytes").bind Json.safeInteger?)
    (.rangeError "payloadBytes must be between 1 and 1048576")
  ensure (!(payloadBytes < 1 || EXTERNAL_PROOF_MAX_BYTES < payloadBytes))
    (.rangeError "payloadBytes must be between 1 and 1048576")
  let ttl ← orThrow ((ttlMs.getD (.int 120000)).safeInteger?) (.rangeError "ttlMs must be between 10 seconds and 10 minutes")
  ensure (!(ttl < 10000 || 600000 < ttl)) (.rangeError "ttlMs must be between 10 seconds and 10 minutes")
  let issuedAt ← orThrow (toISOString nowMs) .engine
  let expiresAt ← orThrow (toISOString (nowMs + ttl)) .engine
  let claims : Claims := {
    challengeId := drawn.uuid
    nonce := hexText drawn.bytes
    issuedAt, expiresAt, sourceNodeId, destinationNodeId, stateId
    stateHash := asciiLower stateHash
    generation
    payloadSha256 := asciiLower payloadSha256
    payloadBytes }
  let encoded := encodeClaims engine claims
  pure {
    claims
    token := encoded ++ 46 :: base64UrlEncode (hmac engine secret encoded)
    cipher := EXTERNAL_PROOF_CIPHER }

/-- `safeEqualEncoded(left, right)`. -/
def safeEqualEncoded (left right : JsString) : Bool := base64Decode left == base64Decode right

/-- The checks of `verifyExternalProofToken` on the claims. -/
def checkClaims (claims : Json) (nowMs : ℚ) : Outcome Unit := do
  ensure (!claims.isNull) .engine
  ensure (claims.get "schemaVersion" == some (.text EXTERNAL_PROOF_CHALLENGE_SCHEMA)) (.error "challenge schema mismatch")
  let stateHash ← orThrow (sha256? (claims.get "stateHash")) (.error "challenge hash fields invalid")
  let payloadSha256 ← orThrow (sha256? (claims.get "payloadSha256")) (.error "challenge hash fields invalid")
  ensure (stateHash == payloadSha256) (.error "challenge state hash mismatch")
  let generation ← orThrow ((claims.get "generation").bind Json.safeInteger?) (.error "challenge generation invalid")
  ensure (!decide (generation < 0)) (.error "challenge generation invalid")
  let payloadBytes ← orThrow ((claims.get "payloadBytes").bind Json.safeInteger?) (.error "challenge payload size invalid")
  ensure (!(payloadBytes < 1 || EXTERNAL_PROOF_MAX_BYTES < payloadBytes)) (.error "challenge payload size invalid")
  let _ ← boundedString (claims.get "challengeId") "challengeId" 64
  let _ ← boundedString (claims.get "nonce") "nonce" 128
  let _ ← boundedString (claims.get "sourceNodeId") "sourceNodeId" 256
  let _ ← boundedString (claims.get "destinationNodeId") "destinationNodeId" 256
  let _ ← boundedString (claims.get "stateId") "stateId" 512
  let issued ← parseDate engine (claims.get "issuedAt")
  let expires ← parseDate engine (claims.get "expiresAt")
  let issued ← orThrow issued (.error "challenge timestamps invalid")
  let expires ← orThrow expires (.error "challenge timestamps invalid")
  ensure (!decide (expires ≤ issued)) (.error "challenge timestamps invalid")
  ensure (!decide ((expires : ℚ) < nowMs)) (.error "challenge token expired")
  ensure (!decide (nowMs + 60000 < (issued : ℚ))) (.error "challenge token issued in the future")

/-- `verifyExternalProofToken(input)`. -/
def verifyExternalProofToken (secret : JsString) (token : Option Json) (nowMs : ℚ) : Outcome Json := do
  requireSecret secret
  let token ← boundedString token "token" 16384
  match token.splitOn 46 with
  | [encoded, suppliedMac] => do
    ensure (safeEqualEncoded suppliedMac (base64UrlEncode (hmac engine secret encoded)))
      (.error "challenge token authentication failed")
    let claims ← orThrow (parse (bufferText (base64Decode encoded))) (.error "challenge token payload is invalid")
    checkClaims engine claims nowMs
    pure claims
  | _ => .error (.error "invalid challenge token")

end

end ExternalProof
