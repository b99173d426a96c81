import StrataPortNetwork.ExternalProof.Challenge
import StrataPortNetwork.Native.Identity

/-! # Transfer of a proven payload

A client seals the payload of a challenge for the transfer endpoint, which opens it and signs a
receipt. Anyone can verify the envelope of the receipt against the key of the endpoint.
-/
namespace ExternalProof
open Js

/-- The primitives of a transfer. The cipher is AES-256-GCM; keys are Ed25519, public ones as SPKI. -/
structure Crypto extends Engine where
  digest : Bytes → Bytes
  digest_length : ∀ bytes, (digest bytes).length = 32
  hkdfSha256 : Bytes → Bytes → Bytes → Bytes
  encrypt : Bytes → Bytes → Bytes → Bytes → Bytes × Bytes
  encrypt_length : ∀ key iv aad payload, (encrypt key iv aad payload).1.length = payload.length
  tag_length : ∀ key iv aad payload, (encrypt key iv aad payload).2.length = 16
  decrypt : Bytes → Bytes → Bytes → Bytes → Bytes → Option Bytes
  SigningKey : Type
  /-- `createPrivateKey` of a PKCS 8 text. -/
  privateKey? : Bytes → Option SigningKey
  spki : SigningKey → Bytes
  spki_length : ∀ key, (spki key).length = 44
  /-- Whether `createPublicKey` takes the bytes. -/
  isPublicKey : Bytes → Bool
  spki_accepted : ∀ key, isPublicKey (spki key) = true
  sign : SigningKey → Bytes → Bytes
  verify : Bytes → Bytes → Bytes → Bool

def EXTERNAL_PROOF_RECEIPT_SCHEMA : String := "kindred.external-proof.receipt.v1"

section
variable (crypto : Crypto)

def sha256Hex (bytes : Bytes) : JsString := hexText (crypto.digest bytes)

/-- A value in a template literal; `none` is the TypeError of its coercion. -/
def templateText (v : Option Json) : Option JsString :=
  match v with
  | some v => v.toStr?
  | none => some (js "undefined")

/-- `deriveExternalProofKey(input)`, for a nonce that is a string. -/
def deriveExternalProofKey (secret : JsString) (claims : Json) : Outcome Bytes := do
  requireSecret secret
  let nonce ← orThrow ((claims.get "nonce").bind Json.str?) .engine
  let challengeId ← orThrow (templateText (claims.get "challengeId")) .engine
  pure (crypto.hkdfSha256 (utf8Encode secret) (Native.hexDecode nonce)
    (utf8Encode (js "kindred-external-proof-v1|" ++ challengeId)))

structure SealedPayload where
  ciphertextB64 : JsString
  ivB64 : JsString
  tagB64 : JsString

/-- `encryptExternalProofPayload(input)` with the IV that it draws. -/
def encryptExternalProofPayload (secret token : JsString) (claims : Json) (payload iv : Bytes) : Outcome SealedPayload := do
  ensure (claims.get "payloadBytes" == some (.int payload.length)) (.error "payload length does not match challenge")
  ensure (claims.get "payloadSha256" == some (.str (sha256Hex crypto payload))) (.error "payload SHA-256 does not match challenge")
  let key ← deriveExternalProofKey crypto secret claims
  let sealed := crypto.encrypt key iv (utf8Encode token) payload
  pure ⟨base64UrlEncode sealed.1, base64UrlEncode iv, base64UrlEncode sealed.2⟩

structure OpenedPayload where
  payload : Bytes
  receivedSha256 : JsString
  ciphertextBytes : ℕ

/-- `decryptExternalProofPayload(input)`. -/
def decryptExternalProofPayload (secret token : JsString) (claims : Json) (ciphertextB64 ivB64 tagB64 : JsString) :
    Outcome OpenedPayload := do
  let key ← deriveExternalProofKey crypto secret claims
  let ciphertextB64 ← boundedString (some (.str ciphertextB64)) "ciphertextB64" 2097152
  let ivB64 ← boundedString (some (.str ivB64)) "ivB64" 64
  let tagB64 ← boundedString (some (.str tagB64)) "tagB64" 64
  let ciphertext := base64Decode ciphertextB64
  let iv := base64Decode ivB64
  let tag := base64Decode tagB64
  ensure (iv.length == 12 && tag.length == 16) (.error "invalid AES-GCM IV or tag")
  let payload ← orThrow (crypto.decrypt key iv (utf8Encode token) ciphertext tag) .engine
  ensure (claims.get "payloadBytes" == some (.int payload.length)) (.error "received payload length mismatch")
  ensure (claims.get "payloadSha256" == some (.str (sha256Hex crypto payload))) (.error "received payload SHA-256 mismatch")
  pure ⟨payload, sha256Hex crypto payload, ciphertext.length⟩

/-! ## Receipts -/

/-- Where the receipt was made; what the environment does not tell is null. -/
structure DestinationExecution where
  provider : JsString
  deploymentId : Option JsString
  deploymentUrl : Option JsString
  commitSha : Option JsString
  region : Option JsString

def nullable (v : Option JsString) : Json := (v.map Json.str).getD .null

def DestinationExecution.toJson (e : DestinationExecution) : Json := .record [("provider", .str e.provider),
  ("deploymentId", nullable e.deploymentId), ("deploymentUrl", nullable e.deploymentUrl), ("commitSha", nullable e.commitSha),
  ("region", nullable e.region)]

/-- `createExternalProofReceipt(input)`. -/
def createExternalProofReceipt (claims : Json) (receivedSha256 : JsString) (ciphertextBytes : ℕ) (destination : DestinationExecution)
    (observedAt : JsString) : Json := .defined [
  ("schemaVersion", some (.text EXTERNAL_PROOF_RECEIPT_SCHEMA)), ("challengeId", claims.get "challengeId"),
  ("sourceNodeId", claims.get "sourceNodeId"), ("destinationNodeId", claims.get "destinationNodeId"),
  ("stateId", claims.get "stateId"), ("stateHash", claims.get "stateHash"), ("generation", claims.get "generation"),
  ("payloadSha256", claims.get "payloadSha256"), ("receivedSha256", some (.str receivedSha256)),
  ("payloadBytes", claims.get "payloadBytes"), ("ciphertextBytes", some (.int ciphertextBytes)),
  ("transport", some (.record [("protocol", .text "HTTPS"), ("applicationCipher", .text EXTERNAL_PROOF_CIPHER),
    ("challengeAuthentication", .text "HMAC-SHA256"), ("statelessChallenge", .bool true), ("authenticationVerified", .bool true),
    ("integrityVerified", .bool (some (.str receivedSha256) == claims.get "payloadSha256")),
    ("encryptedApplicationPayload", .bool true)])),
  ("destinationExecution", some destination.toJson),
  ("claims", some (.record [("externalRuntime", .bool true),
    ("distinctServiceIdentity", .bool (!(claims.get "sourceNodeId" == claims.get "destinationNodeId"))),
    ("physicalMachineAttestationProven", .bool false), ("productionReadyClaim", .bool false)])),
  ("observedAt", some (.str observedAt))]

/-- `signExternalProofReceipt(input)`. -/
def signExternalProofReceipt (receipt : Json) (privateKeyPkcs8Base64 : JsString) : Outcome Json := do
  let text ← boundedString (some (.str privateKeyPkcs8Base64)) "privateKeyPkcs8Base64" 8192
  let key ← orThrow (crypto.privateKey? (base64Decode text)) .engine
  let publicDer := crypto.spki key
  pure (.record [("receipt", receipt), ("signatureAlgorithm", .text "Ed25519"), ("keyId", .str (sha256Hex crypto publicDer)),
    ("publicKeySpkiBase64", .str (base64Encode publicDer)),
    ("signature", .str (base64UrlEncode (crypto.sign key (canonicalBytes crypto.collation receipt))))])

/-- What `verifyExternalProofEnvelope` returns of a verified envelope. -/
structure VerifiedEnvelope where
  keyId : Option Json
  stateHash : Option Json
  challengeId : Option Json

/-- `verifyExternalProofEnvelope(input)`; an empty trusted key is none for the comparison only. -/
def verifyExternalProofEnvelope (envelope : Json) (trusted : Option JsString) : Outcome VerifiedEnvelope := do
  ensure (envelope.truthy && envelope.get "signatureAlgorithm" == some (.text "Ed25519")) (.error "invalid external proof envelope")
  let signature ← orThrow ((envelope.get "signature").bind Json.str?) (.error "invalid external proof envelope")
  let supplied ← boundedString (envelope.get "publicKeySpkiBase64") "publicKeySpkiBase64" 4096
  ensure (trusted.all fun key => key.isEmpty || supplied == key)
    (.error "external proof signing key does not match trusted public key")
  let publicDer := base64Decode (trusted.getD supplied)
  ensure (envelope.get "keyId" == some (.str (sha256Hex crypto publicDer))) (.error "external proof key fingerprint mismatch")
  ensure (crypto.isPublicKey publicDer) .engine
  let receipt ← orThrow (envelope.get "receipt") .engine
  ensure (crypto.verify publicDer (canonicalBytes crypto.collation receipt) (base64Decode signature))
    (.error "external proof signature verification failed")
  ensure (receipt.get "schemaVersion" == some (.text EXTERNAL_PROOF_RECEIPT_SCHEMA)) (.error "external proof receipt schema mismatch")
  ensure (receipt.get "payloadSha256" == receipt.get "receivedSha256") (.error "external proof receipt integrity mismatch")
  let transport := (receipt.get "transport").getD .null
  ensure (transport.get "integrityVerified" == some (.bool true) && transport.get "authenticationVerified" == some (.bool true))
    (.error "external proof receipt did not verify transport integrity/authentication")
  pure ⟨envelope.get "keyId", receipt.get "stateHash", receipt.get "challengeId"⟩

/-! ## The endpoint -/

/-- The environment of the endpoint, its texts trimmed. -/
structure TransferConfig where
  secret : JsString
  privateKeyPkcs8Base64 : JsString
  deploymentId : Option JsString
  deploymentUrl : Option JsString
  commitSha : Option JsString
  region : Option JsString

def TransferConfig.execution (config : TransferConfig) : DestinationExecution :=
  ⟨js "vercel", config.deploymentId, config.deploymentUrl, config.commitSha, config.region⟩

/-- A request: the body that the platform has parsed, if any, and the bytes of its stream. -/
structure Request where
  method : JsString
  body : Option Json
  stream : Bytes

def isObject : Json → Bool
  | .arr _ => true
  | .obj _ => true
  | _ => false

/-- `readJson(req)`. -/
def readJson (request : Request) : Outcome Json :=
  match request.body.filter isObject with
  | some v => .ok v
  | none =>
    if 2 * 1024 * 1024 < request.stream.length then .error (.error "request_too_large")
    else if request.stream.isEmpty then .ok (.obj [])
    else orThrow (parse (bufferText request.stream)) .engine

/-- `String(body[name] ?? "")`. -/
def textOf (body : Json) (name : String) : Outcome JsString := do
  ensure (!body.isNull) .engine
  match body.get name with
  | none => pure []
  | some .null => pure []
  | some v => orThrow v.toStr? .engine

/-- The transfer that the handler tries. -/
def transfer (config : TransferConfig) (request : Request) (nowMs : ℚ) (observedAt : JsString) : Outcome Json := do
  let body ← readJson request
  let token ← textOf body "token"
  let claims ← verifyExternalProofToken crypto.toEngine config.secret (some (.str token)) nowMs
  let ciphertextB64 ← textOf body "ciphertextB64"
  let ivB64 ← textOf body "ivB64"
  let tagB64 ← textOf body "tagB64"
  let opened ← decryptExternalProofPayload crypto config.secret token claims ciphertextB64 ivB64 tagB64
  let receipt := createExternalProofReceipt claims opened.receivedSha256 opened.ciphertextBytes config.execution observedAt
  signExternalProofReceipt crypto receipt config.privateKeyPkcs8Base64

inductive Response
  | noContent
  | methodNotAllowed
  | notConfigured
  | accepted (envelope : Json)
  | rejected (e : Failure)

/-- `handler(req, res)`. -/
def handler (config : TransferConfig) (request : Request) (nowMs : ℚ) (observedAt : JsString) : Response :=
  if request.method = js "OPTIONS" then .noContent
  else if request.method ≠ js "POST" then .methodNotAllowed
  else if config.secret.isEmpty || config.privateKeyPkcs8Base64.isEmpty then .notConfigured
  else match transfer crypto config request nowMs observedAt with
    | .ok envelope => .accepted envelope
    | .error e => .rejected e

end

end ExternalProof
