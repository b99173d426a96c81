import StrataPortNetwork.ExternalProof.Pipeline

/-! # Recovery across providers

A checkpoint that was sealed as a capsule is opened outside of the runtime it comes from. The recovery
endpoint recomputes the operation of the job in it and signs a record of what it found, which a verifier
compares with the evidence of the checkpoint.
-/
namespace ExternalProof
open Js

def RECOVERY_CAPSULE_SCHEMA : String := "kindred.external-proof.recovery-capsule.v1"
def RECOVERY_STATE_SCHEMA : String := "kindred.external-proof.recovery-state.v1"
def CROSS_PROVIDER_RECOVERY_SCHEMA : String := "kindred.external-proof.cross-provider-recovery.v1"
def RECOVERY_MAX_BYTES : ℕ := 48 * 1024
def RECOVERY_TEXT_MAX_BYTES : ℕ := 16 * 1024
def RECOVERY_JSON_MAX_BYTES : ℕ := 32 * 1024

section
variable (crypto : Crypto)

/-! ## Jobs -/

/-- `sha256(text)` and `sha256(canonicalBytes(value))`. -/
def textHash (text : JsString) : JsString := sha256Hex crypto (utf8Encode text)
def jsonHash (v : Json) : JsString := sha256Hex crypto (canonicalBytes crypto.collation v)

/-- What `executeRecoveredOperation` returns. -/
structure Executed where
  operation : String
  inputHash : JsString
  output : Json
  outputHash : JsString

/-- The result of an operation on an input of the normal form. -/
def executedOn (operation : String) (input output : Json) : Executed :=
  ⟨operation, jsonHash crypto input, output, jsonHash crypto output⟩

/-- `executeRecoveredOperation(job)`. -/
def executeRecoveredOperation (job : Option Json) : Outcome Executed := do
  let job ← orThrow (job.filter isObject) (.typeError "recovery job is required")
  if job.get "operation" == some (.text "HASH_TEXT") then do
    let text ← orThrow (((job.get "input").bind (·.get "text")).bind Json.str?) (.typeError "HASH_TEXT requires input.text")
    let bytes := (utf8Encode text).length
    ensure (bytes ≤ RECOVERY_TEXT_MAX_BYTES) (.rangeError "HASH_TEXT input exceeds recovery limit")
    pure (executedOn crypto "HASH_TEXT" (.record [("text", .str text)])
      (.record [("sha256", .str (textHash crypto text)), ("utf8Bytes", .int bytes)]))
  else if job.get "operation" == some (.text "CANONICALIZE_JSON") then do
    let value ← orThrow ((job.get "input").bind (·.get "value")) (.typeError "CANONICALIZE_JSON requires input.value")
    let canonical := canonicalize crypto.collation value
    let bytes := (utf8Encode canonical).length
    ensure (bytes ≤ RECOVERY_JSON_MAX_BYTES) (.rangeError "CANONICALIZE_JSON result exceeds recovery limit")
    pure (executedOn crypto "CANONICALIZE_JSON" (.record [("value", value)])
      (.record [("canonical", .str canonical), ("sha256", .str (textHash crypto canonical)), ("utf8Bytes", .int bytes)]))
  else .error (.error "unsupported recovered proof operation")

/-! ## Capsules -/

/-- The strings of a capsule. -/
structure Capsule where
  recoveryId : JsString
  saltB64 : JsString
  ivB64 : JsString
  ciphertextB64 : JsString
  tagB64 : JsString

/-- What the digest of a capsule is over. -/
def Capsule.unsigned (capsule : Capsule) : Json := .record [("schemaVersion", .text RECOVERY_CAPSULE_SCHEMA),
  ("recoveryId", .str capsule.recoveryId), ("saltB64", .str capsule.saltB64), ("ivB64", .str capsule.ivB64),
  ("ciphertextB64", .str capsule.ciphertextB64), ("tagB64", .str capsule.tagB64)]

/-- `deriveRecoveryKey(secret, salt, recoveryId)`. -/
def deriveRecoveryKey (secret : JsString) (salt : Bytes) (recoveryId : JsString) : Bytes :=
  crypto.hkdfSha256 (utf8Encode secret) salt (utf8Encode (js "kindred-external-proof-recovery-v1|" ++ recoveryId))

def requireRecoverySecret (secret : JsString) : Outcome Unit :=
  ensure (!decide (secret.length < 32)) (.error "KINDRED recovery capsule secret must be at least 32 characters")

/-- The plaintext of a capsule. -/
def Capsule.plaintext? (capsule : Capsule) (secret : JsString) : Option Bytes :=
  crypto.decrypt (deriveRecoveryKey crypto secret (base64Decode capsule.saltB64) capsule.recoveryId) (base64Decode capsule.ivB64)
    (utf8Encode (js RECOVERY_CAPSULE_SCHEMA)) (base64Decode capsule.ciphertextB64) (base64Decode capsule.tagB64)

/-- The checks on the state that a capsule holds. -/
def checkRecoveryState (state : Json) (recoveryId : JsString) : Outcome JsString := do
  ensure (state.truthy && state.get "schemaVersion" == some (.text RECOVERY_STATE_SCHEMA) &&
    state.get "recoveryId" == some (.str recoveryId)) (.error "recovery state identity mismatch")
  let _ ← boundedString (state.get "sourceNodeId") "recovery sourceNodeId" 256
  let _ ← boundedString (state.get "sourceBootId") "recovery sourceBootId" 256
  let _ ← boundedString (state.get "checkpointedAt") "checkpointedAt" 128
  ensure (state.get "checkpointStage" == some (.text "VALIDATED_BEFORE_EXTERNAL_TRANSFER"))
    (.error "recovery checkpoint stage mismatch")
  orThrow (sha256? (state.get "validatedInputHash")) (.error "recovery validated input hash invalid")

/-- `openRecoveryCapsule(input)`; an absent capsule is `null`. -/
def openRecoveryCapsule (secret : JsString) (v : Json) : Outcome (Json × Executed) := do
  requireRecoverySecret secret
  ensure (v.truthy && v.get "schemaVersion" == some (.text RECOVERY_CAPSULE_SCHEMA)) (.error "recovery capsule schema mismatch")
  let recoveryId ← boundedString (v.get "recoveryId") "recoveryId" 128
  let saltB64 ← boundedString (v.get "saltB64") "saltB64" 128
  let ivB64 ← boundedString (v.get "ivB64") "ivB64" 64
  let tagB64 ← boundedString (v.get "tagB64") "tagB64" 64
  let ciphertextB64 ← boundedString (v.get "ciphertextB64") "ciphertextB64" (128 * 1024)
  let capsuleSha256 ← boundedString (v.get "capsuleSha256") "capsuleSha256" 64
  let capsule : Capsule := ⟨recoveryId, saltB64, ivB64, ciphertextB64, tagB64⟩
  ensure (jsonHash crypto capsule.unsigned == capsuleSha256) (.error "recovery capsule digest mismatch")
  let ciphertext := base64Decode ciphertextB64
  ensure ((base64Decode saltB64).length == 32 && (base64Decode ivB64).length == 12 && (base64Decode tagB64).length == 16 &&
    1 ≤ ciphertext.length && ciphertext.length ≤ RECOVERY_MAX_BYTES) (.error "recovery capsule cryptographic fields invalid")
  let state ← orThrow ((capsule.plaintext? crypto secret).bind fun bytes => parse (bufferText bytes))
    (.error "recovery capsule authentication or decoding failed")
  let validatedInputHash ← checkRecoveryState state recoveryId
  let executed ← executeRecoveredOperation crypto (state.get "job")
  ensure (executed.inputHash == validatedInputHash) (.error "recovered input hash mismatch")
  pure (state, executed)

/-! ## Records -/

/-- What a record claims; `none` is the source node id of a state without one. -/
def recoveryClaims (recoveryNodeId : JsString) (sourceNodeId : Option Json) : Json :=
  .record [("recoveredOutsideOriginalSourceRuntime", .bool (!(some (.str recoveryNodeId) == sourceNodeId))),
    ("automaticFailoverProven", .bool false), ("abruptTerminationRecoveryProven", .bool false),
    ("physicalMachineAttestationProven", .bool false), ("productionReadyClaim", .bool false)]

/-- `createCrossProviderRecoveryRecord(input)`. -/
def createCrossProviderRecoveryRecord (state : Json) (executed : Executed) (capsuleSha256 : Option Json) (recoveryNodeId : JsString)
    (execution : DestinationExecution) (observedAt : JsString) : Outcome Json := do
  let _ ← boundedString (some (.str recoveryNodeId)) "recoveryNodeId" 256
  let capsuleSha256 ← orThrow (sha256? capsuleSha256) (.error "capsuleSha256 must be SHA-256 hex")
  pure (.defined [("schemaVersion", some (.text CROSS_PROVIDER_RECOVERY_SCHEMA)), ("recoveryId", state.get "recoveryId"),
    ("capsuleSha256", some (.str capsuleSha256)), ("checkpointedAt", state.get "checkpointedAt"),
    ("originalSourceNodeId", state.get "sourceNodeId"), ("originalSourceBootId", state.get "sourceBootId"),
    ("checkpointStage", state.get "checkpointStage"), ("recoveryNodeId", some (.str recoveryNodeId)),
    ("operation", some (.text executed.operation)), ("recoveredInputHash", some (.str executed.inputHash)),
    ("outputHash", some (.str executed.outputHash)), ("output", some executed.output), ("execution", some execution.toJson),
    ("claims", some (recoveryClaims recoveryNodeId (state.get "sourceNodeId"))), ("observedAt", some (.str observedAt))])

/-- `signCrossProviderRecovery(input)`. -/
def signCrossProviderRecovery (recovery : Json) (privateKeyPkcs8Base64 : JsString) : Outcome Json := do
  let text ← boundedString (some (.str privateKeyPkcs8Base64)) "privateKeyPkcs8Base64" 8192
  ensure (recovery.get "schemaVersion" == some (.text CROSS_PROVIDER_RECOVERY_SCHEMA)) (.error "cross-provider recovery schema mismatch")
  let key ← orThrow (crypto.privateKey? (base64Decode text)) .engine
  let publicDer := crypto.spki key
  pure (.record [("recovery", recovery), ("signatureAlgorithm", .text "Ed25519"), ("keyId", .str (sha256Hex crypto publicDer)),
    ("publicKeySpkiBase64", .str (base64Encode publicDer)),
    ("signature", .str (base64UrlEncode (crypto.sign key (canonicalBytes crypto.collation recovery))))])

/-- What `verifyCrossProviderRecoveryEnvelope` returns of a verified envelope. -/
structure VerifiedRecovery where
  recoveryId : Option Json
  capsuleSha256 : JsString
  recoveredInputHash : JsString
  outputHash : JsString
  keyId : Option Json

/-- `verifyCrossProviderRecoveryEnvelope(input)`; an empty trusted key is none for the comparison only. -/
def verifyCrossProviderRecoveryEnvelope (envelope : Json) (trusted : Option JsString) : Outcome VerifiedRecovery := do
  ensure (envelope.truthy && envelope.get "signatureAlgorithm" == some (.text "Ed25519"))
    (.error "invalid cross-provider recovery envelope")
  let signature ← orThrow ((envelope.get "signature").bind Json.str?) (.error "invalid cross-provider recovery envelope")
  let recovery ← orThrow ((envelope.get "recovery").filter fun v => v.truthy &&
    v.get "schemaVersion" == some (.text CROSS_PROVIDER_RECOVERY_SCHEMA)) (.error "cross-provider recovery schema mismatch")
  let supplied ← boundedString (envelope.get "publicKeySpkiBase64") "publicKeySpkiBase64" 4096
  ensure (trusted.all fun key => key.isEmpty || supplied == key)
    (.error "cross-provider recovery signing key does not match trusted public key")
  let publicDer := base64Decode (trusted.getD supplied)
  ensure (some (.str (sha256Hex crypto publicDer)) == envelope.get "keyId") (.error "cross-provider recovery key fingerprint mismatch")
  ensure (crypto.isPublicKey publicDer) .engine
  ensure (crypto.verify publicDer (canonicalBytes crypto.collation recovery) (base64Decode signature))
    (.error "cross-provider recovery signature verification failed")
  let invalid : Failure := .error "cross-provider recovery hash fields invalid"
  let capsuleSha256 ← orThrow (sha256? (recovery.get "capsuleSha256")) invalid
  let recoveredInputHash ← orThrow (sha256? (recovery.get "recoveredInputHash")) invalid
  let outputHash ← orThrow (sha256? (recovery.get "outputHash")) invalid
  let claims := (recovery.get "claims").getD .null
  ensure (claims.get "automaticFailoverProven" == some (.bool false) &&
    claims.get "physicalMachineAttestationProven" == some (.bool false))
    (.error "cross-provider recovery contains unsupported maturity claim")
  pure ⟨recovery.get "recoveryId", capsuleSha256, recoveredInputHash, outputHash, envelope.get "keyId"⟩

/-! ## The recovery endpoint -/

/-- The environment of the recovery endpoint, its texts trimmed. -/
structure RecoverConfig extends TransferConfig where
  allowedSourceNodeId : JsString
  recoveryNodeId : JsString

/-- `readJson(req)` of the recovery endpoint. -/
def readRecovery (request : Request) : Outcome Json :=
  match request.body.filter isObject with
  | some v => .ok v
  | none =>
    if 160 * 1024 < request.stream.length then .error (.error "request_too_large")
    else if request.stream.isEmpty then .ok (.obj [])
    else orThrow (parse (bufferText request.stream)) .engine

/-- The recovery that the handler tries. -/
def recover (config : RecoverConfig) (request : Request) (observedAt : JsString) : Outcome Json := do
  let body ← readRecovery request
  let capsule := (body.get "capsule").getD .null
  let (state, executed) ← openRecoveryCapsule crypto config.secret capsule
  ensure (state.get "sourceNodeId" == some (.str config.allowedSourceNodeId))
    (.error "recovery capsule source node is not authorized")
  let recovery ← createCrossProviderRecoveryRecord state executed (capsule.get "capsuleSha256") config.recoveryNodeId
    config.toTransferConfig.execution observedAt
  signCrossProviderRecovery crypto recovery config.privateKeyPkcs8Base64

/-- `handler(req, res)` of the recovery endpoint. -/
def recoverHandler (config : RecoverConfig) (request : Request) (observedAt : JsString) : Response :=
  if request.method = js "OPTIONS" then .noContent
  else if request.method ≠ js "POST" then .methodNotAllowed
  else if config.secret.isEmpty || config.privateKeyPkcs8Base64.isEmpty || config.allowedSourceNodeId.isEmpty ||
      config.recoveryNodeId.isEmpty then .notConfigured
  else match recover crypto config request observedAt with
    | .ok envelope => .accepted envelope
    | .error e => .rejected e

/-! ## The verifier -/

/-- The checks of `verify-cross-provider-recovery.mjs` on an envelope, under their names. -/
def recoveryChecks (envelope expected : Json) (trusted : JsString) : Outcome (List (String × Bool)) := do
  ensure (expected.get "schemaVersion" == some (.text "kindred.external-proof.recovery-evidence.v1"))
    (.error "expected evidence schema mismatch")
  let r ← orThrow ((envelope.get "recovery").filter isObject) (.error "recovery record is missing")
  let output ← orThrow ((r.get "output").filter Json.isRecord) (.error "recovery output must be an object")
  ensure (r.get "operation" == some (.text "HASH_TEXT")) (.error "unexpected recovery operation")
  ensure ((sha256? (output.get "sha256")).isSome && ((output.get "utf8Bytes").bind Json.safeInteger?).any (0 ≤ ·))
    (.error "HASH_TEXT output fields are invalid")
  let _ ← verifyCrossProviderRecoveryEnvelope crypto envelope (some trusted)
  let same := fun name name' => r.get name == expected.get name'
  let claims := (r.get "claims").getD .null
  pure [("SIGNATURE", true), ("PINNED KEY", envelope.get "publicKeySpkiBase64" == some (.str trusted)),
    ("RECOVERY ID", same "recoveryId" "recoveryId"),
    ("CAPSULE HASH", (sha256? (expected.get "capsuleSha256")).isSome && same "capsuleSha256" "capsuleSha256"),
    ("INPUT HASH", (sha256? (expected.get "validatedInputHash")).isSome && same "recoveredInputHash" "validatedInputHash" &&
      same "recoveredInputHash" "recoveredInputHash"),
    ("OUTPUT HASH", (sha256? (r.get "outputHash")).isSome && some (.str (jsonHash crypto output)) == r.get "outputHash"),
    ("ORIGINAL SOURCE", same "originalSourceNodeId" "sourceNodeId"), ("ORIGINAL BOOT", same "originalSourceBootId" "checkpointBootId"),
    ("CHECKPOINT TIME", same "checkpointedAt" "checkpointedAt"),
    ("RECOVERY NODE", r.get "recoveryNodeId" == some (.text "strata-vercel-recovery-node-c")),
    ("DISTINCT NODE", !(r.get "recoveryNodeId" == r.get "originalSourceNodeId")),
    ("PROVIDER", ((r.get "execution").getD .null).get "provider" == some (.text "vercel")),
    ("NO AUTO FAILOVER CLAIM", claims.get "automaticFailoverProven" == some (.bool false)),
    ("NO ABRUPT CLAIM", claims.get "abruptTerminationRecoveryProven" == some (.bool false)),
    ("NO PHYSICAL CLAIM", claims.get "physicalMachineAttestationProven" == some (.bool false)),
    ("NO PRODUCTION CLAIM", claims.get "productionReadyClaim" == some (.bool false))]

/-! ## Opened capsules -/

/-- The value is the capsule. -/
structure Capsule.In (capsule : Capsule) (v : Json) : Prop where
  schema : v.get "schemaVersion" = some (.text RECOVERY_CAPSULE_SCHEMA)
  recoveryId : v.get "recoveryId" = some (.str capsule.recoveryId)
  salt : v.get "saltB64" = some (.str capsule.saltB64)
  iv : v.get "ivB64" = some (.str capsule.ivB64)
  ciphertext : v.get "ciphertextB64" = some (.str capsule.ciphertextB64)
  tag : v.get "tagB64" = some (.str capsule.tagB64)
  digest : v.get "capsuleSha256" = some (.str (jsonHash crypto capsule.unsigned))

/-- What the state of a checkpoint says of where it was made. -/
structure Checkpoint where
  recoveryId : JsString
  sourceNodeId : JsString
  sourceBootId : JsString
  checkpointedAt : JsString

/-- The state in a capsule: it is of the checkpoint, and its job gives the validated input again. -/
structure Opened (secret : JsString) (capsule : Capsule) (state : Json) (checkpoint : Checkpoint) (executed : Executed) : Prop where
  sealed : ∃ plaintext, capsule.plaintext? crypto secret = some plaintext ∧ parse (bufferText plaintext) = some state
  same : checkpoint.recoveryId = capsule.recoveryId
  recoveryId : state.get "recoveryId" = some (.str checkpoint.recoveryId)
  source : state.get "sourceNodeId" = some (.str checkpoint.sourceNodeId)
  boot : state.get "sourceBootId" = some (.str checkpoint.sourceBootId)
  checkpointed : state.get "checkpointedAt" = some (.str checkpoint.checkpointedAt)
  stage : state.get "checkpointStage" = some (.text "VALIDATED_BEFORE_EXTERNAL_TRANSFER")
  recomputed : executeRecoveredOperation crypto (state.get "job") = .ok executed
  validated : state.get "validatedInputHash" = some (.str executed.inputHash)

variable {crypto}

theorem opened_of_ok {secret : JsString} {v state : Json} {executed : Executed}
    (h : openRecoveryCapsule crypto secret v = .ok (state, executed)) :
    ∃ capsule checkpoint, capsule.In crypto v ∧ Opened crypto secret capsule state checkpoint executed := by
  simp only [openRecoveryCapsule, bind_eq_ok, ensure_eq_ok, orThrow_eq_ok, pure_eq_ok, boundedString_eq_ok, Bool.and_eq_true,
    Option.bind_eq_some_iff, Prod.mk.injEq] at h
  obtain ⟨-, -, -, ⟨-, hschema⟩, recoveryId, ⟨hid, -⟩, saltB64, ⟨hsalt, -⟩, ivB64, ⟨hiv, -⟩, tagB64, ⟨htag, -⟩, ciphertextB64,
    ⟨hciphertext, -⟩, capsuleSha256, ⟨hsha, -⟩, -, hdigest, -, -, state', ⟨plaintext, hplaintext, hparse⟩, validated, hstate, executed',
    hexecuted, -, hsame, rfl, rfl⟩ := h
  simp only [checkRecoveryState, bind_eq_ok, ensure_eq_ok, orThrow_eq_ok, boundedString_eq_ok, Bool.and_eq_true,
    sha256?_eq_some] at hstate
  obtain ⟨-, ⟨-, hrecoveryId⟩, source, ⟨hsource, -⟩, boot, ⟨hboot, -⟩, checkpointed, ⟨hcheckpointed, -⟩, -, hstage, hvalidated, -⟩ := hstate
  obtain rfl := beq_iff_eq.mp hdigest
  obtain rfl := beq_iff_eq.mp hsame
  exact ⟨⟨recoveryId, saltB64, ivB64, ciphertextB64, tagB64⟩, ⟨recoveryId, source, boot, checkpointed⟩,
    ⟨Json.some_beq_str_iff.mp hschema, hid, hsalt, hiv, hciphertext, htag, hsha⟩,
    ⟨⟨plaintext, hplaintext, hparse⟩, rfl, Json.some_beq_str_iff.mp hrecoveryId, hsource, hboot, hcheckpointed,
      Json.some_beq_str_iff.mp hstage, hexecuted, hvalidated⟩⟩

theorem isSha256_sha256Hex (bytes : Bytes) : IsSha256 (sha256Hex crypto bytes) where
  length := by rw [sha256Hex, length_hexText, crypto.digest_length]
  hex := by
    intro u hu
    obtain ⟨b, -, hb⟩ := List.mem_flatMap.mp hu
    have hnibbles : b.toNat / 16 < 16 ∧ b.toNat % 16 < 16 := by
      have := b.toNat_lt
      omega
    simp only [List.mem_cons, List.not_mem_nil, or_false] at hb
    rcases hb with rfl | rfl
    · rw [hexValue?_hexDigit hnibbles.1]
      rfl
    · rw [hexValue?_hexDigit hnibbles.2]
      rfl

/-- What an operation gives: hashes of its input and of its output, which is a plain record. -/
structure Executed.Proper (crypto : Crypto) (executed : Executed) : Prop where
  input : ∃ v, executed.inputHash = jsonHash crypto v
  output : executed.outputHash = jsonHash crypto executed.output
  plain : executed.output.PlainKeys
  isRecord : executed.output.isRecord = true
  hashed : executed.operation = "HASH_TEXT" → ∃ (bytes : Bytes) (n : ℕ), n ≤ RECOVERY_TEXT_MAX_BYTES ∧
    executed.output = .record [("sha256", .str (sha256Hex crypto bytes)), ("utf8Bytes", .int n)]

theorem proper_of_executed {job : Option Json} {executed : Executed} (h : executeRecoveredOperation crypto job = .ok executed) :
    executed.Proper crypto := by
  have hkeys : ∀ name ∈ ["canonical", "sha256", "utf8Bytes"], isPlainKey (js name) = true := by decide
  simp only [executeRecoveredOperation, bind_eq_ok, orThrow_eq_ok] at h
  obtain ⟨job', -, h⟩ := h
  split at h
  · simp only [bind_eq_ok, orThrow_eq_ok, ensure_eq_ok, decide_eq_true_eq, pure_eq_ok] at h
    obtain ⟨text, -, -, hbytes, rfl⟩ := h
    refine ⟨⟨_, rfl⟩, rfl, ?_, rfl, fun _ => ⟨_, _, hbytes, rfl⟩⟩
    refine .record (by simp) (fun name hname => hkeys name (List.mem_cons_of_mem _ hname)) ?_
    simp only [List.forall_mem_cons]
    exact ⟨.str _, .num _, by simp⟩
  · split at h
    · simp only [bind_eq_ok, orThrow_eq_ok, ensure_eq_ok, decide_eq_true_eq, pure_eq_ok] at h
      obtain ⟨value, -, -, -, rfl⟩ := h
      refine ⟨⟨_, rfl⟩, rfl, ?_, rfl, fun hother => ?_⟩
      swap
      · change "CANONICALIZE_JSON" = "HASH_TEXT" at hother
        exact absurd hother (by decide)
      refine .record (by simp) hkeys ?_
      simp only [List.forall_mem_cons]
      exact ⟨.str _, .str _, .num _, by simp⟩
    · cases h

/-! ## Records -/

/-- The record of a checkpoint that was recovered. -/
def recoveryOf (config : RecoverConfig) (capsuleSha256 : JsString) (checkpoint : Checkpoint) (executed : Executed) (observedAt : JsString) :
    Json := .record [("schemaVersion", .text CROSS_PROVIDER_RECOVERY_SCHEMA), ("recoveryId", .str checkpoint.recoveryId),
  ("capsuleSha256", .str capsuleSha256), ("checkpointedAt", .str checkpoint.checkpointedAt),
  ("originalSourceNodeId", .str checkpoint.sourceNodeId), ("originalSourceBootId", .str checkpoint.sourceBootId),
  ("checkpointStage", .text "VALIDATED_BEFORE_EXTERNAL_TRANSFER"), ("recoveryNodeId", .str config.recoveryNodeId),
  ("operation", .text executed.operation), ("recoveredInputHash", .str executed.inputHash), ("outputHash", .str executed.outputHash),
  ("output", executed.output), ("execution", config.toTransferConfig.execution.toJson),
  ("claims", recoveryClaims config.recoveryNodeId (some (.str checkpoint.sourceNodeId))), ("observedAt", .str observedAt)]

theorem plainKeys_recoveryOf {config : RecoverConfig} {capsuleSha256 : JsString} {checkpoint : Checkpoint} {executed : Executed}
    (h : executed.Proper crypto) (observedAt : JsString) :
    (recoveryOf config capsuleSha256 checkpoint executed observedAt).PlainKeys := by
  have hnullable : ∀ v : Option JsString, (nullable v).PlainKeys := by
    intro v
    cases v with
    | none => exact .null
    | some s => exact .str s
  have hkeys : ∀ name ∈ ["schemaVersion", "recoveryId", "capsuleSha256", "checkpointedAt", "originalSourceNodeId", "originalSourceBootId",
      "checkpointStage", "recoveryNodeId", "operation", "recoveredInputHash", "outputHash", "output", "execution", "claims",
      "observedAt"], isPlainKey (js name) = true := by decide
  have hexecution : ∀ name ∈ ["provider", "deploymentId", "deploymentUrl", "commitSha", "region"], isPlainKey (js name) = true := by
    decide
  have hclaims : ∀ name ∈ ["recoveredOutsideOriginalSourceRuntime", "automaticFailoverProven", "abruptTerminationRecoveryProven",
      "physicalMachineAttestationProven", "productionReadyClaim"], isPlainKey (js name) = true := by decide
  refine .record (by simp) hkeys ?_
  simp only [List.forall_mem_cons]
  refine ⟨.str _, .str _, .str _, .str _, .str _, .str _, .str _, .str _, .str _, .str _, .str _, h.plain, ?_, ?_, .str _, by simp⟩
  · refine .record (by simp) hexecution ?_
    simp only [List.forall_mem_cons]
    exact ⟨.str _, hnullable _, hnullable _, hnullable _, hnullable _, by simp⟩
  · refine .record (by simp) hclaims ?_
    simp only [List.forall_mem_cons]
    exact ⟨.bool _, .bool _, .bool _, .bool _, .bool _, by simp⟩

/-- The envelope of a record under a key. -/
def recoveryEnvelope (crypto : Crypto) (key : crypto.SigningKey) (recovery : Json) : Json :=
  .record [("recovery", recovery), ("signatureAlgorithm", .text "Ed25519"), ("keyId", .str (sha256Hex crypto (crypto.spki key))),
    ("publicKeySpkiBase64", .str (base64Encode (crypto.spki key))),
    ("signature", .str (base64UrlEncode (crypto.sign key (canonicalBytes crypto.collation recovery))))]

/-- What the endpoint signs is the record of a checkpoint that it opened. -/
theorem recovered_of_accepted {config : RecoverConfig} {request : Request} {observedAt : JsString} {envelope : Json}
    (h : recoverHandler crypto config request observedAt = .accepted envelope) :
    ∃ body v capsule state checkpoint executed key, readRecovery request = .ok body ∧ body.get "capsule" = some v ∧
      capsule.In crypto v ∧ Opened crypto config.secret capsule state checkpoint executed ∧
      checkpoint.sourceNodeId = config.allowedSourceNodeId ∧ crypto.privateKey? (base64Decode config.privateKeyPkcs8Base64) = some key ∧
      envelope = recoveryEnvelope crypto key
        (recoveryOf config (jsonHash crypto capsule.unsigned) checkpoint executed observedAt) := by
  rw [recoverHandler] at h
  split_ifs at h
  split at h
  · rename_i result hrecover
    cases h
    simp only [recover, bind_eq_ok, ensure_eq_ok] at hrecover
    obtain ⟨body, hbody, ⟨state, executed⟩, hopen, -, hallowed, recovery, hrecovery, hsigned⟩ := hrecover
    obtain ⟨capsule, checkpoint, hcapsule, hopened⟩ := opened_of_ok hopen
    have hv : body.get "capsule" = some ((body.get "capsule").getD .null) := by
      cases hget : body.get "capsule" with
      | some v => rfl
      | none =>
        have hschema := hcapsule.schema
        rw [hget] at hschema
        cases hschema
    generalize (body.get "capsule").getD .null = v at hv hcapsule hrecovery
    have hsource : checkpoint.sourceNodeId = config.allowedSourceNodeId := by
      rw [hopened.source] at hallowed
      simpa using hallowed
    have hsame : recovery = recoveryOf config (jsonHash crypto capsule.unsigned) checkpoint executed observedAt := by
      simp only [createCrossProviderRecoveryRecord, bind_eq_ok, orThrow_eq_ok, pure_eq_ok, sha256?_eq_some, hcapsule.digest,
        Option.some.injEq, Json.str.injEq, hopened.recoveryId, hopened.source, hopened.boot, hopened.checkpointed, hopened.stage] at hrecovery
      obtain ⟨-, -, _, ⟨rfl, -⟩, rfl⟩ := hrecovery
      rfl
    simp only [signCrossProviderRecovery, bind_eq_ok, boundedString_eq_ok, ensure_eq_ok, orThrow_eq_ok, pure_eq_ok, Option.some.injEq,
      Json.str.injEq] at hsigned
    obtain ⟨_, ⟨rfl, -⟩, -, -, key, hkey, rfl⟩ := hsigned
    exact ⟨body, v, capsule, state, checkpoint, executed, key, hbody, hv, hcapsule, hopened, hsource, hkey, hsame ▸ rfl⟩
  · cases h

/-! ## Verification -/

section
variable {key : crypto.SigningKey} {config : RecoverConfig} {capsuleSha256 : JsString} {checkpoint : Checkpoint} {executed : Executed}
  {observedAt : JsString} {delivered : Json}

theorem isRecord_of_get {v u : Json} {name : String} (h : v.get name = some u) : v.isRecord = true := by
  cases v with
  | obj fields => rfl
  | null | bool _ | num _ | str _ | arr _ => cases h

/-- An envelope as JSON has delivered it, with the record in it. -/
structure DeliveredRecovery (crypto : Crypto) (key : crypto.SigningKey) (recovery delivered r : Json) : Prop where
  algorithm : delivered.get "signatureAlgorithm" = some (.text "Ed25519")
  keyId : delivered.get "keyId" = some (.str (sha256Hex crypto (crypto.spki key)))
  publicKey : delivered.get "publicKeySpkiBase64" = some (.str (base64Encode (crypto.spki key)))
  signature : delivered.get "signature" =
    some (.str (base64UrlEncode (crypto.sign key (canonicalBytes crypto.collation recovery))))
  found : delivered.get "recovery" = some r
  same : Json.Reordered recovery r

theorem delivered_of_reordered {recovery : Json} (hplain : recovery.PlainKeys)
    (h : Json.Reordered (recoveryEnvelope crypto key recovery) delivered) : ∃ r, DeliveredRecovery crypto key recovery delivered r := by
  have hkeys : ∀ name ∈ ["recovery", "signatureAlgorithm", "keyId", "publicKeySpkiBase64", "signature"], isPlainKey (js name) = true := by
    decide
  have hkeyed : (recoveryEnvelope crypto key recovery).Keyed := by
    refine Json.PlainKeys.keyed (.record (by simp) hkeys ?_)
    simp only [List.forall_mem_cons]
    exact ⟨hplain, .str _, .str _, .str _, .str _, by simp⟩
  have hget : ∀ {name : String} {u : Json}, (recoveryEnvelope crypto key recovery).get name = some u → u.isScalar = true →
      delivered.get name = some u := fun hu hscalar => h.get_scalar hkeyed hu hscalar
  obtain ⟨r, hr, hsame, -⟩ := h.get_some hkeyed (show (recoveryEnvelope crypto key recovery).get "recovery" = some recovery from
    Json.get_record _ _)
  exact ⟨r, hget (Json.get_record _ _) rfl, hget (Json.get_record _ _) rfl, hget (Json.get_record _ _) rfl,
    hget (Json.get_record _ _) rfl, hr, hsame⟩

theorem isObject_of_get {v u : Json} {name : String} (h : v.get name = some u) : isObject v = true := by
  cases v with
  | obj fields => rfl
  | null | bool _ | num _ | str _ | arr _ => cases h

section
variable (hproper : executed.Proper crypto) {r : Json}
  (h : DeliveredRecovery crypto key (recoveryOf config capsuleSha256 checkpoint executed observedAt) delivered r)
include hproper h

theorem delivered_claims : ∃ claims, r.get "claims" = some claims ∧ claims.get "automaticFailoverProven" = some (.bool false) ∧
    claims.get "abruptTerminationRecoveryProven" = some (.bool false) ∧
    claims.get "physicalMachineAttestationProven" = some (.bool false) ∧ claims.get "productionReadyClaim" = some (.bool false) := by
  have hplain := @plainKeys_recoveryOf crypto config capsuleSha256 checkpoint executed hproper observedAt
  have hmade : (recoveryOf config capsuleSha256 checkpoint executed observedAt).get "claims" =
      some (recoveryClaims config.recoveryNodeId (some (.str checkpoint.sourceNodeId))) := Json.get_record _ _
  obtain ⟨claims, hclaims, hsame, -⟩ := h.same.get_some hplain.keyed hmade
  have hget : ∀ {name : String} {u : Json}, (recoveryClaims config.recoveryNodeId (some (.str checkpoint.sourceNodeId))).get name = some u →
      u.isScalar = true → claims.get name = some u := fun hu hscalar => hsame.get_scalar (hplain.get hmade).keyed hu hscalar
  exact ⟨claims, hclaims, hget (Json.get_record _ _) rfl, hget (Json.get_record _ _) rfl, hget (Json.get_record _ _) rfl,
    hget (Json.get_record _ _) rfl⟩

theorem delivered_provider : ∃ execution, r.get "execution" = some execution ∧ execution.get "provider" = some (.text "vercel") := by
  have hplain := @plainKeys_recoveryOf crypto config capsuleSha256 checkpoint executed hproper observedAt
  have hmade : (recoveryOf config capsuleSha256 checkpoint executed observedAt).get "execution" =
      some config.toTransferConfig.execution.toJson := Json.get_record _ _
  obtain ⟨execution, hexecution, hsame, -⟩ := h.same.get_some hplain.keyed hmade
  exact ⟨execution, hexecution, hsame.get_scalar (hplain.get hmade).keyed (Json.get_record _ _) rfl⟩

/-- The output of a hash is delivered with its hash. -/
theorem delivered_output (hseparates : crypto.collation.Separates) (hhash : executed.operation = "HASH_TEXT") :
    ∃ output, r.get "output" = some output ∧ output.isRecord = true ∧ (sha256? (output.get "sha256")).isSome = true ∧
      ((output.get "utf8Bytes").bind Json.safeInteger?).any (fun n => decide (0 ≤ n)) = true ∧
      jsonHash crypto output = executed.outputHash := by
  have hplain := @plainKeys_recoveryOf crypto config capsuleSha256 checkpoint executed hproper observedAt
  have hmade : (recoveryOf config capsuleSha256 checkpoint executed observedAt).get "output" = some executed.output := Json.get_record _ _
  obtain ⟨output, houtput, hsame, -⟩ := h.same.get_some hplain.keyed hmade
  obtain ⟨bytes, n, hn, hvalue⟩ := hproper.hashed hhash
  have hkeyed := hproper.plain.keyed
  have hsha : output.get "sha256" = some (.str (sha256Hex crypto bytes)) := by
    refine hsame.get_scalar hkeyed ?_ rfl
    rw [hvalue]
    exact Json.get_record _ _
  have hbytes : output.get "utf8Bytes" = some (.int n) := by
    refine hsame.get_scalar hkeyed ?_ rfl
    rw [hvalue]
    exact Json.get_record _ _
  have hsafe : (Json.int n).safeInteger? = some (n : ℤ) := by
    rw [RECOVERY_TEXT_MAX_BYTES] at hn
    exact if_pos (by omega)
  refine ⟨output, houtput, isRecord_of_get hsha, ?_, ?_, ?_⟩
  · rw [hsha, sha256?_eq_some.mpr ⟨rfl, isSha256_sha256Hex _⟩]
    rfl
  · rw [hbytes, Option.bind_some, hsafe, Option.any_some, decide_eq_true_eq]
    exact Int.natCast_nonneg n
  · rw [hproper.output, jsonHash, jsonHash, canonicalBytes_reordered hseparates hsame hproper.plain]

end

/-- The record of an envelope that was signed verifies wherever JSON takes it. -/
theorem verify_recovery (hseparates : crypto.collation.Separates)
    (hsignature : ∀ key message, crypto.verify (crypto.spki key) message (crypto.sign key message) = true)
    (hproper : executed.Proper crypto) (hcapsule : IsSha256 capsuleSha256) {r : Json}
    (h : DeliveredRecovery crypto key (recoveryOf config capsuleSha256 checkpoint executed observedAt) delivered r)
    {trusted : Option JsString} (htrusted : Trusts crypto key trusted) :
    verifyCrossProviderRecoveryEnvelope crypto delivered trusted = .ok ⟨some (.str checkpoint.recoveryId), capsuleSha256,
      executed.inputHash, executed.outputHash, some (.str (sha256Hex crypto (crypto.spki key)))⟩ := by
  have hplain := @plainKeys_recoveryOf crypto config capsuleSha256 checkpoint executed hproper observedAt
  have hfield : ∀ {name : String} {u : Json}, (recoveryOf config capsuleSha256 checkpoint executed observedAt).get name = some u →
      u.isScalar = true → r.get name = some u := fun hu hscalar => h.same.get_scalar hplain.keyed hu hscalar
  have hschema : r.get "schemaVersion" = some (.text CROSS_PROVIDER_RECOVERY_SCHEMA) := hfield (Json.get_record _ _) rfl
  have hrecoveryId : r.get "recoveryId" = some (.str checkpoint.recoveryId) := hfield (Json.get_record _ _) rfl
  have hcapsuleSha : r.get "capsuleSha256" = some (.str capsuleSha256) := hfield (Json.get_record _ _) rfl
  have hinput : r.get "recoveredInputHash" = some (.str executed.inputHash) := hfield (Json.get_record _ _) rfl
  have houtput : r.get "outputHash" = some (.str executed.outputHash) := hfield (Json.get_record _ _) rfl
  obtain ⟨claims, hclaims, hfailover, -, hphysical, -⟩ := delivered_claims hproper h
  have hbytes := canonicalBytes_reordered hseparates h.same hplain
  have hkey : base64Decode (trusted.getD (base64Encode (crypto.spki key))) = crypto.spki key := by
    rcases htrusted with rfl | rfl <;> exact base64Decode_encode _
  have htrustedAll : (trusted.all fun text => text.isEmpty || base64Encode (crypto.spki key) == text) = true := by
    rcases htrusted with rfl | rfl <;> simp
  have htruthy : ∀ {v u : Json} {name : String}, v.get name = some u → v.truthy = true := by
    intro v u name hget
    cases v with
    | obj fields => rfl
    | null | bool _ | num _ | str _ | arr _ => cases hget
  have hfilter : ((delivered.get "recovery").filter fun v => v.truthy &&
      v.get "schemaVersion" == some (.text CROSS_PROVIDER_RECOVERY_SCHEMA)) = some r := by
    rw [h.found, Option.filter_some, htruthy hschema, hschema, Bool.true_and]
    exact if_pos (Json.some_beq_str_iff.mpr rfl)
  obtain ⟨hashed, hinputHash⟩ := hproper.input
  have hinputSha : IsSha256 executed.inputHash := hinputHash ▸ isSha256_sha256Hex _
  have houtputSha : IsSha256 executed.outputHash := hproper.output ▸ isSha256_sha256Hex _
  simp only [verifyCrossProviderRecoveryEnvelope, bind_eq_ok, ensure_eq_ok, orThrow_eq_ok, pure_eq_ok, htruthy h.keyId, h.algorithm,
    h.keyId, h.publicKey, h.signature, hfilter, Bool.true_and, Option.bind_some, Json.str?, boundedString_eq_ok, sha256?_eq_some]
  refine ⟨(), Json.some_beq_str_iff.mpr rfl, _, rfl, r, rfl, _, ⟨rfl, bounded_publicKey crypto key⟩, (), htrustedAll, (), ?_, (), ?_,
    (), ?_, _, ⟨hcapsuleSha, hcapsule⟩, _, ⟨hinput, hinputSha⟩, _, ⟨houtput, houtputSha⟩, (), ?_, ?_⟩
  · rw [hkey]
    exact Json.some_beq_str_iff.mpr rfl
  · rw [hkey]
    exact crypto.spki_accepted key
  · rw [hkey, hbytes, base64Decode_urlEncode]
    exact hsignature key _
  · rw [hclaims, Option.getD_some, hfailover, hphysical]
    rfl
  · rw [hrecoveryId]

/-- The evidence of a checkpoint, and that the endpoint is the node it was to be recovered on. -/
structure Evidence (config : RecoverConfig) (capsuleSha256 : JsString) (checkpoint : Checkpoint) (executed : Executed) (expected : Json) :
    Prop where
  schema : expected.get "schemaVersion" = some (.text "kindred.external-proof.recovery-evidence.v1")
  operation : executed.operation = "HASH_TEXT"
  recoveryId : expected.get "recoveryId" = some (.str checkpoint.recoveryId)
  capsule : expected.get "capsuleSha256" = some (.str capsuleSha256)
  validated : expected.get "validatedInputHash" = some (.str executed.inputHash)
  recovered : expected.get "recoveredInputHash" = some (.str executed.inputHash)
  source : expected.get "sourceNodeId" = some (.str checkpoint.sourceNodeId)
  boot : expected.get "checkpointBootId" = some (.str checkpoint.sourceBootId)
  checkpointed : expected.get "checkpointedAt" = some (.str checkpoint.checkpointedAt)
  node : config.recoveryNodeId = js "strata-vercel-recovery-node-c"
  distinct : config.recoveryNodeId ≠ checkpoint.sourceNodeId

/-- The verifier has no check that fails. -/
def Passes (crypto : Crypto) (envelope expected : Json) (trusted : JsString) : Prop :=
  ∃ checks, recoveryChecks crypto envelope expected trusted = .ok checks ∧ ∀ check ∈ checks, check.2 = true

/-- The verifier passes the envelope on exactly the evidence of its checkpoint. -/
theorem passes_iff (hseparates : crypto.collation.Separates)
    (hsignature : ∀ key message, crypto.verify (crypto.spki key) message (crypto.sign key message) = true)
    (hproper : executed.Proper crypto) (hcapsule : IsSha256 capsuleSha256) {r : Json}
    (h : DeliveredRecovery crypto key (recoveryOf config capsuleSha256 checkpoint executed observedAt) delivered r) (expected : Json) :
    Passes crypto delivered expected (base64Encode (crypto.spki key)) ↔ Evidence config capsuleSha256 checkpoint executed expected := by
  have hplain := @plainKeys_recoveryOf crypto config capsuleSha256 checkpoint executed hproper observedAt
  have hfield : ∀ {name : String} {u : Json}, (recoveryOf config capsuleSha256 checkpoint executed observedAt).get name = some u →
      u.isScalar = true → r.get name = some u := fun hu hscalar => h.same.get_scalar hplain.keyed hu hscalar
  have hverified := @verify_recovery crypto key config capsuleSha256 checkpoint executed observedAt delivered hseparates hsignature hproper
    hcapsule r h _ (.inr rfl)
  have hoperation : r.get "operation" = some (.text executed.operation) := hfield (Json.get_record _ _) rfl
  have hrecoveryId : r.get "recoveryId" = some (.str checkpoint.recoveryId) := hfield (Json.get_record _ _) rfl
  have hcapsuleSha : r.get "capsuleSha256" = some (.str capsuleSha256) := hfield (Json.get_record _ _) rfl
  have hinput : r.get "recoveredInputHash" = some (.str executed.inputHash) := hfield (Json.get_record _ _) rfl
  have houtputHash : r.get "outputHash" = some (.str executed.outputHash) := hfield (Json.get_record _ _) rfl
  have hsource : r.get "originalSourceNodeId" = some (.str checkpoint.sourceNodeId) := hfield (Json.get_record _ _) rfl
  have hboot : r.get "originalSourceBootId" = some (.str checkpoint.sourceBootId) := hfield (Json.get_record _ _) rfl
  have htime : r.get "checkpointedAt" = some (.str checkpoint.checkpointedAt) := hfield (Json.get_record _ _) rfl
  have hnode : r.get "recoveryNodeId" = some (.str config.recoveryNodeId) := hfield (Json.get_record _ _) rfl
  obtain ⟨claims, hclaims, hfailover, habrupt, hphysical, hproduction⟩ := delivered_claims hproper h
  obtain ⟨execution, hexecution, hprovider⟩ := delivered_provider hproper h
  by_cases hhash : executed.operation = "HASH_TEXT"
  swap
  · refine ⟨fun ⟨checks, hchecks, _⟩ => ?_, fun hevidence => absurd hevidence.operation hhash⟩
    simp only [recoveryChecks, bind_eq_ok, ensure_eq_ok, orThrow_eq_ok] at hchecks
    obtain ⟨-, -, r', hr, output, -, -, hop, -⟩ := hchecks
    rw [h.found] at hr
    obtain ⟨hr, -⟩ := Option.filter_eq_some_iff.mp hr
    obtain rfl := Option.some.inj hr
    rw [hoperation, Json.text, Json.text, Json.some_beq_str_iff, Option.some.injEq, Json.str.injEq, js_inj] at hop
    exact absurd hop hhash
  obtain ⟨output, houtput, hisRecord, hsha, hlength, hsame⟩ := delivered_output hproper h hseparates hhash
  have hobject : ((delivered.get "recovery").filter isObject) = some r := by
    rw [h.found, Option.filter_some]
    exact if_pos (isObject_of_get hnode)
  have hrecord : ((r.get "output").filter Json.isRecord) = some output := by
    rw [houtput, Option.filter_some]
    exact if_pos hisRecord
  have hoperationText : (some (Json.text executed.operation) == some (.text "HASH_TEXT")) = true := by
    rw [hhash]
    exact Json.some_beq_str_iff.mpr rfl
  have houtputSha : (sha256? (some (.str executed.outputHash))).isSome = true := by
    have hsome : sha256? (some (.str executed.outputHash)) = some executed.outputHash :=
      sha256?_eq_some.mpr ⟨rfl, hproper.output ▸ isSha256_sha256Hex _⟩
    rw [hsome]
    rfl
  have htext : ∀ s : JsString, (some (Json.str s) == some (.str s)) = true := fun s => Json.some_beq_str_iff.mpr rfl
  have hfalse : (some (Json.bool false) == some (.bool false)) = true := by decide
  simp only [Passes, recoveryChecks, bind_eq_ok, ensure_eq_ok, orThrow_eq_ok, pure_eq_ok, hobject, hrecord, hoperation, hoperationText,
    hsha, hlength, hverified, h.publicKey, hrecoveryId, hcapsuleSha, hinput, houtputHash, hsource, hboot, htime, hnode, hclaims, hfailover,
    habrupt, hphysical, hproduction, hexecution, hprovider, houtputSha, hsame, htext, hfalse, Option.some.injEq, exists_eq_left',
    Option.getD_some, Bool.true_and, Except.ok.injEq, exists_const, true_and, Bool.and_eq_true]
  have hstr : ∀ (s : JsString) (v : Option Json), (some (Json.str s) == v) = true ↔ v = some (.str s) := by
    intro s v
    constructor
    · exact fun heq => (Json.opt_eq_of_beq heq).symm
    · rintro rfl
      exact htext s
  constructor
  · rintro ⟨_, ⟨hschema, rfl⟩, hall⟩
    simp only [List.forall_mem_cons, Bool.and_eq_true, hstr, Bool.not_eq_true', ← Bool.not_eq_true, Option.some.injEq, Json.str.injEq,
      Json.text] at hall
    obtain ⟨-, -, hid, ⟨-, hsha'⟩, ⟨⟨-, hvalidated⟩, hrecovered⟩, -, hfrom, hbooted, hat, hnodeName, hdistinct, -⟩ := hall
    exact ⟨Json.some_beq_str_iff.mp hschema, hhash, hid, hsha', hvalidated, hrecovered, hfrom, hbooted, hat, hnodeName.symm,
      fun heq => hdistinct heq.symm⟩
  · intro hevidence
    refine ⟨_, ⟨Json.some_beq_str_iff.mpr hevidence.schema, rfl⟩, ?_⟩
    obtain ⟨v, hv⟩ := hproper.input
    have hinputSha : (sha256? (some (.str executed.inputHash))).isSome = true := by
      have hsome : sha256? (some (.str executed.inputHash)) = some executed.inputHash :=
        sha256?_eq_some.mpr ⟨rfl, hv ▸ isSha256_sha256Hex _⟩
      rw [hsome]
      rfl
    have hcapsuleIs : (sha256? (some (.str capsuleSha256))).isSome = true := by
      rw [sha256?_eq_some.mpr ⟨rfl, hcapsule⟩]
      rfl
    simp only [List.forall_mem_cons, hevidence.recoveryId, hevidence.capsule, hevidence.validated, hevidence.recovered, hevidence.source,
      hevidence.boot, hevidence.checkpointed, htext, hinputSha, hcapsuleIs, Bool.and_self, true_and, Bool.not_eq_true', ← Bool.not_eq_true,
      hstr, Json.text, Option.some.injEq, Json.str.injEq, List.not_mem_nil, false_implies, implies_true, and_true]
    exact ⟨hevidence.node.symm, fun heq => hevidence.distinct heq.symm⟩

/-- What the recovery endpoint signs is the record of a capsule that it opened with its secret: of the source that it allows, with
the hash of its job computed again. The envelope verifies wherever JSON takes it, and the verifier passes it on exactly the
evidence of that checkpoint. -/
theorem recovery_verifies (crypto : Crypto) (hseparates : crypto.collation.Separates)
    (hsignature : ∀ key message, crypto.verify (crypto.spki key) message (crypto.sign key message) = true) {config : RecoverConfig}
    {request : Request} {observedAt : JsString} {envelope : Json} (h : recoverHandler crypto config request observedAt = .accepted envelope) :
    ∃ body v capsule state checkpoint executed key, readRecovery request = .ok body ∧ body.get "capsule" = some v ∧
      capsule.In crypto v ∧ Opened crypto config.secret capsule state checkpoint executed ∧
      checkpoint.sourceNodeId = config.allowedSourceNodeId ∧ crypto.privateKey? (base64Decode config.privateKeyPkcs8Base64) = some key ∧
      ∀ delivered, Json.Reordered envelope delivered →
        (∀ trusted, Trusts crypto key trusted → verifyCrossProviderRecoveryEnvelope crypto delivered trusted =
          .ok ⟨some (.str checkpoint.recoveryId), jsonHash crypto capsule.unsigned, executed.inputHash, executed.outputHash,
            some (.str (sha256Hex crypto (crypto.spki key)))⟩) ∧
        ∀ expected, Passes crypto delivered expected (base64Encode (crypto.spki key)) ↔
          Evidence config (jsonHash crypto capsule.unsigned) checkpoint executed expected := by
  obtain ⟨body, v, capsule, state, checkpoint, executed, key, hbody, hv, hcapsule, hopened, hsource, hkey, rfl⟩ := recovered_of_accepted h
  have hproper := proper_of_executed hopened.recomputed
  refine ⟨body, v, capsule, state, checkpoint, executed, key, hbody, hv, hcapsule, hopened, hsource, hkey, fun delivered hdelivered => ?_⟩
  obtain ⟨r, hr⟩ := delivered_of_reordered (plainKeys_recoveryOf hproper observedAt) hdelivered
  exact ⟨fun trusted htrusted => verify_recovery hseparates hsignature hproper (isSha256_sha256Hex _) hr htrusted,
    passes_iff hseparates hsignature hproper (isSha256_sha256Hex _) hr⟩

end

end

namespace Sample

/-- The state of a checkpoint of the node `a`, whose job hashes the empty text. -/
def checkpointState : Json := .record [("schemaVersion", .text RECOVERY_STATE_SCHEMA), ("recoveryId", .text "r"),
  ("sourceNodeId", .text "a"), ("sourceBootId", .text "b"), ("checkpointedAt", .text "t"),
  ("checkpointStage", .text "VALIDATED_BEFORE_EXTERNAL_TRANSFER"), ("validatedInputHash", .str (List.replicate 64 97)),
  ("job", .record [("operation", .text "HASH_TEXT"), ("input", .record [("text", .text "")])])]

theorem digest_length_toy : ∀ _ : Bytes, (List.replicate 32 0xAA : Bytes).length = 32 := fun _ => List.length_replicate
theorem encrypt_length_toy : ∀ _ _ _ payload : Bytes, payload.length = payload.length := fun _ _ _ _ => rfl
theorem tag_length_toy : ∀ _ _ _ _ : Bytes, (List.replicate 16 0 : Bytes).length = 16 := fun _ _ _ _ => List.length_replicate
theorem spki_length_toy : ∀ _ : Unit, (List.replicate 44 0 : Bytes).length = 44 := fun _ => List.length_replicate

/-- A toy digest, a cipher that adds a tag of zeros, and a signature without bytes. -/
def recoveryCrypto : Crypto where
  toEngine := engine
  digest _ := List.replicate 32 0xAA
  digest_length := digest_length_toy
  hkdfSha256 _ _ _ := []
  encrypt _ _ _ payload := (payload, List.replicate 16 0)
  encrypt_length := encrypt_length_toy
  tag_length := tag_length_toy
  decrypt _ _ _ ciphertext tag := if tag = List.replicate 16 0 then some ciphertext else none
  SigningKey := Unit
  privateKey? _ := some ()
  spki _ := List.replicate 44 0
  spki_length := spki_length_toy
  isPublicKey _ := true
  spki_accepted _ := rfl
  sign _ _ := []
  verify publicKey _ signature := publicKey = List.replicate 44 0 && signature.isEmpty

def recoverConfig : RecoverConfig := ⟨config, js "a", js "strata-vercel-recovery-node-c"⟩

def sealedCheckpoint : Json := .record [("schemaVersion", .text RECOVERY_CAPSULE_SCHEMA), ("recoveryId", .text "r"),
  ("saltB64", .str (base64UrlEncode (List.replicate 32 0))), ("ivB64", .str (base64UrlEncode zeroIv)),
  ("ciphertextB64", .str (base64UrlEncode (utf8Encode (stringify checkpointState)))),
  ("tagB64", .str (base64UrlEncode (List.replicate 16 0))), ("capsuleSha256", .str (List.replicate 64 97))]

def recoveryRequest : Request := ⟨js "POST", some (.record [("capsule", sealedCheckpoint)]), []⟩

def Response.isAccepted : Response → Bool
  | .accepted _ => true
  | _ => false

theorem checkpoint_accepted : Response.isAccepted (recoverHandler recoveryCrypto recoverConfig recoveryRequest (js "now")) = true := by
  decide +kernel

/-- The checkpoint is recovered, and its envelope verifies under its own key. -/
theorem checkpoint_recovered : ∃ envelope, recoverHandler recoveryCrypto recoverConfig recoveryRequest (js "now") = .accepted envelope ∧
    ∃ verified, verifyCrossProviderRecoveryEnvelope recoveryCrypto envelope none = .ok verified := by
  have haccepted := checkpoint_accepted
  cases h : recoverHandler recoveryCrypto recoverConfig recoveryRequest (js "now") with
  | accepted envelope =>
    have hseparates : recoveryCrypto.collation.Separates := codeUnits_separates
    obtain ⟨_, _, _, _, _, _, _, -, -, -, -, -, -, hverifies⟩ := recovery_verifies recoveryCrypto hseparates (fun _ _ => rfl) h
    exact ⟨envelope, rfl, _, (hverifies envelope (.refl _)).1 none (.inl rfl)⟩
  | noContent | methodNotAllowed | notConfigured | rejected _ =>
    rw [h] at haccepted
    cases haccepted

end Sample

end ExternalProof
