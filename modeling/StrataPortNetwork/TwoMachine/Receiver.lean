import StrataPortNetwork.TwoMachine.Transcripts
import StrataPortNetwork.Js.Map
import StrataPortNetwork.Js.Check

/-! # The proof receiver

The handlers of the receiver, each cut at its await points. A request that waits for its
body or for the audit sink is resumed by a later event, so any number of requests and the
expiry timer interleave. Bodies arrive as their length and their text.
-/
namespace TwoMachine
open Js
open Native (hex64)

/-! ## Options and messages -/

/-- A started receiver: its options have passed the checks of `startProofReceiver`. -/
structure ProofReceiver where
  secret : JsString
  secret_length : 32 ≤ secret.length
  maxBytes : ℕ
  maxBytes_ok : positiveInteger maxBytes = true
  maxSessions : ℕ
  maxSessions_ok : positiveInteger maxSessions = true
  challengeTtlMs : ℕ
  challengeTtlMs_ok : positiveInteger challengeTtlMs = true
  /-- The printed description of the host. -/
  host : JsString

structure Response where
  status : ℕ
  body : Json

/-- `response.ok`. -/
def Response.ok (r : Response) : Bool := 200 ≤ r.status && r.status ≤ 299

def failure (status : ℕ) (error : String) : Response := ⟨status, .record [("error", .text error)]⟩

/-- The answer of the outer handler to what a handler throws. -/
def protocolError (detail : JsString) : Response :=
  ⟨400, .record [("error", .text "proof_protocol_error"), ("detail", .str detail)]⟩

/-- A request body: its length in bytes and the text they decode to. -/
structure Body where
  size : ℕ
  text : JsString

/-- What the sender says of the transfer it asks for. -/
structure Hello where
  sourceHostFingerprint : JsString
  stateId : JsString
  stateHash : JsString
  generation : ℤ
  payloadSha256 : JsString
  payloadBytes : ℤ

def Hello.fields (h : Hello) : List (String × Json) := [("schemaVersion", .text TWO_HOST_PROOF_SCHEMA),
  ("sourceHostFingerprint", .str h.sourceHostFingerprint), ("stateId", .str h.stateId), ("stateHash", .str h.stateHash),
  ("generation", .int h.generation), ("payloadSha256", .str h.payloadSha256), ("payloadBytes", .int h.payloadBytes)]

def Hello.toJson (h : Hello) : Json := .record h.fields

structure TransferHeaders where
  session : Option JsString
  authorization : Option JsString
  iv : Option JsString
  tag : Option JsString

/-! ## Sessions -/

structure Session extends ProofFields where
  createdAt : ℤ

abbrev Sessions := JsMap JsString Session

/-- What `randomUUID` and `randomBytes` draw for a session. -/
structure Drawn where
  sessionId : JsString
  sessionId_uuid : sessionIdPattern.accepts sessionId = true
  challenge : JsString
  challenge_hex : hex64.accepts challenge = true

/-- A session taken out of the store by an authenticated transfer. -/
structure Claim where
  sessionId : JsString
  session : Session
  authorization : JsString
  iv : JsString
  tag : JsString

/-! ## Receipts -/

/-- The fields of a receipt that are no constants. -/
structure ReceiptCore where
  sessionId : JsString
  stateId : JsString
  stateHash : JsString
  generation : ℤ
  payloadSha256 : JsString
  receivedSha256 : JsString
  payloadBytes : ℕ
  ciphertextBytes : ℕ
  sourceHostFingerprint : JsString
  destinationHostFingerprint : JsString
  distinctHostFingerprints : Bool
  loopbackObserved : Bool
  integrityVerified : Bool
  twoHostNetworkProofSatisfied : Bool
  observedAt : JsString

def ReceiptCore.fields (c : ReceiptCore) : List (String × Json) := [
  ("schemaVersion", .text TWO_HOST_PROOF_SCHEMA), ("sessionId", .str c.sessionId), ("stateId", .str c.stateId),
  ("stateHash", .str c.stateHash), ("generation", .int c.generation), ("payloadSha256", .str c.payloadSha256),
  ("receivedSha256", .str c.receivedSha256), ("payloadBytes", .int c.payloadBytes),
  ("ciphertextBytes", .int c.ciphertextBytes), ("sourceHostFingerprint", .str c.sourceHostFingerprint),
  ("destinationHostFingerprint", .str c.destinationHostFingerprint),
  ("distinctHostFingerprints", .bool c.distinctHostFingerprints), ("loopbackObserved", .bool c.loopbackObserved),
  ("authenticationVerified", .bool true), ("integrityVerified", .bool c.integrityVerified),
  ("encryptedOnWire", .bool true), ("cipher", .text TWO_HOST_CIPHER), ("transportClass", .text TRANSPORT_CLASS),
  ("twoHostNetworkProofSatisfied", .bool c.twoHostNetworkProofSatisfied),
  ("physicalMachineAttestationProven", .bool false), ("productionReadyClaim", .bool false),
  ("observedAt", .str c.observedAt)]

def ReceiptCore.parts (c : ReceiptCore) : List JsString := [
  js TWO_HOST_PROOF_SCHEMA, c.sessionId, c.stateId, c.stateHash, (JsNumber.int c.generation).toText, c.payloadSha256,
  c.receivedSha256, (JsNumber.int c.payloadBytes).toText, (JsNumber.int c.ciphertextBytes).toText,
  c.sourceHostFingerprint, c.destinationHostFingerprint, boolText c.distinctHostFingerprints,
  boolText c.loopbackObserved, boolText true, boolText c.integrityVerified, boolText true, js TWO_HOST_CIPHER,
  js TRANSPORT_CLASS, boolText c.twoHostNetworkProofSatisfied, boolText false, boolText false, c.observedAt]

/-- A record with the fields of a receipt has the transcript of the receipt. -/
theorem receiptTranscript_of_get {c : ReceiptCore} {receipt : Json}
    (h : ∀ name, name ≠ "receiptMac" → receipt.get name = c.fields.lookup name) :
    receiptTranscript receipt = some (joinBar c.parts) := by
  have hparts : receiptParts receipt = c.parts.map some := by
    simp only [receiptParts, ne_eq, String.reduceEq, not_false_eq_true, h]
    rfl
  rw [receiptTranscript, allSome_eq_some.mpr hparts, Option.map_some]

theorem receiptTranscript_core (c : ReceiptCore) : receiptTranscript (.record c.fields) = some (joinBar c.parts) :=
  receiptTranscript_of_get fun _ _ => Json.get_record _ _

/-- What the receiver decrypted and the receipt it signed for it. -/
structure Issued where
  claim : Claim
  ciphertext : Bytes
  payload : Bytes
  core : ReceiptCore
  receiptMac : JsString

/-- `{ ...receiptCore, receiptMac }`. -/
def Issued.receipt (i : Issued) : Json := .record (i.core.fields ++ [("receiptMac", .str i.receiptMac)])

def isLoopback (address : JsString) : Bool :=
  let normalized := if (js "::ffff:").isPrefixOf address then address.drop 7 else address
  normalized == js "127.0.0.1" || normalized == js "::1"

namespace ProofReceiver
variable (platform : Platform) (r : ProofReceiver)

def destinationHostFingerprint : JsString := hostFingerprint platform r.host

def expired (now : ℤ) (session : Session) : Bool := r.challengeTtlMs ≤ now - session.createdAt

/-- `expireSessions()`. -/
def expireSessions (now : ℤ) (sessions : Sessions) : Sessions := sessions.filter fun session => !r.expired now session

/-! ## `POST /proof/challenge` -/

/-- Up to the await of the body; `some` is an early answer. -/
def challengeRequest (now : ℤ) (sessions : Sessions) : Option Response × Sessions :=
  let sessions := r.expireSessions now sessions
  if r.maxSessions ≤ sessions.size then (some (failure 429 "proof_session_capacity"), sessions) else (none, sessions)

/-- The body of at most 64 KiB, parsed; the first property is read of it. -/
def readHello (body : Except JsString Body) : Except Response Json :=
  match body with
  | .error detail => throw (protocolError detail)
  | .ok body => do
    ensure (body.size ≤ 64 * 1024) (protocolError (js "request body exceeds proof receiver limit"))
    let hello ← orThrow (parse body.text) (protocolError (platform.syntaxError body.text))
    ensure (!hello.isNull) (protocolError (js "Cannot read properties of null (reading 'schemaVersion')"))
    pure hello

def checkHello (hello : Json) : Except Response Hello := do
  ensure (hello.get "schemaVersion" == some (.text TWO_HOST_PROOF_SCHEMA)) (failure 400 "schema_mismatch")
  let source ← orThrow (sha256Field (hello.get "sourceHostFingerprint")) (failure 400 "invalid_hello")
  let stateId ← orThrow ((hello.get "stateId").bind Json.str?) (failure 400 "invalid_hello")
  ensure (validStateId stateId) (failure 400 "invalid_hello")
  let stateHash ← orThrow (sha256Field (hello.get "stateHash")) (failure 400 "invalid_hello")
  let generation ← orThrow ((hello.get "generation").bind Json.safeInteger?) (failure 400 "invalid_hello")
  ensure (0 ≤ generation) (failure 400 "invalid_hello")
  let payloadSha256 ← orThrow (sha256Field (hello.get "payloadSha256")) (failure 400 "invalid_hello")
  ensure (toLowerCase stateHash == toLowerCase payloadSha256) (failure 400 "state_payload_hash_mismatch")
  let payloadBytes ← orThrow ((hello.get "payloadBytes").bind Json.safeInteger?) (failure 413 "payload_size_rejected")
  ensure (1 ≤ payloadBytes && payloadBytes ≤ r.maxBytes) (failure 413 "payload_size_rejected")
  pure ⟨source, stateId, stateHash, generation, payloadSha256, payloadBytes⟩

/-- The session opened for a hello. -/
def sessionOf (hello : Hello) (drawn : Drawn) (createdAt : ℤ) : Session :=
  ⟨⟨drawn.challenge, hello.sourceHostFingerprint, r.destinationHostFingerprint platform, hello.stateId,
    toLowerCase hello.stateHash, hello.generation, toLowerCase hello.payloadSha256, hello.payloadBytes⟩, createdAt⟩

/-- From the body on: `now` and `createdAt` are the two readings of the clock. -/
def resumeChallenge (body : Except JsString Body) (drawn : Drawn) (now createdAt : ℤ) (sessions : Sessions) :
    Except Response Session × Sessions :=
  match readHello platform body >>= checkHello r with
  | .error response => (.error response, sessions)
  | .ok hello =>
    let sessions := r.expireSessions now sessions
    if r.maxSessions ≤ sessions.size then (.error (failure 429 "proof_session_capacity"), sessions)
    else
      let session := r.sessionOf platform hello drawn createdAt
      (.ok session, sessions.set drawn.sessionId session)

def challengeFields (sessionId : JsString) (session : Session) : List (String × Json) :=
  [("schemaVersion", .text TWO_HOST_PROOF_SCHEMA), ("sessionId", .str sessionId), ("challenge", .str session.challenge),
    ("destinationHostFingerprint", .str session.destinationHostFingerprint), ("cipher", .text TWO_HOST_CIPHER),
    ("expiresInMs", .int r.challengeTtlMs)]

def challengeResponse (sessionId : JsString) (session : Session) : Response :=
  ⟨200, .record (r.challengeFields sessionId session)⟩

/-! ## `POST /proof/transfer` -/

/-- The MAC check of a transfer on a session. -/
def authenticates (authorization sessionId : JsString) (session : Session) : Bool :=
  safeEqualHex authorization (hmac platform r.secret (proofTranscript sessionId session.toProofFields))

/-- Up to the await of the body. The session is consumed before it. -/
def transferRequest (headers : TransferHeaders) (now : ℤ) (sessions : Sessions) : Except Response Claim × Sessions :=
  match headers with
  | ⟨some sessionId, some authorization, some iv, some tag⟩ =>
    match sessions.get sessionId with
    | none => (.error (failure 401 "proof_session_invalid"), sessions.delete sessionId)
    | some session =>
      if r.expired now session then (.error (failure 401 "proof_session_invalid"), sessions.delete sessionId)
      else if !r.authenticates platform authorization sessionId session then
        (.error (failure 403 "proof_auth_rejected"), sessions)
      else (.ok ⟨sessionId, session, authorization, iv, tag⟩, sessions.delete sessionId)
  | _ => (.error (failure 401 "proof_auth_required"), sessions)

/-- `readBody(request, maxBytes)`. -/
def readCiphertext (body : Except JsString Bytes) : Except Response Bytes :=
  match body with
  | .error detail => throw (protocolError detail)
  | .ok bytes =>
    if bytes.length ≤ r.maxBytes then pure bytes
    else throw (protocolError (js "request body exceeds proof receiver limit"))

/-- The decryption; `none` where it throws. -/
def openPayload (claim : Claim) (ciphertext : Bytes) : Option Bytes :=
  let key := deriveSessionKey platform r.secret claim.session.challenge claim.sessionId
  let iv := base64Decode claim.iv
  let tag := base64Decode claim.tag
  if iv.length = 12 ∧ tag.length = 16 then
    platform.decrypt key iv (utf8Encode (proofTranscript claim.sessionId claim.session.toProofFields)) ciphertext tag
  else none

def receiptCore (claim : Claim) (ciphertext payload : Bytes) (loopback : Bool) (observedAt : JsString) : ReceiptCore :=
  let session := claim.session
  let receivedSha256 := platform.sha256 payload
  let integrity := decide ((payload.length : ℤ) = session.payloadBytes) && receivedSha256 == session.payloadSha256
  let distinct := session.sourceHostFingerprint != session.destinationHostFingerprint
  ⟨claim.sessionId, session.stateId, session.stateHash, session.generation, session.payloadSha256, receivedSha256,
    payload.length, ciphertext.length, session.sourceHostFingerprint, session.destinationHostFingerprint, distinct,
    loopback, integrity, integrity && distinct && !loopback, observedAt⟩

/-- From the body on, up to the await of the audit sink. -/
def resumeTransfer (claim : Claim) (body : Except JsString Bytes) (remoteAddress : Option JsString) (now : ℤ)
    (sessions : Sessions) : Except Response Issued × Sessions :=
  match r.readCiphertext body with
  | .error response => (.error response, sessions)
  | .ok ciphertext =>
    match r.openPayload platform claim ciphertext with
    | none => (.error (failure 422 "payload_decryption_failed"), sessions.delete claim.sessionId)
    | some payload =>
      let core := receiptCore platform claim ciphertext payload (isLoopback (remoteAddress.getD []))
        (platform.toISOString now)
      match receiptTranscript (.record core.fields) with
      | none => (.error (protocolError (js "Cannot convert object to primitive value")), sessions)
      | some transcript =>
        (.ok ⟨claim, ciphertext, payload, core, hmac platform r.secret transcript⟩, sessions.delete claim.sessionId)

/-- The answer once the audit sink has taken the receipt or refused it. -/
def receiptResponse (issued : Issued) (persisted : Bool) : Response :=
  if persisted then ⟨if issued.core.integrityVerified then 200 else 422, issued.receipt⟩
  else failure 503 "proof_receipt_persistence_failed"

/-! ## Interleaved requests -/

/-- What a request waits for, or its answer. -/
inductive Stage
  | hello
  | ciphertext (claim : Claim)
  | sink (issued : Issued)
  | answered (response : Response)

/-- The store, the requests in the order of their arrival, and a log that no handler reads:
the ids of the sessions created, the claims with the clock reading of each, and the receipts. -/
structure State where
  sessions : Sessions
  requests : List Stage
  created : List JsString
  claims : List (ℤ × Claim)
  issued : List Issued

def State.start : State := ⟨JsMap.empty, [], [], [], []⟩

inductive Event
  | timer (now : ℤ)
  | challenge (now : ℤ)
  | helloBody (i : ℕ) (body : Except JsString Body) (drawn : Drawn) (now createdAt : ℤ)
  | transfer (headers : TransferHeaders) (now : ℤ)
  | ciphertextBody (i : ℕ) (body : Except JsString Bytes) (remoteAddress : Option JsString) (now : ℤ)
  | sinkAnswers (i : ℕ) (persisted : Bool)
  | unknownRequest

def step (s : State) : Event → State
  | .timer now => { s with sessions := r.expireSessions now s.sessions }
  | .challenge now =>
    match r.challengeRequest now s.sessions with
    | (some response, sessions) => { s with sessions := sessions, requests := s.requests ++ [.answered response] }
    | (none, sessions) => { s with sessions := sessions, requests := s.requests ++ [.hello] }
  | .helloBody i body drawn now createdAt =>
    match s.requests[i]? with
    | some .hello =>
      match r.resumeChallenge platform body drawn now createdAt s.sessions with
      | (.error response, sessions) =>
        { s with sessions := sessions, requests := s.requests.set i (.answered response) }
      | (.ok session, sessions) => { s with
          sessions := sessions
          requests := s.requests.set i (.answered (r.challengeResponse drawn.sessionId session))
          created := drawn.sessionId :: s.created }
    | _ => s
  | .transfer headers now =>
    match r.transferRequest platform headers now s.sessions with
    | (.error response, sessions) => { s with sessions := sessions, requests := s.requests ++ [.answered response] }
    | (.ok claim, sessions) => { s with
        sessions := sessions
        requests := s.requests ++ [.ciphertext claim]
        claims := (now, claim) :: s.claims }
  | .ciphertextBody i body remoteAddress now =>
    match s.requests[i]? with
    | some (.ciphertext claim) =>
      match r.resumeTransfer platform claim body remoteAddress now s.sessions with
      | (.error response, sessions) =>
        { s with sessions := sessions, requests := s.requests.set i (.answered response) }
      | (.ok issued, sessions) =>
        { s with sessions := sessions, requests := s.requests.set i (.sink issued), issued := issued :: s.issued }
    | _ => s
  | .sinkAnswers i persisted =>
    match s.requests[i]? with
    | some (.sink issued) =>
      { s with requests := s.requests.set i (.answered (receiptResponse issued persisted)) }
    | _ => s
  | .unknownRequest => { s with requests := s.requests ++ [.answered (failure 404 "not_found")] }

end ProofReceiver

end TwoMachine
