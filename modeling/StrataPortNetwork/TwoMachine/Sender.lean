import StrataPortNetwork.TwoMachine.Receiver
import StrataPortNetwork.Js.Base64Url

/-! # The proof sender

`sendTwoHostProof`, cut at its two requests: what it sends first, what it makes of the
challenge, and which receipt it returns. Responses arrive as a status and a text.
-/
namespace TwoMachine
open Js

/-- The arguments of `sendTwoHostProof`, beside the secret and the address. -/
structure SendCall where
  port : ℕ
  timeoutMs : ℕ
  canonicalPayload : Bytes
  stateId : JsString
  stateHash : JsString
  generation : ℤ
  /-- The printed description of the sender's host. -/
  host : JsString

structure HttpResponse where
  status : ℕ
  text : JsString

def HttpResponse.ok (r : HttpResponse) : Bool := 200 ≤ r.status && r.status ≤ 299

/-- `sendJson(response, statusCode, payload)` on the wire. -/
def Response.wire (r : Response) : HttpResponse := ⟨r.status, stringify r.body⟩

/-- What the sender makes of a challenge and sends with its second request. -/
structure Transfer where
  sessionId : JsString
  challenge : JsString
  destinationHostFingerprint : JsString
  authorization : JsString
  iv : Bytes
  tag : Bytes
  ciphertext : Bytes

def Transfer.headers (t : Transfer) : TransferHeaders :=
  ⟨some t.sessionId, some t.authorization, some (base64UrlEncode t.iv), some (base64UrlEncode t.tag)⟩

/-- The fields of the sender's proof transcript. -/
def Hello.proofFields (h : Hello) (challenge destinationHostFingerprint : JsString) : ProofFields :=
  ⟨challenge, h.sourceHostFingerprint, destinationHostFingerprint, h.stateId, h.stateHash, h.generation, h.payloadSha256,
    h.payloadBytes⟩

section
variable (platform : Platform) (secret : JsString)

/-- Up to the first request. -/
def startSend (call : SendCall) : Except JsString Hello := do
  ensure (32 ≤ secret.length) (js "proof secret must contain at least 32 characters")
  ensure (positiveInteger call.port) (js "port must be a positive safe integer")
  ensure (positiveInteger call.timeoutMs) (js "timeoutMs must be a positive safe integer")
  ensure (validStateId call.stateId) (js "stateId must be a bounded, unambiguous transcript field")
  ensure (validSha256 call.stateHash) (js "stateHash must be a SHA-256 hex digest")
  ensure (0 ≤ call.generation && call.generation ≤ 9007199254740991)
    (js "generation must be a non-negative safe integer")
  ensure (1 ≤ call.canonicalPayload.length) (js "canonical payload must not be empty")
  let payloadSha256 := platform.sha256 call.canonicalPayload
  ensure (payloadSha256 == toLowerCase call.stateHash)
    (js "canonical payload SHA-256 must equal the Kindred state hash")
  pure ⟨hostFingerprint platform call.host, call.stateId, toLowerCase call.stateHash, call.generation, payloadSha256,
    call.canonicalPayload.length⟩

/-- `/^[0-9a-f-]{36}$/i` on a string field. -/
def sessionIdField (v : Option Json) : Option JsString := stringField sessionIdPattern v

/-- The authorization and the ciphertext for a session. -/
def transferOf (call : SendCall) (hello : Hello) (sessionId challenge destinationHostFingerprint : JsString) (iv : Bytes) :
    Transfer :=
  let transcript := proofTranscript sessionId (hello.proofFields challenge destinationHostFingerprint)
  let sealed := platform.encrypt (deriveSessionKey platform secret challenge sessionId) iv (utf8Encode transcript)
    call.canonicalPayload
  ⟨sessionId, challenge, destinationHostFingerprint, hmac platform secret transcript, iv, sealed.2, sealed.1⟩

/-- From the response to the first request up to the second one; `iv` is drawn at random. -/
def answerChallenge (call : SendCall) (hello : Hello) (response : Except JsString HttpResponse) (iv : Bytes) :
    Except JsString Transfer := do
  let response ← response
  ensure response.ok (js "proof challenge failed: " ++ natText response.status)
  let challenge ← orThrow (parse response.text) (platform.syntaxError response.text)
  ensure (!challenge.isNull) (js "Cannot read properties of null (reading 'schemaVersion')")
  let mismatch := js "proof receiver challenge mismatch"
  ensure (challenge.get "schemaVersion" == some (.text TWO_HOST_PROOF_SCHEMA)) mismatch
  let sessionId ← orThrow (sessionIdField (challenge.get "sessionId")) mismatch
  let nonce ← orThrow (sha256Field (challenge.get "challenge")) mismatch
  let destination ← orThrow (sha256Field (challenge.get "destinationHostFingerprint")) mismatch
  ensure (challenge.get "cipher" == some (.text TWO_HOST_CIPHER)) mismatch
  pure (transferOf platform secret call hello sessionId nonce destination iv)

/-- The comparison of a receipt with what was sent. -/
def receiptMatches (hello : Hello) (t : Transfer) (receipt : Json) : Bool :=
  let distinct := hello.sourceHostFingerprint != t.destinationHostFingerprint
  receipt.get "schemaVersion" == some (.text TWO_HOST_PROOF_SCHEMA) &&
  receipt.get "sessionId" == some (.str t.sessionId) &&
  receipt.get "sourceHostFingerprint" == some (.str hello.sourceHostFingerprint) &&
  receipt.get "destinationHostFingerprint" == some (.str t.destinationHostFingerprint) &&
  receipt.get "payloadBytes" == some (.int hello.payloadBytes) &&
  receipt.get "ciphertextBytes" == some (.int t.ciphertext.length) &&
  receipt.get "authenticationVerified" == some (.bool true) &&
  receipt.get "integrityVerified" == some (.bool true) &&
  receipt.get "encryptedOnWire" == some (.bool true) &&
  receipt.get "physicalMachineAttestationProven" == some (.bool false) &&
  receipt.get "productionReadyClaim" == some (.bool false) &&
  receipt.get "transportClass" == some (.text TRANSPORT_CLASS) &&
  (receipt.get "loopbackObserved").any Json.isBool &&
  receipt.get "distinctHostFingerprints" == some (.bool distinct) &&
  receipt.get "twoHostNetworkProofSatisfied" ==
    some (.bool (distinct && !(receipt.get "loopbackObserved").any Json.truthy)) &&
  receipt.get "cipher" == some (.text TWO_HOST_CIPHER) &&
  receipt.get "receivedSha256" == some (.str hello.payloadSha256) &&
  receipt.get "stateId" == some (.str hello.stateId) &&
  receipt.get "stateHash" == some (.str hello.stateHash) &&
  receipt.get "generation" == some (.int hello.generation)

/-- From the response to the second request to the receipt that is returned. -/
def acceptReceipt (hello : Hello) (t : Transfer) (response : Except JsString HttpResponse) : Except JsString Json := do
  let response ← response
  let receipt ← orThrow (parse response.text) (platform.syntaxError response.text)
  ensure response.ok (js "proof transfer failed: " ++ natText response.status ++ js " " ++ stringify receipt)
  ensure (!receipt.isNull) (js "Cannot read properties of null (reading 'receiptMac')")
  let transcript ← orThrow (receiptTranscript receipt) (js "Cannot convert object to primitive value")
  ensure (((receipt.get "receiptMac").bind Json.str?).any fun mac => safeEqualHex mac (hmac platform secret transcript))
    (js "proof receipt MAC verification failed")
  ensure (receiptMatches hello t receipt)
    (js "proof receipt identity, encryption, or integrity verification failed")
  pure receipt

end

/-! ## What the sender has checked -/

section
variable {platform : Platform} {secret : JsString}

/-- A call that passes the checks, and its hello. -/
structure Started (platform : Platform) (call : SendCall) (hello : Hello) : Prop where
  stateId : validStateId call.stateId = true
  hello : hello = ⟨hostFingerprint platform call.host, call.stateId, platform.sha256 call.canonicalPayload, call.generation,
    platform.sha256 call.canonicalPayload, call.canonicalPayload.length⟩

theorem startSend_ok {call : SendCall} {hello : Hello} (h : startSend platform secret call = .ok hello) :
    Started platform call hello := by
  simp only [startSend, bind_eq_ok, ensure_eq_ok, pure_eq_ok, beq_iff_eq] at h
  obtain ⟨-, -, -, -, -, -, -, hstateId, -, -, -, -, -, -, -, hsha, rfl⟩ := h
  exact ⟨hstateId, by rw [← hsha]⟩

/-- A transfer made of a challenge, with the checks the challenge has passed. -/
structure Answers (platform : Platform) (secret : JsString) (call : SendCall) (hello : Hello) (t : Transfer) : Prop where
  sessionId : sessionIdPattern.accepts t.sessionId = true
  challenge : validSha256 t.challenge = true
  destination : validSha256 t.destinationHostFingerprint = true
  authorization : t.authorization =
    hmac platform secret (proofTranscript t.sessionId (hello.proofFields t.challenge t.destinationHostFingerprint))
  encrypted : (t.ciphertext, t.tag) = platform.encrypt (deriveSessionKey platform secret t.challenge t.sessionId) t.iv
    (utf8Encode (proofTranscript t.sessionId (hello.proofFields t.challenge t.destinationHostFingerprint)))
    call.canonicalPayload

theorem answerChallenge_ok {call : SendCall} {hello : Hello} {response : Except JsString HttpResponse} {iv : Bytes}
    {t : Transfer} (h : answerChallenge platform secret call hello response iv = .ok t) :
    Answers platform secret call hello t ∧ t.iv = iv := by
  simp only [answerChallenge, bind_eq_ok, ensure_eq_ok, orThrow_eq_ok, pure_eq_ok] at h
  obtain ⟨-, -, -, -, challenge, -, -, -, -, -, sessionId, hid, nonce, hnonce, destination, hdestination, -, -, rfl⟩ := h
  exact ⟨⟨(stringField_eq_some.mp hid).2, (stringField_eq_some.mp hnonce).2, (stringField_eq_some.mp hdestination).2, rfl,
    rfl⟩, rfl⟩

/-- A receipt that is returned carries its MAC and says what was sent. -/
structure Accepted (platform : Platform) (secret : JsString) (hello : Hello) (t : Transfer) (receipt : Json)
    (transcript mac : JsString) : Prop where
  parts : receiptTranscript receipt = some transcript
  receiptMac : receipt.get "receiptMac" = some (.str mac)
  authentic : safeEqualHex mac (hmac platform secret transcript) = true
  matching : receiptMatches hello t receipt = true

theorem acceptReceipt_ok {hello : Hello} {t : Transfer} {response : Except JsString HttpResponse} {receipt : Json}
    (h : acceptReceipt platform secret hello t response = .ok receipt) :
    ∃ answer transcript mac, response = .ok answer ∧ parse answer.text = some receipt ∧
      Accepted platform secret hello t receipt transcript mac := by
  simp only [acceptReceipt, bind_eq_ok, ensure_eq_ok, orThrow_eq_ok, pure_eq_ok] at h
  obtain ⟨answer, hanswer, receipt', hparse, -, -, -, -, transcript, htranscript, -, hmac, -, hmatches, rfl⟩ := h
  rw [Option.any_eq_true] at hmac
  obtain ⟨mac, hmac, hauthentic⟩ := hmac
  exact ⟨answer, transcript, mac, hanswer, hparse, htranscript, Json.bind_str?_eq_some.mp hmac, hauthentic, hmatches⟩

end

end TwoMachine
