import StrataPortNetwork.Native.Canonical
import StrataPortNetwork.Js.Base64
import Mathlib.Data.Set.Function

/-! # Port identities, signed envelopes and peer records

The node cryptography is a parameter with its documented laws. Everything above it is
the port's own: the public key checks, the port id, the envelope signature over the
canonical body, and the peer record that advertises a port. Times are integer
milliseconds.
-/
namespace Native
open Js

def hex32 : Regex := .run Regex.hex 32 32
def hex64 : Regex := .run Regex.hex 64 64

/-- The functions of `node:crypto` in use. Public keys are SPKI bytes in DER. -/
structure Crypto where
  digest : Bytes → JsString
  digest_hex : ∀ bytes, hex64.accepts (digest bytes) = true
  keyType? : Bytes → Option JsString
  SigningKey : Type
  signingPublic : SigningKey → Bytes
  signingPublic_type : ∀ key, keyType? (signingPublic key) = some (js "ed25519")
  signingPublic_length : ∀ key, (signingPublic key).length ≤ 96
  sign : SigningKey → Bytes → Bytes
  sign_length : ∀ key message, (sign key message).length = 64
  verify : Bytes → Bytes → Bytes → Bool
  verify_sign : ∀ key message, verify message (signingPublic key) (sign key message) = true
  AgreementKey : Type
  agreementPublic : AgreementKey → Bytes
  agreementPublic_type : ∀ key, keyType? (agreementPublic key) = some (js "x25519")
  agreementPublic_length : ∀ key, (agreementPublic key).length ≤ 96
  Shared : Type
  diffieHellman : AgreementKey → Bytes → Option Shared
  diffieHellman_comm : ∀ key key',
    diffieHellman key (agreementPublic key') = diffieHellman key' (agreementPublic key)
  diffieHellman_public : ∀ key key', (diffieHellman key (agreementPublic key')).isSome = true
  SessionKey : Type
  hkdf : Shared → Bytes → Bytes → SessionKey
  encrypt : SessionKey → Bytes → Bytes → Bytes → Bytes × Bytes
  encrypt_length : ∀ key nonce aad bytes, (encrypt key nonce aad bytes).1.length = bytes.length
  tag_length : ∀ key nonce aad bytes, (encrypt key nonce aad bytes).2.length = 16
  decrypt : SessionKey → Bytes → Bytes → Bytes → Bytes → Option Bytes
  decrypt_encrypt : ∀ key nonce aad bytes,
    decrypt key nonce aad (encrypt key nonce aad bytes).1 (encrypt key nonce aad bytes).2 = some bytes

/-- Different inputs derive different keys. -/
def Crypto.IdealHkdf (crypto : Crypto) : Prop := ∀ {shared shared' salt salt' info info'},
  crypto.hkdf shared salt info = crypto.hkdf shared' salt' info' → shared = shared' ∧ salt = salt' ∧ info = info'

/-- `Buffer.from(text, 'hex')`. -/
def hexDecode : JsString → Bytes
  | a :: b :: rest =>
    match hexValue? a, hexValue? b with
    | some x, some y => UInt8.ofNat (x * 16 + y) :: hexDecode rest
    | _, _ => []
  | _ => []

variable (crypto : Crypto)

/-- `digest(canonicalBytes(value))`. -/
def canonicalDigest (v : Json) : Outcome JsString := crypto.digest <$> canonicalBytes v

/-- `decodePublicKey(encoded, type)`, the key object being its bytes. -/
def decodePublicKey (encoded : Option Json) (type : String) : Outcome Bytes := do
  let text ← orThrow (encoded.bind Json.str?) (.error "Public key bounds")
  ensure (text.length ≤ 128) (.error "Public key bounds")
  let bytes := base64Decode text
  ensure (base64Encode bytes == text) (.error "Noncanonical public key")
  let keyType ← orThrow (crypto.keyType? bytes) .crypto
  ensure (keyType == js type) (.error "Public key algorithm rejected")
  pure bytes

def portIdPrefix : JsString := js "strata:port:ed25519:"

/-- `/^strata:port:ed25519:[a-f0-9]{64}$/` -/
def portIdPattern : Regex := .seq (.text "strata:port:ed25519:") hex64

/-- `portId(publicKey)`. `Buffer.from` also takes an array of bytes, but every caller goes
on to `decodePublicKey`, which takes strings only. -/
def portId (publicKey : Option Json) : Outcome JsString := do
  let text ← orThrow (publicKey.bind Json.str?) .typeError
  pure (portIdPrefix ++ crypto.digest (base64Decode text))

/-- A port identity, held by its private key. -/
structure Identity where
  key : crypto.SigningKey

namespace Identity
variable {crypto} (identity : Identity crypto)

def publicKey : JsString := base64Encode (crypto.signingPublic identity.key)
def id : JsString := portIdPrefix ++ crypto.digest (base64Decode identity.publicKey)

/-- `identity.sign(body)`. -/
def sign (body : Json) : Outcome Json := do
  let copy ← snapshot body
  let bytes ← canonicalBytes copy
  pure (.record [("body", copy), ("signature", .str (base64Encode (crypto.sign identity.key bytes)))])

end Identity

/-- `verifyEnvelope(envelope, expectedId, publicKey)`. -/
def verifyEnvelope (envelope : Json) (expectedId publicKey : Option Json) : Outcome Json := do
  exactFields (some envelope) ["body", "signature"]
  let id ← portId crypto publicKey
  ensure (some (.str id) == expectedId) (.error "Port identity/signature rejected")
  let text ← orThrow ((envelope.get "signature").bind Json.str?) (.error "Port identity/signature rejected")
  ensure (text.length == 88) (.error "Port identity/signature rejected")
  let signature := base64Decode text
  ensure (signature.length == 64 && base64Encode signature == text) (.error "Port signature rejected")
  let body ← orThrow (envelope.get "body") .typeError
  let bytes ← canonicalBytes body
  let key ← decodePublicKey crypto publicKey "ed25519"
  ensure (crypto.verify bytes key signature) (.error "Port signature rejected")
  snapshot body

/-- The body a verifier reads from an envelope. -/
def signedBody (envelope : Json) : Json := ((ordered envelope).bind (·.get "body")).getD .null

/-! ## Peer records -/

/-- The safe integer in a field. -/
def integerField (v : Json) (name : String) : Option ℤ := (v.get name).bind Json.safeInteger?

/-- The bounds on `issuedAt` and `expiresAt` that records, manifests and controls share. -/
def lifetimeOk (body : Json) (now longest : ℤ) : Bool :=
  match integerField body "issuedAt", integerField body "expiresAt" with
  | some issuedAt, some expiresAt =>
    issuedAt ≤ now && now < expiresAt && expiresAt - issuedAt ≤ longest && issuedAt < expiresAt
  | _, _ => false

def revisionOk (body : Json) : Bool := (integerField body "revision").any (1 ≤ ·)

/-- `/^[a-z][a-z0-9.-]{0,63}$/` -/
def capabilityPattern : Regex :=
  .seq (.run Regex.lower 1 1) (.run (Regex.lower ++ Regex.digits ++ [(46, 46), (45, 45)]) 0 63)

/-- `/^\d+\.\d+\.\d+$/` -/
def versionPattern : Regex :=
  .seq (.plus Regex.digits) (.seq (.text ".") (.seq (.plus Regex.digits) (.seq (.text ".") (.plus Regex.digits))))

def assertComponent (component : Option Json) : Outcome Unit := do
  exactFields component ["id", "version", "evidenceStatus"]
  let component := component.getD .null
  ensureTest capabilityPattern (component.get "id") (.error "Component binding rejected") .typeError
  ensureTest versionPattern (component.get "version") (.error "Component binding rejected") .typeError
  ensure (component.get "evidenceStatus" == some (.text "DECLARED")) (.error "Component binding rejected")

def capabilitiesOk (v : Option Json) : Bool :=
  match v with
  | some (.arr items) => 1 ≤ items.length && items.length ≤ 16 && Json.allDistinct items &&
      items.all fun item => (item.str?.any capabilityPattern.accepts)
  | _ => false

/-- `assertRecord(body, now)`. -/
def assertRecord (body : Json) (now : ℤ) : Outcome Unit := do
  exactFields (some body) ["schema", "portId", "publicKey", "revision", "issuedAt", "expiresAt",
    "capabilities", "tesseractEngine", "boundWorker"]
  ensure (body.get "schema" == some (.text "kindred.sdpn.peer-record.v1"))
    (.error "Peer record lifetime/version rejected")
  let id ← portId crypto (body.get "publicKey")
  ensure (body.get "portId" == some (.str id) && revisionOk body && lifetimeOk body now 300000)
    (.error "Peer record lifetime/version rejected")
  ensure (capabilitiesOk (body.get "capabilities")) (.error "Peer capabilities rejected")
  assertComponent (body.get "tesseractEngine")
  assertComponent (body.get "boundWorker")
  let _ ← decodePublicKey crypto (body.get "publicKey") "ed25519"
  pure ()

/-- `signPeerRecord(identity, options)`. -/
def signPeerRecord (identity : Identity crypto) (revision : Json) (now ttlMs : ℤ)
    (capabilities tesseractEngine boundWorker : Json) : Outcome Json := do
  let body := Json.record [("schema", .text "kindred.sdpn.peer-record.v1"), ("portId", .str identity.id),
    ("publicKey", .str identity.publicKey), ("revision", revision), ("issuedAt", .int now),
    ("expiresAt", .int (now + ttlMs)), ("capabilities", capabilities),
    ("tesseractEngine", tesseractEngine), ("boundWorker", boundWorker)]
  assertRecord crypto body now
  identity.sign body

/-- `verifyPeerRecord(record, now, expectedId)`. -/
def verifyPeerRecord (record : Json) (now : ℤ) (expectedId : Option Json) : Outcome Json := do
  let body ← orThrow ((record.get "body").filter Json.truthy) (.error "Peer record absent")
  let expected := match expectedId with
    | none | some .null => body.get "portId"
    | some id => some id
  let verified ← verifyEnvelope crypto record expected (body.get "publicKey")
  assertRecord crypto verified now
  pure verified

/-! ## What the checks establish -/

section
variable {crypto : Crypto}

theorem canonicalDigest_eq_ok {v : Json} {d : JsString} :
    canonicalDigest crypto v = .ok d ↔ ∃ bytes, canonicalBytes v = .ok bytes ∧ crypto.digest bytes = d := by
  rw [canonicalDigest, map_eq_ok]

/-- On a set of messages without collisions, equal digests come from equal values. -/
theorem ordered_eq_of_digest {S : Set Bytes} (hdigest : Set.InjOn crypto.digest S) {v w : Json}
    {d : JsString} (hv : canonicalDigest crypto v = .ok d) (hw : canonicalDigest crypto w = .ok d)
    (hvS : ∀ bytes, canonicalBytes v = .ok bytes → bytes ∈ S)
    (hwS : ∀ bytes, canonicalBytes w = .ok bytes → bytes ∈ S) : ordered v = ordered w := by
  obtain ⟨bytes, hbytes, hd⟩ := canonicalDigest_eq_ok.mp hv
  obtain ⟨bytes', hbytes', hd'⟩ := canonicalDigest_eq_ok.mp hw
  have heq := hdigest (hvS bytes hbytes) (hwS bytes' hbytes') (hd.trans hd'.symm)
  exact ordered_eq_of_canonicalBytes hbytes (heq ▸ hbytes')

theorem decodePublicKey_eq_ok {encoded : Option Json} {type : String} {bytes : Bytes} :
    decodePublicKey crypto encoded type = .ok bytes ↔
      ∃ text, encoded = some (.str text) ∧ text.length ≤ 128 ∧ base64Encode bytes = text ∧
        crypto.keyType? bytes = some (js type) := by
  simp only [decodePublicKey, bind_eq_ok, orThrow_eq_ok, ensure_eq_ok, pure_eq_ok, Json.bind_str?_eq_some,
    decide_eq_true_eq, beq_iff_eq]
  constructor
  · rintro ⟨text, he, -, hlen, -, hcanon, keyType, htype, -, rfl, rfl⟩
    exact ⟨text, he, hlen, hcanon, htype⟩
  · rintro ⟨text, he, hlen, rfl, htype⟩
    exact ⟨_, he, (), hlen, (), by rw [base64Decode_encode],
      js type, by rw [base64Decode_encode, htype], (), rfl, base64Decode_encode bytes⟩

theorem decodePublicKey_encode {bytes : Bytes} {type : String} (hlen : bytes.length ≤ 96)
    (htype : crypto.keyType? bytes = some (js type)) :
    decodePublicKey crypto (some (.str (base64Encode bytes))) type = .ok bytes := by
  refine decodePublicKey_eq_ok.mpr ⟨_, rfl, ?_, rfl, htype⟩
  rw [base64Encode_length]
  omega

theorem portId_eq_ok {publicKey : Option Json} {id : JsString} :
    portId crypto publicKey = .ok id ↔ ∃ text, publicKey = some (.str text) ∧
      id = portIdPrefix ++ crypto.digest (base64Decode text) := by
  simp only [portId, bind_eq_ok, orThrow_eq_ok, pure_eq_ok, Json.bind_str?_eq_some, eq_comm (b := id)]

theorem Identity.portId_publicKey (identity : Identity crypto) :
    portId crypto (some (.str identity.publicKey)) = .ok identity.id :=
  portId_eq_ok.mpr ⟨_, rfl, rfl⟩

theorem Identity.sign_eq_ok {identity : Identity crypto} {body envelope : Json} :
    identity.sign body = .ok envelope ↔ ∃ copy, ordered body = some copy ∧ envelope =
      .record [("body", copy), ("signature", .str (base64Encode (crypto.sign identity.key
        (utf8Encode (stringify copy)))))] := by
  simp only [Identity.sign, bind_eq_ok, snapshot_eq_ok, canonicalBytes_eq_ok, pure_eq_ok]
  constructor
  · rintro ⟨copy, hcopy, bytes, ⟨w, hw, rfl⟩, rfl⟩
    rw [ordered_ordered hcopy, Option.some.injEq] at hw
    exact ⟨copy, hcopy, by rw [hw]⟩
  · rintro ⟨copy, hcopy, rfl⟩
    exact ⟨copy, hcopy, _, ⟨copy, ordered_ordered hcopy, rfl⟩, rfl⟩

/-- A verified envelope carries its body's snapshot, signed under the key of the expected id. -/
theorem verifyEnvelope_ok {envelope body : Json} {expectedId publicKey : Option Json}
    (h : verifyEnvelope crypto envelope expectedId publicKey = .ok body) :
    ∃ raw id key signature, envelope.get "body" = some raw ∧ ordered raw = some body ∧
      expectedId = some (.str id) ∧ portId crypto publicKey = .ok id ∧
      decodePublicKey crypto publicKey "ed25519" = .ok key ∧
      envelope.get "signature" = some (.str (base64Encode signature)) ∧
      crypto.verify (utf8Encode (stringify body)) key signature = true := by
  simp only [verifyEnvelope, bind_eq_ok, orThrow_eq_ok, ensure_eq_ok, snapshot_eq_ok,
    canonicalBytes_eq_ok, Json.bind_str?_eq_some, Bool.and_eq_true, beq_iff_eq] at h
  obtain ⟨-, -, id, hid, -, hexpected, text, htext, -, -, -, ⟨-, hcanon⟩, raw, hraw, bytes,
    ⟨w, hw, rfl⟩, key, hkey, -, hverify, hbody⟩ := h
  rw [hbody, Option.some.injEq] at hw
  subst hw
  have hexpected := (Json.opt_eq_of_beq hexpected).symm
  exact ⟨raw, id, key, _, hraw, hbody, hexpected, hid, hkey, by rw [htext, hcanon], hverify⟩

/-- An envelope the identity signed verifies under its id and key. -/
theorem verifyEnvelope_sign {identity : Identity crypto} {body copy envelope : Json}
    (hcopy : ordered body = some copy) (hsign : identity.sign body = .ok envelope) :
    verifyEnvelope crypto envelope (some (.str identity.id)) (some (.str identity.publicKey)) =
      .ok copy := by
  obtain ⟨copy', hcopy', rfl⟩ := Identity.sign_eq_ok.mp hsign
  rw [hcopy, Option.some.injEq] at hcopy'
  subst hcopy'
  have hfields : exactFields (some (.record [("body", copy), ("signature", .str (base64Encode
      (crypto.sign identity.key (utf8Encode (stringify copy)))))])) ["body", "signature"] = .ok () := by
    refine exactFields_of_keys ?_ (by decide) (fun k => Iff.rfl)
    simp
  have hbytes : canonicalBytes copy = .ok (utf8Encode (stringify copy)) :=
    canonicalBytes_eq_ok.mpr ⟨copy, ordered_ordered hcopy, rfl⟩
  have hkey : decodePublicKey crypto (some (.str identity.publicKey)) "ed25519" =
      .ok (crypto.signingPublic identity.key) :=
    decodePublicKey_encode (crypto.signingPublic_length _) (crypto.signingPublic_type _)
  simp only [verifyEnvelope, bind_eq_ok, orThrow_eq_ok, ensure_eq_ok, snapshot_eq_ok,
    Json.bind_str?_eq_some, Json.get_record, Bool.and_eq_true, beq_iff_eq]
  refine ⟨(), hfields, identity.id, identity.portId_publicKey, (), by simp, _, rfl, (), ?_, (), ?_,
    copy, rfl, _, hbytes, _, hkey, (), ?_, ordered_ordered hcopy⟩
  · rw [base64Encode_length, crypto.sign_length]
  · rw [base64Decode_encode]
    exact ⟨crypto.sign_length _ _, rfl⟩
  · rw [base64Decode_encode]
    exact crypto.verify_sign _ _

theorem safeInteger?_ordered (v : Option Json) :
    (v.bind ordered).bind Json.safeInteger? = v.bind Json.safeInteger? := by
  rcases v with _ | (_ | _ | x | _ | items | fields)
  · rfl
  · rfl
  · rfl
  · rw [Option.bind_some, Option.bind_some, ordered]
    split
    · rfl
    · rename_i hx
      simpa [Json.safeInteger?] using Eq.symm (by simpa using hx)
  · rfl
  · cases h : orderedItems items <;> simp [ordered, h, Json.safeInteger?]
  · cases h : orderedFields fields <;> simp [ordered, h, Json.safeInteger?]

/-- Taking a snapshot keeps the safe integers. -/
theorem integerField_ordered {v w : Json} (h : ordered v = some w) (name : String) :
    integerField w name = integerField v name := by
  rw [integerField, get_ordered h, safeInteger?_ordered, integerField]

theorem signedBody_eq {envelope raw body : Json} (hraw : envelope.get "body" = some raw)
    (hbody : ordered raw = some body) (henvelope : (ordered envelope).isSome = true) :
    signedBody envelope = body := by
  obtain ⟨copy, hcopy⟩ := Option.isSome_iff_exists.mp henvelope
  rw [signedBody, hcopy, Option.bind_some, get_ordered hcopy, hraw, Option.bind_some, hbody, Option.getD_some]

theorem lifetimeOk_iff {body : Json} {now longest : ℤ} :
    lifetimeOk body now longest = true ↔ ∃ issuedAt expiresAt,
      integerField body "issuedAt" = some issuedAt ∧ integerField body "expiresAt" = some expiresAt ∧
      issuedAt ≤ now ∧ now < expiresAt ∧ expiresAt - issuedAt ≤ longest ∧ issuedAt < expiresAt := by
  unfold lifetimeOk
  cases integerField body "issuedAt" <;> cases integerField body "expiresAt" <;> simp [and_assoc]

theorem revisionOk_iff {body : Json} :
    revisionOk body = true ↔ ∃ revision, integerField body "revision" = some revision ∧ 1 ≤ revision := by
  unfold revisionOk
  cases integerField body "revision" <;> simp

/-- What a peer record that verifies at `now` says of its port. -/
structure PeerVerified (crypto : Crypto) (peer : Json) (now : ℤ) (id publicKey : JsString) : Prop where
  portId_eq : peer.get "portId" = some (.str id)
  publicKey_eq : peer.get "publicKey" = some (.str publicKey)
  id_eq : id = portIdPrefix ++ crypto.digest (base64Decode publicKey)
  revision : revisionOk peer = true
  lifetime : lifetimeOk peer now 300000 = true

theorem verifyPeerRecord_ok {record peer : Json} {now : ℤ} {expectedId : Option Json}
    (h : verifyPeerRecord crypto record now expectedId = .ok peer) :
    ∃ raw id publicKey, record.get "body" = some raw ∧ ordered raw = some peer ∧
      PeerVerified crypto peer now id publicKey ∧ ∀ expected, expectedId = some (.str expected) → expected = id := by
  simp only [verifyPeerRecord, bind_eq_ok, orThrow_eq_ok, pure_eq_ok, Option.filter_eq_some_iff] at h
  obtain ⟨raw, ⟨hraw, -⟩, verified, hverified, ⟨⟩, hrecord, rfl⟩ := h
  obtain ⟨raw', id', -, -, hraw', hordered, hexpected, hid', -⟩ := verifyEnvelope_ok hverified
  rw [hraw, Option.some.injEq] at hraw'
  subst hraw'
  simp only [assertRecord, bind_eq_ok, ensure_eq_ok, Bool.and_eq_true, Json.some_beq_str_iff] at hrecord
  obtain ⟨-, -, -, -, id, hid, -, ⟨⟨hport, hrev⟩, hlife⟩, -⟩ := hrecord
  obtain ⟨publicKey, hkey, rfl⟩ := portId_eq_ok.mp hid
  refine ⟨raw, _, publicKey, hraw, hordered, ⟨hport, hkey, rfl, hrev, hlife⟩, ?_⟩
  rintro expected rfl
  have hraw_key : raw.get "publicKey" = some (.str publicKey) := by
    rw [get_ordered hordered] at hkey
    obtain ⟨v, hv, hvs⟩ := Option.bind_eq_some_iff.mp hkey
    rw [hv, ordered_eq_str hvs]
  rw [hraw_key] at hid'
  obtain ⟨text, htext, hid'⟩ := portId_eq_ok.mp hid'
  simp only [Option.some.injEq, Json.str.injEq] at htext hexpected
  rw [hexpected, hid', ← htext]

/-- What an identity signs is an envelope around the snapshot of its body. -/
theorem Identity.sign_parts {identity : Identity crypto} {body record copy : Json}
    (hsign : identity.sign body = .ok record) (hcopy : ordered body = some copy) :
    record.get "body" = some copy ∧ signedBody record = copy ∧ (ordered record).isSome = true := by
  obtain ⟨copy', hcopy', rfl⟩ := Identity.sign_eq_ok.mp hsign
  rw [hcopy, Option.some.injEq] at hcopy'
  subst hcopy'
  have hordered : (ordered (.record [("body", copy), ("signature", .str (base64Encode (crypto.sign identity.key
      (utf8Encode (stringify copy)))))])).isSome = true := by
    refine ordered_record_isSome.mpr ?_
    simp [ordered_ordered hcopy]
  exact ⟨rfl, signedBody_eq rfl (ordered_ordered hcopy) hordered, hordered⟩

/-- A signed body that names its port and its key verifies whenever its snapshot is a record. -/
theorem verifyPeerRecord_sign {identity : Identity crypto} {body record copy : Json} {now : ℤ}
    (hsign : identity.sign body = .ok record) (hcopy : ordered body = some copy) (htruthy : copy.truthy = true)
    (hport : copy.get "portId" = some (.str identity.id))
    (hkey : copy.get "publicKey" = some (.str identity.publicKey)) (hrecord : assertRecord crypto copy now = .ok ()) :
    verifyPeerRecord crypto record now none = .ok copy := by
  obtain ⟨hbody, -, -⟩ := Identity.sign_parts hsign hcopy
  have hverified := verifyEnvelope_sign hcopy hsign
  simp only [verifyPeerRecord, bind_eq_ok, orThrow_eq_ok, pure_eq_ok, Option.filter_eq_some_iff]
  exact ⟨copy, ⟨hbody, htruthy⟩, copy, by rw [hport, hkey]; exact hverified, (), hrecord, rfl⟩

/-- The digests of a port id hold no separator, so neither do port ids. -/
theorem bar_not_mem_portId (bytes : Bytes) : (124 : UInt16) ∉ portIdPrefix ++ crypto.digest bytes := by
  have hdigest := Regex.not_mem_of_accepts (crypto.digest_hex bytes) (show hex64.uses 124 = false by decide)
  have hhead : (124 : UInt16) ∉ portIdPrefix := by decide +kernel
  simpa [List.mem_append] using ⟨hhead, hdigest⟩

end

end Native
