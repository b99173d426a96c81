import StrataPortNetwork.Native.Identity
import StrataPortNetwork.Js.Map

/-! # Native sessions

The owner policy, the signed offer and acceptance, and the sealed channel between two
ports. What the code draws at random, the session id and the ephemeral keys, is an
argument. A session is its fixed part and a `Channel` with its counters; a policy is
passed to each call in the state it has then.
-/
namespace Native
open Js

def suite : String := "ED25519_X25519_HKDF_SHA256_AES256GCM_V1"
def frameCap : ℤ := 4 * 1024 * 1024
def frameSchema : String := "kindred.sdpn.native-frame.v1"

/-- `scope(value)`. -/
def scope (value : Option Json) : Outcome Unit := do
  exactFields value ["stateSha256", "maxBytes"]
  let value := value.getD .null
  ensureTest hex64 (value.get "stateSha256") (.error "Session state scope rejected") .typeError
  ensure ((integerField value "maxBytes").any fun n => 1 ≤ n && n ≤ frameCap)
    (.error "Session state scope rejected")

/-- `/^[a-z][a-z0-9./\-]{0,63}$/` -/
def adapterIdPattern : Regex :=
  .seq (.run Regex.lower 1 1) (.run (Regex.lower ++ Regex.digits ++ [(46, 46), (47, 47), (45, 45)]) 0 63)

/-- `/^[A-Z][A-Z0-9_]{0,63}$/` -/
def substratePattern : Regex :=
  .seq (.run Regex.upper 1 1) (.run (Regex.upper ++ Regex.digits ++ [(95, 95)]) 0 63)

def isBool : Option Json → Bool
  | some (.bool _) => true
  | _ => false

def validateAdapterDescriptor (adapter : Option Json) : Outcome Unit := do
  exactFields adapter ["id", "substrate", "underlyingIp", "underlyingRouting"]
  let adapter := adapter.getD .null
  ensureTest adapterIdPattern (adapter.get "id") (.error "Adapter dependency disclosure rejected") .typeError
  ensureTest substratePattern (adapter.get "substrate") (.error "Adapter dependency disclosure rejected")
    .typeError
  ensure (isBool (adapter.get "underlyingIp") && isBool (adapter.get "underlyingRouting"))
    (.error "Adapter dependency disclosure rejected")

/-! ## The owner policy -/

structure NativeSessionPolicy where
  peers : List JsString
  adapters : List JsString
  states : List JsString
  capacity : ℕ
  revoked : List JsString
  used : JsMap Json ℤ

namespace NativeSessionPolicy
variable (crypto : Crypto)

def strings? (v : Json) (pattern : Regex) : Option (List JsString) :=
  v.items?.bind fun items => items.mapM fun item => item.str?.filter pattern.accepts

/-- The constructor. -/
def create (authorizedPeers permittedStates permittedAdapters replayCapacity : Json) :
    Outcome NativeSessionPolicy := do
  let peers ← orThrow ((strings? authorizedPeers portIdPattern).filter (·.length ≤ 4096))
    (.error "Explicit owner policy required")
  let states ← orThrow ((strings? permittedStates hex64).filter (·.length ≤ 4096))
    (.error "Explicit owner policy required")
  let adapters ← orThrow (permittedAdapters.items?.filter fun items => 1 ≤ items.length && items.length ≤ 16)
    (.error "Explicit owner policy required")
  let capacity ← orThrow (replayCapacity.safeInteger?.filter fun n => 1 ≤ n && n ≤ 4096)
    (.error "Explicit owner policy required")
  ensureAll (fun adapter => validateAdapterDescriptor (some adapter)) adapters
  let digests ← adapters.mapM (canonicalDigest crypto)
  pure ⟨peers, digests, states, capacity.toNat, [], JsMap.empty⟩

/-- `policy.authorize(peer, state, adapter)`. -/
def authorize (policy : NativeSessionPolicy) (peer : JsString) (state adapter : Option Json) :
    Outcome Unit := do
  scope state
  validateAdapterDescriptor adapter
  ensure (policy.peers.contains peer && !policy.revoked.contains peer &&
      ((state.bind (·.get "stateSha256")).bind Json.str?).any policy.states.contains)
    (.error "Deterministic owner policy denied")
  let adapterDigest ← canonicalDigest crypto (adapter.getD .null)
  ensure (policy.adapters.contains adapterDigest) (.error "Deterministic owner policy denied")

/-- `policy.revoke(peer)`. -/
def revoke (policy : NativeSessionPolicy) (peer : JsString) : Outcome NativeSessionPolicy := do
  ensure (policy.peers.contains peer) (.error "Unknown policy peer")
  pure { policy with revoked := peer :: policy.revoked }

def pruned (policy : NativeSessionPolicy) (now : ℤ) : JsMap Json ℤ := policy.used.filter (now < ·)

/-- `policy.consume(id, expiresAt, now)`: expired ids are dropped even if it throws. -/
def consume (policy : NativeSessionPolicy) (id : Json) (expiresAt now : ℤ) :
    Outcome Unit × NativeSessionPolicy :=
  let used := policy.pruned now
  if used.has id || policy.capacity ≤ used.size then
    (.error (.error "Session replay/capacity rejected"), { policy with used := used })
  else (.ok (), { policy with used := used.set id expiresAt })

end NativeSessionPolicy

/-! ## Controls -/

inductive Kind
  | offer
  | accept

def Kind.schema : Kind → String
  | offer => "kindred.sdpn.session-offer.v1"
  | accept => "kindred.sdpn.session-accept.v1"

def Kind.fields : Kind → List String
  | offer => ["schema", "suite", "sessionId", "fromPort", "toPort", "issuedAt", "expiresAt",
      "ephemeralKey", "scope", "adapter"]
  | accept => ["schema", "suite", "sessionId", "fromPort", "toPort", "issuedAt", "expiresAt",
      "ephemeralKey", "scope", "adapter", "offerSha256"]

section
variable (crypto : Crypto)

/-- `control(body, now, kind)`. -/
def control (body : Json) (now : ℤ) (kind : Kind) : Outcome Unit := do
  exactFields (some body) kind.fields
  ensure (body.get "schema" == some (.text kind.schema) && body.get "suite" == some (.text suite))
    (.error "Native session control rejected")
  ensureTest hex32 (body.get "sessionId") (.error "Native session control rejected") .typeError
  ensure (lifetimeOk body now 30000) (.error "Native session control rejected")
  scope (body.get "scope")
  validateAdapterDescriptor (body.get "adapter")
  let _ ← decodePublicKey crypto (body.get "ephemeralKey") "x25519"
  pure ()

/-- `envelope.body`, on the way to one of its fields. -/
def bodyOf (envelope : Json) : Outcome Json :=
  orThrow ((envelope.get "body").filter (!·.isNull)) .typeError

def ephemeralKey (key : crypto.AgreementKey) : JsString := base64Encode (crypto.agreementPublic key)

/-! ## The sealed channel -/

/-- The fixed part of a connected session. -/
structure Session where
  localPort : JsString
  peerPort : JsString
  offerBody : Json
  acceptBody : Json
  send : crypto.SessionKey
  receive : crypto.SessionKey

/-- Counters and end of a session. Closing also zeroes both keys, which a closed session
never reads again. -/
structure Channel where
  tx : ℕ
  rx : ℕ
  closed : Bool

def Channel.fresh : Channel := ⟨0, 0, false⟩

/-- `suite + '|' + from + '|' + to` -/
def keyLabel (sender receiver : JsString) : Bytes :=
  utf8Encode (js suite ++ 124 :: (sender ++ 124 :: receiver))

/-- `connected(privateKey, peerKey, offer, accept, policy, local, peer)`. -/
def connected (privateKey : crypto.AgreementKey) (peerKey : Option Json) (offer accept : Json)
    (localPort peerPort : JsString) : Outcome (Session crypto) := do
  let offer ← snapshot offer
  let accept ← snapshot accept
  let peerKey ← decodePublicKey crypto peerKey "x25519"
  let shared ← orThrow (crypto.diffieHellman privateKey peerKey) .crypto
  let offerBytes ← canonicalBytes offer
  let acceptBytes ← canonicalBytes accept
  let salt := hexDecode (crypto.digest (offerBytes ++ acceptBytes))
  let offerBody ← bodyOf offer
  let acceptBody ← bodyOf accept
  pure ⟨localPort, peerPort, offerBody, acceptBody,
    crypto.hkdf shared salt (keyLabel localPort peerPort), crypto.hkdf shared salt (keyLabel peerPort localPort)⟩

end

namespace Session
variable {crypto : Crypto} (session : Session crypto)

def id : Option Json := session.offerBody.get "sessionId"
def scope : Option Json := session.offerBody.get "scope"
def adapter : Option Json := session.offerBody.get "adapter"
def maxBytes : ℤ := ((session.scope.bind fun scope => integerField scope "maxBytes")).getD 0

/-- `Math.min(offer.body.expiresAt, accept.body.expiresAt)`; `none` is the `NaN` of a
field that is no number. -/
def expiresAt : Option ℤ :=
  (integerField session.offerBody "expiresAt").bind fun x =>
    (integerField session.acceptBody "expiresAt").map fun y => min x y

/-- `active(now)`. -/
def active (channel : Channel) (policy : NativeSessionPolicy) (now : ℤ) : Outcome Unit := do
  ensure (!channel.closed && !session.expiresAt.any (· ≤ now)) (.error "Native session closed/expired")
  policy.authorize crypto session.peerPort session.scope session.adapter

/-- `nonce(n)`: the counter in the last eight of twelve bytes, most significant first. -/
def nonce (n : ℕ) : Bytes :=
  [0, 0, 0, 0] ++ ((List.range 8).map fun i => UInt8.ofNat (n / 256 ^ (7 - i)))

/-- `aad(from, to, sequence)`. -/
def aad (sender receiver : JsString) (sequence : ℕ) : Outcome Bytes := do
  let id ← orThrow session.id .typeError
  let state ← orThrow (session.scope.bind (·.get "stateSha256")) .typeError
  canonicalBytes (.record [("schema", .text frameSchema), ("sessionId", id), ("from", .str sender),
    ("to", .str receiver), ("sequence", .int sequence), ("stateSha256", state)])

end Session

/-- One use of the cipher by `seal`. -/
structure Sealing (crypto : Crypto) where
  key : crypto.SessionKey
  sequence : ℕ
  aad : Bytes
  bytes : Bytes

namespace Sealing
variable {crypto : Crypto} (sealing : Sealing crypto)

def nonce : Bytes := Session.nonce sealing.sequence
def ciphertext : Bytes := (crypto.encrypt sealing.key sealing.nonce sealing.aad sealing.bytes).1
def tag : Bytes := (crypto.encrypt sealing.key sealing.nonce sealing.aad sealing.bytes).2

end Sealing

/-- A frame that passed the ordering and encoding checks. -/
structure Received where
  ciphertext : Bytes
  tag : Bytes
  aad : Bytes

namespace Session
variable {crypto : Crypto} (session : Session crypto)

/-- The frame that `seal` returns for a use of the cipher. -/
def frame (sealing : Sealing crypto) : Json :=
  .record [("schema", .text frameSchema), ("sessionId", session.id.getD .null),
    ("sequence", .int sealing.sequence), ("ciphertext", .str (base64Encode sealing.ciphertext)),
    ("tag", .str (base64Encode sealing.tag))]

/-- `session.seal(bytes, now)`; `none` is a value that is no `Uint8Array`. -/
def sealBytes (channel : Channel) (policy : NativeSessionPolicy) (bytes : Option Bytes) (now : ℤ) :
    Outcome (Sealing crypto × Channel) := do
  session.active channel policy now
  let bytes ← orThrow bytes (.error "Native frame quota")
  ensure (bytes.length ≤ session.maxBytes && channel.tx < 1024) (.error "Native frame quota")
  let aad ← session.aad session.localPort session.peerPort channel.tx
  pure (⟨session.send, channel.tx, aad, bytes⟩, { channel with tx := channel.tx + 1 })

/-- The checks of `session.open(frame, now)` before it decrypts. -/
def receives (channel : Channel) (policy : NativeSessionPolicy) (frame : Json) (now : ℤ) :
    Outcome Received := do
  session.active channel policy now
  exactFields (some frame) ["schema", "sessionId", "sequence", "ciphertext", "tag"]
  ensure (frame.get "schema" == some (.text frameSchema) && frame.get "sessionId" == session.id &&
      frame.get "sequence" == some (.int channel.rx) && channel.rx < 1024)
    (.error "Native frame ordering/bounds rejected")
  let ciphertext ← orThrow ((frame.get "ciphertext").bind Json.str?)
    (.error "Native frame ordering/bounds rejected")
  ensure (ciphertext.length ≤ (session.maxBytes + 2) / 3 * 4) (.error "Native frame ordering/bounds rejected")
  let tag ← orThrow ((frame.get "tag").bind Json.str?) (.error "Native frame ordering/bounds rejected")
  ensure ((base64Decode ciphertext).length ≤ session.maxBytes &&
      base64Encode (base64Decode ciphertext) == ciphertext &&
      (base64Decode tag).length == 16 && base64Encode (base64Decode tag) == tag)
    (.error "Native frame encoding rejected")
  let aad ← session.aad session.peerPort session.localPort channel.rx
  pure ⟨base64Decode ciphertext, base64Decode tag, aad⟩

abbrev Decrypt (crypto : Crypto) := crypto.SessionKey → Bytes → Bytes → Bytes → Bytes → Option Bytes

/-- `session.open(frame, now)`. A frame that fails authentication closes the session. -/
def openFrame (decrypt : Decrypt crypto) (channel : Channel) (policy : NativeSessionPolicy) (frame : Json)
    (now : ℤ) : Outcome Bytes × Channel :=
  match session.receives channel policy frame now with
  | .error e => (.error e, channel)
  | .ok received =>
    match decrypt session.receive (nonce channel.rx) received.aad received.ciphertext received.tag with
    | some bytes => (.ok bytes, { channel with rx := channel.rx + 1 })
    | none => (.error (.error "Native frame authentication rejected"), { channel with closed := true })

/-- `session.close()`. -/
def close (channel : Channel) : Channel := { channel with closed := true }

end Session

/-! ## Offer, acceptance and finish -/

section
variable (crypto : Crypto)

/-- `peer.portId` of a verified record. -/
def peerPort (peer : Json) : JsString := ((peer.get "portId").bind Json.str?).getD []

def advertises (peer : Json) : Bool :=
  match peer.get "capabilities" with
  | some (.arr items) => items.any (· == .text "native.materialize.v1")
  | _ => false

/-- A pending offer. The caller holds `envelope`, `state` and `adapter` and may change
them; the other fields live in the closure. -/
structure Offer where
  identity : Identity crypto
  peer : Json
  key : crypto.AgreementKey
  envelope : Json
  state : Json
  adapter : Json
  finished : Bool

def hexEncode (bytes : Bytes) : JsString :=
  bytes.flatMap fun b => [hexDigit (b.toNat / 16), hexDigit (b.toNat % 16)]

theorem has_hexDigit {d : ℕ} (h : d < 16) : CharClass.has Regex.hex (hexDigit d) = true := by
  interval_cases d <;> decide

theorem hexEncode_accepts {bytes : Bytes} (h : bytes.length = 16) : hex32.accepts (hexEncode bytes) = true := by
  have hlength : ∀ bytes, (hexEncode bytes).length = 2 * bytes.length := by
    intro bytes
    induction bytes with
    | nil => rfl
    | cons b rest ih =>
      simp only [hexEncode, List.flatMap_cons, List.length_append, List.length_cons, List.length_nil] at ih ⊢
      omega
  refine (Regex.accepts_iff _ _).mpr (Regex.Matches.run ?_ (by rw [hlength, h]) (by rw [hlength, h]))
  intro u hu
  obtain ⟨b, -, hb⟩ := List.mem_flatMap.mp hu
  have hbyte := b.toNat_lt
  rcases List.mem_cons.mp hb with rfl | hb
  · exact has_hexDigit (by omega)
  · rw [List.mem_singleton.mp hb]
    exact has_hexDigit (by omega)

/-- `offerNativeSession(identity, peerRecord, state, adapter, policy, now)`, with the
random session bytes and ephemeral key. -/
def offerNativeSession (identity : Identity crypto) (peerRecord state adapter : Json)
    (policy : NativeSessionPolicy) (now : ℤ) (sessionBytes : Bytes) (key : crypto.AgreementKey) :
    Outcome (Offer crypto) := do
  let peer ← verifyPeerRecord crypto peerRecord now none
  ensure (advertises peer) (.error "Native capability not advertised")
  policy.authorize crypto (peerPort peer) (some state) (some adapter)
  validateAdapterDescriptor (some adapter)
  let envelope ← identity.sign (.record [("schema", .text Kind.offer.schema), ("suite", .text suite),
    ("sessionId", .str (hexEncode sessionBytes)), ("fromPort", .str identity.id),
    ("toPort", .str (peerPort peer)), ("issuedAt", .int now), ("expiresAt", .int (now + 30000)),
    ("ephemeralKey", .str (ephemeralKey crypto key)), ("scope", state), ("adapter", adapter)])
  pure ⟨identity, peer, key, envelope, state, adapter, false⟩

/-- The checks of `finish` on an acceptance, with the body they verify. -/
def Offer.binds (offer : Offer crypto) (accept : Json) (now : ℤ) : Outcome Json := do
  let body ← verifyEnvelope crypto accept (offer.peer.get "portId") (offer.peer.get "publicKey")
  control crypto body now .accept
  ensure (body.get "fromPort" == offer.peer.get "portId" && body.get "toPort" == some (.str offer.identity.id))
    (.error "Native acceptance binding rejected")
  let own ← bodyOf offer.envelope
  ensure (body.get "sessionId" == own.get "sessionId") (.error "Native acceptance binding rejected")
  let offerSha256 ← canonicalDigest crypto offer.envelope
  ensure (body.get "offerSha256" == some (.str offerSha256) && body.get "expiresAt" == own.get "expiresAt")
    (.error "Native acceptance binding rejected")
  let bodyScope ← canonicalDigest crypto ((body.get "scope").getD .null)
  let state ← canonicalDigest crypto offer.state
  ensure (bodyScope == state) (.error "Native acceptance binding rejected")
  let bodyAdapter ← canonicalDigest crypto ((body.get "adapter").getD .null)
  let adapter ← canonicalDigest crypto offer.adapter
  ensure (bodyAdapter == adapter) (.error "Native acceptance binding rejected")
  pure body

/-- `offer.finish(accept, at)`: a bound and authorised acceptance consumes the offer, also
when connecting then fails. -/
def Offer.finish (offer : Offer crypto) (policy : NativeSessionPolicy) (accept : Json) (now : ℤ) :
    Outcome (Session crypto) × Offer crypto :=
  let checked : Outcome Json := do
    ensure (!offer.finished) (.error "Native offer already consumed")
    let body ← offer.binds crypto accept now
    policy.authorize crypto (peerPort offer.peer) (some offer.state) (some offer.adapter)
    pure body
  match checked with
  | .error e => (.error e, offer)
  | .ok body => (connected crypto offer.key (body.get "ephemeralKey") offer.envelope accept
      offer.identity.id (peerPort offer.peer), { offer with finished := true })

/-- `offer.cancel()`. -/
def Offer.cancel (offer : Offer crypto) : Offer crypto := { offer with finished := true }

/-- The checks of `acceptNativeSession` before it consumes the session id. -/
def acceptable (identity : Identity crypto) (offer peerRecord : Json) (policy : NativeSessionPolicy)
    (adapter : Json) (now : ℤ) : Outcome (Json × Json) := do
  let peer ← verifyPeerRecord crypto peerRecord now none
  ensure (advertises peer) (.error "Native capability not advertised")
  let body ← verifyEnvelope crypto offer (peer.get "portId") (peer.get "publicKey")
  control crypto body now .offer
  ensure (body.get "fromPort" == peer.get "portId" && body.get "toPort" == some (.str identity.id))
    (.error "Native destination/adapter binding rejected")
  let bodyAdapter ← canonicalDigest crypto ((body.get "adapter").getD .null)
  let adapterDigest ← canonicalDigest crypto adapter
  ensure (bodyAdapter == adapterDigest) (.error "Native destination/adapter binding rejected")
  policy.authorize crypto (peerPort peer) (body.get "scope") (some adapter)
  pure (peer, body)

/-- The signed acceptance of an offer body and its session. -/
def answer (identity : Identity crypto) (offer peer body : Json) (now : ℤ) (key : crypto.AgreementKey) :
    Outcome (Json × Session crypto) := do
  let offerSha256 ← canonicalDigest crypto offer
  let accepted := (((((body.set "schema" (.text Kind.accept.schema)).set "fromPort" (.str identity.id)).set
    "toPort" (.str (peerPort peer))).set "issuedAt" (.int now)).set "ephemeralKey"
      (.str (ephemeralKey crypto key))).set "offerSha256" (.str offerSha256)
  let envelope ← identity.sign accepted
  let session ← connected crypto key (body.get "ephemeralKey") offer envelope identity.id (peerPort peer)
  pure (envelope, session)

/-- `acceptNativeSession(identity, offer, peerRecord, policy, adapter, now)`, with the
random ephemeral key. The session id stays consumed when signing or connecting fails. -/
def acceptNativeSession (identity : Identity crypto) (offer peerRecord : Json)
    (policy : NativeSessionPolicy) (adapter : Json) (now : ℤ) (key : crypto.AgreementKey) :
    Outcome (Json × Session crypto) × NativeSessionPolicy :=
  match acceptable crypto identity offer peerRecord policy adapter now with
  | .error e => (.error e, policy)
  | .ok (peer, body) =>
    match policy.consume ((body.get "sessionId").getD .null) ((integerField body "expiresAt").getD 0) now with
    | (.error e, policy) => (.error e, policy)
    | (.ok (), policy) => (answer crypto identity offer peer body now key, policy)

end

end Native
