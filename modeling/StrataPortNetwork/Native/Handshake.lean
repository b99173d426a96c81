import StrataPortNetwork.Native.Sample

/-! # One handshake

The three calls of a handshake and what their success says of the two sessions: their
ports mirror each other, their bodies are the signed ones, and their keys are derived
from one label for each direction.
-/
namespace Native
open Js

/-! ## The session id -/

theorem length_of_hex32 {s : JsString} (h : hex32.accepts s = true) : s.length = 32 := by
  cases (Regex.accepts_iff _ _).mp h with
  | run _ hl hm => omega

theorem sign_mem_sciText (n : ℕ) (x : ℤ) : (if x < 0 then (45 : UInt16) else 43) ∈ sciText n x := by
  simp [sciText]

/-- No number prints as thirty-two hexadecimal digits. -/
theorem hex32_number (x : JsNumber) : hex32.accepts x.toText = false := by
  rw [Bool.eq_false_iff]
  intro h
  have hsign : ∀ y : ℤ, (if y < 0 then (45 : UInt16) else 43) ∉ x.toText := by
    intro y
    refine Regex.not_mem_of_accepts h ?_
    split <;> decide
  cases x with
  | int i =>
    by_cases hi : i.natAbs < 10 ^ 21
    · have hlen := length_of_hex32 h
      have hdigits : digitCount i.natAbs ≤ 21 := by
        unfold digitCount
        rcases Nat.eq_zero_or_pos i.natAbs with hz | hpos
        · simp [hz]
        · have := (Nat.log_lt_iff_lt_pow (by omega) (by omega)).mpr hi
          omega
      simp only [JsNumber.toText, unsignedText, if_pos hi, natText, List.length_append, length_padText] at hlen
      split at hlen <;> simp only [List.length_cons, List.length_nil] at hlen <;> omega
    · refine hsign (digitCount i.natAbs - 1 : ℕ) ?_
      rw [JsNumber.toText, unsignedText, if_neg hi]
      exact List.mem_append_right _ (sign_mem_sciText _ _)
  | frac m e hm he =>
    by_cases hlow : -6 < (digitCount m.natAbs : ℤ) - e ∧ (digitCount m.natAbs : ℤ) - e ≤ 21
    · refine Regex.not_mem_of_accepts (u := 46) h (by decide) ?_
      rw [JsNumber.toText, fracText, if_pos hlow]
      simp
    · refine hsign ((digitCount m.natAbs : ℤ) - e - 1) ?_
      rw [JsNumber.toText, fracText, if_neg hlow]
      exact List.mem_append_right _ (sign_mem_sciText _ _)

/-- What passes as a session id is a string or an array. -/
theorem sessionId_of_test {v : Option Json} (h : hex32.test v = some true) :
    (∃ s, v = some (.str s)) ∨ ∃ items, v = some (.arr items) := by
  rcases v with _ | (_ | (_ | _) | x | s | items | fields)
  · exact absurd h (by decide +kernel)
  · exact absurd h (by decide +kernel)
  · exact absurd h (by decide +kernel)
  · exact absurd h (by decide +kernel)
  · have hx : hex32.test (some (.num x)) = some (hex32.accepts x.toText) := rfl
    rw [hx, hex32_number] at h
    exact absurd h (by simp)
  · exact Or.inl ⟨s, rfl⟩
  · exact Or.inr ⟨items, rfl⟩
  · rw [Regex.test, Json.toStr?] at h
    split at h
    · exact absurd h (by simp)
    · exact absurd h (by decide +kernel)

/-! ## Inversions -/

section
variable {crypto : Crypto}

/-- The salt of the key schedule. -/
def keySalt (crypto : Crypto) (offer accept : Json) : Bytes :=
  hexDecode (crypto.digest (utf8Encode (stringify offer) ++ utf8Encode (stringify accept)))

theorem bodyOf_eq_ok {envelope body : Json} (h : bodyOf envelope = .ok body) :
    envelope.get "body" = some body := by
  simp only [bodyOf, orThrow_eq_ok, Option.filter_eq_some_iff] at h
  exact h.1

theorem connected_ok {privateKey : crypto.AgreementKey} {peerKey : Option Json} {offer accept : Json}
    {localPort peerPort : JsString} {session : Session crypto}
    (h : connected crypto privateKey peerKey offer accept localPort peerPort = .ok session) :
    ∃ offer' accept' key shared offerBody acceptBody, ordered offer = some offer' ∧
      ordered accept = some accept' ∧ decodePublicKey crypto peerKey "x25519" = .ok key ∧
      crypto.diffieHellman privateKey key = some shared ∧ offer'.get "body" = some offerBody ∧
      accept'.get "body" = some acceptBody ∧
      session = ⟨localPort, peerPort, offerBody, acceptBody,
        crypto.hkdf shared (keySalt crypto offer' accept') (keyLabel localPort peerPort),
        crypto.hkdf shared (keySalt crypto offer' accept') (keyLabel peerPort localPort)⟩ := by
  simp only [connected, bind_eq_ok, snapshot_eq_ok, orThrow_eq_ok, canonicalBytes_eq_ok, pure_eq_ok] at h
  obtain ⟨offer', hoffer, accept', haccept, key, hkey, shared, hshared, -, ⟨w, hw, rfl⟩, -, ⟨w', hw', rfl⟩,
    offerBody, hofferBody, acceptBody, hacceptBody, rfl⟩ := h
  rw [ordered_ordered hoffer, Option.some.injEq] at hw
  rw [ordered_ordered haccept, Option.some.injEq] at hw'
  subst hw hw'
  exact ⟨offer', accept', key, shared, offerBody, acceptBody, hoffer, haccept, hkey, hshared,
    bodyOf_eq_ok hofferBody, bodyOf_eq_ok hacceptBody, rfl⟩

/-- A session keeps the ports it connects and derives one key for each direction. -/
theorem connected_keys {privateKey : crypto.AgreementKey} {peerKey : Option Json} {offer accept : Json}
    {localPort peerPort : JsString} {session : Session crypto}
    (h : connected crypto privateKey peerKey offer accept localPort peerPort = .ok session) :
    session.localPort = localPort ∧ session.peerPort = peerPort ∧ ∃ shared salt,
      session.send = crypto.hkdf shared salt (keyLabel localPort peerPort) ∧
      session.receive = crypto.hkdf shared salt (keyLabel peerPort localPort) := by
  obtain ⟨offer', accept', key, shared, offerBody, acceptBody, -, -, -, -, -, -, rfl⟩ := connected_ok h
  exact ⟨rfl, rfl, shared, _, rfl, rfl⟩

/-- A session reads the bodies of the signed envelopes. -/
theorem connected_bodies {privateKey : crypto.AgreementKey} {peerKey : Option Json} {offer accept : Json}
    {localPort peerPort : JsString} {session : Session crypto}
    (h : connected crypto privateKey peerKey offer accept localPort peerPort = .ok session) :
    (offer.get "body").bind ordered = some session.offerBody ∧
      (accept.get "body").bind ordered = some session.acceptBody := by
  obtain ⟨offer', accept', key, shared, offerBody, acceptBody, hoffer, haccept, -, -, hofferBody, hacceptBody, rfl⟩ :=
    connected_ok h
  exact ⟨(get_ordered hoffer "body").symm.trans hofferBody, (get_ordered haccept "body").symm.trans hacceptBody⟩

theorem scope_ok {value : Option Json} (h : scope value = .ok ()) :
    ∃ fields n state, value = some (.obj fields) ∧ integerField (.obj fields) "maxBytes" = some n ∧ 1 ≤ n ∧
      Json.get (.obj fields) "stateSha256" = some state := by
  simp only [scope, bind_eq_ok, ensure_eq_ok, ensureTest_eq_ok, exactFields_eq_ok, Option.any_eq_true,
    Bool.and_eq_true, decide_eq_true_eq] at h
  obtain ⟨-, ⟨fields, rfl, -⟩, -, htest, n, hn, hpos, -⟩ := h
  rw [Option.getD_some] at htest hn
  cases hstate : Json.get (.obj fields) "stateSha256" with
  | none =>
    rw [hstate] at htest
    exact absurd htest (by decide +kernel)
  | some state => exact ⟨fields, n, state, rfl, hn, hpos, hstate⟩

/-- An authorisation rests on the peer, the state and the digest of a valid adapter. -/
theorem authorize_eq_ok {policy : NativeSessionPolicy} {peer : JsString} {state adapter : Option Json} :
    policy.authorize crypto peer state adapter = .ok () ↔
      scope state = .ok () ∧ validateAdapterDescriptor adapter = .ok () ∧
      (policy.peers.contains peer && !policy.revoked.contains peer &&
        ((state.bind (·.get "stateSha256")).bind Json.str?).any policy.states.contains) = true ∧
      ∃ d, canonicalDigest crypto (adapter.getD .null) = .ok d ∧ policy.adapters.contains d = true := by
  simp only [NativeSessionPolicy.authorize, bind_eq_ok, ensure_eq_ok]
  constructor
  · rintro ⟨⟨⟩, hscope, ⟨⟩, hadapter, -, hpeer, d, hd, hcontains⟩
    exact ⟨hscope, hadapter, hpeer, d, hd, hcontains⟩
  · rintro ⟨hscope, hadapter, hpeer, d, hd, hcontains⟩
    exact ⟨(), hscope, (), hadapter, (), hpeer, d, hd, hcontains⟩

/-- Consuming a session id changes the replay store only. -/
theorem authorize_consume (policy : NativeSessionPolicy) (id : Json) (expiresAt now : ℤ) (peer : JsString)
    (state adapter : Option Json) : (policy.consume id expiresAt now).2.authorize crypto peer state adapter =
      policy.authorize crypto peer state adapter := by
  simp only [NativeSessionPolicy.consume]
  split <;> rfl

/-- What an accepted control says of its fields. -/
structure Controlled (crypto : Crypto) (body : Json) (now : ℤ) (kind : Kind) : Prop where
  fields : exactFields (some body) kind.fields = .ok ()
  sessionId : hex32.test (body.get "sessionId") = some true
  lifetime : lifetimeOk body now 30000 = true
  scope_ok : scope (body.get "scope") = .ok ()
  adapter_ok : validateAdapterDescriptor (body.get "adapter") = .ok ()
  key_ok : ∃ key, decodePublicKey crypto (body.get "ephemeralKey") "x25519" = .ok key

theorem control_eq_ok {body : Json} {now : ℤ} {kind : Kind} :
    control crypto body now kind = .ok () ↔ body.get "schema" = some (.text kind.schema) ∧
      body.get "suite" = some (.text suite) ∧ Controlled crypto body now kind := by
  simp only [control, bind_eq_ok, ensure_eq_ok, ensureTest_eq_ok, Bool.and_eq_true, Json.text,
    Json.some_beq_str_iff]
  constructor
  · rintro ⟨⟨⟩, hfields, -, ⟨hschema, hsuite⟩, -, hid, -, hlife, ⟨⟩, hscope, ⟨⟩, hadapter, key, hkey, -⟩
    exact ⟨hschema, hsuite, hfields, hid, hlife, hscope, hadapter, key, hkey⟩
  · rintro ⟨hschema, hsuite, hfields, hid, hlife, hscope, hadapter, key, hkey⟩
    exact ⟨(), hfields, (), ⟨hschema, hsuite⟩, (), hid, (), hlife, (), hscope, (), hadapter, key, hkey, rfl⟩

/-- What passes the checks of an acceptor. -/
structure Acceptable (crypto : Crypto) (identity : Identity crypto) (offer peerRecord : Json)
    (policy : NativeSessionPolicy) (adapter : Json) (now : ℤ) (peer body : Json) : Prop where
  record : verifyPeerRecord crypto peerRecord now none = .ok peer
  envelope : verifyEnvelope crypto offer (peer.get "portId") (peer.get "publicKey") = .ok body
  controlled : Controlled crypto body now .offer
  fromPort : body.get "fromPort" = peer.get "portId"
  toPort : body.get "toPort" = some (.str identity.id)
  adapter_eq : ∃ d, canonicalDigest crypto ((body.get "adapter").getD .null) = .ok d ∧
    canonicalDigest crypto adapter = .ok d
  authorized : policy.authorize crypto (peerPort peer) (body.get "scope") (some adapter) = .ok ()

theorem acceptable_spec {identity : Identity crypto} {offer peerRecord adapter peer body : Json}
    {policy : NativeSessionPolicy} {now : ℤ}
    (h : acceptable crypto identity offer peerRecord policy adapter now = .ok (peer, body)) :
    Acceptable crypto identity offer peerRecord policy adapter now peer body := by
  simp only [acceptable, bind_eq_ok, ensure_eq_ok, pure_eq_ok, Prod.mk.injEq, Bool.and_eq_true,
    Json.some_beq_str_iff, beq_iff_eq] at h
  obtain ⟨peer', hpeer, -, -, body', hbody, ⟨⟩, hcontrol, -, ⟨hfrom, hto⟩, d, hd, d', hd', -, rfl,
    ⟨⟩, hauth, rfl, rfl⟩ := h
  exact ⟨hpeer, hbody, (control_eq_ok.mp hcontrol).2.2, Json.opt_eq_of_beq hfrom, hto, ⟨d, hd, hd'⟩, hauth⟩

/-- The body of an acceptance before it is signed. -/
def acceptanceBody (identity : Identity crypto) (peer body : Json) (now : ℤ) (key : crypto.AgreementKey)
    (offerSha256 : JsString) : Json :=
  (((((body.set "schema" (.text Kind.accept.schema)).set "fromPort" (.str identity.id)).set
    "toPort" (.str (peerPort peer))).set "issuedAt" (.int now)).set "ephemeralKey"
      (.str (ephemeralKey crypto key))).set "offerSha256" (.str offerSha256)

theorem answer_ok {identity : Identity crypto} {offer peer body envelope : Json} {now : ℤ}
    {key : crypto.AgreementKey} {session : Session crypto}
    (h : answer crypto identity offer peer body now key = .ok (envelope, session)) :
    ∃ offerSha256, canonicalDigest crypto offer = .ok offerSha256 ∧
      identity.sign (acceptanceBody identity peer body now key offerSha256) = .ok envelope ∧
      connected crypto key (body.get "ephemeralKey") offer envelope identity.id (peerPort peer) = .ok session := by
  simp only [answer, bind_eq_ok, pure_eq_ok, Prod.mk.injEq] at h
  obtain ⟨offerSha256, hdigest, envelope', hsign, session', hconnected, rfl, rfl⟩ := h
  exact ⟨offerSha256, hdigest, hsign, hconnected⟩

theorem acceptNativeSession_ok {identity : Identity crypto} {offer peerRecord adapter envelope : Json}
    {policy policy' : NativeSessionPolicy} {now : ℤ} {key : crypto.AgreementKey} {session : Session crypto}
    (h : acceptNativeSession crypto identity offer peerRecord policy adapter now key =
      (.ok (envelope, session), policy')) :
    ∃ peer body, Acceptable crypto identity offer peerRecord policy adapter now peer body ∧
      policy.consume ((body.get "sessionId").getD .null) ((integerField body "expiresAt").getD 0) now =
        (.ok (), policy') ∧
      answer crypto identity offer peer body now key = .ok (envelope, session) := by
  unfold acceptNativeSession at h
  split at h
  · simp at h
  · rename_i peer body hchecked
    split at h
    · simp at h
    · rename_i policy'' hconsume
      simp only [Prod.mk.injEq] at h
      obtain ⟨hanswer, rfl⟩ := h
      exact ⟨peer, body, acceptable_spec hchecked, hconsume, hanswer⟩

/-- What passes the checks of `finish`. -/
structure Bound (crypto : Crypto) (offer : Offer crypto) (accept : Json) (now : ℤ) (body : Json) : Prop where
  envelope : verifyEnvelope crypto accept (offer.peer.get "portId") (offer.peer.get "publicKey") = .ok body
  controlled : Controlled crypto body now .accept
  fromPort : body.get "fromPort" = offer.peer.get "portId"
  toPort : body.get "toPort" = some (.str offer.identity.id)
  sessionId : ∃ own, bodyOf offer.envelope = .ok own ∧ (body.get "sessionId" == own.get "sessionId") = true
  offerSha256 : ∃ d, canonicalDigest crypto offer.envelope = .ok d ∧ body.get "offerSha256" = some (.str d)

theorem binds_ok {offer : Offer crypto} {accept body : Json} {now : ℤ}
    (h : offer.binds crypto accept now = .ok body) : Bound crypto offer accept now body := by
  simp only [Offer.binds, bind_eq_ok, ensure_eq_ok, pure_eq_ok, Bool.and_eq_true, Json.some_beq_str_iff] at h
  obtain ⟨body', hbody, ⟨⟩, hcontrol, -, ⟨hfrom, hto⟩, own, hown, -, hid, d, hd, -, ⟨hsha, -⟩, -, -, -, -, -,
    -, -, -, -, -, -, -, rfl⟩ := h
  exact ⟨hbody, (control_eq_ok.mp hcontrol).2.2, Json.opt_eq_of_beq hfrom, hto, ⟨own, hown, hid⟩, ⟨d, hd, hsha⟩⟩

theorem finish_ok {offer offer' : Offer crypto} {policy : NativeSessionPolicy} {accept : Json} {now : ℤ}
    {session : Session crypto} (h : offer.finish crypto policy accept now = (.ok session, offer')) :
    ∃ body, Bound crypto offer accept now body ∧ connected crypto offer.key (body.get "ephemeralKey")
      offer.envelope accept offer.identity.id (peerPort offer.peer) = .ok session := by
  simp only [Offer.finish] at h
  split at h
  · simp at h
  · rename_i body hchecked
    simp only [bind_eq_ok, ensure_eq_ok, pure_eq_ok] at hchecked
    obtain ⟨-, -, body', hbinds, -, -, rfl⟩ := hchecked
    simp only [Prod.mk.injEq] at h
    exact ⟨body', binds_ok hbinds, h.1⟩

/-- The body a verifier reads from what an identity signed. -/
theorem verifyEnvelope_signed {identity : Identity crypto} {body envelope verified : Json}
    {expectedId publicKey : Option Json} (hsign : identity.sign body = .ok envelope)
    (hverify : verifyEnvelope crypto envelope expectedId publicKey = .ok verified) :
    ordered body = some verified := by
  obtain ⟨copy, hcopy, rfl⟩ := Identity.sign_eq_ok.mp hsign
  obtain ⟨raw, -, -, -, hraw, hordered, -⟩ := verifyEnvelope_ok hverify
  rw [Json.get_record, List.lookup_cons_self, Option.some.injEq] at hraw
  rw [← hraw, ordered_ordered hcopy] at hordered
  rw [hcopy, hordered]

/-- The fields of a signed acceptance: its own, and the others from the offer's body. -/
theorem acceptance_get {identity : Identity crypto} {peer body signed raw : Json} {now : ℤ}
    {key : crypto.AgreementKey} {offerSha256 : JsString} (hbody : ordered raw = some body)
    (hsigned : ordered (acceptanceBody identity peer body now key offerSha256) = some signed) :
    signed.get "fromPort" = some (.str identity.id) ∧ signed.get "toPort" = some (.str (peerPort peer)) ∧
    signed.get "ephemeralKey" = some (.str (ephemeralKey crypto key)) ∧
    signed.get "offerSha256" = some (.str offerSha256) ∧
    ∀ name, name ∉ ["schema", "fromPort", "toPort", "issuedAt", "ephemeralKey", "offerSha256"] →
      signed.get name = body.get name := by
  have hget := get_ordered hsigned
  refine ⟨?_, ?_, ?_, ?_, ?_⟩
  · simp [hget, acceptanceBody]
  · simp [hget, acceptanceBody]
  · simp [hget, acceptanceBody]
  · simp [hget, acceptanceBody]
  · intro name hname
    simp only [List.mem_cons, List.not_mem_nil, or_false, not_or] at hname
    simp only [hget, acceptanceBody, Json.get_set, hname, if_false]
    have hfixed := get_ordered (ordered_ordered hbody) name
    exact hfixed.symm

theorem Acceptable.portId_eq {identity : Identity crypto} {offer peerRecord adapter peer body : Json}
    {policy : NativeSessionPolicy} {now : ℤ}
    (h : Acceptable crypto identity offer peerRecord policy adapter now peer body) :
    peer.get "portId" = some (.str (peerPort peer)) := by
  obtain ⟨raw, id, publicKey, -, -, hverified, -⟩ := verifyPeerRecord_ok h.record
  rw [peerPort, hverified.portId_eq]
  rfl

end

/-! ## The handshake -/

inductive End
  | offerer
  | acceptor
  deriving DecidableEq

def End.other : End → End
  | offerer => acceptor
  | acceptor => offerer

/-- The calls of one handshake, whose offer may reach the acceptor as any value and whose
envelope, scope and adapter the offering caller may have replaced before `finish`. -/
structure Handshake (crypto : Crypto) where
  offerer : Identity crypto
  acceptor : Identity crypto
  acceptorRecord : Json
  state : Json
  adapter : Json
  offerPolicy : NativeSessionPolicy
  offerTime : ℤ
  sessionBytes : Bytes
  offerKey : crypto.AgreementKey
  offer : Offer crypto
  offered : offerNativeSession crypto offerer acceptorRecord state adapter offerPolicy offerTime sessionBytes
    offerKey = .ok offer
  received : Json
  offererRecord : Json
  acceptPolicy : NativeSessionPolicy
  acceptAdapter : Json
  acceptTime : ℤ
  acceptKey : crypto.AgreementKey
  acceptance : Json
  acceptorSession : Session crypto
  consumed : NativeSessionPolicy
  accepted : acceptNativeSession crypto acceptor received offererRecord acceptPolicy acceptAdapter acceptTime
    acceptKey = (.ok (acceptance, acceptorSession), consumed)
  finalEnvelope : Json
  finalState : Json
  finalAdapter : Json
  finishPolicy : NativeSessionPolicy
  finishTime : ℤ
  offererSession : Session crypto
  finishedOffer : Offer crypto
  finished : Offer.finish crypto { offer with envelope := finalEnvelope, state := finalState, adapter := finalAdapter }
    finishPolicy acceptance finishTime = (.ok offererSession, finishedOffer)

namespace Handshake
variable {crypto : Crypto} (h : Handshake crypto)

theorem offer_eq : h.offer.identity = h.offerer ∧ h.offer.key = h.offerKey := by
  have ho := h.offered
  simp only [offerNativeSession, bind_eq_ok, pure_eq_ok] at ho
  obtain ⟨peer, -, -, -, -, -, -, -, envelope, -, hoffer⟩ := ho
  rw [← hoffer]
  exact ⟨rfl, rfl⟩

/-- Everything the success of the acceptance and of `finish` establishes. -/
theorem established : ∃ peer body signed offerSha256,
    Acceptable crypto h.acceptor h.received h.offererRecord h.acceptPolicy h.acceptAdapter h.acceptTime peer body ∧
    h.acceptPolicy.consume ((body.get "sessionId").getD .null) ((integerField body "expiresAt").getD 0)
      h.acceptTime = (.ok (), h.consumed) ∧
    canonicalDigest crypto h.received = .ok offerSha256 ∧
    ordered (acceptanceBody h.acceptor peer body h.acceptTime h.acceptKey offerSha256) = some signed ∧
    connected crypto h.acceptKey (body.get "ephemeralKey") h.received h.acceptance h.acceptor.id (peerPort peer) =
      .ok h.acceptorSession ∧
    Bound crypto { h.offer with envelope := h.finalEnvelope, state := h.finalState, adapter := h.finalAdapter }
      h.acceptance h.finishTime signed ∧
    connected crypto h.offerKey (signed.get "ephemeralKey") h.finalEnvelope h.acceptance h.offerer.id
      (peerPort h.offer.peer) = .ok h.offererSession := by
  obtain ⟨peer, body, hacceptable, hconsume, hanswer⟩ := acceptNativeSession_ok h.accepted
  obtain ⟨offerSha256, hdigest, hsign, hacceptor⟩ := answer_ok hanswer
  obtain ⟨signed, hbound, hofferer⟩ := finish_ok h.finished
  have hsigned := verifyEnvelope_signed hsign hbound.envelope
  simp only [h.offer_eq] at hofferer
  exact ⟨peer, body, signed, offerSha256, hacceptable, hconsume, hdigest, hsigned, hacceptor, hbound, hofferer⟩

/-- The peer port of each session is the other identity. -/
theorem ports : h.offererSession.localPort = h.offerer.id ∧ h.offererSession.peerPort = h.acceptor.id ∧
    h.acceptorSession.localPort = h.acceptor.id ∧ h.acceptorSession.peerPort = h.offerer.id := by
  obtain ⟨peer, body, signed, offerSha256, hacceptable, -, -, hsigned, hacceptor, hbound, hofferer⟩ := h.established
  obtain ⟨raw, -, -, -, -, hbody, -⟩ := verifyEnvelope_ok hacceptable.envelope
  obtain ⟨hfrom, hto, -⟩ := acceptance_get hbody hsigned
  have hpeer : peerPort h.offer.peer = h.acceptor.id := by
    have hport := hbound.fromPort.symm.trans hfrom
    simp only at hport
    rw [peerPort, hport]
    rfl
  have hpeer' : peerPort peer = h.offerer.id := by
    have hport := hto.symm.trans hbound.toPort
    simp only [h.offer_eq, Option.some.injEq, Json.str.injEq] at hport
    exact hport
  obtain ⟨hlocal, hremote, -⟩ := connected_keys hofferer
  obtain ⟨hlocal', hremote', -⟩ := connected_keys hacceptor
  exact ⟨hlocal, hremote.trans hpeer, hlocal', hremote'.trans hpeer'⟩

/-- Each session derives its keys from the labels of its own two ports. -/
theorem keys : ∃ shared salt shared' salt',
    h.offererSession.send = crypto.hkdf shared salt (keyLabel h.offerer.id h.acceptor.id) ∧
    h.offererSession.receive = crypto.hkdf shared salt (keyLabel h.acceptor.id h.offerer.id) ∧
    h.acceptorSession.send = crypto.hkdf shared' salt' (keyLabel h.acceptor.id h.offerer.id) ∧
    h.acceptorSession.receive = crypto.hkdf shared' salt' (keyLabel h.offerer.id h.acceptor.id) := by
  obtain ⟨peer, body, signed, offerSha256, -, -, -, -, hacceptor, -, hofferer⟩ := h.established
  obtain ⟨hlocal, hremote, shared, salt, hsend, hreceive⟩ := connected_keys hofferer
  obtain ⟨hlocal', hremote', shared', salt', hsend', hreceive'⟩ := connected_keys hacceptor
  obtain ⟨hp, hp', hq, hq'⟩ := h.ports
  rw [← hlocal, ← hremote, hp, hp'] at hsend hreceive
  rw [← hlocal', ← hremote', hq, hq'] at hsend' hreceive'
  exact ⟨shared, salt, shared', salt', hsend, hreceive, hsend', hreceive'⟩

/-- The acceptor's session is active when it is returned, under the policy it leaves. -/
theorem acceptor_active : ∃ body signed raw, ordered raw = some body ∧
    h.acceptorSession.offerBody = body ∧ h.acceptorSession.acceptBody = signed ∧
    (∃ s, body.get "sessionId" = some (.str s)) ∧ scope (body.get "scope") = .ok () ∧
    h.acceptorSession.active .fresh h.consumed h.acceptTime = .ok () := by
  obtain ⟨peer, body, signed, offerSha256, hacceptable, hconsume, -, hsigned, hacceptor, hbound, -⟩ := h.established
  obtain ⟨raw, -, -, -, hraw, hbody, -⟩ := verifyEnvelope_ok hacceptable.envelope
  obtain ⟨raw', -, -, -, hraw', hsigned', -⟩ := verifyEnvelope_ok hbound.envelope
  obtain ⟨hofferBody, hacceptBody⟩ := connected_bodies hacceptor
  rw [hraw, Option.bind_some, hbody, Option.some.injEq] at hofferBody
  rw [hraw', Option.bind_some, hsigned', Option.some.injEq] at hacceptBody
  obtain ⟨-, -, -, -, hsame⟩ := acceptance_get hbody hsigned
  obtain ⟨issuedAt, expiresAt, -, hexpires, -, hfresh, -⟩ := lifetimeOk_iff.mp hacceptable.controlled.lifetime
  have hexpires' : integerField signed "expiresAt" = some expiresAt := by
    rw [integerField, hsame "expiresAt" (by decide)]
    exact hexpires
  have hid : ∃ s, body.get "sessionId" = some (.str s) := by
    obtain ⟨own, -, heq⟩ := hbound.sessionId
    rw [hsame "sessionId" (by decide)] at heq
    rcases sessionId_of_test hacceptable.controlled.sessionId with hs | ⟨items, hitems⟩
    · exact hs
    · rw [hitems] at heq
      -- two arrays are never strictly equal
      rw [← Json.opt_eq_of_beq heq] at heq
      exact absurd heq Bool.false_ne_true
  refine ⟨body, signed, raw, hbody, hofferBody.symm, hacceptBody.symm, hid, hacceptable.controlled.scope_ok, ?_⟩
  have hlive : h.acceptorSession.expiresAt = some expiresAt := by
    rw [Session.expiresAt, ← hofferBody, ← hacceptBody, hexpires, hexpires', Option.bind_some, Option.map_some,
      min_self]
  obtain ⟨d, hd, hd'⟩ := hacceptable.adapter_eq
  obtain ⟨hscope, -, hpeer, d', hdigest, hcontains⟩ := authorize_eq_ok.mp hacceptable.authorized
  rw [Option.getD_some, hd', Except.ok.injEq] at hdigest
  subst hdigest
  obtain ⟨-, hremote, -⟩ := connected_keys hacceptor
  have hconsumed : h.consumed = (h.acceptPolicy.consume ((body.get "sessionId").getD .null)
      ((integerField body "expiresAt").getD 0) h.acceptTime).2 := by rw [hconsume]
  have hauth : h.consumed.authorize crypto h.acceptorSession.peerPort h.acceptorSession.scope
      h.acceptorSession.adapter = .ok () := by
    rw [hconsumed, authorize_consume, authorize_eq_ok, hremote, Session.scope, Session.adapter, ← hofferBody]
    exact ⟨hscope, hacceptable.controlled.adapter_ok, hpeer, d, hd, hcontains⟩
  simp only [Session.active, bind_eq_ok, ensure_eq_ok]
  refine ⟨(), ?_, hauth⟩
  rw [hlive]
  simpa [Channel.fresh] using hfresh

/-- The session of an end. -/
def sessions : End → Session crypto
  | .offerer => h.offererSession
  | .acceptor => h.acceptorSession

end Handshake

/-! ## Key labels -/

section
variable {crypto : Crypto}

theorem ascii_id (identity : Identity crypto) : Ascii identity.id := by
  have hhead : Ascii portIdPrefix := by decide +kernel
  refine hhead.append ?_
  intro u hu
  have huse := ((Regex.accepts_iff _ _).mp (crypto.digest_hex _)).uses u hu
  simp only [hex64, Regex.uses, CharClass.has, Regex.hex, List.any_cons, List.any_nil, Bool.or_false,
    Bool.or_eq_true, Bool.and_eq_true, decide_eq_true_eq] at huse
  omega

theorem eq_of_bar_append {s t s' t' : JsString} (hs : (124 : UInt16) ∉ s) (hs' : (124 : UInt16) ∉ s')
    (h : s ++ 124 :: t = s' ++ 124 :: t') : s = s' ∧ t = t' := by
  induction s generalizing s' with
  | nil => cases s' with
    | nil => simpa using h
    | cons u s' =>
      simp only [List.nil_append, List.cons_append, List.cons.injEq] at h
      simp [h.1] at hs'
  | cons u s ih => cases s' with
    | nil =>
      simp only [List.nil_append, List.cons_append, List.cons.injEq] at h
      simp [← h.1] at hs
    | cons u' s' =>
      simp only [List.cons_append, List.cons.injEq] at h
      simp only [List.mem_cons, not_or] at hs hs'
      obtain ⟨rfl, rfl⟩ := ih hs.2 hs'.2 h.2
      exact ⟨by rw [h.1], rfl⟩

/-- The labels of the two directions are different exactly between different ports. -/
theorem keyLabel_swap {a b : Identity crypto} : keyLabel a.id b.id = keyLabel b.id a.id ↔ a.id = b.id := by
  refine ⟨fun h => ?_, fun h => by rw [h]⟩
  have hascii : ∀ x y : Identity crypto, WellFormed (js suite ++ 124 :: (x.id ++ 124 :: y.id)) := by
    intro x y
    have hsuite : Ascii (js suite) := by decide +kernel
    refine wellFormed_of_ascii (hsuite.append (List.forall_mem_cons.mpr ⟨by decide, ?_⟩))
    exact (ascii_id x).append (List.forall_mem_cons.mpr ⟨by decide, ascii_id y⟩)
  have hunits := utf8Encode_injOn (hascii a b) (hascii b a) h
  have hids := (List.cons.inj (List.append_cancel_left hunits)).2
  exact (eq_of_bar_append (bar_not_mem_portId _) (bar_not_mem_portId _) hids).1

end

/-! ## The sample keys -/

namespace Sample

instance : DecidableEq crypto.SessionKey := inferInstanceAs (DecidableEq SessionKey)

theorem idealHkdf : crypto.IdealHkdf := by
  intro shared shared' salt salt' info info' h
  have h' : (shared, salt, info) = (shared', salt', info') := h
  simpa only [Prod.mk.injEq] using h'

def sessionBytes : Bytes := List.replicate 16 5

end Sample

end Native
