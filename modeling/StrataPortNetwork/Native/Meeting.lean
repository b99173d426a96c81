import StrataPortNetwork.Native.Handshake

/-! # Two ports that meet

The checks of the three calls are made at different times and on different copies. A
snapshot passes the same checks as the value it was taken from, so nothing that one end
let pass is refused by the other, and a meeting is a handshake.
-/
namespace Native
open Js

section
variable {crypto : Crypto}

theorem decode_ephemeralKey (key : crypto.AgreementKey) :
    decodePublicKey crypto (some (.str (ephemeralKey crypto key))) "x25519" = .ok (crypto.agreementPublic key) :=
  decodePublicKey_encode (crypto.agreementPublic_length key) (crypto.agreementPublic_type key)

/-! ## Snapshots pass the owner policy -/

theorem test_get_ordered {v w : Json} (h : ordered v = some w) (name : String) (pattern : Regex) :
    pattern.test (w.get name) = pattern.test (v.get name) := by
  refine test_ordered (get_ordered h name) ?_ pattern
  intro u hu
  cases v with
  | obj fields =>
    have hall := ordered_obj_isSome.mp (Option.isSome_iff_exists.mpr ⟨w, h⟩)
    exact hall (js name, u) (mem_of_lookup hu)
  | null => simp [Json.get, Json.fields] at hu
  | bool b => simp [Json.get, Json.fields] at hu
  | num x => simp [Json.get, Json.fields] at hu
  | str s => simp [Json.get, Json.fields] at hu
  | arr items => simp [Json.get, Json.fields] at hu

theorem isBool_ordered {v w : Json} (h : ordered v = some w) (name : String) (hv : isBool (v.get name) = true) :
    isBool (w.get name) = true := by
  rw [get_ordered h]
  unfold isBool at hv
  split at hv
  · rename_i b hb
    rw [hb]
    rfl
  · simp at hv

theorem scope_ordered {v w : Json} (h : ordered v = some w) (hv : scope (some v) = .ok ()) :
    scope (some w) = .ok () := by
  simp only [scope, bind_eq_ok, ensure_eq_ok, ensureTest_eq_ok, Option.getD_some] at hv ⊢
  obtain ⟨⟨⟩, hfields, -, htest, hquota⟩ := hv
  refine ⟨(), exactFields_ordered h hfields (by decide) (by decide) ?_, (), ?_, ?_⟩
  · decide +kernel
  · rw [test_get_ordered h]
    exact htest
  · rw [integerField_ordered h]
    exact hquota

theorem validateAdapterDescriptor_ordered {v w : Json} (h : ordered v = some w)
    (hv : validateAdapterDescriptor (some v) = .ok ()) : validateAdapterDescriptor (some w) = .ok () := by
  simp only [validateAdapterDescriptor, bind_eq_ok, ensure_eq_ok, ensureTest_eq_ok, Option.getD_some,
    Bool.and_eq_true] at hv ⊢
  obtain ⟨⟨⟩, hfields, -, hid, -, hsubstrate, hip, hrouting⟩ := hv
  refine ⟨(), exactFields_ordered h hfields (by decide) (by decide) ?_, (), ?_, (), ?_,
    isBool_ordered h _ hip, isBool_ordered h _ hrouting⟩
  · decide +kernel
  · rw [test_get_ordered h]
    exact hid
  · rw [test_get_ordered h]
    exact hsubstrate

theorem canonicalDigest_ordered {v w : Json} (h : ordered v = some w) :
    canonicalDigest crypto w = canonicalDigest crypto v := by
  rw [canonicalDigest, canonicalDigest, canonicalBytes_congr ((ordered_ordered h).trans h.symm)]

theorem authorize_ordered_state {policy : NativeSessionPolicy} {peer : JsString} {state copy : Json}
    {adapter : Option Json} (h : ordered state = some copy)
    (hauth : policy.authorize crypto peer (some state) adapter = .ok ()) :
    policy.authorize crypto peer (some copy) adapter = .ok () := by
  obtain ⟨hscope, hadapter, hpeer, hdigest⟩ := authorize_eq_ok.mp hauth
  refine authorize_eq_ok.mpr ⟨scope_ordered h hscope, hadapter, ?_, hdigest⟩
  simp only [Bool.and_eq_true, Option.any_eq_true, Option.bind_some] at hpeer ⊢
  obtain ⟨hlisted, s, hs, hstate⟩ := hpeer
  refine ⟨hlisted, s, ?_, hstate⟩
  rw [Json.bind_str?_eq_some] at hs ⊢
  rw [get_ordered h, hs, Option.bind_some, ordered_str]

theorem authorize_ordered_adapter {policy : NativeSessionPolicy} {peer : JsString} {adapter copy : Json}
    {state : Option Json} (h : ordered adapter = some copy)
    (hauth : policy.authorize crypto peer state (some adapter) = .ok ()) :
    policy.authorize crypto peer state (some copy) = .ok () := by
  obtain ⟨hscope, hadapter, hpeer, d, hdigest, hcontains⟩ := authorize_eq_ok.mp hauth
  refine authorize_eq_ok.mpr ⟨hscope, validateAdapterDescriptor_ordered h hadapter, hpeer, d, ?_, hcontains⟩
  rw [Option.getD_some, canonicalDigest_ordered h]
  exact hdigest

/-- An authorised adapter has a snapshot. -/
theorem ordered_of_authorize_adapter {policy : NativeSessionPolicy} {peer : JsString} {state : Option Json}
    {adapter : Json} (hauth : policy.authorize crypto peer state (some adapter) = .ok ()) :
    ∃ copy, ordered adapter = some copy := by
  obtain ⟨-, -, -, d, hdigest, -⟩ := authorize_eq_ok.mp hauth
  obtain ⟨bytes, hbytes, -⟩ := canonicalDigest_eq_ok.mp hdigest
  obtain ⟨copy, hcopy, -⟩ := canonicalBytes_eq_ok.mp hbytes
  exact ⟨copy, hcopy⟩

/-- So has an authorised scope: its two fields are a string and a safe integer. -/
theorem ordered_of_authorize_state {policy : NativeSessionPolicy} {peer : JsString} {adapter : Option Json}
    {state : Json} (hauth : policy.authorize crypto peer (some state) adapter = .ok ()) :
    ∃ copy, ordered state = some copy := by
  obtain ⟨hscope, -, hpeer, -⟩ := authorize_eq_ok.mp hauth
  obtain ⟨fields, n, -, hfields, hmax, -, -⟩ := scope_ok hscope
  rw [Option.some.injEq] at hfields
  subst hfields
  simp only [Bool.and_eq_true, Option.any_eq_true, Option.bind_some, Json.bind_str?_eq_some] at hpeer
  obtain ⟨-, s, hs, -⟩ := hpeer
  simp only [scope, bind_eq_ok, ensure_eq_ok, ensureTest_eq_ok] at hscope
  obtain ⟨⟨⟩, hexact, -⟩ := hscope
  obtain ⟨hnodup, hlength⟩ := nodup_of_exactFields hexact (by decide) (by decide) (by decide +kernel)
  obtain ⟨v, hv, hint⟩ := Option.bind_eq_some_iff.mp hmax
  have hsub : [js "stateSha256", js "maxBytes"] ⊆ fields.map Prod.fst := by
    intro k hk
    rcases List.mem_cons.mp hk with rfl | hk
    · exact Json.mem_keys_of_lookup hs
    · rw [List.mem_singleton.mp hk]
      exact Json.mem_keys_of_lookup hv
  have hperm : (fields.map Prod.fst).Perm [js "stateSha256", js "maxBytes"] := by
    refine (List.Subperm.perm_of_length_le (List.subperm_of_subset (by decide +kernel) hsub) ?_).symm
    simpa using hlength
  refine Option.isSome_iff_exists.mp (ordered_obj_isSome.mpr ?_)
  intro f hf
  have hlookup := Json.lookup_eq_some_of_mem hnodup hf
  have hname := hperm.mem_iff.mp (List.mem_map_of_mem hf)
  rcases List.mem_cons.mp hname with heq | heq
  · rw [heq] at hlookup
    rw [Option.some.inj (hlookup.symm.trans hs)]
    rfl
  · rw [List.mem_singleton.mp heq] at hlookup
    rw [Option.some.inj (hlookup.symm.trans hv)]
    cases v with
    | num x =>
      have hx : x.safeInteger?.isSome = true := Option.isSome_iff_exists.mpr ⟨n, hint⟩
      rw [ordered, if_pos hx]
      rfl
    | null => simp [Json.safeInteger?] at hint
    | bool b => simp [Json.safeInteger?] at hint
    | str t => simp [Json.safeInteger?] at hint
    | arr items => simp [Json.safeInteger?] at hint
    | obj fields => simp [Json.safeInteger?] at hint

/-! ## The three calls -/

/-- The body of an offer before it is signed. -/
def offerBody (identity : Identity crypto) (peer : JsString) (state adapter : Json) (now : ℤ)
    (sessionBytes : Bytes) (key : crypto.AgreementKey) : Json :=
  .record [("schema", .text Kind.offer.schema), ("suite", .text suite), ("sessionId", .str (hexEncode sessionBytes)),
    ("fromPort", .str identity.id), ("toPort", .str peer), ("issuedAt", .int now), ("expiresAt", .int (now + 30000)),
    ("ephemeralKey", .str (ephemeralKey crypto key)), ("scope", state), ("adapter", adapter)]

theorem safeInteger?_int {i : ℤ} (h : -9007199254740991 ≤ i) (h' : i ≤ 9007199254740991) :
    (JsNumber.int i).safeInteger? = some i := by
  rw [JsNumber.safeInteger?, if_pos (by omega)]

theorem ordered_int {i : ℤ} (h : -9007199254740991 ≤ i) (h' : i ≤ 9007199254740991) :
    ordered (.int i) = some (.int i) := by
  rw [Json.int, ordered, safeInteger?_int h h']
  rfl

/-- What an identity signs is an envelope around the snapshot. -/
def Identity.envelope (identity : Identity crypto) (copy : Json) : Json :=
  .record [("body", copy), ("signature", .str (base64Encode (crypto.sign identity.key (utf8Encode (stringify copy)))))]

theorem Identity.sign_ordered (identity : Identity crypto) {body copy : Json} (h : ordered body = some copy) :
    identity.sign body = .ok (identity.envelope copy) :=
  Identity.sign_eq_ok.mpr ⟨copy, h, rfl⟩

theorem Identity.ordered_envelope (identity : Identity crypto) {body copy : Json} (h : ordered body = some copy) :
    ∃ envelope, ordered (identity.envelope copy) = some envelope ∧ envelope.get "body" = some copy := by
  have hsome : (ordered (identity.envelope copy)).isSome = true := by
    refine ordered_record_isSome.mpr ?_
    simp [ordered_ordered h]
  obtain ⟨envelope, henvelope⟩ := Option.isSome_iff_exists.mp hsome
  refine ⟨envelope, henvelope, ?_⟩
  rw [get_ordered henvelope, Identity.envelope, Json.get_record, List.lookup_cons_self, Option.bind_some,
    ordered_ordered h]

/-- Connecting succeeds on signed bodies and the public key of an agreement key. -/
theorem connected_complete (offerer acceptor : Identity crypto) {o a offerCopy acceptCopy : Json}
    (ho : ordered o = some offerCopy) (ha : ordered a = some acceptCopy) (hon : offerCopy.isNull = false)
    (han : acceptCopy.isNull = false) (key key' : crypto.AgreementKey) (localPort peerPort : JsString) :
    ∃ session, connected crypto key (some (.str (ephemeralKey crypto key'))) (offerer.envelope offerCopy)
      (acceptor.envelope acceptCopy) localPort peerPort = .ok session := by
  obtain ⟨oe, hoe, hob⟩ := offerer.ordered_envelope ho
  obtain ⟨ae, hae, hab⟩ := acceptor.ordered_envelope ha
  obtain ⟨shared, hshared⟩ := Option.isSome_iff_exists.mp (crypto.diffieHellman_public key key')
  have hbytes : ∀ {v w}, ordered v = some w → canonicalBytes w = .ok (utf8Encode (stringify w)) := by
    intro v w h
    exact canonicalBytes_eq_ok.mpr ⟨w, ordered_ordered h, rfl⟩
  have hbody : ∀ {envelope body : Json}, envelope.get "body" = some body → body.isNull = false →
      bodyOf envelope = .ok body := by
    intro envelope body h hn
    simp [bodyOf, h, hn, Option.filter]
  refine ⟨⟨localPort, peerPort, offerCopy, acceptCopy,
    crypto.hkdf shared (keySalt crypto oe ae) (keyLabel localPort peerPort),
    crypto.hkdf shared (keySalt crypto oe ae) (keyLabel peerPort localPort)⟩, ?_⟩
  simp only [connected, bind_eq_ok, snapshot_eq_ok, orThrow_eq_ok, pure_eq_ok]
  exact ⟨oe, hoe, ae, hae, _, decode_ephemeralKey key', shared, hshared, _, hbytes hoe, _, hbytes hae,
    offerCopy, hbody hob hon, acceptCopy, hbody hab han, rfl⟩

/-- An offer body under an agreement key is answered. -/
theorem answer_complete (offerer acceptor : Identity crypto) (peer : Json) {o body : Json} (ho : ordered o = some body)
    (hnull : body.isNull = false) {key' : crypto.AgreementKey}
    (hkey : body.get "ephemeralKey" = some (.str (ephemeralKey crypto key'))) {now : ℤ}
    (hlow : -9007199254740991 ≤ now) (hhigh : now ≤ 9007199254740991) (key : crypto.AgreementKey) :
    ∃ offerSha256 signed session, canonicalDigest crypto (offerer.envelope body) = .ok offerSha256 ∧
      ordered (acceptanceBody acceptor peer body now key offerSha256) = some signed ∧
      answer crypto acceptor (offerer.envelope body) peer body now key = .ok (acceptor.envelope signed, session) := by
  obtain ⟨envelope, henvelope, -⟩ := offerer.ordered_envelope ho
  have hdigest : canonicalDigest crypto (offerer.envelope body) =
      .ok (crypto.digest (utf8Encode (stringify envelope))) :=
    canonicalDigest_eq_ok.mpr ⟨_, canonicalBytes_eq_ok.mpr ⟨envelope, henvelope, rfl⟩, rfl⟩
  have hsigned : (ordered (acceptanceBody acceptor peer body now key
      (crypto.digest (utf8Encode (stringify envelope))))).isSome = true := by
    have hbody : (ordered body).isSome = true := by simp [ordered_ordered ho]
    have htime : (ordered (.int now)).isSome = true := by simp [ordered_int hlow hhigh]
    exact ordered_set_isSome (ordered_set_isSome (ordered_set_isSome (ordered_set_isSome (ordered_set_isSome
      (ordered_set_isSome hbody rfl _) rfl _) rfl _) htime _) rfl _) rfl _
  obtain ⟨signed, hsigned⟩ := Option.isSome_iff_exists.mp hsigned
  obtain ⟨session, hsession⟩ := connected_complete offerer acceptor ho hsigned hnull (isNull_ordered hsigned) key key'
    acceptor.id (peerPort peer)
  have hsign := acceptor.sign_ordered hsigned
  rw [acceptanceBody] at hsign
  rw [← hkey] at hsession
  refine ⟨_, signed, session, hdigest, hsigned, ?_⟩
  simp only [answer, bind_eq_ok, pure_eq_ok]
  exact ⟨_, hdigest, _, hsign, session, hsession, rfl⟩

theorem ordered_obj_keys {fields : Fields} {w : Json} (h : ordered (.obj fields) = some w) :
    ∃ own, w = .obj own ∧ (own.map Prod.fst).Nodup ∧ ∀ k, k ∈ own.map Prod.fst ↔ k ∈ fields.map Prod.fst := by
  simp only [ordered, Option.map_eq_some_iff] at h
  obtain ⟨fields', hfields, rfl⟩ := h
  refine ⟨_, rfl, (ownOrdered_canonicalFields _).nodup, fun k => ?_⟩
  rw [mem_keys_canonicalFields, keys_orderedFields hfields]

/-- What both controls of a handshake have in common. -/
theorem control_complete {body state adapter : Json} {kind : Kind} {key : crypto.AgreementKey} {bytes : Bytes}
    {issuedAt expiresAt now : ℤ} (hfields : exactFields (some body) kind.fields = .ok ())
    (hschema : body.get "schema" = some (.text kind.schema)) (hsuite : body.get "suite" = some (.text suite))
    (hid : body.get "sessionId" = some (.str (hexEncode bytes))) (hbytes : bytes.length = 16)
    (hissued : integerField body "issuedAt" = some issuedAt) (hexpires : integerField body "expiresAt" = some expiresAt)
    (hstart : issuedAt ≤ now) (hend : now < expiresAt) (hshort : expiresAt - issuedAt ≤ 30000)
    (hkey : body.get "ephemeralKey" = some (.str (ephemeralKey crypto key)))
    (hstate : body.get "scope" = some state) (hscope : scope (some state) = .ok ())
    (hadapter : body.get "adapter" = some adapter) (hdescriptor : validateAdapterDescriptor (some adapter) = .ok ()) :
    control crypto body now kind = .ok () := by
  refine control_eq_ok.mpr ⟨hschema, hsuite, hfields, ?_, ?_, hstate ▸ hscope, hadapter ▸ hdescriptor, ?_⟩
  · rw [hid, test_str, hexEncode_accepts hbytes]
  · exact lifetimeOk_iff.mpr ⟨issuedAt, expiresAt, hissued, hexpires, hstart, hend, hshort, by omega⟩
  · exact ⟨_, hkey ▸ decode_ephemeralKey key⟩

theorem integerField_int {v : Json} {name : String} {i : ℤ} (h : v.get name = some (.int i))
    (hlow : -9007199254740991 ≤ i) (hhigh : i ≤ 9007199254740991) : integerField v name = some i := by
  rw [integerField, h]
  exact safeInteger?_int hlow hhigh

theorem integerField_bounds {v : Json} {name : String} {i : ℤ} (h : integerField v name = some i) :
    -9007199254740991 ≤ i ∧ i ≤ 9007199254740991 := by
  obtain ⟨u, -, hu⟩ := Option.bind_eq_some_iff.mp h
  cases u with
  | num x =>
    cases x with
    | int j =>
      change (if j.natAbs ≤ 9007199254740991 then some j else none) = some i at hu
      rw [Option.ite_none_right_eq_some, Option.some.injEq] at hu
      omega
    | frac m e hm he => simp [Json.safeInteger?, JsNumber.safeInteger?] at hu
  | null => simp [Json.safeInteger?] at hu
  | bool b => simp [Json.safeInteger?] at hu
  | str s => simp [Json.safeInteger?] at hu
  | arr items => simp [Json.safeInteger?] at hu
  | obj fields => simp [Json.safeInteger?] at hu

/-- The record of a port names its id. -/
theorem portId_of_owned {identity : Identity crypto} {record peer : Json} {now : ℤ}
    (h : verifyPeerRecord crypto record now none = .ok peer)
    (hown : peer.get "publicKey" = some (.str identity.publicKey)) :
    peer.get "portId" = some (.str identity.id) ∧ -9007199254740991 ≤ now := by
  obtain ⟨raw, id, publicKey, -, -, hverified, -⟩ := verifyPeerRecord_ok h
  rw [hverified.publicKey_eq, Option.some.injEq, Json.str.injEq] at hown
  obtain ⟨issuedAt, expiresAt, hissued, -, hstart, -⟩ := lifetimeOk_iff.mp hverified.lifetime
  refine ⟨?_, (integerField_bounds hissued).1.trans hstart⟩
  rw [hverified.portId_eq, hverified.id_eq, hown]
  rfl

/-! ## What a session shows -/

/-- What a session shows of the handshake it comes from. -/
structure Session.Of (session : Session crypto) (id : JsString) (state adapter : Json) (expiresAt : ℤ) : Prop where
  body : ∃ raw, ordered raw = some session.offerBody
  id_eq : session.id = some (.str id)
  state_eq : ∃ copy, ordered state = some copy ∧ session.scope = some copy
  adapter_eq : ∃ copy, ordered adapter = some copy ∧ session.adapter = some copy
  expiry : session.expiresAt = some expiresAt

theorem Session.Of.active {session : Session crypto} {id : JsString} {state adapter : Json} {expiresAt now : ℤ}
    (h : session.Of id state adapter expiresAt) {policy : NativeSessionPolicy} {channel : Channel}
    (hauth : policy.authorize crypto session.peerPort (some state) (some adapter) = .ok ())
    (hopen : channel.closed = false) (hnow : now < expiresAt) : session.active channel policy now = .ok () := by
  obtain ⟨state', hstate, hscope⟩ := h.state_eq
  obtain ⟨adapter', hadapter, hdescriptor⟩ := h.adapter_eq
  simp only [Session.active, bind_eq_ok, ensure_eq_ok]
  refine ⟨(), ?_, ?_⟩
  · rw [hopen, h.expiry]
    simpa using hnow
  · rw [hscope, hdescriptor]
    exact authorize_ordered_adapter hadapter (authorize_ordered_state hstate hauth)

end

/-! ## Two ports that may meet -/

/-- Records, policies and times under which two ports can hold a session: each record is
valid when used, advertises the capability and carries the port's key. -/
structure Meeting (crypto : Crypto) where
  offerer : Identity crypto
  acceptor : Identity crypto
  acceptorRecord : Json
  acceptorPeer : Json
  offererRecord : Json
  offererPeer : Json
  state : Json
  adapter : Json
  acceptAdapter : Json
  offerPolicy : NativeSessionPolicy
  acceptPolicy : NativeSessionPolicy
  finishPolicy : NativeSessionPolicy
  sessionBytes : Bytes
  offerKey : crypto.AgreementKey
  acceptKey : crypto.AgreementKey
  offerTime : ℤ
  acceptTime : ℤ
  finishTime : ℤ
  acceptorVerified : verifyPeerRecord crypto acceptorRecord offerTime none = .ok acceptorPeer
  acceptorOwns : acceptorPeer.get "publicKey" = some (.str acceptor.publicKey)
  acceptorAdvertises : advertises acceptorPeer = true
  offererVerified : verifyPeerRecord crypto offererRecord acceptTime none = .ok offererPeer
  offererOwns : offererPeer.get "publicKey" = some (.str offerer.publicKey)
  offererAdvertises : advertises offererPeer = true
  sameAdapter : ordered acceptAdapter = ordered adapter
  offerAuthorized : offerPolicy.authorize crypto acceptor.id (some state) (some adapter) = .ok ()
  acceptAuthorized : acceptPolicy.authorize crypto offerer.id (some state) (some acceptAdapter) = .ok ()
  finishAuthorized : finishPolicy.authorize crypto acceptor.id (some state) (some adapter) = .ok ()
  freeCapacity : (acceptPolicy.pruned acceptTime).size < acceptPolicy.capacity
  randomBytes : sessionBytes.length = 16
  freshId : (acceptPolicy.pruned acceptTime).has (.str (hexEncode sessionBytes)) = false
  accept_after : offerTime ≤ acceptTime
  finish_after : acceptTime ≤ finishTime
  finish_before : finishTime < offerTime + 30000
  safeExpiry : offerTime + 30000 ≤ 9007199254740991

namespace Meeting
variable {crypto : Crypto} (m : Meeting crypto)

theorem acceptor_port : m.acceptorPeer.get "portId" = some (.str m.acceptor.id) :=
  (portId_of_owned m.acceptorVerified m.acceptorOwns).1

theorem offerer_port : m.offererPeer.get "portId" = some (.str m.offerer.id) :=
  (portId_of_owned m.offererVerified m.offererOwns).1

theorem times_safe : -9007199254740991 ≤ m.offerTime ∧ m.offerTime ≤ 9007199254740991 ∧
    -9007199254740991 ≤ m.acceptTime ∧ m.acceptTime ≤ 9007199254740991 := by
  have hlow := (portId_of_owned m.acceptorVerified m.acceptorOwns).2
  have := m.accept_after
  have := m.finish_after
  have := m.finish_before
  have := m.safeExpiry
  omega

def body : Json := offerBody m.offerer m.acceptor.id m.state m.adapter m.offerTime m.sessionBytes m.offerKey

/-- The snapshots of the scope, the adapter and the offer. -/
structure Copies (state adapter body : Json) : Prop where
  state : ordered m.state = some state
  adapter : ordered m.adapter = some adapter
  body : ordered m.body = some body

theorem copies : ∃ state adapter body, m.Copies state adapter body := by
  obtain ⟨state, hstate⟩ := ordered_of_authorize_state m.offerAuthorized
  obtain ⟨adapter, hadapter⟩ := ordered_of_authorize_adapter m.offerAuthorized
  obtain ⟨hlow, hhigh, -, -⟩ := m.times_safe
  have hbody : (ordered m.body).isSome = true := by
    refine ordered_record_isSome.mpr ?_
    have hexpiry := m.safeExpiry
    simp [ordered_int hlow hhigh, ordered_int (i := m.offerTime + 30000) (by omega) (by omega), hstate, hadapter]
  obtain ⟨body, hbody⟩ := Option.isSome_iff_exists.mp hbody
  exact ⟨state, adapter, body, hstate, hadapter, hbody⟩

variable {m} {state adapter body : Json}

theorem Copies.get (h : m.Copies state adapter body) :
    body.get "schema" = some (.text Kind.offer.schema) ∧ body.get "suite" = some (.text suite) ∧
    body.get "sessionId" = some (.str (hexEncode m.sessionBytes)) ∧ body.get "fromPort" = some (.str m.offerer.id) ∧
    body.get "toPort" = some (.str m.acceptor.id) ∧ body.get "issuedAt" = some (.int m.offerTime) ∧
    body.get "expiresAt" = some (.int (m.offerTime + 30000)) ∧
    body.get "ephemeralKey" = some (.str (ephemeralKey crypto m.offerKey)) ∧
    body.get "scope" = some state ∧ body.get "adapter" = some adapter := by
  obtain ⟨hlow, hhigh, -, -⟩ := m.times_safe
  have hexpiry := m.safeExpiry
  have hget := get_ordered h.body
  have hissued := ordered_int hlow hhigh
  have hexpires := ordered_int (i := m.offerTime + 30000) (by omega) (by omega)
  simp [hget, Meeting.body, offerBody, List.lookup_cons, hissued, hexpires, h.state, h.adapter]

theorem Copies.isNull (h : m.Copies state adapter body) : body.isNull = false := isNull_ordered h.body

/-- The offer is made. -/
theorem Copies.offers (h : m.Copies state adapter body) :
    offerNativeSession crypto m.offerer m.acceptorRecord m.state m.adapter m.offerPolicy m.offerTime m.sessionBytes
      m.offerKey =
    .ok ⟨m.offerer, m.acceptorPeer, m.offerKey, m.offerer.envelope body, m.state, m.adapter, false⟩ := by
  have hport : peerPort m.acceptorPeer = m.acceptor.id := by
    rw [peerPort, m.acceptor_port]
    rfl
  have hdescriptor := (authorize_eq_ok.mp m.offerAuthorized).2.1
  have hsign := m.offerer.sign_ordered h.body
  have hauth := m.offerAuthorized
  rw [Meeting.body, offerBody, ← hport] at hsign
  rw [← hport] at hauth
  simp only [offerNativeSession, bind_eq_ok, ensure_eq_ok, pure_eq_ok]
  exact ⟨m.acceptorPeer, m.acceptorVerified, (), m.acceptorAdvertises, (), hauth, (), hdescriptor,
    m.offerer.envelope body, hsign, rfl⟩

/-- The acceptor's checks pass. -/
theorem Copies.acceptable (h : m.Copies state adapter body) :
    Native.acceptable crypto m.acceptor (m.offerer.envelope body) m.offererRecord m.acceptPolicy m.acceptAdapter
      m.acceptTime = .ok (m.offererPeer, body) := by
  obtain ⟨hschema, hsuite, hid, hfrom, hto, hissued, hexpires, hkey, hstate, hadapter⟩ := h.get
  obtain ⟨hlow, hhigh, -, -⟩ := m.times_safe
  have hexpiry := m.safeExpiry
  have hafter := m.accept_after
  have hfinish := m.finish_after
  have hbefore := m.finish_before
  have hport : peerPort m.offererPeer = m.offerer.id := by
    rw [peerPort, m.offerer_port]
    rfl
  have hverify : verifyEnvelope crypto (m.offerer.envelope body) (m.offererPeer.get "portId")
      (m.offererPeer.get "publicKey") = .ok body := by
    rw [m.offerer_port, m.offererOwns]
    exact verifyEnvelope_sign h.body (m.offerer.sign_ordered h.body)
  have hauth := authorize_ordered_state h.state m.acceptAuthorized
  have hcontrol : control crypto body m.acceptTime .offer = .ok () := by
    obtain ⟨own, rfl, hnodup, hkeys⟩ := ordered_obj_keys (h.body)
    refine control_complete (exactFields_of_keys hnodup (by decide) ?_) hschema hsuite hid m.randomBytes
      (integerField_int hissued hlow hhigh) (integerField_int hexpires (by omega) hexpiry) hafter (by omega) (by omega)
      hkey hstate (authorize_eq_ok.mp hauth).1 hadapter
      (validateAdapterDescriptor_ordered h.adapter (authorize_eq_ok.mp m.offerAuthorized).2.1)
    intro k
    rw [hkeys]
    rfl
  obtain ⟨d, hd, -⟩ := (authorize_eq_ok.mp m.acceptAuthorized).2.2.2
  have hdigest : canonicalDigest crypto adapter = .ok d := by
    rw [← hd, Option.getD_some, canonicalDigest, canonicalDigest,
      canonicalBytes_congr ((ordered_ordered h.adapter).trans (h.adapter.symm.trans m.sameAdapter.symm))]
  rw [← hport, ← hstate] at hauth
  simp only [Native.acceptable, bind_eq_ok, ensure_eq_ok, pure_eq_ok, Bool.and_eq_true, beq_iff_eq,
    Json.some_beq_str_iff]
  refine ⟨m.offererPeer, m.offererVerified, (), m.offererAdvertises, body, hverify, (), hcontrol, (), ⟨?_, hto⟩, d,
    ?_, d, hd, (), rfl, (), hauth, rfl⟩
  · rw [hfrom, m.offerer_port]
    exact Json.some_beq_str_iff.mpr rfl
  · rw [hadapter]
    exact hdigest

/-- The session id is consumed and the acceptance signed. -/
theorem Copies.accepts (h : m.Copies state adapter body) : ∃ offerSha256 signed session policy,
    canonicalDigest crypto (m.offerer.envelope body) = .ok offerSha256 ∧
    ordered (acceptanceBody m.acceptor m.offererPeer body m.acceptTime m.acceptKey offerSha256) = some signed ∧
    acceptNativeSession crypto m.acceptor (m.offerer.envelope body) m.offererRecord m.acceptPolicy m.acceptAdapter
      m.acceptTime m.acceptKey = (.ok (m.acceptor.envelope signed, session), policy) := by
  obtain ⟨-, -, hid, -, -, -, -, hkey, -, -⟩ := h.get
  obtain ⟨-, -, hlow, hhigh⟩ := m.times_safe
  obtain ⟨offerSha256, signed, session, hdigest, hsigned, hanswer⟩ :=
    answer_complete m.offerer m.acceptor m.offererPeer h.body
    h.isNull hkey hlow hhigh m.acceptKey
  obtain ⟨policy, hconsume⟩ : ∃ policy, m.acceptPolicy.consume ((body.get "sessionId").getD .null)
      ((integerField body "expiresAt").getD 0) m.acceptTime = (.ok (), policy) := by
    have hcapacity : ¬ m.acceptPolicy.capacity ≤ (m.acceptPolicy.pruned m.acceptTime).size := by
      have := m.freeCapacity
      omega
    rw [hid, Option.getD_some, NativeSessionPolicy.consume]
    simp [m.freshId, hcapacity]
  refine ⟨_, signed, session, policy, hdigest, hsigned, ?_⟩
  rw [acceptNativeSession, h.acceptable]
  simp only [hconsume, hanswer]

/-- The acceptance finishes the offer. -/
theorem Copies.finishes (h : m.Copies state adapter body) {offerSha256 : JsString} {signed : Json}
    (hdigest : canonicalDigest crypto (m.offerer.envelope body) = .ok offerSha256)
    (hsigned : ordered (acceptanceBody m.acceptor m.offererPeer body m.acceptTime m.acceptKey offerSha256) =
      some signed) :
    ∃ session offer, Offer.finish crypto
      ⟨m.offerer, m.acceptorPeer, m.offerKey, m.offerer.envelope body, m.state, m.adapter, false⟩ m.finishPolicy
      (m.acceptor.envelope signed) m.finishTime = (.ok session, offer) := by
  obtain ⟨-, hsuite, hid, -, -, -, hexpires, -, hstate, hadapter⟩ := h.get
  obtain ⟨hfrom, hto, hkey, hsha, hsame⟩ := acceptance_get h.body hsigned
  obtain ⟨-, -, hlow, hhigh⟩ := m.times_safe
  have hexpiry := m.safeExpiry
  have hafter := m.accept_after
  have hfinish := m.finish_after
  have hbefore := m.finish_before
  have hschema : signed.get "schema" = some (.text Kind.accept.schema) := by
    simp [get_ordered hsigned, acceptanceBody]
  have hissued : signed.get "issuedAt" = some (.int m.acceptTime) := by
    simp [get_ordered hsigned, acceptanceBody, ordered_int hlow hhigh]
  have hport : peerPort m.acceptorPeer = m.acceptor.id := by
    rw [peerPort, m.acceptor_port]
    rfl
  have hport' : peerPort m.offererPeer = m.offerer.id := by
    rw [peerPort, m.offerer_port]
    rfl
  rw [← hsame _ (by decide)] at hsuite hid hexpires hstate hadapter
  have hfields : exactFields (some signed) Kind.accept.fields = .ok () := by
    obtain ⟨own, rfl, hnodup, hkeys⟩ := ordered_obj_keys hsigned
    obtain ⟨fields, rfl, -, hoffer⟩ := ordered_obj_keys h.body
    have hoffer : ∀ k, k ∈ fields.map Prod.fst ↔ k ∈ Kind.offer.fields.map js := hoffer
    refine exactFields_of_keys hnodup (by decide) fun k => ?_
    rw [hkeys, show Kind.accept.fields = Kind.offer.fields ++ ["offerSha256"] from rfl, List.map_append,
      List.mem_append]
    simp only [Json.mem_keys_setField, Json.fields, Json.set, hoffer, List.map_cons, List.map_nil,
      List.mem_singleton]
    constructor
    · rintro (rfl | rfl | rfl | rfl | rfl | rfl | hk)
      · exact Or.inr rfl
      · exact Or.inl (List.mem_map_of_mem (by decide))
      · exact Or.inl (List.mem_map_of_mem (by decide))
      · exact Or.inl (List.mem_map_of_mem (by decide))
      · exact Or.inl (List.mem_map_of_mem (by decide))
      · exact Or.inl (List.mem_map_of_mem (by decide))
      · exact Or.inl hk
    · rintro (hk | hk)
      · simp only [hk, or_true]
      · exact Or.inl hk
  have hcontrol : control crypto signed m.finishTime .accept = .ok () :=
    control_complete hfields hschema hsuite hid m.randomBytes
      (integerField_int hissued hlow hhigh) (integerField_int hexpires (by omega) hexpiry) hfinish hbefore (by omega)
      hkey hstate (scope_ordered h.state (authorize_eq_ok.mp m.offerAuthorized).1) hadapter
      (validateAdapterDescriptor_ordered h.adapter (authorize_eq_ok.mp m.offerAuthorized).2.1)
  have hverify : verifyEnvelope crypto (m.acceptor.envelope signed) (m.acceptorPeer.get "portId")
      (m.acceptorPeer.get "publicKey") = .ok signed := by
    rw [m.acceptor_port, m.acceptorOwns]
    exact verifyEnvelope_sign hsigned (m.acceptor.sign_ordered hsigned)
  have hown : bodyOf (m.offerer.envelope body) = .ok body := by
    simp [bodyOf, Identity.envelope, h.isNull, Option.filter]
  obtain ⟨d, hd⟩ : ∃ d, canonicalDigest crypto m.state = .ok d :=
    ⟨_, canonicalDigest_eq_ok.mpr ⟨_, canonicalBytes_eq_ok.mpr ⟨state, h.state, rfl⟩, rfl⟩⟩
  obtain ⟨d', hd'⟩ : ∃ d, canonicalDigest crypto m.adapter = .ok d :=
    ⟨_, canonicalDigest_eq_ok.mpr ⟨_, canonicalBytes_eq_ok.mpr ⟨adapter, h.adapter, rfl⟩, rfl⟩⟩
  have hbinds : Offer.binds crypto
      ⟨m.offerer, m.acceptorPeer, m.offerKey, m.offerer.envelope body, m.state, m.adapter, false⟩
      (m.acceptor.envelope signed) m.finishTime = .ok signed := by
    obtain ⟨-, -, hid', -, -, -, hexpires', -, -, -⟩ := h.get
    simp only [Offer.binds, bind_eq_ok, ensure_eq_ok, pure_eq_ok, Bool.and_eq_true, beq_iff_eq]
    refine ⟨signed, hverify, (), hcontrol, (), ⟨?_, ?_⟩, body, hown, (), ?_, offerSha256, hdigest, (), ⟨?_, ?_⟩,
      d, ?_, d, hd, (), rfl, d', ?_, d', hd', (), rfl, rfl⟩
    · rw [hfrom, m.acceptor_port]
      exact Json.some_beq_str_iff.mpr rfl
    · rw [hto, hport']
      exact Json.some_beq_str_iff.mpr rfl
    · rw [hid, hid']
      exact Json.some_beq_str_iff.mpr rfl
    · exact Json.some_beq_str_iff.mpr hsha
    · rw [hexpires, hexpires']
      exact Json.some_beq_int_iff.mpr rfl
    · rw [hstate, Option.getD_some, canonicalDigest_ordered h.state, hd]
    · rw [hadapter, Option.getD_some, canonicalDigest_ordered h.adapter, hd']
  obtain ⟨session, hsession⟩ := connected_complete m.offerer m.acceptor h.body hsigned h.isNull
    (isNull_ordered hsigned) m.offerKey m.acceptKey m.offerer.id (peerPort m.acceptorPeer)
  have hauth := m.finishAuthorized
  rw [← hport] at hauth
  rw [← hkey] at hsession
  refine ⟨session, ⟨m.offerer, m.acceptorPeer, m.offerKey, m.offerer.envelope body, m.state, m.adapter, true⟩, ?_⟩
  simp only [Offer.finish, hbinds, hauth, ensure, bind, Except.bind, pure, Except.pure, hsession, Bool.not_false,
    if_true]

/-- A session that reads the signed bodies of the meeting. -/
theorem Copies.session_of (h : m.Copies state adapter body) {session : Session crypto} {signed : Json}
    (hoffer : session.offerBody = body) (haccept : session.acceptBody = signed)
    (hexpires : signed.get "expiresAt" = body.get "expiresAt") :
    session.Of (hexEncode m.sessionBytes) m.state m.adapter (m.offerTime + 30000) := by
  obtain ⟨-, -, hid, -, -, -, hexpiry, -, hstate, hadapter⟩ := h.get
  obtain ⟨hlow, -, -, -⟩ := m.times_safe
  have hsafe := m.safeExpiry
  refine ⟨⟨m.body, hoffer ▸ h.body⟩, ?_, ⟨state, h.state, ?_⟩, ⟨adapter, h.adapter, ?_⟩, ?_⟩
  · rw [Session.id, hoffer, hid]
  · rw [Session.scope, hoffer, hstate]
  · rw [Session.adapter, hoffer, hadapter]
  · have hlate := integerField_int hexpiry (by omega) hsafe
    have hlate' := integerField_int (hexpires.trans hexpiry) (by omega) hsafe
    rw [Session.expiresAt, hoffer, haccept, hlate, hlate', Option.bind_some, Option.map_some, min_self]

end Meeting

end Native
