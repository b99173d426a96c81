import StrataPortNetwork.Native.Meeting
import StrataPortNetwork.Transition

/-! # Agreement of the two sessions

Both ends hash the offer into the acceptance and into the salt of their keys, so they
agree on all the fields it carries. The offerer reads its envelope again from the object
the caller holds, and agrees on the keys while that object has the offer's own key.
-/
namespace Native
open Js Transition

section
variable {crypto : Crypto}

/-- Two sessions of one handshake, seen from both ends. -/
structure Session.Agree (session session' : Session crypto) : Prop where
  id : session.id = session'.id
  ports : session.localPort = session'.peerPort ∧ session.peerPort = session'.localPort
  scope : session.scope = session'.scope
  adapter : session.adapter = session'.adapter
  expiresAt : session.expiresAt = session'.expiresAt
  keys : session.send = session'.receive ∧ session.receive = session'.send

theorem Session.Agree.symm {session session' : Session crypto} (h : session.Agree session') :
    session'.Agree session :=
  ⟨h.id.symm, ⟨h.ports.2.symm, h.ports.1.symm⟩, h.scope.symm, h.adapter.symm, h.expiresAt.symm,
    ⟨h.keys.2.symm, h.keys.1.symm⟩⟩

/-- The envelope the caller holds still carries the ephemeral key drawn for the offer. -/
def Offer.CarriesOwnKey (offer : Offer crypto) : Prop :=
  (offer.envelope.get "body").bind (·.get "ephemeralKey") = some (.str (ephemeralKey crypto offer.key))

theorem sessions_agree {S : Set Bytes} (hdigest : Set.InjOn crypto.digest S) {acceptor : Identity crypto}
    {received record adapter acceptance : Json} {policy policy' finishPolicy : NativeSessionPolicy}
    {acceptTime finishTime : ℤ} {acceptKey : crypto.AgreementKey} {offer offer' : Offer crypto}
    {session session' : Session crypto}
    (haccept : acceptNativeSession crypto acceptor received record policy adapter acceptTime acceptKey =
      (.ok (acceptance, session'), policy'))
    (hfinish : offer.finish crypto finishPolicy acceptance finishTime = (.ok session, offer'))
    (hown : offer.CarriesOwnKey) (hreceived : ∀ bytes, canonicalBytes received = .ok bytes → bytes ∈ S)
    (henvelope : ∀ bytes, canonicalBytes offer.envelope = .ok bytes → bytes ∈ S) : session.Agree session' := by
  obtain ⟨peer, body, hacceptable, -, hanswer⟩ := acceptNativeSession_ok haccept
  obtain ⟨offerSha256, hsha, hsign, hacceptor⟩ := answer_ok hanswer
  obtain ⟨signed, hbound, hofferer⟩ := finish_ok hfinish
  have hsigned := verifyEnvelope_signed hsign hbound.envelope
  obtain ⟨raw, -, -, -, hraw, hbody, -⟩ := verifyEnvelope_ok hacceptable.envelope
  obtain ⟨hfrom, hto, hkey, hsha', -⟩ := acceptance_get hbody hsigned
  -- the hash in the acceptance covers the whole offer
  obtain ⟨d, hd, hd'⟩ := hbound.offerSha256
  rw [hsha', Option.some.injEq, Json.str.injEq] at hd'
  subst hd'
  have hsame := ordered_eq_of_digest hdigest hsha hd hreceived henvelope
  obtain ⟨o, a, k, shared, ob, ab, ho, ha, hk, hshared, hob, hab, rfl⟩ := connected_ok hofferer
  obtain ⟨o', a', k', shared', ob', ab', ho', ha', hk', hshared', hob', hab', rfl⟩ := connected_ok hacceptor
  rw [hsame, ho, Option.some.injEq] at ho'
  rw [ha, Option.some.injEq] at ha'
  subst ho' ha'
  rw [hob, Option.some.injEq] at hob'
  rw [hab, Option.some.injEq] at hab'
  subst hob' hab'
  -- each end combines its own key with the public key of the other
  have hoffered : body.get "ephemeralKey" = some (.str (ephemeralKey crypto offer.key)) := by
    have hob_body : some body = some ob := by
      rw [← hob, get_ordered (hsame.trans ho), hraw, Option.bind_some, hbody]
    obtain ⟨raw', hraw', hown⟩ := Option.bind_eq_some_iff.mp hown
    have hordered : ordered raw' = some ob := by
      rw [← hob, get_ordered ho, hraw', Option.bind_some]
    rw [Option.some.inj hob_body, get_ordered hordered, hown, Option.bind_some, ordered_str]
  rw [hkey, decode_ephemeralKey, Except.ok.injEq] at hk
  rw [hoffered, decode_ephemeralKey, Except.ok.injEq] at hk'
  subst hk hk'
  have hcommon : shared = shared' := by
    rw [crypto.diffieHellman_comm, hshared', Option.some.injEq] at hshared
    exact hshared.symm
  have hport : peerPort offer.peer = acceptor.id := by
    rw [peerPort, ← hbound.fromPort, hfrom]
    rfl
  have hport' : peerPort peer = offer.identity.id := by
    rw [hbound.toPort, Option.some.injEq, Json.str.injEq] at hto
    exact hto.symm
  rw [hport, hport', hcommon]
  exact ⟨rfl, ⟨rfl, rfl⟩, rfl, rfl, rfl, rfl, rfl⟩

/-- The three calls of a meeting succeed, and their sessions agree and show what was sent. -/
theorem Meeting.sessions (m : Meeting crypto) : ∃ offer acceptance session session' policy offer',
    offerNativeSession crypto m.offerer m.acceptorRecord m.state m.adapter m.offerPolicy m.offerTime m.sessionBytes
      m.offerKey = .ok offer ∧
    acceptNativeSession crypto m.acceptor offer.envelope m.offererRecord m.acceptPolicy m.acceptAdapter m.acceptTime
      m.acceptKey = (.ok (acceptance, session'), policy) ∧
    offer.finish crypto m.finishPolicy acceptance m.finishTime = (.ok session, offer') ∧ session.Agree session' ∧
    session.Of (hexEncode m.sessionBytes) m.state m.adapter (m.offerTime + 30000) ∧
    session'.Of (hexEncode m.sessionBytes) m.state m.adapter (m.offerTime + 30000) := by
  obtain ⟨state, adapter, body, h⟩ := m.copies
  obtain ⟨offerSha256, signed, session', policy, hdigest, hsigned, haccept⟩ := h.accepts
  obtain ⟨session, offer', hfinish⟩ := h.finishes hdigest hsigned
  obtain ⟨-, -, -, -, -, -, -, hkey, -, -⟩ := h.get
  obtain ⟨-, -, -, -, hsame⟩ := acceptance_get h.body hsigned
  have hexpires := hsame "expiresAt" (by decide)
  have henvelope : ∀ {identity : Identity crypto} {copy : Json}, (identity.envelope copy).get "body" = some copy := by
    intro identity copy
    rw [Identity.envelope, Json.get_record, List.lookup_cons_self]
  -- one canonical offer is hashed, so no collision is possible
  have hagree : session.Agree session' := by
    refine sessions_agree (S := {bytes | canonicalBytes (m.offerer.envelope body) = .ok bytes}) ?_ haccept hfinish ?_
      (fun bytes hbytes => hbytes) (fun bytes hbytes => hbytes)
    · intro bytes hbytes bytes' hbytes' _
      exact Except.ok.inj (hbytes.symm.trans hbytes')
    · rw [Offer.CarriesOwnKey, henvelope, Option.bind_some, hkey]
  obtain ⟨peer, body', -, -, hanswer⟩ := acceptNativeSession_ok haccept
  obtain ⟨_, -, -, hacceptor⟩ := answer_ok hanswer
  obtain ⟨_, -, hofferer⟩ := finish_ok hfinish
  have hbodies : ∀ {s : Session crypto}, ((m.offerer.envelope body).get "body").bind ordered = some s.offerBody →
      ((m.acceptor.envelope signed).get "body").bind ordered = some s.acceptBody →
      s.offerBody = body ∧ s.acceptBody = signed := by
    intro s hoffer haccept
    rw [henvelope, Option.bind_some, ordered_ordered h.body, Option.some.injEq] at hoffer
    rw [henvelope, Option.bind_some, ordered_ordered hsigned, Option.some.injEq] at haccept
    exact ⟨hoffer.symm, haccept.symm⟩
  obtain ⟨hob, hab⟩ := hbodies (connected_bodies hofferer).1 (connected_bodies hofferer).2
  obtain ⟨hob', hab'⟩ := hbodies (connected_bodies hacceptor).1 (connected_bodies hacceptor).2
  have hof := h.session_of hob hab hexpires
  have hof' := h.session_of hob' hab' hexpires
  exact ⟨_, _, session, session', policy, offer', h.offers, haccept, hfinish, hagree, hof, hof'⟩

/-- A meeting is a handshake on the envelopes that were sent. -/
theorem Meeting.handshake (m : Meeting crypto) : ∃ h : Handshake crypto,
    h.offerer = m.offerer ∧ h.acceptor = m.acceptor ∧
    (h.received = h.offer.envelope ∧ h.finalEnvelope = h.offer.envelope) ∧ h.offererSession.Agree h.acceptorSession ∧
    h.offererSession.Of (hexEncode m.sessionBytes) m.state m.adapter (m.offerTime + 30000) ∧
    h.acceptorSession.Of (hexEncode m.sessionBytes) m.state m.adapter (m.offerTime + 30000) := by
  obtain ⟨offer, acceptance, session, session', policy, offer', hoffer, haccept, hfinish, hagree, hof, hof'⟩ :=
    m.sessions
  exact ⟨⟨m.offerer, m.acceptor, m.acceptorRecord, m.state, m.adapter, m.offerPolicy, m.offerTime, m.sessionBytes,
    m.offerKey, offer, hoffer, offer.envelope, m.offererRecord, m.acceptPolicy, m.acceptAdapter, m.acceptTime,
    m.acceptKey, acceptance, session', policy, haccept, offer.envelope, offer.state, offer.adapter, m.finishPolicy,
    m.finishTime, session, offer', hfinish⟩, rfl, rfl, ⟨rfl, rfl⟩, hagree, hof, hof'⟩

end

/-! ## Interleaved negotiations -/

/-- A call of either end, or a change by the caller of the objects a pending offer reads. -/
inductive NegotiationEvent (crypto : Crypto)
  | offers (identity : Identity crypto) (peerRecord state adapter : Json) (policy : NativeSessionPolicy) (now : ℤ)
      (sessionBytes : Bytes) (key : crypto.AgreementKey)
  | mutates (i : ℕ) (envelope state adapter : Json)
  | cancels (i : ℕ)
  | accepts (identity : Identity crypto) (offer peerRecord : Json) (policy : NativeSessionPolicy) (adapter : Json)
      (now : ℤ) (key : crypto.AgreementKey)
  | finishes (i : ℕ) (accept : Json) (policy : NativeSessionPolicy) (now : ℤ)

/-- What `acceptNativeSession` returned for an offer. -/
structure Acceptance (crypto : Crypto) where
  received : Json
  envelope : Json
  session : Session crypto

/-- What `finish` returned on an offer as it was then. -/
structure Finish (crypto : Crypto) where
  offer : Offer crypto
  accept : Json
  session : Session crypto

/-- All pending offers, and the acceptances and finishes so far. -/
structure Negotiation (crypto : Crypto) where
  offers : List (Offer crypto)
  accepted : List (Acceptance crypto)
  finished : List (Finish crypto)

namespace Negotiation
variable {crypto : Crypto}

def start : Negotiation crypto := ⟨[], [], []⟩

def step (w : Negotiation crypto) : NegotiationEvent crypto → Negotiation crypto
  | .offers identity peerRecord state adapter policy now sessionBytes key =>
    match offerNativeSession crypto identity peerRecord state adapter policy now sessionBytes key with
    | .error _ => w
    | .ok offer => { w with offers := w.offers ++ [offer] }
  | .mutates i envelope state adapter =>
    { w with offers := w.offers.modify i fun offer =>
        { offer with envelope := envelope, state := state, adapter := adapter } }
  | .cancels i => { w with offers := w.offers.modify i (Offer.cancel crypto) }
  | .accepts identity offer peerRecord policy adapter now key =>
    match (acceptNativeSession crypto identity offer peerRecord policy adapter now key).1 with
    | .error _ => w
    | .ok (envelope, session) => { w with accepted := ⟨offer, envelope, session⟩ :: w.accepted }
  | .finishes i accept policy now =>
    match w.offers[i]? with
    | none => w
    | some offer =>
      match offer.finish crypto policy accept now with
      | (.error _, offer') => { w with offers := w.offers.set i offer' }
      | (.ok session, offer') =>
        { w with offers := w.offers.set i offer', finished := ⟨offer, accept, session⟩ :: w.finished }

/-- Where the step finishes an offer, its envelope carries the offer's own key. -/
def OwnKey (w : Negotiation crypto) : NegotiationEvent crypto → Prop
  | .finishes i _ _ _ => ∀ offer, w.offers[i]? = some offer → offer.CarriesOwnKey
  | _ => True

/-- The offers hashed so far, as the canonical bytes of what both ends read. -/
def hashed (w : Negotiation crypto) : Set Bytes :=
  {bytes | (∃ a ∈ w.accepted, canonicalBytes a.received = .ok bytes) ∨
    ∃ f ∈ w.finished, canonicalBytes f.offer.envelope = .ok bytes}

/-- The acceptances and the finishes are results of the calls. -/
structure Genuine (w : Negotiation crypto) : Prop where
  accepted : ∀ a ∈ w.accepted, ∃ identity peerRecord policy adapter now key policy',
    acceptNativeSession crypto identity a.received peerRecord policy adapter now key =
      (.ok (a.envelope, a.session), policy')
  finished : ∀ f ∈ w.finished, f.offer.CarriesOwnKey ∧ ∃ policy now offer',
    f.offer.finish crypto policy f.accept now = (.ok f.session, offer')

theorem start_genuine : Genuine (start : Negotiation crypto) := by
  constructor <;> simp [start]

theorem step_genuine {w : Negotiation crypto} {event : NegotiationEvent crypto} (hown : OwnKey w event)
    (h : Genuine w) : Genuine (step w event) := by
  cases event with
  | offers identity peerRecord state adapter policy now sessionBytes key =>
    simp only [step]
    split
    · exact h
    · exact ⟨h.accepted, h.finished⟩
  | mutates i envelope state adapter => exact ⟨h.accepted, h.finished⟩
  | cancels i => exact ⟨h.accepted, h.finished⟩
  | accepts identity offer peerRecord policy adapter now key =>
    simp only [step]
    split
    · exact h
    · rename_i envelope session hcall
      refine ⟨List.forall_mem_cons.mpr ⟨?_, h.accepted⟩, h.finished⟩
      exact ⟨identity, peerRecord, policy, adapter, now, key, _, Prod.ext hcall rfl⟩
  | finishes i accept policy now =>
    simp only [step]
    split
    · exact h
    · rename_i offer hoffer
      split
      · exact ⟨h.accepted, h.finished⟩
      · rename_i session offer' hcall
        refine ⟨h.accepted, List.forall_mem_cons.mpr ⟨?_, h.finished⟩⟩
        exact ⟨hown offer hoffer, policy, now, offer', hcall⟩

/-- In every run that finishes offers under their own keys, the two sessions of a
handshake agree. -/
theorem run_agree {events : List (NegotiationEvent crypto)} (hown : Steps step OwnKey start events)
    (hdigest : Set.InjOn crypto.digest (run step start events).hashed) :
    ∀ f ∈ (run step start events).finished, ∀ a ∈ (run step start events).accepted,
      f.accept = a.envelope → f.session.Agree a.session := by
  have hgenuine : Genuine (run step start events) :=
    run_invariant_of_steps (fun w event hok hw => step_genuine hok hw) start_genuine hown
  intro f hf a ha haccept
  obtain ⟨identity, peerRecord, policy, adapter, now, key, policy', hcall⟩ := hgenuine.accepted a ha
  obtain ⟨hcarries, policy'', now', offer', hfinish⟩ := hgenuine.finished f hf
  rw [haccept] at hfinish
  exact sessions_agree hdigest hcall hfinish hcarries (fun bytes hbytes => Or.inl ⟨a, ha, hbytes⟩)
    (fun bytes hbytes => Or.inr ⟨f, hf, hbytes⟩)

end Negotiation

/-! ## One handshake among them -/

namespace Handshake
variable {crypto : Crypto} (h : Handshake crypto)

theorem offer_ok {identity : Identity crypto} {peerRecord state adapter : Json} {policy : NativeSessionPolicy}
    {now : ℤ} {sessionBytes : Bytes} {key : crypto.AgreementKey} {offer : Offer crypto}
    (h : offerNativeSession crypto identity peerRecord state adapter policy now sessionBytes key = .ok offer) :
    offer.identity = identity ∧ offer.key = key ∧ offer.finished = false ∧ offer.CarriesOwnKey ∧
    ∀ key', ∃ envelope, offerNativeSession crypto identity peerRecord state adapter policy now sessionBytes key' =
      .ok ⟨identity, offer.peer, key', envelope, state, adapter, false⟩ := by
  simp only [offerNativeSession, bind_eq_ok, ensure_eq_ok, pure_eq_ok] at h
  obtain ⟨peer, hpeer, ⟨⟩, hcapable, ⟨⟩, hauth, ⟨⟩, hadapter, envelope, hsign, rfl⟩ := h
  obtain ⟨copy, hcopy, rfl⟩ := Identity.sign_eq_ok.mp hsign
  refine ⟨rfl, rfl, rfl, ?_, fun key' => ?_⟩
  · rw [Offer.CarriesOwnKey, Json.get_record, List.lookup_cons_self, Option.bind_some, get_ordered hcopy,
      Json.get_record]
    simp [List.lookup_cons]
  · have hsome := ordered_record_isSome.mp (Option.isSome_iff_exists.mpr ⟨copy, hcopy⟩)
    have hsome' : (ordered (Json.record [("schema", .text Kind.offer.schema), ("suite", .text suite),
        ("sessionId", .str (hexEncode sessionBytes)), ("fromPort", .str identity.id),
        ("toPort", .str (peerPort peer)), ("issuedAt", .int now), ("expiresAt", .int (now + 30000)),
        ("ephemeralKey", .str (ephemeralKey crypto key')), ("scope", state), ("adapter", adapter)])).isSome = true := by
      refine ordered_record_isSome.mpr ?_
      simpa using hsome
    obtain ⟨copy', hcopy'⟩ := Option.isSome_iff_exists.mp hsome'
    have hsign' := (@Identity.sign_eq_ok crypto identity _ _).mpr ⟨copy', hcopy', rfl⟩
    refine ⟨.record [("body", copy'), ("signature", .str (base64Encode (crypto.sign identity.key
      (utf8Encode (stringify copy')))))], ?_⟩
    simp only [offerNativeSession, bind_eq_ok, ensure_eq_ok, pure_eq_ok]
    exact ⟨peer, hpeer, (), hcapable, (), hauth, (), hadapter, _, hsign', rfl⟩

/-- The run of one handshake, offered under some key. -/
def events (key : crypto.AgreementKey) : List (NegotiationEvent crypto) :=
  [.offers h.offerer h.acceptorRecord h.state h.adapter h.offerPolicy h.offerTime h.sessionBytes key,
    .accepts h.acceptor h.received h.offererRecord h.acceptPolicy h.acceptAdapter h.acceptTime h.acceptKey,
    .mutates 0 h.finalEnvelope h.finalState h.finalAdapter,
    .finishes 0 h.acceptance h.finishPolicy h.finishTime]

/-- The offer as the caller left it for `finish`. -/
def finalOffer (key : crypto.AgreementKey) : Offer crypto :=
  ⟨h.offerer, h.offer.peer, key, h.finalEnvelope, h.finalState, h.finalAdapter, false⟩

theorem run_events {key : crypto.AgreementKey} {session : Session crypto} {after : Offer crypto}
    (hfinish : (h.finalOffer key).finish crypto h.finishPolicy h.acceptance h.finishTime = (.ok session, after)) :
    run Negotiation.step Negotiation.start (h.events key) =
      ⟨[after], [⟨h.received, h.acceptance, h.acceptorSession⟩], [⟨h.finalOffer key, h.acceptance, session⟩]⟩ := by
  obtain ⟨-, -, -, -, hoffers⟩ := offer_ok h.offered
  obtain ⟨envelope, hoffer⟩ := hoffers key
  have hmutated : List.modify [(⟨h.offerer, h.offer.peer, key, envelope, h.state, h.adapter, false⟩ : Offer crypto)] 0
      (fun offer => { offer with envelope := h.finalEnvelope, state := h.finalState, adapter := h.finalAdapter }) =
        [h.finalOffer key] := rfl
  simp only [events, run_cons, run_nil, Negotiation.step, Negotiation.start, hoffer, h.accepted, List.nil_append,
    hmutated, List.getElem?_cons_zero, hfinish, List.set_cons_zero]

theorem finalOffer_own : h.finalOffer h.offerKey =
    { h.offer with envelope := h.finalEnvelope, state := h.finalState, adapter := h.finalAdapter } := by
  obtain ⟨hidentity, hkey, hfinished, -⟩ := offer_ok h.offered
  rw [finalOffer, ← hidentity, ← hkey, ← hfinished]

/-- Connecting under another private key changes the derived keys only. -/
theorem connected_other {privateKey key : crypto.AgreementKey} {peerKey : Option Json} {offer accept : Json}
    {localPort peerPort : JsString} {session : Session crypto} {peer : Bytes} {shared : crypto.Shared}
    (hconnected : connected crypto privateKey peerKey offer accept localPort peerPort = .ok session)
    (hpeer : decodePublicKey crypto peerKey "x25519" = .ok peer) (hshared : crypto.diffieHellman key peer = some shared) :
    ∃ session' salt label, connected crypto key peerKey offer accept localPort peerPort = .ok session' ∧
      session'.send = crypto.hkdf shared salt label := by
  simp only [connected, bind_eq_ok, orThrow_eq_ok, pure_eq_ok] at hconnected ⊢
  obtain ⟨o, ho, a, ha, key', hkey', -, -, offerBytes, ob, acceptBytes, ab, offerBody, hob, acceptBody, hab, rfl⟩ :=
    hconnected
  rw [hpeer, Except.ok.injEq] at hkey'
  subst hkey'
  exact ⟨_, _, _, ⟨o, ho, a, ha, peer, hpeer, shared, hshared, offerBytes, ob, acceptBytes, ab, offerBody, hob,
    acceptBody, hab, rfl⟩, rfl⟩

/-- Left as it was offered and received, the offer is finished under its own key, and both
ends hash the same value. -/
theorem events_own (hreceived : h.received = h.offer.envelope) (hfinal : h.finalEnvelope = h.offer.envelope) :
    Steps Negotiation.step Negotiation.OwnKey Negotiation.start (h.events h.offerKey) ∧
    Set.InjOn crypto.digest (run Negotiation.step Negotiation.start (h.events h.offerKey)).hashed ∧
    ∃ f ∈ (run Negotiation.step Negotiation.start (h.events h.offerKey)).finished,
      ∃ a ∈ (run Negotiation.step Negotiation.start (h.events h.offerKey)).accepted, f.accept = a.envelope := by
  obtain ⟨hidentity, hkey, hunfinished, hcarries, hoffers⟩ := offer_ok h.offered
  have hfinish := h.finished
  rw [← h.finalOffer_own] at hfinish
  have hrun := h.run_events hfinish
  refine ⟨⟨trivial, trivial, trivial, ?_, trivial⟩, ?_, ?_⟩
  · intro offer hoffer
    obtain ⟨envelope, hsent⟩ := hoffers h.offerKey
    simp only [Negotiation.step, Negotiation.start, hsent, h.accepted, List.nil_append, List.modify,
      List.modifyTailIdx_zero, List.modifyHead, List.getElem?_cons_zero, Option.some.injEq] at hoffer
    rw [← hoffer, Offer.CarriesOwnKey, hfinal, hcarries, hkey]
  · have hhashed : ∀ bytes ∈ (run Negotiation.step Negotiation.start (h.events h.offerKey)).hashed,
        canonicalBytes h.offer.envelope = .ok bytes := by
      rw [hrun]
      rintro bytes (⟨a, ha, hbytes⟩ | ⟨f, hf, hbytes⟩)
      · rw [List.mem_singleton.mp ha, hreceived] at hbytes
        exact hbytes
      · rw [List.mem_singleton.mp hf, finalOffer, hfinal] at hbytes
        exact hbytes
    intro bytes hbytes bytes' hbytes' _
    exact Except.ok.inj ((hhashed bytes hbytes).symm.trans (hhashed bytes' hbytes'))
  · rw [hrun]
    exact ⟨_, List.mem_cons_self, _, List.mem_cons_self, rfl⟩

/-- The key of an offer enters `finish` only when the session is connected. -/
theorem finish_other (key : crypto.AgreementKey) : ∃ session after,
    (h.finalOffer key).finish crypto h.finishPolicy h.acceptance h.finishTime = (.ok session, after) ∧
    ∃ shared salt label, crypto.diffieHellman h.acceptKey (crypto.agreementPublic key) = some shared ∧
      session.send = crypto.hkdf shared salt label := by
  have hown := h.finished
  rw [← h.finalOffer_own] at hown
  simp only [Offer.finish] at hown
  split at hown
  · simp at hown
  rename_i body hchecked
  -- the checks do not read the key
  have hchecked' : (do
      ensure (!(h.finalOffer key).finished) (.error "Native offer already consumed")
      let body ← (h.finalOffer key).binds crypto h.acceptance h.finishTime
      h.finishPolicy.authorize crypto (peerPort (h.finalOffer key).peer) (some (h.finalOffer key).state)
        (some (h.finalOffer key).adapter)
      pure body) = Except.ok body := hchecked
  obtain ⟨hconnected, -⟩ := Prod.mk.inj hown
  simp only [bind_eq_ok, pure_eq_ok] at hchecked
  obtain ⟨-, -, body', hbinds, -, -, rfl⟩ := hchecked
  obtain ⟨peer, offered, -, -, hanswer⟩ := acceptNativeSession_ok h.accepted
  obtain ⟨offerSha256, -, hsign, -⟩ := answer_ok hanswer
  have hsigned := verifyEnvelope_signed hsign (binds_ok hbinds).envelope
  have hkey : body'.get "ephemeralKey" = some (.str (ephemeralKey crypto h.acceptKey)) := by
    simp [get_ordered hsigned, acceptanceBody]
  have hpeer := decode_ephemeralKey h.acceptKey
  rw [← hkey] at hpeer
  obtain ⟨shared, hshared⟩ := Option.isSome_iff_exists.mp (crypto.diffieHellman_public key h.acceptKey)
  obtain ⟨session, salt, label, hother, hsend⟩ := connected_other hconnected hpeer hshared
  refine ⟨session, { h.finalOffer key with finished := true }, ?_, shared, salt, label, ?_, hsend⟩
  · simp only [Offer.finish, hchecked']
    exact Prod.ext hother rfl
  · rw [crypto.diffieHellman_comm, hshared]

/-- An offer made under one key, then overwritten by the caller with an offer made under
another, finishes on the acceptance of that other offer with keys the acceptor lacks. -/
theorem swapped_disagrees (hhkdf : crypto.IdealHkdf) (hreceived : h.received = h.offer.envelope)
    {key : crypto.AgreementKey} (hkey : crypto.diffieHellman h.acceptKey (crypto.agreementPublic key) ≠
      crypto.diffieHellman h.acceptKey (crypto.agreementPublic h.offerKey)) :
    ∃ f ∈ (run Negotiation.step Negotiation.start (h.events key)).finished,
      ∃ a ∈ (run Negotiation.step Negotiation.start (h.events key)).accepted,
        f.accept = a.envelope ∧ f.session.send ≠ a.session.receive := by
  obtain ⟨session, after, hfinish, shared, salt, label, hshared, hsend⟩ := h.finish_other key
  refine ⟨⟨h.finalOffer key, h.acceptance, session⟩, ?_, ⟨h.received, h.acceptance, h.acceptorSession⟩, ?_, rfl, ?_⟩
  · rw [h.run_events hfinish]
    exact List.mem_cons_self
  · rw [h.run_events hfinish]
    exact List.mem_cons_self
  · -- the acceptor's key rests on the public key in the offer it received
    obtain ⟨peer, body, hacceptable, -, hanswer⟩ := acceptNativeSession_ok h.accepted
    obtain ⟨_, -, -, hconnected⟩ := answer_ok hanswer
    obtain ⟨raw, -, -, -, hraw, hbody, -⟩ := verifyEnvelope_ok hacceptable.envelope
    obtain ⟨-, hoffered, -, hcarries, -⟩ := offer_ok h.offered
    have hephemeral : body.get "ephemeralKey" = some (.str (ephemeralKey crypto h.offerKey)) := by
      rw [Offer.CarriesOwnKey, ← hreceived, hraw, Option.bind_some, hoffered] at hcarries
      rw [get_ordered hbody, hcarries, Option.bind_some, ordered_str]
    obtain ⟨_, _, peerKey, shared', _, _, -, -, hdecode, hagreed, -, -, hsession⟩ := connected_ok hconnected
    rw [hephemeral, decode_ephemeralKey, Except.ok.injEq] at hdecode
    subst hdecode
    intro heq
    simp only [hsend, hsession] at heq
    rw [hshared, hagreed] at hkey
    exact hkey (congrArg some (hhkdf heq).1)

end Handshake

/-! ## The sample run -/

namespace Sample

/-- Two ports of the sample with fresh records, that authorise each other. -/
theorem meeting {offerer acceptor : Identity crypto}
    (hacceptor : Passes (assertRecord crypto) (peerBody acceptor 1 now 60000) now now advertises = true)
    (hofferer : Passes (assertRecord crypto) (peerBody offerer 1 now 60000) now (now + 1) advertises = true)
    (hauth : ((policyFor acceptor).authorize crypto acceptor.id (some state) (some adapter)).isOk = true)
    (hauth' : ((policyFor offerer).authorize crypto offerer.id (some state) (some adapter)).isOk = true) :
    ∃ m : Meeting crypto, m.offerer = offerer ∧ m.acceptor = acceptor ∧ m.state = state ∧ m.adapter = adapter ∧
      m.offerTime = now := by
  obtain ⟨peer, -, -, hpeer, -, hkey, hadvertises⟩ := peerRecord_signed hacceptor
  obtain ⟨peer', -, -, hpeer', -, hkey', hadvertises'⟩ := peerRecord_signed hofferer
  exact ⟨⟨offerer, acceptor, peerRecord acceptor 1 now 60000, peer, peerRecord offerer 1 now 60000, peer', state,
    adapter, adapter, policyFor acceptor, policyFor offerer, policyFor acceptor, sessionBytes, (7 : UInt8),
    (9 : UInt8), now, now + 1, now + 2, hpeer, hkey, hadvertises, hpeer', hkey', hadvertises', rfl, ok_of_isOk hauth, ok_of_isOk hauth',
    ok_of_isOk hauth, Nat.zero_lt_succ _, List.length_replicate, rfl, by decide, by decide, by decide, by decide⟩,
    rfl, rfl, rfl, rfl, rfl⟩

theorem first_meets_second : ∃ m : Meeting crypto, m.offerer = first ∧ m.acceptor = second := by
  obtain ⟨m, hofferer, hacceptor, -⟩ :=
    @meeting first second (by decide +kernel) (by decide +kernel) (by decide +kernel) (by decide +kernel)
  exact ⟨m, hofferer, hacceptor⟩

theorem meets : ∃ h : Handshake crypto, h.offerer.id ≠ h.acceptor.id ∧ h.received = h.offer.envelope ∧
    h.finalEnvelope = h.offer.envelope := by
  obtain ⟨m, hofferer, hacceptor⟩ := first_meets_second
  obtain ⟨h, hofferer', hacceptor', hsent, -⟩ := m.handshake
  refine ⟨h, ?_, hsent⟩
  rw [hofferer', hacceptor', hofferer, hacceptor]
  decide +kernel

/-- The first port offers twice, writes its second offer over the first and finishes the
first offer on the acceptance of the second. -/
theorem swapped_offer_disagrees : ∃ (h : Handshake crypto) (key : crypto.AgreementKey),
    ∃ f ∈ (run Negotiation.step Negotiation.start (h.events key)).finished,
      ∃ a ∈ (run Negotiation.step Negotiation.start (h.events key)).accepted,
        f.accept = a.envelope ∧ f.session.send ≠ a.session.receive := by
  obtain ⟨h, -, hreceived, -⟩ := meets
  have hother : ∀ a o : UInt8, diffieHellman a [1, o + 1] ≠ diffieHellman a [1, o] := by
    intro a o
    simp [diffieHellman]
  exact ⟨h, _, h.swapped_disagrees idealHkdf hreceived (hother h.acceptKey h.offerKey)⟩

end Sample

end Native
