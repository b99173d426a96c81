import StrataPortNetwork.Native.Agreement
import StrataPortNetwork.Native.Channel

/-! # Completeness of the handshake

The checks of the three calls are made at different times and on different copies. A
snapshot passes the same checks as the value it was taken from, so nothing that one end
let pass is refused by the other.
-/
namespace Native
open Js Transition

section
variable {crypto : Crypto}

/-! ## First frames -/

/-- A frame that the sender seals at the receiver's count, before the session expires, opens
to the same bytes. -/
def Session.Delivers (sender receiver : Session crypto) (state adapter : Json) (expiresAt : ℤ) : Prop :=
  ∀ policy policy' channel channel' now now' (bytes : Bytes),
    policy.authorize crypto sender.peerPort (some state) (some adapter) = .ok () →
    policy'.authorize crypto receiver.peerPort (some state) (some adapter) = .ok () →
    channel.closed = false → channel'.closed = false → channel.tx = channel'.rx → channel.tx < 1024 →
    now < expiresAt → now' < expiresAt → bytes.length ≤ sender.maxBytes →
    ∃ sealing after after', sender.sealBytes channel policy (some bytes) now = .ok (sealing, after) ∧
      receiver.openFrame crypto.decrypt channel' policy' (sender.frame sealing) now' = (.ok bytes, after')

theorem Session.Agree.delivers {session session' : Session crypto} (hagree : session.Agree session')
    {id : JsString} {state adapter : Json} {expiresAt : ℤ} (h : session.Of id state adapter expiresAt)
    (h' : session'.Of id state adapter expiresAt) : session.Delivers session' state adapter expiresAt := by
  intro policy policy' channel channel' now now' bytes hauth hauth' hopen hopen' hcount htx hnow hnow' hquota
  obtain ⟨raw, hbody⟩ := h.body
  obtain ⟨copy, hstate, hscope⟩ := h.state_eq
  have hscope_ok : Native.scope session.scope = .ok () := by
    rw [hscope]
    exact scope_ordered hstate (authorize_eq_ok.mp hauth).1
  obtain ⟨aad, hseal⟩ := sealBytes_complete (h.active hauth hopen hnow) htx hbody h.id_eq hscope_ok hquota
  have hreceives := receives_frame hseal h.id_eq hagree.id.symm hagree.scope.symm hagree.ports.2.symm
    hagree.ports.1.symm hcount.symm (h'.active hauth' hopen' hnow')
  refine ⟨_, _, { channel' with rx := channel'.rx + 1 }, hseal, ?_⟩
  have hdecrypt : crypto.decrypt session'.receive (Session.nonce channel'.rx) aad
      (crypto.encrypt session.send (Session.nonce channel.tx) aad bytes).1
      (crypto.encrypt session.send (Session.nonce channel.tx) aad bytes).2 = some bytes := by
    rw [← hcount, ← hagree.keys.1]
    exact crypto.decrypt_encrypt session.send (Session.nonce channel.tx) aad bytes
  rw [Session.openFrame, hreceives]
  simp only [Sealing.ciphertext, Sealing.tag, Sealing.nonce, hdecrypt]

end

namespace Meeting
variable {crypto : Crypto}

/-- The calls succeed and the first frame of either end opens at the other. -/
def Completes (m : Meeting crypto) : Prop :=
  ∃ offer acceptance session session' policy offer',
    offerNativeSession crypto m.offerer m.acceptorRecord m.state m.adapter m.offerPolicy m.offerTime m.sessionBytes
      m.offerKey = .ok offer ∧
    acceptNativeSession crypto m.acceptor offer.envelope m.offererRecord m.acceptPolicy m.acceptAdapter m.acceptTime
      m.acceptKey = (.ok (acceptance, session'), policy) ∧
    offer.finish crypto m.finishPolicy acceptance m.finishTime = (.ok session, offer') ∧
    session.Delivers session' m.state m.adapter (m.offerTime + 30000) ∧
    session'.Delivers session m.state m.adapter (m.offerTime + 30000)

theorem completes (m : Meeting crypto) : m.Completes := by
  obtain ⟨offer, acceptance, session, session', policy, offer', hoffer, haccept, hfinish, hagree, hof, hof'⟩ :=
    m.sessions
  exact ⟨offer, acceptance, session, session', policy, offer', hoffer, haccept, hfinish, hagree.delivers hof hof',
    hagree.symm.delivers hof' hof⟩

end Meeting

/-- In every run that finishes offers under their own keys, the two sessions of a handshake
agree; and any two ports that may meet complete a handshake and exchange frames. -/
theorem handshake_agreement_and_completeness (crypto : Crypto) :
    (∀ events : List (NegotiationEvent crypto),
      Steps Negotiation.step Negotiation.OwnKey Negotiation.start events →
      Set.InjOn crypto.digest (run Negotiation.step Negotiation.start events).hashed →
      ∀ f ∈ (run Negotiation.step Negotiation.start events).finished,
        ∀ a ∈ (run Negotiation.step Negotiation.start events).accepted,
          f.accept = a.envelope → f.session.Agree a.session) ∧
    ∀ m : Meeting crypto, m.Completes :=
  ⟨fun _ hown hdigest => Negotiation.run_agree hown hdigest, Meeting.completes⟩

namespace Sample

theorem handshake_agreement_and_completeness_meets :
    (∃ h : Handshake crypto, ∃ f ∈ (run Negotiation.step Negotiation.start (h.events h.offerKey)).finished,
      ∃ a ∈ (run Negotiation.step Negotiation.start (h.events h.offerKey)).accepted,
        f.session.Agree a.session) ∧ ∃ m : Meeting crypto, m.Completes := by
  obtain ⟨hagree, hcompletes⟩ := handshake_agreement_and_completeness crypto
  obtain ⟨h, -, hreceived, hfinal⟩ := meets
  obtain ⟨hown, hdigest, f, hf, a, ha, haccept⟩ := h.events_own hreceived hfinal
  obtain ⟨m, -⟩ := first_meets_second
  exact ⟨⟨h, f, hf, a, ha, hagree _ hown hdigest f hf a ha haccept⟩, m, hcompletes m⟩

end Sample

end Native
