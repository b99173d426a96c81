import Mathlib.Data.Int.ConditionallyCompleteOrder
import Mathlib.Order.ConditionallyCompleteLattice.Basic
import StrataPortNetwork.Native.Meeting
import StrataPortNetwork.Native.Sample
import StrataPortNetwork.Transition

/-! # Acceptance of offers under one policy

Runs of `acceptNativeSession` and `revoke` on one policy. The replay store recognises
every session id that is a string, holds it until the offer carrying it is stale, and
never makes room by forgetting; an id that is an array is never recognised.
-/
namespace Native
open Js Transition

section
variable {crypto : Crypto}

/-! ## What an acceptance and the replay store do -/

namespace NativeSessionPolicy

theorem consume_ok {policy policy' : NativeSessionPolicy} {id : Json} {expiresAt now : ℤ}
    (h : policy.consume id expiresAt now = (.ok (), policy')) :
    (policy.pruned now).has id = false ∧ (policy.pruned now).size < policy.capacity ∧
      policy'.used = (policy.pruned now).set id expiresAt := by
  simp only [consume] at h
  split at h
  · simp at h
  · rename_i hfree
    simp only [Bool.or_eq_true, decide_eq_true_eq, not_or, Bool.not_eq_true, not_le] at hfree
    simp only [Prod.mk.injEq, true_and] at h
    exact ⟨hfree.1, hfree.2, by rw [← h]⟩

theorem consume_error {policy policy' : NativeSessionPolicy} {id : Json} {expiresAt now : ℤ} {e : Failure}
    (h : policy.consume id expiresAt now = (.error e, policy')) : policy'.used = policy.pruned now := by
  simp only [consume] at h
  split at h
  · simp only [Prod.mk.injEq] at h
    rw [← h.2]
  · simp at h

/-- Consuming an id loses another one only when that one has expired. -/
theorem consume_keeps {policy : NativeSessionPolicy} {id id' : Json} {expiresAt expiresAt' now : ℤ}
    (h : policy.used.get id' = some expiresAt') (hnow : now < expiresAt') :
    (policy.consume id expiresAt now).2.used.get id' = some expiresAt' := by
  have hpruned : (policy.pruned now).get id' = some expiresAt' := by
    rw [pruned, JsMap.get_filter, h, Option.filter_some, if_pos (by simpa using hnow)]
  rcases hc : policy.consume id expiresAt now with ⟨result | ⟨⟨⟩⟩, policy'⟩
  · rw [consume_error hc, hpruned]
  · obtain ⟨hfree, -, hused⟩ := consume_ok hc
    rw [hused, JsMap.get_set, hpruned]
    split
    · rename_i hid
      have hhas : (policy.pruned now).has id = true := by
        obtain ⟨e, he, hek, -⟩ := JsMap.mem_of_get hpruned
        exact List.any_eq_true.mpr ⟨e, he, PartialEquivBEq.trans hek (PartialEquivBEq.symm hid)⟩
      rw [hfree] at hhas
      exact absurd hhas (by simp)
    · rfl

end NativeSessionPolicy

/-- A full store rejects whatever offer arrives. -/
theorem acceptNativeSession_full (identity : Identity crypto) (offer peerRecord : Json)
    {policy : NativeSessionPolicy} (adapter : Json) {now : ℤ} (key : crypto.AgreementKey)
    (hfull : policy.capacity ≤ (policy.pruned now).size) (result : Json × Session crypto) :
    (acceptNativeSession crypto identity offer peerRecord policy adapter now key).1 ≠ .ok result := by
  intro h
  unfold acceptNativeSession at h
  split at h
  · simp at h
  · split at h
    · simp at h
    · rename_i hconsume
      have := (NativeSessionPolicy.consume_ok hconsume).2.1
      omega

/-- The checks before the store do not read it. -/
theorem acceptable_consume (policy : NativeSessionPolicy) (id : Json) (expiresAt time : ℤ) (identity : Identity crypto)
    (offer peerRecord adapter : Json) (now : ℤ) :
    acceptable crypto identity offer peerRecord (policy.consume id expiresAt time).2 adapter now =
      acceptable crypto identity offer peerRecord policy adapter now := by
  simp only [acceptable, authorize_consume]

/-! ## Runs -/

inductive PolicyCall (crypto : Crypto)
  | accept (identity : Identity crypto) (offer peerRecord adapter : Json) (now : ℤ)
      (key : crypto.AgreementKey)
  | revoke (peer : JsString)

/-- A policy with the offers accepted under it and when, the latest first. -/
structure Acceptor where
  policy : NativeSessionPolicy
  accepted : List (ℤ × Json)

def Acceptor.start (policy : NativeSessionPolicy) : Acceptor := ⟨policy, []⟩

def Acceptor.step (s : Acceptor) : PolicyCall crypto → Acceptor
  | .accept identity offer peerRecord adapter now key =>
    match acceptNativeSession crypto identity offer peerRecord s.policy adapter now key with
    | (.ok _, policy) => ⟨policy, (now, offer) :: s.accepted⟩
    | (.error _, policy) => ⟨policy, s.accepted⟩
  | .revoke peer =>
    match s.policy.revoke peer with
    | .ok policy => ⟨policy, s.accepted⟩
    | .error _ => s

def PolicyCall.readings : PolicyCall crypto → List ℤ
  | .accept _ _ _ _ now _ => [now]
  | .revoke _ => []

def offerSessionId (offer : Json) : Json := ((signedBody offer).get "sessionId").getD .null
def offerExpiresAt (offer : Json) : ℤ := (integerField (signedBody offer) "expiresAt").getD 0

/-- The session id of the offer is no array. -/
def PolicyCall.PlainId : PolicyCall crypto → Prop
  | .accept _ offer _ _ _ _ => ∀ items, (signedBody offer).get "sessionId" ≠ some (.arr items)
  | .revoke _ => True

/-- An acceptable offer with a plain id is fresh, and its id is a string. -/
theorem acceptable_plain {identity : Identity crypto} {offer peerRecord adapter peer body : Json}
    {policy : NativeSessionPolicy} {now : ℤ}
    (h : acceptable crypto identity offer peerRecord policy adapter now = .ok (peer, body))
    (hoffer : (ordered offer).isSome = true)
    (hplain : ∀ items, (signedBody offer).get "sessionId" ≠ some (.arr items)) :
    body = signedBody offer ∧ (∃ s, body.get "sessionId" = some (.str s)) ∧
      integerField body "expiresAt" = some (offerExpiresAt offer) ∧ now < offerExpiresAt offer := by
  have hspec := acceptable_spec h
  obtain ⟨raw, -, -, -, hraw, hordered, -⟩ := verifyEnvelope_ok hspec.envelope
  have hbody := (signedBody_eq hraw hordered hoffer).symm
  obtain ⟨issuedAt, expiresAt, -, hexpires, -, hfresh, -, -⟩ := lifetimeOk_iff.mp hspec.controlled.lifetime
  have hdeadline : offerExpiresAt offer = expiresAt := by
    rw [offerExpiresAt, ← hbody, hexpires, Option.getD_some]
  refine ⟨hbody, ?_, by rw [hexpires, hdeadline], by rw [hdeadline]; exact hfresh⟩
  rcases sessionId_of_test hspec.controlled.sessionId with hs | ⟨items, hitems⟩
  · exact hs
  · exact absurd (hbody ▸ hitems) (hplain items)

/-- What one call of `acceptNativeSession` does to the policy and the accepted offers. -/
theorem step_accept (s : Acceptor) (identity : Identity crypto) (offer peerRecord adapter : Json) (now : ℤ)
    (key : crypto.AgreementKey) {s' : Acceptor}
    (hs : s' = s.step (.accept identity offer peerRecord adapter now key)) :
    (s'.accepted = s.accepted ∧
      (s'.policy = s.policy ∨ ∃ id expiresAt, s'.policy = (s.policy.consume id expiresAt now).2)) ∨
    ∃ peer body, acceptable crypto identity offer peerRecord s.policy adapter now = .ok (peer, body) ∧
      s.policy.consume ((body.get "sessionId").getD .null) ((integerField body "expiresAt").getD 0) now =
        (.ok (), s'.policy) ∧ (ordered offer).isSome = true ∧
      s'.accepted = (now, offer) :: s.accepted := by
  subst hs
  simp only [Acceptor.step, acceptNativeSession]
  cases hchecked : acceptable crypto identity offer peerRecord s.policy adapter now with
  | error e => exact Or.inl ⟨rfl, Or.inl rfl⟩
  | ok checked =>
    obtain ⟨peer, body⟩ := checked
    simp only
    rcases hconsume : s.policy.consume ((body.get "sessionId").getD .null)
      ((integerField body "expiresAt").getD 0) now with ⟨e | ⟨⟨⟩⟩, policy⟩
    · exact Or.inl ⟨rfl, Or.inr ⟨_, _, by rw [hconsume]⟩⟩
    · simp only
      cases hanswer : answer crypto identity offer peer body now key with
      | error e => exact Or.inl ⟨rfl, Or.inr ⟨_, _, by rw [hconsume]⟩⟩
      | ok result =>
        simp only [answer, canonicalDigest, bind_eq_ok, map_eq_ok, canonicalBytes_eq_ok] at hanswer
        obtain ⟨-, ⟨-, ⟨copy, hcopy, -⟩, -⟩, -⟩ := hanswer
        exact Or.inr ⟨peer, body, rfl, hconsume, by rw [hcopy, Option.isSome_some], rfl⟩

/-- An answered offer is accepted. -/
theorem acceptor_step (s : Acceptor) {identity : Identity crypto} {offer peerRecord adapter peer body : Json}
    {policy : NativeSessionPolicy} {now : ℤ} {key : crypto.AgreementKey} {result : Json × Session crypto}
    (hacceptable : acceptable crypto identity offer peerRecord s.policy adapter now = .ok (peer, body))
    (hconsume : s.policy.consume ((body.get "sessionId").getD .null) ((integerField body "expiresAt").getD 0) now =
      (.ok (), policy))
    (hanswer : answer crypto identity offer peer body now key = .ok result) :
    s.step (.accept identity offer peerRecord adapter now key) = ⟨policy, (now, offer) :: s.accepted⟩ := by
  simp only [Acceptor.step, acceptNativeSession, hacceptable, hconsume, hanswer]

theorem step_revoke (s : Acceptor) (peer : JsString) :
    (s.step (.revoke peer : PolicyCall crypto)).accepted = s.accepted ∧
      (s.step (.revoke peer : PolicyCall crypto)).policy.used = s.policy.used := by
  rw [Acceptor.step.eq_2]
  cases h : s.policy.revoke peer with
  | error e => exact ⟨rfl, rfl⟩
  | ok policy =>
    simp only [NativeSessionPolicy.revoke, bind_eq_ok, ensure_eq_ok, pure_eq_ok] at h
    obtain ⟨-, -, rfl⟩ := h
    exact ⟨rfl, rfl⟩

/-- A call loses a remembered id only when the id has expired. -/
theorem step_keeps (s : Acceptor) (call : PolicyCall crypto) {id : Json} {expiresAt : ℤ}
    (h : s.policy.used.get id = some expiresAt) :
    (s.step call).policy.used.get id = some expiresAt ∨ ∃ r ∈ call.readings, expiresAt ≤ r := by
  cases call with
  | revoke peer => exact Or.inl ((congrArg (·.get id) (step_revoke s peer).2).trans h)
  | accept identity offer peerRecord adapter now key =>
    rcases lt_or_ge now expiresAt with hnow | hnow
    · left
      rcases step_accept s identity offer peerRecord adapter now key rfl with
        ⟨-, hpolicy | ⟨id', expiresAt', hpolicy⟩⟩ | ⟨peer, body, -, hconsume, -, -⟩
      · rw [hpolicy, h]
      · rw [hpolicy]
        exact NativeSessionPolicy.consume_keeps h hnow
      · rw [show (s.step _).policy = _ from (congrArg Prod.snd hconsume).symm]
        exact NativeSessionPolicy.consume_keeps h hnow
    · exact Or.inr ⟨now, List.mem_singleton_self now, hnow⟩

/-- A call that accepts an offer with a plain id finds the id free and remembers it. -/
theorem step_grows (s : Acceptor) (call : PolicyCall crypto) (hplain : call.PlainId) :
    (s.step call).accepted = s.accepted ∨ ∃ r ∈ call.readings, ∃ offer,
      (s.step call).accepted = (r, offer) :: s.accepted ∧ r < offerExpiresAt offer ∧
      (s.step call).policy.used.get (offerSessionId offer) = some (offerExpiresAt offer) ∧
      ∀ e ∈ s.accepted, s.policy.used.get (offerSessionId e.2) = some (offerExpiresAt e.2) →
        offerSessionId e.2 = offerSessionId offer → offerExpiresAt e.2 ≤ r := by
  cases call with
  | revoke peer => exact Or.inl (step_revoke s peer).1
  | accept identity offer peerRecord adapter now key =>
    rcases step_accept s identity offer peerRecord adapter now key rfl with
      ⟨hsame, -⟩ | ⟨peer, body, hchecked, hconsume, hoffer, hgrown⟩
    · exact Or.inl hsame
    · obtain ⟨hbody, ⟨id, hs⟩, hexpires, hfresh⟩ := acceptable_plain hchecked hoffer hplain
      have hid : offerSessionId offer = .str id := by
        rw [offerSessionId, ← hbody, hs, Option.getD_some]
      rw [hs, hexpires, Option.getD_some, Option.getD_some] at hconsume
      obtain ⟨hfree, -, hused⟩ := NativeSessionPolicy.consume_ok hconsume
      refine Or.inr ⟨now, List.mem_singleton_self now, offer, hgrown, hfresh, ?_, ?_⟩
      · rw [hused, hid, JsMap.get_set, if_pos (by simp)]
      · intro e _ hheld hclash
        rw [hclash, hid] at hheld
        by_contra hlate
        have hpruned : (s.policy.pruned now).get (.str id) = some (offerExpiresAt e.2) := by
          rw [NativeSessionPolicy.pruned, JsMap.get_filter, hheld, Option.filter_some,
            if_pos (by simpa using hlate)]
        rw [JsMap.get_eq_none_iff.mpr hfree] at hpruned
        exact absurd hpruned (by simp)

/-- The replay store as a ledger of leased session ids. -/
def replayLedger (crypto : Crypto) : Ledger (@Acceptor.step crypto) PolicyCall.readings
    (fun _ call => call.PlainId) Json where
  entries s := s.accepted
  deadline := offerExpiresAt
  held s offer := s.policy.used.get (offerSessionId offer) = some (offerExpiresAt offer)
  clash earlier later := offerSessionId earlier = offerSessionId later
  keeps s call _ _ hheld := step_keeps s call hheld
  grows s call hplain := step_grows s call hplain

/-- The acceptor after a run of calls on a policy. -/
def Acceptor.after (policy : NativeSessionPolicy) (calls : List (PolicyCall crypto)) : Acceptor :=
  run Acceptor.step (Acceptor.start policy) calls

/-- No offer is accepted twice under one policy by calls whose offers carry no array as
session id, in whatever order they come and whatever else they carry; the store holds the
id of every accepted offer until the clock reaches its expiry, and a full store accepts
nothing. -/
theorem accept_once (policy : NativeSessionPolicy) {calls : List (PolicyCall crypto)}
    (hclock : ClockForward PolicyCall.readings calls) (hplain : ∀ call ∈ calls, call.PlainId) :
    ((Acceptor.after policy calls).accepted.map fun e => canonicalBytes e.2).Nodup ∧
    (∀ e ∈ (Acceptor.after policy calls).accepted,
      (Acceptor.after policy calls).policy.used.get (offerSessionId e.2) = some (offerExpiresAt e.2) ∨
        ∃ r ∈ calls.flatMap PolicyCall.readings, offerExpiresAt e.2 ≤ r) ∧
    ∀ identity offer peerRecord adapter now key result,
      (Acceptor.after policy calls).policy.capacity ≤
          ((Acceptor.after policy calls).policy.pruned now).size →
        (acceptNativeSession crypto identity offer peerRecord (Acceptor.after policy calls).policy
          adapter now key).1 ≠ .ok result := by
  have hsound := (replayLedger crypto).sound_of_nil (s := Acceptor.start policy) rfl
    (steps_of_forall hplain) hclock
  refine ⟨?_, hsound.kept, ?_⟩
  · rw [List.Nodup, List.pairwise_map]
    refine hsound.apart.imp_of_mem ?_
    intro later earlier hlater _ hapart heq
    have hsame : signedBody earlier.2 = signedBody later.2 := by
      rw [signedBody, signedBody, canonicalBytes_eq_iff.mp heq]
    have hid : offerSessionId earlier.2 = offerSessionId later.2 := by
      rw [offerSessionId, offerSessionId, hsame]
    have hexpires : offerExpiresAt earlier.2 = offerExpiresAt later.2 := by
      rw [offerExpiresAt, offerExpiresAt, hsame]
    have hfresh : later.1 < offerExpiresAt later.2 := hsound.fresh later hlater
    have hlate : offerExpiresAt earlier.2 ≤ later.1 := hapart hid
    omega
  · intro identity offer peerRecord adapter now key result hfull
    exact acceptNativeSession_full identity offer peerRecord adapter key hfull result

end

/-! ## Sample runs -/

namespace Sample

def sessionOffer (id : Json) : Json :=
  (first.sign (.record [("schema", .text Kind.offer.schema), ("suite", .text suite),
    ("sessionId", id), ("fromPort", .str first.id), ("toPort", .str second.id), ("issuedAt", .int now),
    ("expiresAt", .int (now + 30000)), ("ephemeralKey", .str (ephemeralKey crypto (5 : UInt8))),
    ("scope", state), ("adapter", adapter)])).toOption.getD .null

def acceptance (id : Json) : PolicyCall crypto :=
  .accept second (sessionOffer id) (peerRecord first 1 now 60000) adapter now (6 : UInt8)

def plainId : Json := .str (List.replicate 32 97)

theorem accept_once_plainId : ((Acceptor.after (policyFor first)
    [acceptance plainId, acceptance plainId]).accepted.map fun e => canonicalBytes e.2).Nodup :=
  (accept_once (policyFor first) (by simp [ClockForward, acceptance, PolicyCall.readings]) (by
    have hplain : (signedBody (sessionOffer plainId)).get "sessionId" = some plainId :=
      Json.opt_eq_of_beq (by decide +kernel)
    have hcall : (acceptance plainId).PlainId := by
      intro items
      rw [hplain]
      simp [plainId]
    exact List.forall_mem_cons.mpr ⟨hcall, List.forall_mem_singleton.mpr hcall⟩)).1

/-- The body of the offer before it is signed. -/
def sessionBody (id : Json) : Json :=
  .record [("schema", .text Kind.offer.schema), ("suite", .text suite),
    ("sessionId", id), ("fromPort", .str first.id), ("toPort", .str second.id), ("issuedAt", .int now),
    ("expiresAt", .int (now + 30000)), ("ephemeralKey", .str (ephemeralKey crypto (5 : UInt8))),
    ("scope", state), ("adapter", adapter)]

/-- The store never finds an array again. -/
theorem consume_array (policy : NativeSessionPolicy) (items : List Json) (expiresAt now : ℤ)
    (hroom : (policy.pruned now).size < policy.capacity) : policy.consume (.arr items) expiresAt now =
      (.ok (), { policy with used := (policy.pruned now).set (.arr items) expiresAt }) := by
  have hnew : (policy.pruned now).has (.arr items) = false := by
    refine List.any_eq_false.mpr fun e _ => ?_
    cases e.1 <;> simp [BEq.beq, Json.strictEq]
  simp [NativeSessionPolicy.consume, hnew, not_le.mpr hroom]

/-- The sample offer with an array as id passes every check but the store's. -/
theorem array_acceptable : ∃ peer copy, sessionOffer (.arr [plainId]) = first.envelope copy ∧
    ordered (sessionBody (.arr [plainId])) = some copy ∧
    acceptable crypto second (sessionOffer (.arr [plainId])) (peerRecord first 1 now 60000) (policyFor first)
      adapter now = .ok (peer, copy) := by
  obtain ⟨peer, -, -, hpeer, hport, hkey, hadvertises⟩ :=
    @peerRecord_signed first 1 now 60000 now advertises (by decide +kernel)
  have hcontrolled : (ordered (sessionBody (.arr [plainId]))).any
      (fun copy => (control crypto copy now .offer).isOk) = true := by decide +kernel
  obtain ⟨copy, hcopy, hcontrol⟩ := (Option.any_eq_true _ _).mp hcontrolled
  have hoffer : sessionOffer (.arr [plainId]) = first.envelope copy := by
    have hsign := first.sign_ordered hcopy
    rw [sessionBody] at hsign
    rw [sessionOffer, hsign]
    rfl
  have hget : ∀ name, copy.get name = ((sessionBody (.arr [plainId])).get name).bind ordered := get_ordered hcopy
  obtain ⟨state', hstate⟩ : ∃ state', ordered state = some state' :=
    Option.isSome_iff_exists.mp (by decide +kernel)
  obtain ⟨adapter', hadapter⟩ : ∃ adapter', ordered adapter = some adapter' :=
    Option.isSome_iff_exists.mp (by decide +kernel)
  have hauth : (policyFor first).authorize crypto first.id (some state) (some adapter) = .ok () :=
    ok_of_isOk (by decide +kernel)
  have hauth' := authorize_ordered_state hstate hauth
  have hadapterAt : (sessionBody (.arr [plainId])).get "adapter" = some adapter := rfl
  have hstateAt : (sessionBody (.arr [plainId])).get "scope" = some state := rfl
  obtain ⟨d, hd, -⟩ := (authorize_eq_ok.mp hauth).2.2.2
  have hsame : canonicalDigest crypto adapter' = .ok d := (canonicalDigest_ordered hadapter).trans hd
  have hname : peerPort peer = first.id := by
    rw [peerPort, hport]
    rfl
  have hverify : verifyEnvelope crypto (sessionOffer (.arr [plainId])) (peer.get "portId") (peer.get "publicKey") =
      .ok copy := by
    rw [hport, hkey, hoffer]
    exact verifyEnvelope_sign hcopy (first.sign_ordered hcopy)
  refine ⟨peer, copy, hoffer, hcopy, ?_⟩
  simp only [acceptable, bind_eq_ok, ensure_eq_ok, pure_eq_ok, Bool.and_eq_true, beq_iff_eq, Json.some_beq_str_iff]
  refine ⟨peer, hpeer, (), hadvertises, copy, hverify, (), ok_of_isOk hcontrol, (), ⟨?_, ?_⟩, d, ?_, d, hd, (), rfl,
    (), ?_, rfl⟩
  · rw [hport, hget]
    exact Json.some_beq_str_iff.mpr rfl
  · rw [hget]
    rfl
  · rw [hget, hadapterAt, Option.bind_some, hadapter]
    exact hsame
  · rw [hname, hget, hstateAt, Option.bind_some, hstate]
    exact hauth'

/-- An offer whose session id is an array around a well formed id, accepted twice. -/
theorem array_offer_accepted_twice :
    ClockForward PolicyCall.readings [acceptance (.arr [plainId]), acceptance (.arr [plainId])] ∧
    ¬ ((Acceptor.after (policyFor first) [acceptance (.arr [plainId]),
      acceptance (.arr [plainId])]).accepted.map fun e => canonicalBytes e.2).Nodup := by
  refine ⟨by simp [ClockForward, acceptance, PolicyCall.readings], ?_⟩
  obtain ⟨peer, copy, hoffer, hcopy, hacceptable⟩ := array_acceptable
  have hget := get_ordered hcopy
  have hid : copy.get "sessionId" = some (.arr [plainId]) := by
    rw [hget]
    rfl
  have hkey : copy.get "ephemeralKey" = some (.str (ephemeralKey crypto (5 : UInt8))) := by
    rw [hget]
    rfl
  obtain ⟨_, _, session, -, -, hanswer⟩ := answer_complete first second peer hcopy (isNull_ordered hcopy) hkey
    (show -9007199254740991 ≤ now by decide) (by decide) (6 : UInt8)
  rw [← hoffer] at hanswer
  have hfirst := consume_array (policyFor first) [plainId] ((integerField copy "expiresAt").getD 0) now (by decide)
  have hagain := acceptable_consume (policyFor first) (.arr [plainId]) ((integerField copy "expiresAt").getD 0) now
    second (sessionOffer (.arr [plainId])) (peerRecord first 1 now 60000) adapter now
  rw [hfirst, hacceptable] at hagain
  have hsecond := consume_array { policyFor first with
      used := ((policyFor first).pruned now).set (.arr [plainId]) ((integerField copy "expiresAt").getD 0) }
    [plainId] ((integerField copy "expiresAt").getD 0) now
    (lt_of_le_of_lt (List.length_filter_le _ _) (show 1 < 256 by decide))
  have hstep := acceptor_step (Acceptor.start (policyFor first)) hacceptable (by rw [hid]; exact hfirst) hanswer
  have hstep' := acceptor_step ⟨_, [(now, sessionOffer (.arr [plainId]))]⟩ hagain (by rw [hid]; exact hsecond) hanswer
  have hrun : (Acceptor.after (policyFor first) [acceptance (.arr [plainId]), acceptance (.arr [plainId])]).accepted =
      [(now, sessionOffer (.arr [plainId])), (now, sessionOffer (.arr [plainId]))] := by
    rw [Acceptor.after, run_cons, run_cons, run_nil, acceptance, hstep]
    exact congrArg Acceptor.accepted hstep'
  rw [hrun]
  simp

end Sample

end Native
