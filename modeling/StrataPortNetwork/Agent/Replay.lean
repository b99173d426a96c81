import Mathlib.Data.Int.ConditionallyCompleteOrder
import Mathlib.Order.ConditionallyCompleteLattice.Basic
import StrataPortNetwork.Agent.Revocation

/-! # Replay

The guard remembers the key of an accepted envelope until a reading of the clock reaches
its expiry, and the key determines the sender and a nonce that is a string. What can still
happen is that the expiry falls between the two readings of one call: the envelope passes as
unexpired and finds its own entry pruned.
-/
namespace Agent
open Js Transition
variable {date : DateApi}

/-! ## Keys -/

theorem js_colon : js ":" = [58] := by decide

/-- Texts without a separator are determined by what they and the separator begin. -/
theorem append_separator_inj {c : UInt16} {s s' t t' : JsString} (hs : c ∉ s) (hs' : c ∉ s')
    (h : s ++ c :: t = s' ++ c :: t') : s = s' ∧ t = t' := by
  induction s generalizing s' with
  | nil =>
    cases s' with
    | nil => exact ⟨rfl, (List.cons.inj h).2⟩
    | cons d s' => exact absurd (List.mem_cons.mpr (Or.inl (List.cons.inj h).1)) hs'
  | cons d s ih =>
    cases s' with
    | nil => exact absurd (List.mem_cons.mpr (Or.inl (List.cons.inj h).1.symm)) hs
    | cons d' s' =>
      obtain ⟨hd, hrest⟩ := List.cons.inj h
      obtain ⟨heq, htail⟩ := ih (fun hc => hs (List.mem_cons_of_mem _ hc)) (fun hc => hs' (List.mem_cons_of_mem _ hc)) hrest
      exact ⟨by rw [hd, heq], htail⟩

theorem accepts_idPattern {head : String} {s : JsString} (h : (idPattern head).accepts s = true) :
    ∃ t, s = js head ++ t := by
  cases (Regex.accepts_iff _ _).mp h with
  | @seq _ _ u t hu _ =>
    cases hu with
    | lit => exact ⟨t, rfl⟩

/-- A value other than an array that passes an id pattern is a string. -/
theorem string_of_idPattern {head : String} (hhead : ((js head).head?.all fun u => 57 < u.toNat) = true)
    (hne : js head ≠ []) (hnames : ∀ s ∈ ["null", "true", "false", "[object Object]"], (js s).head? ≠ (js head).head?)
    {v : Json} (h : (idPattern head).test (some v) = some true) (hself : (v == v) = true) : ∃ s, v = .str s := by
  obtain ⟨s, hs, haccepts⟩ := test_eq_true_iff.mp h
  obtain ⟨t, rfl⟩ := accepts_idPattern haccepts
  have hfirst : (js head ++ t).head? = (js head).head? := by
    cases hj : js head with
    | nil => exact absurd hj hne
    | cons u rest => rfl
  have hnot : ∀ name ∈ ["null", "true", "false", "[object Object]"], v.toStr? ≠ some (js name) := by
    intro name hname heq
    rw [heq] at hs
    exact hnames name hname (by rw [Option.some.inj hs, hfirst])
  cases v with
  | null => exact absurd rfl (hnot "null" (by simp))
  | bool b => cases b <;> [exact absurd rfl (hnot "false" (by simp)); exact absurd rfl (hnot "true" (by simp))]
  | num x =>
    obtain ⟨c, rest, htext, -, hc⟩ := toText_head x
    have hx : x.toText = js head ++ t := by simpa [Json.toStr?] using hs
    rw [htext] at hx
    have hlt := (Option.all_eq_true _ _).mp hhead c (by rw [← hfirst, ← hx]; rfl)
    rw [decide_eq_true_eq] at hlt
    omega
  | str s => exact ⟨s, rfl⟩
  | arr items => exact absurd hself (by change ¬ Json.strictEq _ _ = true; simp [Json.strictEq])
  | obj fields => exact absurd hself (by change ¬ Json.strictEq _ _ = true; simp [Json.strictEq])

theorem validatePrincipal_ok {v : Option Json} (h : validatePrincipal v = .ok ()) :
    ((v.getD .null).get "principal_type" = some (.text "agent") ∧
      agentIdPattern.test ((v.getD .null).get "id") = some true) ∨
    ((v.getD .null).get "principal_type" = some (.text "runtime_component") ∧
      oneOf ((v.getD .null).get "id") RUNTIME_COMPONENTS = true) := by
  simp only [validatePrincipal, bind_eq_ok, require_eq_ok] at h
  obtain ⟨⟨⟩, -, ⟨⟩, htype, h⟩ := h
  by_cases hagent : ((v.getD .null).get "principal_type" == some (.text "agent")) = true
  · rw [if_pos hagent, requireTest_eq_ok] at h
    exact Or.inl ⟨Json.some_beq_str_iff.mp hagent, h⟩
  · rw [if_neg hagent, require_eq_ok] at h
    rw [oneOf, List.any_cons, Bool.or_eq_true] at htype
    rcases htype with htype | htype
    · exact absurd htype hagent
    · rw [List.any_cons, List.any_nil, Bool.or_false] at htype
      exact Or.inr ⟨Json.some_beq_str_iff.mp htype, h⟩

theorem validateEnvelope_sender {envelope : Json} (h : validateEnvelope date envelope = .ok ()) :
    validatePrincipal (envelope.get "sender") = .ok () := by
  simp only [validateEnvelope, bind_eq_ok] at h
  obtain ⟨-, -, -, -, -, -, -, -, -, -, -, -, -, -, -, -, ⟨⟩, hsender, -⟩ := h
  exact hsender

namespace Gateway
variable {g g' : Gateway date} {value : Json} {now consumedAt : ℤ}

/-- The sender of an envelope that reaches the guard is named by two texts without a separator. -/
theorem ReachesGuard.sender (h : g.ReachesGuard value now) :
    ∃ type id : JsString, (field value "sender").get "principal_type" = some (.str type) ∧
      (field value "sender").get "id" = some (.str id) ∧ 58 ∉ type ∧ 58 ∉ id := by
  obtain ⟨envelope, rfl, hauthorized, hroute⟩ := h
  obtain ⟨-, hsender, -⟩ := authorizeValidatedEnvelope_ok hauthorized
  rcases validatePrincipal_ok (validateEnvelope_sender envelope.2) with ⟨htype, htest⟩ | ⟨htype, hcomponent⟩
  · have hagent : isAgent (field envelope.1 "sender") = true := Json.some_beq_str_iff.mpr htype
    have hplain : envelope.hasType "revocation" = false := by
      rcases hroute with hplain | hbrainstem
      · exact hplain
      · have hnot : isAgent (field envelope.1 "sender") = false := not_agent_of_component hbrainstem
        rw [hnot] at hagent
        simp at hagent
    obtain ⟨identity, hactive, -⟩ := authorizeAgentEnvelope_ok (hsender hagent) hplain
    obtain ⟨v, hv, hget⟩ := Option.bind_eq_some_iff.mp (requireActiveAgent_ok hactive).1
    have hv : (field envelope.1 "sender").get "id" = some v := hv
    have hkey : (identity.agentId == v) = true := Registry.key_of_get hget
    have htest : agentIdPattern.test ((field envelope.1 "sender").get "id") = some true := htest
    rw [hv] at htest
    obtain ⟨s, rfl⟩ := string_of_idPattern (by decide) (by decide) (by decide) htest
      (PartialEquivBEq.trans (PartialEquivBEq.symm hkey) hkey)
    refine ⟨js "agent", s, htype, hv, by decide, ?_⟩
    exact Regex.not_mem_of_accepts (by simpa using htest) (by decide)
  · obtain ⟨name, hname, hid⟩ := List.any_eq_true.mp hcomponent
    refine ⟨js "runtime_component", js name, htype, Json.some_beq_str_iff.mp hid, by decide, ?_⟩
    have hall : ∀ name ∈ RUNTIME_COMPONENTS, 58 ∉ js name := by decide
    exact hall name hname

theorem replayKeyOf_eq {type id nonce : JsString} (htype : (field value "sender").get "principal_type" = some (.str type))
    (hid : (field value "sender").get "id" = some (.str id)) (hnonce : value.get "nonce" = some (.str nonce)) :
    replayKeyOf value = some (type ++ 58 :: (id ++ 58 :: nonce)) := by
  simp [replayKeyOf, joinKey, htype, hid, hnonce, Json.toStr?, js_colon]

/-- Envelopes that reach the guard under one key have one sender and one nonce. -/
theorem replayKeyOf_inj {g' : Gateway date} {value' : Json} {now' : ℤ} (h : g.ReachesGuard value now)
    (h' : g'.ReachesGuard value' now') {nonce nonce' : JsString} (hnonce : value.get "nonce" = some (.str nonce))
    (hnonce' : value'.get "nonce" = some (.str nonce')) (hkey : replayKeyOf value = replayKeyOf value') :
    (field value "sender").get "principal_type" = (field value' "sender").get "principal_type" ∧
      (field value "sender").get "id" = (field value' "sender").get "id" ∧ nonce = nonce' := by
  obtain ⟨type, id, htype, hid, htypePlain, hidPlain⟩ := h.sender
  obtain ⟨type', id', htype', hid', htypePlain', hidPlain'⟩ := h'.sender
  rw [replayKeyOf_eq htype hid hnonce, replayKeyOf_eq htype' hid' hnonce', Option.some.injEq] at hkey
  obtain ⟨rfl, hrest⟩ := append_separator_inj htypePlain htypePlain' hkey
  obtain ⟨rfl, rfl⟩ := append_separator_inj hidPlain hidPlain' hrest
  exact ⟨htype.trans htype'.symm, hid.trans hid'.symm, rfl⟩

end Gateway

/-! ## What the guard keeps -/

namespace ReplayGuard
variable {guard guard' guard'' : ReplayGuard} {readings : List ℤ}

/-- The entries that are unexpired at all the readings stay. -/
def Keeps (guard guard' : ReplayGuard) (readings : List ℤ) : Prop :=
  ∀ key expiresAt, guard.entries.get key = some expiresAt → (∀ r ∈ readings, r < expiresAt) →
    guard'.entries.get key = some expiresAt

theorem Keeps.refl (guard : ReplayGuard) (readings : List ℤ) : Keeps guard guard readings := fun _ _ h _ => h

theorem Keeps.trans (h : Keeps guard guard' readings) (h' : Keeps guard' guard'' readings) :
    Keeps guard guard'' readings := fun key expiresAt hget hr => h' key expiresAt (h key expiresAt hget hr) hr

theorem keeps_prune {now : ℤ} (hnow : now ∈ readings) : Keeps guard (guard.prune now) readings := by
  intro key expiresAt hget hr
  rw [get_prune, hget, Option.filter_some, if_pos (by simpa using hr now hnow)]

theorem keeps_consume {key : JsString} {expiresAt now : ℤ} (hnow : now ∈ readings) :
    Keeps guard (guard.consume key expiresAt now).2 readings := by
  rcases h : guard.consume key expiresAt now with ⟨e | ⟨⟨⟩⟩, guard'⟩
  · rw [consume_error h]
    exact keeps_prune hnow
  · obtain ⟨hfree, hentries⟩ := consume_ok h
    refine (keeps_prune hnow).trans fun key' expiresAt' hget _ => ?_
    have hne : ¬ (key == key') = true := by
      intro he
      have hhas : (guard.prune now).has key = true :=
        JsMap.has_iff.mpr ⟨expiresAt', by rw [JsMap.get_congr _ he, hget]⟩
      rw [hfree] at hhas
      simp at hhas
    rw [hentries, JsMap.get_set, if_neg hne, hget]

/-- A key that is free after pruning has no entry unexpired at that time. -/
theorem expired_of_free {key : JsString} {expiresAt now : ℤ} (h : (guard.prune now).has key = false)
    (hget : guard.entries.get key = some expiresAt) : expiresAt ≤ now := by
  by_contra hlate
  have hkept : (guard.prune now).entries.get key = some expiresAt := by
    rw [get_prune, hget, Option.filter_some, if_pos (by simpa using hlate)]
  rw [has, ← Bool.not_eq_true, JsMap.has_iff] at h
  exact h ⟨expiresAt, hkept⟩

end ReplayGuard

namespace Gateway
variable {g g' : Gateway date} {value : Json} {now consumedAt : ℤ} {envelope : Envelope date}

theorem acceptValidatedEnvelope_keeps {readings : List ℤ} (hc : consumedAt ∈ readings) :
    g.replayGuard.Keeps (g.acceptValidatedEnvelope envelope now consumedAt).2.replayGuard readings := by
  unfold acceptValidatedEnvelope
  split
  · exact .refl _ _
  · exact ReplayGuard.keeps_prune hc
  · rename_i key _ _
    have hkeeps : g.replayGuard.Keeps (g.replayGuard.consume key envelope.expiresAt consumedAt).2 readings :=
      ReplayGuard.keeps_consume hc
    split
    · rename_i e guard hconsume
      rwa [hconsume] at hkeeps
    · rename_i guard hconsume
      rwa [hconsume] at hkeeps

/-- An operation loses an entry only when one of its readings has reached the expiry. -/
theorem step_keeps (g : Gateway date) (op : Operation) :
    g.replayGuard.Keeps (g.step op).replayGuard op.readings := by
  have hregistered : ∀ {result : Outcome (Json × Gateway date)},
      (∀ v g', result = .ok (v, g') → g'.replayGuard = g.replayGuard) →
      g.replayGuard.Keeps (g.registered result).replayGuard [] := by
    intro result hsame
    rcases registered_cases (g := g) result with ⟨v, g', hok, hg⟩ | hg
    · rw [hg, hsame v g' hok]
      exact .refl _ _
    · rw [hg]
      exact .refl _ _
  cases op with
  | registerIdentity value =>
    refine hregistered fun v g' hok => ?_
    obtain ⟨identity, -, -, -, rfl⟩ := registerIdentity_ok hok
    rfl
  | registerCapability value =>
    refine hregistered fun v g' hok => ?_
    obtain ⟨capability, rfl⟩ := registerCapability_ok hok
    rfl
  | registerAuthorityGrant value =>
    refine hregistered fun v g' hok => ?_
    obtain ⟨grant, -, -, rfl⟩ := registerAuthorityGrant_ok hok
    rfl
  | acceptEnvelope value now consumedAt =>
    rw [step]
    unfold acceptEnvelope
    split
    · exact .refl _ _
    · split
      · exact .refl _ _
      · exact acceptValidatedEnvelope_keeps (by simp [Operation.readings])
  | applyRevocation value now consumedAt =>
    have hpruned : g.replayGuard.Keeps (g.pruned now).replayGuard
        (Operation.applyRevocation value now consumedAt).readings :=
      ReplayGuard.keeps_prune (by simp [Operation.readings])
    have haccept : ∀ envelope : Envelope date, g.replayGuard.Keeps
        ((g.pruned now).acceptValidatedEnvelope envelope now consumedAt).2.replayGuard
        (Operation.applyRevocation value now consumedAt).readings := fun envelope =>
      hpruned.trans (acceptValidatedEnvelope_keeps (by simp [Operation.readings]))
    rcases h : g.applyRevocation value now consumedAt with ⟨e | result, g'⟩
    · rw [step, h]
      rcases applyRevocation_error h with rfl | rfl | ⟨envelope, notice, revocation, -, haccepted⟩
      · exact .refl _ _
      · exact hpruned
      · have hkeeps := haccept envelope
        rwa [haccepted] at hkeeps
    · obtain ⟨envelope, notice, revocation, receipt, guard, -, -, haccepted, -, rfl⟩ := applyRevocation_ok h
      have hkeeps := haccept envelope
      rw [haccepted] at hkeeps
      rw [step, h]
      exact hkeeps

/-! ## Acceptances as ledger entries -/

def expiryOf (date : DateApi) (value : Json) : ℤ := timeOf date value "expires_at"

/-- The guard remembers the envelope. -/
def Remembers (g : Gateway date) (value : Json) : Prop :=
  ∃ key, replayKeyOf value = some key ∧ g.replayGuard.entries.get key = some (expiryOf date value)

/-- An acceptance finds the key free at the reading of the guard, an expiry later than its
own reading, and leaves the envelope remembered. -/
theorem acceptEnvelope_consumes {result : Json}
    (h : g.acceptEnvelope value now consumedAt = (.ok result, g')) :
    now < expiryOf date value ∧ g'.Remembers value ∧ ∀ key expiresAt, replayKeyOf value = some key →
      g.replayGuard.entries.get key = some expiresAt → expiresAt ≤ consumedAt := by
  obtain ⟨envelope, rfl, -, haccept⟩ := acceptEnvelope_ok h
  obtain ⟨hauthorized, key, guard, hkey, hconsume, -, rfl⟩ := acceptValidatedEnvelope_ok haccept
  obtain ⟨hfree, hentries⟩ := ReplayGuard.consume_ok hconsume
  refine ⟨(authorizeValidatedEnvelope_ok hauthorized).1, ⟨key, hkey, ?_⟩, fun key' expiresAt hkey' hget => ?_⟩
  · rw [hentries]
    exact (JsMap.get_set ..).trans (if_pos (BEq.refl key))
  · rw [show replayKeyOf envelope.1 = some key from hkey] at hkey'
    cases Option.some.inj hkey'
    exact ReplayGuard.expired_of_free hfree hget

/-- A revocation asks for the key at its own reading already. -/
theorem applyRevocation_consumes {result : Json}
    (h : g.applyRevocation value now consumedAt = (.ok result, g')) :
    now < expiryOf date value ∧ g'.Remembers value ∧ ∀ key expiresAt, replayKeyOf value = some key →
      g.replayGuard.entries.get key = some expiresAt → expiresAt ≤ now := by
  obtain ⟨envelope, notice, revocation, receipt, guard, hrequest, hplan, haccept, -, rfl⟩ := applyRevocation_ok h
  obtain ⟨rfl, -, -, hauthorized, -⟩ := revocationRequest_ok hrequest
  obtain ⟨-, key, guard', hkey, hconsume, -, hguard⟩ := acceptValidatedEnvelope_ok haccept
  have hsame : guard = guard' := congrArg replayGuard hguard
  obtain ⟨-, hentries⟩ := ReplayGuard.consume_ok hconsume
  refine ⟨(authorizeValidatedEnvelope_ok hauthorized).1, ⟨key, hkey, ?_⟩, fun key' expiresAt hkey' hget => ?_⟩
  · change guard.entries.get key = _
    rw [hsame, hentries]
    exact (JsMap.get_set ..).trans (if_pos (BEq.refl key))
  · rw [show replayKeyOf envelope.1 = some key from hkey] at hkey'
    cases Option.some.inj hkey'
    exact ReplayGuard.expired_of_free (planRevocation_free hplan hkey) hget

end Gateway

/-! ## Runs -/

/-- A gateway with the envelopes it accepted and the calls' readings, the latest first. -/
structure Journal (date : DateApi) where
  gateway : Gateway date
  accepted : List (ℤ × Json)

namespace Gateway

/-- The envelope a call accepts, with the call's own reading. -/
def acceptedBy (g : Gateway date) : Operation → Option (ℤ × Json)
  | .acceptEnvelope value now consumedAt =>
    if (g.acceptEnvelope value now consumedAt).1.isOk then some (now, value) else none
  | .applyRevocation value now consumedAt =>
    if (g.applyRevocation value now consumedAt).1.isOk then some (now, value) else none
  | _ => none

/-- The nonce is a string, and no expiry of an entry under the envelope's key falls between
the two readings of `acceptEnvelope`. -/
def Punctual (g : Gateway date) : Operation → Prop
  | .acceptEnvelope value now consumedAt => (∃ nonce, value.get "nonce" = some (.str nonce)) ∧
    ∀ key expiresAt, replayKeyOf value = some key → g.replayGuard.entries.get key = some expiresAt →
      now < expiresAt → consumedAt < expiresAt
  | .applyRevocation value _ _ => ∃ nonce, value.get "nonce" = some (.str nonce)
  | _ => True

end Gateway

namespace Journal
variable {s : Journal date}

def start (g : Gateway date) : Journal date := ⟨g, []⟩

def step (s : Journal date) (op : Gateway.Operation) : Journal date :=
  ⟨s.gateway.step op, (s.gateway.acceptedBy op).toList ++ s.accepted⟩

theorem acceptedBy_accepts {g : Gateway date} {op : Gateway.Operation} {entry : ℤ × Json}
    (h : g.acceptedBy op = some entry) :
    ∃ now consumedAt, entry.1 = now ∧ now ∈ op.readings ∧ g.Accepts entry.2 now consumedAt ∧
      (g.Punctual op → now < Gateway.expiryOf date entry.2 ∧ (g.step op).Remembers entry.2 ∧
        (∃ nonce, entry.2.get "nonce" = some (.str nonce)) ∧ ∀ key expiresAt, replayKeyOf entry.2 = some key →
          g.replayGuard.entries.get key = some expiresAt → expiresAt ≤ now) := by
  cases op with
  | acceptEnvelope value now consumedAt =>
    rcases hresult : g.acceptEnvelope value now consumedAt with ⟨e | result, g'⟩
    · simp [Gateway.acceptedBy, hresult, Except.isOk, Except.toBool] at h
    · simp only [Gateway.acceptedBy, hresult, Except.isOk, Except.toBool, if_true, Option.some.injEq] at h
      subst h
      refine ⟨now, consumedAt, rfl, by simp [Gateway.Operation.readings], Or.inl ⟨result, g', hresult⟩, fun hp => ?_⟩
      obtain ⟨hfresh, hremembers, hfree⟩ := Gateway.acceptEnvelope_consumes hresult
      refine ⟨hfresh, by rw [Gateway.step, hresult]; exact hremembers, hp.1, fun key expiresAt hkey hget => ?_⟩
      by_contra hlate
      have hbefore := hp.2 key expiresAt hkey hget (by omega)
      have hafter := hfree key expiresAt hkey hget
      omega
  | applyRevocation value now consumedAt =>
    rcases hresult : g.applyRevocation value now consumedAt with ⟨e | result, g'⟩
    · simp [Gateway.acceptedBy, hresult, Except.isOk, Except.toBool] at h
    · simp only [Gateway.acceptedBy, hresult, Except.isOk, Except.toBool, if_true, Option.some.injEq] at h
      subst h
      refine ⟨now, consumedAt, rfl, by simp [Gateway.Operation.readings], Or.inr ⟨result, g', hresult⟩, fun hp => ?_⟩
      obtain ⟨hfresh, hremembers, hfree⟩ := Gateway.applyRevocation_consumes hresult
      exact ⟨hfresh, by rw [Gateway.step, hresult]; exact hremembers, hp, hfree⟩
  | _ => simp [Gateway.acceptedBy] at h

/-- The guard as a ledger of leased replay keys. -/
def replayLedger (date : DateApi) : Ledger (@step date) Gateway.Operation.readings
    (fun s op => s.gateway.Punctual op) Json where
  entries s := s.accepted
  deadline := Gateway.expiryOf date
  held s value := s.gateway.Remembers value
  clash earlier later := replayKeyOf earlier = replayKeyOf later
  keeps s op value _ hheld := by
    obtain ⟨key, hkey, hget⟩ := hheld
    by_cases hr : ∀ r ∈ op.readings, r < Gateway.expiryOf date value
    · exact Or.inl ⟨key, hkey, Gateway.step_keeps s.gateway op key _ hget hr⟩
    · push Not at hr
      exact Or.inr hr
  grows s op hok := by
    cases haccepted : s.gateway.acceptedBy op with
    | none => exact Or.inl (by rw [step, haccepted]; rfl)
    | some entry =>
      obtain ⟨now, consumedAt, hnow, hreading, -, hspec⟩ := acceptedBy_accepts haccepted
      obtain ⟨hfresh, hremembers, -, hfree⟩ := hspec hok
      refine Or.inr ⟨now, hreading, entry.2, ?_, hfresh, hremembers, ?_⟩
      · rw [step, haccepted, ← hnow]
        rfl
      · rintro e - ⟨key, hkey, hget⟩ hclash
        exact hfree key _ (hclash ▸ hkey) hget

/-- Two envelopes of one sender under one nonce. -/
def SamePair (value value' : Json) : Prop :=
  (field value "sender").get "principal_type" = (field value' "sender").get "principal_type" ∧
    (field value "sender").get "id" = (field value' "sender").get "id" ∧ value.get "nonce" = value'.get "nonce"

theorem replayKeyOf_congr {value value' : Json} (h : SamePair value value') :
    replayKeyOf value = replayKeyOf value' := by
  simp only [replayKeyOf, h.1, h.2.1, h.2.2]

/-- An envelope that reaches the guard, in some state, with a nonce that is a string. -/
def Named (date : DateApi) (value : Json) : Prop :=
  (∃ (g : Gateway date) (now : ℤ), g.ReachesGuard value now) ∧ ∃ nonce, value.get "nonce" = some (.str nonce)

theorem samePair_of_key {value value' : Json} (h : Named date value) (h' : Named date value')
    (hkey : replayKeyOf value = replayKeyOf value') : SamePair value value' := by
  obtain ⟨⟨g, now, hreaches⟩, nonce, hnonce⟩ := h
  obtain ⟨⟨g', now', hreaches'⟩, nonce', hnonce'⟩ := h'
  obtain ⟨htype, hid, rfl⟩ := Gateway.replayKeyOf_inj hreaches hreaches' hnonce hnonce' hkey
  exact ⟨htype, hid, hnonce.trans hnonce'.symm⟩

theorem step_named (s : Journal date) (op : Gateway.Operation) (hok : s.gateway.Punctual op)
    (h : ∀ e ∈ s.accepted, Named date e.2) : ∀ e ∈ (s.step op).accepted, Named date e.2 := by
  intro e he
  rcases List.mem_append.mp he with he | he
  · have haccepted : s.gateway.acceptedBy op = some e := by simpa using he
    obtain ⟨now, consumedAt, -, -, haccepts, hspec⟩ := acceptedBy_accepts haccepted
    exact ⟨⟨s.gateway, now, haccepts.reaches⟩, (hspec hok).2.2.1⟩
  · exact h e he

/-- What replay safety asks of the state a run has reached, and of the next call. -/
structure ReplaySafe (s : Journal date) (past : List ℤ) : Prop where
  once : (s.accepted.map Prod.snd).Nodup
  nonces : s.accepted.Pairwise fun later earlier =>
    SamePair earlier.2 later.2 → Gateway.expiryOf date earlier.2 ≤ later.1
  keys : ∀ e ∈ s.accepted, ∀ value, Named date value → replayKeyOf e.2 = replayKeyOf value → SamePair e.2 value
  pruned : ∀ e ∈ s.accepted, ∀ op, s.gateway.Punctual op → (∀ r ∈ past, ∀ r' ∈ op.readings, r ≤ r') →
    ∀ now, s.gateway.acceptedBy op ≠ some (now, e.2)

/-- In every run under a clock that never goes backwards whose calls are punctual, no
envelope is accepted twice, no nonce of a sender twice before it expires, no two pairs of
sender and nonce share a key, and no pruning reopens the door. -/
theorem replay_safe (g : Gateway date) {ops : List Gateway.Operation}
    (hclock : ClockForward Gateway.Operation.readings ops)
    (hpunctual : Steps step (fun s op => s.gateway.Punctual op) (start g) ops) :
    ReplaySafe (run step (start g) ops) (ops.flatMap Gateway.Operation.readings) := by
  have hsound := (replayLedger date).sound_of_nil (s := start g) rfl hpunctual hclock
  have hnamed : ∀ e ∈ (run step (start g) ops).accepted, Named date e.2 :=
    @run_invariant_of_steps _ _ _ _ (fun s => ∀ e ∈ s.accepted, Named date e.2) (fun s op => step_named s op) _
      (by simp [start]) _ hpunctual
  refine ⟨hsound.nodup fun _ => rfl, ?_, ?_, ?_⟩
  · exact hsound.apart.imp fun hapart hpair => hapart (replayKeyOf_congr hpair)
  · exact fun e he value hvalue hkey => samePair_of_key (hnamed e he) hvalue hkey
  · intro e he op hok hpast now haccepted
    obtain ⟨now', consumedAt, -, hreading, -, hspec⟩ := acceptedBy_accepts haccepted
    obtain ⟨hfresh, -, -, hfree⟩ := hspec hok
    have hlate : Gateway.expiryOf date e.2 ≤ now' := by
      rcases hsound.kept e he with ⟨key, hkey, hget⟩ | ⟨r, hr, hexpired⟩
      · exact hfree key _ hkey hget
      · exact hexpired.trans (hpast r hr now' hreading)
    exact absurd hfresh (not_lt.mpr hlate)

end Journal

/-! ## Sample runs -/

namespace Sample
open Gateway

def presentation (now consumedAt : ℤ) : Operation := .acceptEnvelope status.1 now consumedAt

theorem first_presentation : staffed.acceptedBy (presentation (at16 21) (at16 21)) = some (at16 21, status.1) := by
  rw [presentation, acceptedBy, acceptEnvelope_valid _ _ _ (by decide +kernel)]
  exact if_pos (by decide +kernel)

/-- One punctual acceptance. -/
theorem punctual_run_safe :
    Journal.ReplaySafe (run Journal.step (Journal.start staffed) [presentation (at16 21) (at16 21)])
      ([presentation (at16 21) (at16 21)].flatMap Operation.readings) ∧
    staffed.acceptedBy (presentation (at16 21) (at16 21)) = some (at16 21, status.1) := by
  refine ⟨Journal.replay_safe staffed (by decide) ⟨⟨⟨js "nonce-0000000002", ?_⟩, ?_⟩, trivial⟩, first_presentation⟩
  · simp [status, statusValue, envelope, List.lookup_cons, Json.text]
  · intro key expiresAt _ hget
    rw [show (Journal.start staffed).gateway.replayGuard.entries.get key = none from JsMap.get_empty key] at hget
    simp at hget

/-- The message is accepted again by a call that begins just before it expires and whose
guard reads the clock at the expiry. -/
theorem expiring_envelope_replayed :
    ClockForward Operation.readings [presentation (at16 21) (at16 21), presentation (at16 30 - 1) (at16 30)] ∧
    ¬ ((run Journal.step (Journal.start staffed)
      [presentation (at16 21) (at16 21), presentation (at16 30 - 1) (at16 30)]).accepted.map Prod.snd).Nodup := by
  refine ⟨by decide, ?_⟩
  have hsecond : (staffed.step (presentation (at16 21) (at16 21))).acceptedBy (presentation (at16 30 - 1) (at16 30)) =
      some (at16 30 - 1, status.1) := by
    rw [presentation, presentation, step, acceptedBy, acceptEnvelope_valid _ _ _ (by decide +kernel),
      acceptEnvelope_valid _ _ _ (by decide +kernel)]
    exact if_pos (by decide +kernel)
  simp [Journal.step, Journal.start, first_presentation, hsecond]

end Sample

end Agent
