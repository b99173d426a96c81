import StrataPortNetwork.Native.Agreement
import StrataPortNetwork.Transition

/-! # The sealed channel under an active adversary

The two sessions of a handshake seal and open whatever frames they are given, in any
order and at any time. Decryption is ideal: it succeeds on what one of the two ends
sealed, under the same key, nonce and associated data.
-/
namespace Native
open Js Transition

/-! ## One use of a session -/

section
variable {crypto : Crypto} {session : Session crypto}

theorem nonce_injOn {n m : ℕ} (hn : n < 65536) (hm : m < 65536) (h : Session.nonce n = Session.nonce m) : n = m := by
  have hlow := congrArg (fun l : Bytes => (l.getD 11 0).toNat) h
  have hhigh := congrArg (fun l : Bytes => (l.getD 10 0).toNat) h
  simp [Session.nonce, List.range, List.range.loop] at hlow hhigh
  omega

theorem sealBytes_ok {channel channel' : Channel} {policy : NativeSessionPolicy} {bytes : Option Bytes}
    {now : ℤ} {sealing : Sealing crypto}
    (h : session.sealBytes channel policy bytes now = .ok (sealing, channel')) :
    ∃ aad b, bytes = some b ∧ b.length ≤ session.maxBytes ∧ channel.tx < 1024 ∧
      session.aad session.localPort session.peerPort channel.tx = .ok aad ∧
      sealing = ⟨session.send, channel.tx, aad, b⟩ ∧ channel' = { channel with tx := channel.tx + 1 } := by
  simp only [Session.sealBytes, bind_eq_ok, orThrow_eq_ok, ensure_eq_ok, pure_eq_ok, Bool.and_eq_true,
    decide_eq_true_eq, Prod.mk.injEq] at h
  obtain ⟨-, -, b, hb, -, ⟨hmax, htx⟩, aad, haad, rfl, rfl⟩ := h
  exact ⟨aad, b, hb, hmax, htx, haad, rfl, rfl⟩

theorem receives_ok {channel : Channel} {policy : NativeSessionPolicy} {frame : Json} {now : ℤ}
    {received : Received} (h : session.receives channel policy frame now = .ok received) :
    channel.rx < 1024 ∧ session.aad session.peerPort session.localPort channel.rx = .ok received.aad ∧
    frame.get "ciphertext" = some (.str (base64Encode received.ciphertext)) ∧
    frame.get "tag" = some (.str (base64Encode received.tag)) := by
  simp only [Session.receives, bind_eq_ok, orThrow_eq_ok, ensure_eq_ok, pure_eq_ok, Bool.and_eq_true,
    decide_eq_true_eq, Json.bind_str?_eq_some, beq_iff_eq] at h
  obtain ⟨-, -, -, -, -, ⟨-, hrx⟩, ciphertext, hciphertext, -, -, tag, htag, -,
    ⟨⟨⟨-, hcanon⟩, -⟩, hcanon'⟩, aad, haad, rfl⟩ := h
  exact ⟨hrx, haad, by rw [hciphertext, hcanon], by rw [htag, hcanon']⟩

/-- What opening a frame returns, and the channel it leaves. -/
theorem openFrame_cases {decrypt : Session.Decrypt crypto} {channel channel' : Channel}
    {policy : NativeSessionPolicy} {frame : Json} {now : ℤ} {result : Outcome Bytes}
    (h : session.openFrame decrypt channel policy frame now = (result, channel')) :
    (∃ e, result = .error e) ∧ (channel' = channel ∨ channel' = { channel with closed := true }) ∨
    ∃ received bytes, result = .ok bytes ∧ session.receives channel policy frame now = .ok received ∧
      decrypt session.receive (Session.nonce channel.rx) received.aad received.ciphertext received.tag =
        some bytes ∧ channel' = { channel with rx := channel.rx + 1 } := by
  unfold Session.openFrame at h
  cases hreceives : session.receives channel policy frame now with
  | error e =>
    simp only [hreceives, Prod.mk.injEq] at h
    exact Or.inl ⟨⟨e, h.1.symm⟩, Or.inl h.2.symm⟩
  | ok received =>
    simp only [hreceives] at h
    split at h
    · rename_i bytes hdecrypt
      simp only [Prod.mk.injEq] at h
      exact Or.inr ⟨received, bytes, h.1.symm, rfl, hdecrypt, h.2.symm⟩
    · simp only [Prod.mk.injEq] at h
      exact Or.inl ⟨⟨_, h.1.symm⟩, Or.inr h.2.symm⟩

/-- A closed session neither seals nor opens. -/
theorem closed_inert {channel : Channel} (hclosed : channel.closed = true) (policy : NativeSessionPolicy)
    (now : ℤ) : (∀ bytes result, session.sealBytes channel policy bytes now ≠ .ok result) ∧
      ∀ decrypt frame bytes, (session.openFrame decrypt channel policy frame now).1 ≠ .ok bytes := by
  have hactive : session.active channel policy now = .error (.error "Native session closed/expired") := by
    simp [Session.active, hclosed, ensure, bind, Except.bind]
  refine ⟨fun bytes result h => ?_, fun decrypt frame bytes h => ?_⟩
  · simp [Session.sealBytes, hactive, bind, Except.bind] at h
  · simp [Session.openFrame, Session.receives, hactive, bind, Except.bind] at h

end

/-! ## Both ends -/

inductive ChannelEvent
  | seals (e : End) (policy : NativeSessionPolicy) (bytes : Option Bytes) (now : ℤ)
  | opens (e : End) (policy : NativeSessionPolicy) (frame : Json) (now : ℤ)
  | closes (e : End)

/-- The channels of both ends, every use of the cipher and every opened plaintext, the
oldest first. -/
structure Traffic (crypto : Crypto) where
  channels : End → Channel
  log : End → List (Sealing crypto)
  opened : End → List Bytes

namespace Traffic
variable {crypto : Crypto} [DecidableEq crypto.SessionKey]

def start : Traffic crypto := ⟨fun _ => .fresh, fun _ => [], fun _ => []⟩

def sealings (w : Traffic crypto) : List (Sealing crypto) := w.log .offerer ++ w.log .acceptor

def sealed (w : Traffic crypto) (e : End) : List Bytes := (w.log e).map Sealing.bytes

/-- Ideal decryption: the plaintext that one of the ends sealed to this ciphertext. -/
def authentic (w : Traffic crypto) : Session.Decrypt crypto := fun key nonce aad ciphertext tag =>
  (w.sealings.find? fun x => x.key = key && x.nonce = nonce && x.aad = aad && x.ciphertext = ciphertext &&
    x.tag = tag).map Sealing.bytes

def step (sessions : End → Session crypto) (w : Traffic crypto) : ChannelEvent → Traffic crypto
  | .seals e policy bytes now =>
    match (sessions e).sealBytes (w.channels e) policy bytes now with
    | .error _ => w
    | .ok (sealing, channel) => { w with
        channels := Function.update w.channels e channel
        log := Function.update w.log e (w.log e ++ [sealing]) }
  | .opens e policy frame now =>
    match (sessions e).openFrame w.authentic (w.channels e) policy frame now with
    | (.error _, channel) => { w with channels := Function.update w.channels e channel }
    | (.ok bytes, channel) => { w with
        channels := Function.update w.channels e channel
        opened := Function.update w.opened e (w.opened e ++ [bytes]) }
  | .closes e => { w with channels := Function.update w.channels e (Session.close (w.channels e)) }

theorem authentic_eq_some {w : Traffic crypto} {key : crypto.SessionKey} {nonce aad ciphertext tag bytes : Bytes}
    (h : w.authentic key nonce aad ciphertext tag = some bytes) :
    ∃ e, ∃ x ∈ w.log e, x.key = key ∧ x.nonce = nonce ∧ x.ciphertext = ciphertext ∧ x.tag = tag ∧
      x.bytes = bytes := by
  obtain ⟨x, hfound, rfl⟩ := Option.map_eq_some_iff.mp h
  have hx := List.find?_some hfound
  simp only [Bool.and_eq_true, decide_eq_true_eq] at hx
  obtain ⟨⟨⟨⟨hkey, hnonce⟩, -⟩, hciphertext⟩, htag⟩ := hx
  rcases List.mem_append.mp (List.mem_of_find?_eq_some hfound) with hmem | hmem
  · exact ⟨.offerer, x, hmem, hkey, hnonce, hciphertext, htag, rfl⟩
  · exact ⟨.acceptor, x, hmem, hkey, hnonce, hciphertext, htag, rfl⟩

/-- No end receives under the key it sends under, and the ends send under different keys. -/
structure Separated (sessions : End → Session crypto) : Prop where
  receive : ∀ e, (sessions e).send ≠ (sessions e).receive
  send : (sessions .offerer).send ≠ (sessions .acceptor).send

/-- The counters number the frames of each end, and each end has opened the first frames
of the other. -/
structure InStep (sessions : End → Session crypto) (w : Traffic crypto) : Prop where
  keys : ∀ e, ∀ x ∈ w.log e, x.key = (sessions e).send
  counted : ∀ e, (w.log e).map Sealing.sequence = List.range (w.channels e).tx
  bounded : ∀ e, (w.channels e).tx ≤ 1024
  opened : ∀ e, w.opened e = (w.sealed e.other).take (w.channels e).rx
  behind : ∀ e, (w.channels e).rx ≤ (w.log e.other).length

omit [DecidableEq crypto.SessionKey] in
theorem start_inStep (sessions : End → Session crypto) : InStep sessions start := by
  constructor <;> simp [start, Channel.fresh, sealed]

omit [DecidableEq crypto.SessionKey] in
theorem End.other_ne (e : End) : e.other ≠ e := by
  cases e <;> simp [End.other]

section
variable {sessions : End → Session crypto} {w : Traffic crypto}

omit [DecidableEq crypto.SessionKey] in
/-- Closing a channel keeps the ends in step. -/
theorem InStep.setChannel (h : InStep sessions w) {e : End} {channel : Channel}
    (htx : channel.tx = (w.channels e).tx) (hrx : channel.rx = (w.channels e).rx) :
    InStep sessions { w with channels := Function.update w.channels e channel } := by
  have hchannel : ∀ e', (Function.update w.channels e channel e').tx = (w.channels e').tx ∧
      (Function.update w.channels e channel e').rx = (w.channels e').rx := by
    intro e'
    by_cases he : e' = e
    · subst he
      rw [Function.update_self]
      exact ⟨htx, hrx⟩
    · rw [Function.update_of_ne he]
      exact ⟨rfl, rfl⟩
  refine ⟨h.keys, fun e' => ?_, fun e' => ?_, fun e' => ?_, fun e' => ?_⟩
  · rw [(hchannel e').1]
    exact h.counted e'
  · rw [(hchannel e').1]
    exact h.bounded e'
  · rw [(hchannel e').2]
    exact h.opened e'
  · rw [(hchannel e').2]
    exact h.behind e'

omit [DecidableEq crypto.SessionKey] in
/-- Sealing a frame keeps the ends in step. -/
theorem InStep.seals (h : InStep sessions w) {e : End} {policy : NativeSessionPolicy} {bytes : Option Bytes}
    {now : ℤ} {sealing : Sealing crypto} {channel : Channel}
    (hseal : (sessions e).sealBytes (w.channels e) policy bytes now = .ok (sealing, channel)) :
    InStep sessions { w with
      channels := Function.update w.channels e channel
      log := Function.update w.log e (w.log e ++ [sealing]) } := by
  obtain ⟨aad, b, -, -, htx, -, rfl, rfl⟩ := sealBytes_ok hseal
  constructor <;> intro e' <;> by_cases he : e' = e
  · subst he
    simp only [Function.update_self, List.mem_append, List.mem_singleton]
    rintro x (hx | rfl)
    · exact h.keys e' x hx
    · rfl
  · simpa only [Function.update_of_ne he] using h.keys e'
  · subst he
    simp [Function.update_self, h.counted e', List.range_succ]
  · simpa only [Function.update_of_ne he] using h.counted e'
  · subst he
    simp only [Function.update_self]
    omega
  · simpa only [Function.update_of_ne he] using h.bounded e'
  · subst he
    simpa only [Function.update_self, sealed, Function.update_of_ne (End.other_ne e')] using h.opened e'
  · have hlog : e'.other = e := by cases e' <;> cases e <;> simp_all [End.other]
    have hopened := h.opened e'
    have hbehind := h.behind e'
    subst hlog
    simp only [Function.update_of_ne he, sealed, Function.update_self, List.map_append]
    rw [List.take_append_of_le_length (by simpa using hbehind)]
    exact hopened
  · subst he
    simpa only [Function.update_self, Function.update_of_ne (End.other_ne e')] using h.behind e'
  · have hlog : e'.other = e := by cases e' <;> cases e <;> simp_all [End.other]
    have hbehind := h.behind e'
    subst hlog
    simp only [Function.update_of_ne he, Function.update_self, List.length_append]
    omega

/-- An opened frame is the next one the other end sealed. -/
theorem InStep.opens (h : InStep sessions w) (hsep : Separated sessions) {e : End}
    {policy : NativeSessionPolicy} {frame : Json} {now : ℤ} {received : Received} {bytes : Bytes}
    (hreceives : (sessions e).receives (w.channels e) policy frame now = .ok received)
    (hdecrypt : w.authentic (sessions e).receive (Session.nonce (w.channels e).rx) received.aad
      received.ciphertext received.tag = some bytes) :
    (w.channels e).rx < (w.log e.other).length ∧
      (w.sealed e.other)[(w.channels e).rx]? = some bytes := by
  obtain ⟨e', x, hx, hkey, hnonce, -, -, rfl⟩ := authentic_eq_some hdecrypt
  have hother : e' = e.other := by
    by_contra hne
    have he : e' = e := by cases e' <;> cases e <;> simp_all [End.other]
    subst he
    exact hsep.receive e' ((h.keys e' x hx).symm.trans hkey)
  subst hother
  obtain ⟨i, hi, rfl⟩ := List.mem_iff_getElem.mp hx
  have hsequence : ((w.log e.other)[i]).sequence = i := by
    have := congrArg (·[i]?) (h.counted e.other)
    simp only [List.getElem?_map, List.getElem?_eq_getElem hi, Option.map_some] at this
    have hlen : i < (w.channels e.other).tx := by
      have hlength := congrArg List.length (h.counted e.other)
      simp only [List.length_map, List.length_range] at hlength
      omega
    rw [List.getElem?_range hlen] at this
    exact Option.some.inj this
  have hlength := congrArg List.length (h.counted e.other)
  have hbound := h.bounded e.other
  have hrx := (receives_ok hreceives).1
  simp only [List.length_map, List.length_range] at hlength
  have hi_rx : i = (w.channels e).rx := by
    rw [Sealing.nonce, hsequence] at hnonce
    exact nonce_injOn (by omega) (by omega) hnonce
  refine ⟨hi_rx ▸ hi, ?_⟩
  rw [sealed, List.getElem?_map, ← hi_rx, List.getElem?_eq_getElem hi, Option.map_some]

/-- Every event keeps the ends in step. -/
theorem step_inStep (hsep : Separated sessions) (h : InStep sessions w) (event : ChannelEvent) :
    InStep sessions (step sessions w event) := by
  cases event with
  | seals e policy bytes now =>
    simp only [step]
    split
    · exact h
    · rename_i sealing channel hseal
      exact h.seals hseal
  | opens e policy frame now =>
    simp only [step]
    rcases hopen : (sessions e).openFrame w.authentic (w.channels e) policy frame now with ⟨result, channel⟩
    rcases openFrame_cases hopen with ⟨⟨f, rfl⟩, hchannel⟩ | ⟨received, bytes, rfl, hreceives, hdecrypt, rfl⟩
    · rcases hchannel with rfl | rfl
      · exact h.setChannel rfl rfl
      · exact h.setChannel rfl rfl
    · obtain ⟨hlt, hnext⟩ := h.opens hsep hreceives hdecrypt
      constructor <;> intro e' <;> by_cases he : e' = e
      · exact h.keys e'
      · exact h.keys e'
      · subst he
        simpa only [Function.update_self] using h.counted e'
      · simpa only [Function.update_of_ne he] using h.counted e'
      · subst he
        simpa only [Function.update_self] using h.bounded e'
      · simpa only [Function.update_of_ne he] using h.bounded e'
      · subst he
        simp only [Function.update_self]
        change w.opened e' ++ [bytes] = (w.sealed e'.other).take ((w.channels e').rx + 1)
        rw [List.take_add_one, hnext, h.opened e']
        rfl
      · simp only [Function.update_of_ne he]
        exact h.opened e'
      · subst he
        simp only [Function.update_self]
        omega
      · simpa only [Function.update_of_ne he] using h.behind e'
  | closes e => exact h.setChannel rfl rfl

/-- The ends of separated sessions stay in step. -/
theorem run_inStep (hsep : Separated sessions) (events : List ChannelEvent) :
    InStep sessions (run (step sessions) start events) := by
  have hstep : ∀ w event, InStep sessions w → InStep sessions (step sessions w event) :=
    fun w event h => step_inStep hsep h event
  exact run_invariant hstep (start_inStep sessions) events

end

omit [DecidableEq crypto.SessionKey] in
/-- What an end has opened is always the start of what the other end has sealed. -/
theorem InStep.opened_upTo {sessions : End → Session crypto} {w : Traffic crypto} (h : InStep sessions w)
    (e : End) : w.opened e <+: w.sealed e.other := by
  rw [h.opened e]
  exact List.take_prefix _ _

/-- Nothing reopens a channel. -/
theorem step_closed (sessions : End → Session crypto) {w : Traffic crypto} {e : End}
    (h : (w.channels e).closed = true) (event : ChannelEvent) :
    ((step sessions w event).channels e).closed = true := by
  have hupdate : ∀ e' (channel : Channel), ((w.channels e').closed = true → channel.closed = true) →
      (Function.update w.channels e' channel e).closed = true := by
    intro e' channel hchannel
    by_cases he : e = e'
    · subst he
      rw [Function.update_self]
      exact hchannel h
    · rw [Function.update_of_ne he]
      exact h
  cases event with
  | seals e' policy bytes now =>
    simp only [step]
    split
    · exact h
    · rename_i sealing channel hseal
      obtain ⟨-, -, -, -, -, -, -, rfl⟩ := sealBytes_ok hseal
      exact hupdate e' _ id
  | opens e' policy frame now =>
    simp only [step]
    rcases hopen : (sessions e').openFrame w.authentic (w.channels e') policy frame now with ⟨result, channel⟩
    rcases openFrame_cases hopen with ⟨⟨f, rfl⟩, rfl | rfl⟩ | ⟨received, bytes, rfl, -, -, rfl⟩
    · exact hupdate e' _ id
    · exact hupdate e' _ fun _ => rfl
    · exact hupdate e' _ id
  | closes e' => exact hupdate e' _ fun _ => rfl

theorem run_closed (sessions : End → Session crypto) {w : Traffic crypto} {e : End}
    (h : (w.channels e).closed = true) (events : List ChannelEvent) :
    ((run (step sessions) w events).channels e).closed = true := by
  have hstep : ∀ w event, (w.channels e).closed = true → ((step sessions w event).channels e).closed = true :=
    fun w event h => step_closed sessions h event
  exact run_invariant hstep h events

/-- A frame that passes the checks and fails authentication closes its channel. -/
theorem step_unauthentic (sessions : End → Session crypto) {w : Traffic crypto} {e : End}
    {policy : NativeSessionPolicy} {frame : Json} {now : ℤ} {received : Received}
    (hreceives : (sessions e).receives (w.channels e) policy frame now = .ok received)
    (hdecrypt : w.authentic (sessions e).receive (Session.nonce (w.channels e).rx) received.aad
      received.ciphertext received.tag = none) :
    ((step sessions w (.opens e policy frame now)).channels e).closed = true := by
  simp [step, Session.openFrame, hreceives, hdecrypt]

end Traffic

/-! ## The sessions of a handshake -/

section
variable {crypto : Crypto} [DecidableEq crypto.SessionKey]
open Traffic

omit [DecidableEq crypto.SessionKey] in
/-- With ideal key derivation, different ports separate the two directions. -/
theorem Handshake.separated (h : Handshake crypto) (hhkdf : crypto.IdealHkdf)
    (hports : h.offerer.id ≠ h.acceptor.id) : Separated h.sessions := by
  obtain ⟨shared, salt, shared', salt', hsend, hreceive, hsend', hreceive'⟩ := h.keys
  have hlabel : keyLabel h.offerer.id h.acceptor.id ≠ keyLabel h.acceptor.id h.offerer.id :=
    fun heq => hports (keyLabel_swap.mp heq)
  refine ⟨fun e heq => ?_, fun heq => ?_⟩
  · cases e with
    | offerer =>
      rw [Handshake.sessions, hsend, hreceive] at heq
      exact hlabel (hhkdf heq).2.2
    | acceptor =>
      rw [Handshake.sessions, hsend', hreceive'] at heq
      exact hlabel (hhkdf heq).2.2.symm
  · rw [Handshake.sessions, Handshake.sessions, hsend, hsend'] at heq
    exact hlabel (hhkdf heq).2.2

/-- Between two different ports, whatever frames an adversary delivers, each end opens the
plaintexts that the other end sealed, in order and without gaps; a frame that passes the
checks and fails authentication ends the session at its receiver. -/
theorem channel_integrity (h : Handshake crypto) (hhkdf : crypto.IdealHkdf)
    (hports : h.offerer.id ≠ h.acceptor.id) (events : List ChannelEvent) :
    (∀ e, (run (step h.sessions) start events).opened e <+: (run (step h.sessions) start events).sealed e.other) ∧
    ∀ e policy frame now received,
      (h.sessions e).receives ((run (step h.sessions) start events).channels e) policy frame now = .ok received →
      (run (step h.sessions) start events).authentic (h.sessions e).receive
        (Session.nonce ((run (step h.sessions) start events).channels e).rx) received.aad received.ciphertext
        received.tag = none →
      ∀ later policy' now',
        let channel := (run (step h.sessions) start (events ++ .opens e policy frame now :: later)).channels e
        (∀ bytes result, (h.sessions e).sealBytes channel policy' bytes now' ≠ .ok result) ∧
        ∀ decrypt frame' bytes, ((h.sessions e).openFrame decrypt channel policy' frame' now').1 ≠ .ok bytes := by
  refine ⟨(run_inStep (h.separated hhkdf hports) events).opened_upTo, ?_⟩
  intro e policy frame now received hreceives hdecrypt later policy' now'
  refine closed_inert ?_ policy' now'
  rw [run_append, run_cons]
  exact run_closed h.sessions (step_unauthentic h.sessions hreceives hdecrypt) later

theorem Sample.channel_integrity_meets : ∃ h : Handshake Sample.crypto, h.offerer.id ≠ h.acceptor.id ∧ ∀ events e,
    (run (Traffic.step h.sessions) Traffic.start events).opened e <+:
      (run (Traffic.step h.sessions) Traffic.start events).sealed e.other := by
  obtain ⟨h, hports, -⟩ := meets
  exact ⟨h, hports, fun events => (channel_integrity h idealHkdf hports events).1⟩

/-! ## Reuse and reflection -/

/-- Two uses of the cipher never share a key and a nonce. -/
def Traffic.NoReuse (w : Traffic crypto) : Prop := w.sealings.Pairwise fun x y => x.key = y.key → x.nonce ≠ y.nonce

/-- Ideal encryption: no ciphertext and tag of the run belong to two keys. -/
def Traffic.Unambiguous (w : Traffic crypto) : Prop :=
  ∀ x ∈ w.sealings, ∀ y ∈ w.sealings, x.ciphertext = y.ciphertext → x.tag = y.tag → x.key = y.key

/-- No end opens, as its next step, a frame with the fields of one it sealed itself. -/
def Traffic.NoReflection (sessions : End → Session crypto) (w : Traffic crypto) : Prop :=
  ∀ e policy frame now bytes, ((sessions e).openFrame w.authentic (w.channels e) policy frame now).1 = .ok bytes →
    ∀ x ∈ w.log e, ∃ name, frame.get name ≠ ((sessions e).frame x).get name

omit [DecidableEq crypto.SessionKey] in
theorem Traffic.mem_sealings {w : Traffic crypto} {e : End} {x : Sealing crypto} (hx : x ∈ w.log e) :
    x ∈ w.sealings := by
  cases e with
  | offerer => exact List.mem_append_left _ hx
  | acceptor => exact List.mem_append_right _ hx

omit [DecidableEq crypto.SessionKey] in
theorem Traffic.InStep.noReuse {sessions : End → Session crypto} {w : Traffic crypto} (h : InStep sessions w)
    (hsep : Separated sessions) : w.NoReuse := by
  have hown : ∀ e, (w.log e).Pairwise fun x y => x.key = y.key → x.nonce ≠ y.nonce := by
    intro e
    have hnodup : ((w.log e).map Sealing.sequence).Pairwise (· ≠ ·) := h.counted e ▸ List.nodup_range
    rw [List.pairwise_map] at hnodup
    refine hnodup.imp_of_mem ?_
    intro x y hx hy hne _ hnonce
    have hbound : ∀ z ∈ w.log e, z.sequence < 65536 := by
      intro z hz
      have hmem : z.sequence ∈ (w.log e).map Sealing.sequence := List.mem_map_of_mem hz
      rw [h.counted e, List.mem_range] at hmem
      have := h.bounded e
      omega
    exact hne (nonce_injOn (hbound x hx) (hbound y hy) hnonce)
  refine List.pairwise_append.mpr ⟨hown _, hown _, ?_⟩
  intro x hx y hy hkey
  rw [h.keys _ x hx, h.keys _ y hy] at hkey
  exact absurd hkey hsep.send

/-- An opened frame was sealed under the receiving key, so not by the receiver. -/
theorem Traffic.InStep.noReflection {sessions : End → Session crypto} {w : Traffic crypto}
    (h : InStep sessions w) (hsep : Separated sessions) (hideal : w.Unambiguous) : w.NoReflection sessions := by
  intro e policy frame now bytes hopen x hx
  by_contra hsame
  simp only [not_exists, not_not] at hsame
  rcases hresult : (sessions e).openFrame w.authentic (w.channels e) policy frame now with ⟨result, channel⟩
  rw [hresult] at hopen
  rcases openFrame_cases hresult with ⟨⟨f, rfl⟩, -⟩ | ⟨received, bytes', -, hreceives, hdecrypt, -⟩
  · simp at hopen
  · obtain ⟨e', y, hy, hkey, -, hciphertext, htag, -⟩ := authentic_eq_some hdecrypt
    obtain ⟨-, -, hc, ht⟩ := receives_ok hreceives
    rw [hsame] at hc ht
    have hc' : x.ciphertext = received.ciphertext := by
      simp only [Session.frame, Json.get_record] at hc
      exact base64Encode_injective (Json.str.inj (Option.some.inj hc))
    have ht' : x.tag = received.tag := by
      simp only [Session.frame, Json.get_record] at ht
      exact base64Encode_injective (Json.str.inj (Option.some.inj ht))
    have hxy := hideal x (mem_sealings hx) y (mem_sealings hy) (hc'.trans hciphertext.symm) (ht'.trans htag.symm)
    rw [h.keys e x hx, hkey] at hxy
    exact hsep.receive e hxy

end

/-! ## Frames between ends with one key -/

section
variable {crypto : Crypto}

theorem aad_ok {session : Session crypto} {raw : Json} (hbody : ordered raw = some session.offerBody) {s : JsString}
    (hid : session.id = some (.str s)) (hscope : scope session.scope = .ok ()) (sender receiver : JsString) {n : ℕ}
    (hn : n < 1024) : ∃ aad, session.aad sender receiver n = .ok aad := by
  obtain ⟨fields, m, state, hfields, -, -, hstate⟩ := scope_ok hscope
  have hfixed := ordered_ordered hbody
  have hscope_fixed : ordered (.obj fields) = some (.obj fields) := by
    have := get_ordered hfixed "scope"
    rw [← Session.scope, hfields, Option.bind_some] at this
    exact this.symm
  have hstate_fixed : ordered state = some state := by
    have := get_ordered hscope_fixed "stateSha256"
    rw [hstate, Option.bind_some] at this
    exact this.symm
  have hnumber : (JsNumber.int (n : ℤ)).safeInteger? = some (n : ℤ) := by
    rw [JsNumber.safeInteger?, if_pos (by omega)]
  simp [Session.aad, hid, hfields, hstate, orThrow, canonicalBytes, Json.record, ordered, orderedFields, Json.text,
    Json.int, hnumber, hstate_fixed, bind, Except.bind, pure, Except.pure]

/-- A frame that one session sealed passes the checks of a session that shares its id, its
scope and its counter and mirrors its ports. -/
theorem receives_frame {session session' : Session crypto} {channel channel₁ channel' : Channel}
    {policy policy' : NativeSessionPolicy} {bytes : Option Bytes} {now now' : ℤ} {sealing : Sealing crypto}
    (hseal : session.sealBytes channel policy bytes now = .ok (sealing, channel₁)) {s : JsString}
    (hid : session.id = some (.str s)) (hid' : session'.id = session.id) (hscope : session'.scope = session.scope)
    (hlocal : session'.localPort = session.peerPort) (hpeer : session'.peerPort = session.localPort)
    (hcount : channel'.rx = channel.tx) (hactive : session'.active channel' policy' now' = .ok ()) :
    session'.receives channel' policy' (session.frame sealing) now' =
      .ok ⟨sealing.ciphertext, sealing.tag, sealing.aad⟩ := by
  obtain ⟨aad, b, -, hmax, htx, haad, rfl, -⟩ := sealBytes_ok hseal
  have hmax' : session'.maxBytes = session.maxBytes := by
    rw [Session.maxBytes, Session.maxBytes, hscope]
  have haad' : session'.aad session'.peerPort session'.localPort channel'.rx = .ok aad := by
    rw [hcount, hpeer, hlocal, ← haad, Session.aad, Session.aad, hid', hscope]
  have hfields : exactFields (some (session.frame ⟨session.send, channel.tx, aad, b⟩))
      ["schema", "sessionId", "sequence", "ciphertext", "tag"] = .ok () :=
    exactFields_of_keys (by simp) (by decide) (fun k => Iff.rfl)
  have hlength : (b.length + 2) / 3 * 4 ≤ (session.maxBytes + 2) / 3 * 4 := by omega
  simp only [Session.receives, bind_eq_ok, orThrow_eq_ok, ensure_eq_ok, pure_eq_ok, Bool.and_eq_true,
    decide_eq_true_eq, Json.bind_str?_eq_some, beq_iff_eq]
  refine ⟨(), hactive, (), hfields, (), ?_, base64Encode (crypto.encrypt session.send (Session.nonce channel.tx) aad b).1,
    rfl, (), ?_, base64Encode (crypto.encrypt session.send (Session.nonce channel.tx) aad b).2, rfl, (), ?_,
    aad, haad', ?_⟩
  · simp only [Session.frame, Json.get_record, hid', hid, hcount]
    refine ⟨⟨⟨?_, ?_⟩, ?_⟩, htx⟩
    · simp [Json.text]
    · simp [List.lookup_cons]
    · exact Json.some_beq_int_iff.mpr (by simp [List.lookup_cons])
  · rw [base64Encode_length, crypto.encrypt_length]
    push_cast
    omega
  · simp only [base64Decode_encode, crypto.encrypt_length, crypto.tag_length]
    exact ⟨⟨⟨hmax'.symm ▸ hmax, trivial⟩, trivial⟩, trivial⟩
  · simp only [base64Decode_encode]
    rfl

/-- An active session seals what its quota admits. -/
theorem sealBytes_complete {session : Session crypto} {channel : Channel} {policy : NativeSessionPolicy} {now : ℤ}
    (hactive : session.active channel policy now = .ok ()) (htx : channel.tx < 1024) {raw : Json}
    (hbody : ordered raw = some session.offerBody) {s : JsString} (hid : session.id = some (.str s))
    (hscope : scope session.scope = .ok ()) {bytes : Bytes} (hquota : bytes.length ≤ session.maxBytes) :
    ∃ aad, session.sealBytes channel policy (some bytes) now =
      .ok (⟨session.send, channel.tx, aad, bytes⟩, { channel with tx := channel.tx + 1 }) := by
  obtain ⟨aad, haad⟩ := aad_ok hbody hid hscope session.localPort session.peerPort htx
  refine ⟨aad, ?_⟩
  simp only [Session.sealBytes, bind_eq_ok, orThrow_eq_ok, ensure_eq_ok, pure_eq_ok, Bool.and_eq_true,
    decide_eq_true_eq]
  exact ⟨(), hactive, bytes, rfl, (), ⟨hquota, htx⟩, aad, haad, rfl⟩

theorem maxBytes_pos {session : Session crypto} (hscope : scope session.scope = .ok ()) : 1 ≤ session.maxBytes := by
  obtain ⟨fields, n, state, hfields, hmax, hpos, -⟩ := scope_ok hscope
  rw [Session.maxBytes, hfields, Option.bind_some, hmax, Option.getD_some]
  exact hpos

/-- A session of a port with itself opens the first frame it seals. -/
theorem Handshake.self_reflection [DecidableEq crypto.SessionKey] (h : Handshake crypto)
    (hports : h.offerer.id = h.acceptor.id) : ∃ events, (run (Traffic.step h.sessions) Traffic.start events).Unambiguous ∧
      ¬ (run (Traffic.step h.sessions) Traffic.start events).NoReflection h.sessions := by
  obtain ⟨body, signed, raw, hbody, hofferBody, -, ⟨s, hs⟩, hscope, hactive⟩ := h.acceptor_active
  obtain ⟨shared, salt, shared', salt', -, -, hsend, hreceive⟩ := h.keys
  obtain ⟨-, -, hlocal, hpeer⟩ := h.ports
  have hid : h.acceptorSession.id = some (.str s) := by rw [Session.id, hofferBody, hs]
  rw [← hofferBody] at hbody hscope
  have hquota : (([] : Bytes).length : ℤ) ≤ h.acceptorSession.maxBytes := by
    have hpos := maxBytes_pos hscope
    rw [List.length_nil]
    omega
  obtain ⟨aad, hsealed⟩ := sealBytes_complete hactive (by decide) hbody hid hscope hquota
  let sealing : Sealing crypto := ⟨h.acceptorSession.send, 0, aad, []⟩
  have hseal : h.acceptorSession.sealBytes ⟨0, 0, false⟩ h.consumed (some []) h.acceptTime =
      .ok (sealing, ⟨1, 0, false⟩) := hsealed
  let w : Traffic crypto := ⟨Function.update (fun _ => .fresh) .acceptor ⟨1, 0, false⟩,
    Function.update (fun _ => []) .acceptor [sealing], fun _ => []⟩
  have hworld : run (Traffic.step h.sessions) Traffic.start
      [.seals .acceptor h.consumed (some []) h.acceptTime] = w := by
    simp only [run_cons, run_nil, Traffic.step, Traffic.start, Handshake.sessions, Channel.fresh, hseal]
    rfl
  have hsealings : w.sealings = [sealing] := by simp [w, Traffic.sealings]
  refine ⟨[.seals .acceptor h.consumed (some []) h.acceptTime], ?_, ?_⟩
  · rw [hworld]
    intro x hx y hy _ _
    rw [hsealings, List.mem_singleton] at hx hy
    rw [hx, hy]
  · rw [hworld]
    intro hnone
    have hreceives : h.acceptorSession.receives ⟨1, 0, false⟩ h.consumed (h.acceptorSession.frame sealing)
        h.acceptTime = .ok ⟨sealing.ciphertext, sealing.tag, aad⟩ :=
      receives_frame hseal hid rfl rfl (hlocal.trans (hports.symm.trans hpeer.symm))
        (hpeer.trans (hports.trans hlocal.symm)) (by rfl) hactive
    have hkey : h.acceptorSession.receive = h.acceptorSession.send := by
      rw [hsend, hreceive, hports]
    have hdecrypt : w.authentic h.acceptorSession.receive (Session.nonce 0) aad sealing.ciphertext sealing.tag =
        some [] := by
      simp [Traffic.authentic, hsealings, hkey, sealing, Sealing.nonce]
    have hopen : ((h.sessions .acceptor).openFrame w.authentic (w.channels .acceptor) h.consumed
        (h.acceptorSession.frame sealing) h.acceptTime).1 = .ok [] := by
      have hchannel : w.channels .acceptor = ⟨1, 0, false⟩ := by simp only [w, Function.update_self]
      rw [hchannel, Handshake.sessions, Session.openFrame, hreceives]
      simp only [hdecrypt]
    obtain ⟨name, hname⟩ := hnone _ _ _ _ _ hopen sealing (by simp [w])
    exact hname rfl

/-- A session with itself that seals on both ends: both frames have one key and one nonce, and the
offering end opens its own. -/
theorem Meeting.self_session [DecidableEq crypto.SessionKey] (m : Meeting crypto)
    (hself : m.offerer.id = m.acceptor.id)
    {policy : NativeSessionPolicy} {now now' : ℤ} {bytes bytes' : Bytes}
    (hauth : policy.authorize crypto m.acceptor.id (some m.state) (some m.adapter) = .ok ())
    (hnow : now < m.offerTime + 30000) (hnow' : now' < m.offerTime + 30000) (hne : bytes ≠ bytes')
    (hlength : bytes.length ≤ 1 ∧ bytes'.length ≤ 1) : ∃ h : Handshake crypto, h.offerer.id = h.acceptor.id ∧
      let w := run (Traffic.step h.sessions) Traffic.start
        [.seals .offerer policy (some bytes) now, .seals .acceptor policy (some bytes') now]
      (∃ x ∈ w.log .offerer, ∃ y ∈ w.log .acceptor, x.bytes ≠ y.bytes ∧ x.key = y.key ∧ x.nonce = y.nonce) ∧
      ∃ x ∈ w.log .offerer, (h.offererSession.openFrame w.authentic (w.channels .offerer) policy
        (h.offererSession.frame x) now').1.toOption = some x.bytes := by
  obtain ⟨h, hofferer, hacceptor, -, hagree, hof, hof'⟩ := m.handshake
  obtain ⟨hlocal, hpeer, hlocal', hpeer'⟩ := h.ports
  rw [hofferer] at hlocal hpeer'
  rw [hacceptor] at hpeer hlocal'
  have hsame : h.offererSession.localPort = h.offererSession.peerPort := by rw [hlocal, hpeer, hself]
  -- both ends seal under the key that both receive with
  have hkeys : h.offererSession.send = h.acceptorSession.send ∧ h.offererSession.receive = h.offererSession.send := by
    obtain ⟨shared, salt, shared', salt', hsend, hreceive, hsend', hreceive'⟩ := h.keys
    have hone : h.offererSession.receive = h.offererSession.send := by
      rw [hsend, hreceive, hofferer, hacceptor, hself]
    exact ⟨hone.symm.trans hagree.keys.2, hone⟩
  have hauthOfferer : policy.authorize crypto h.offererSession.peerPort (some m.state) (some m.adapter) = .ok () := by
    rw [hpeer]
    exact hauth
  have hauthAcceptor : policy.authorize crypto h.acceptorSession.peerPort (some m.state) (some m.adapter) = .ok () := by
    rw [hpeer', hself]
    exact hauth
  have hseals : ∀ {session : Session crypto},
      session.Of (hexEncode m.sessionBytes) m.state m.adapter (m.offerTime + 30000) →
      policy.authorize crypto session.peerPort (some m.state) (some m.adapter) = .ok () → ∀ {bytes : Bytes},
      bytes.length ≤ 1 → ∃ aad, session.sealBytes ⟨0, 0, false⟩ policy (some bytes) now =
        .ok (⟨session.send, 0, aad, bytes⟩, ⟨1, 0, false⟩) := by
    intro session hof hauth bytes hlength
    obtain ⟨raw, hbody⟩ := hof.body
    obtain ⟨copy, hstate, hscope⟩ := hof.state_eq
    have hscope_ok : Native.scope session.scope = .ok () := by
      rw [hscope]
      exact scope_ordered hstate (authorize_eq_ok.mp hauth).1
    have hquota : (bytes.length : ℤ) ≤ session.maxBytes := by
      have hpos := maxBytes_pos hscope_ok
      omega
    exact sealBytes_complete (hof.active hauth rfl hnow) (by decide) hbody hof.id_eq hscope_ok hquota
  obtain ⟨aad, hseal⟩ := hseals hof hauthOfferer hlength.1
  obtain ⟨aad', hseal'⟩ := hseals hof' hauthAcceptor hlength.2
  let x : Sealing crypto := ⟨h.offererSession.send, 0, aad, bytes⟩
  let y : Sealing crypto := ⟨h.acceptorSession.send, 0, aad', bytes'⟩
  have hx : h.offererSession.sealBytes ⟨0, 0, false⟩ policy (some bytes) now = .ok (x, ⟨1, 0, false⟩) := hseal
  have hy : h.acceptorSession.sealBytes ⟨0, 0, false⟩ policy (some bytes') now = .ok (y, ⟨1, 0, false⟩) := hseal'
  let w : Traffic crypto := ⟨fun _ => ⟨1, 0, false⟩, fun e => if e = .offerer then [x] else [y], fun _ => []⟩
  have hworld : run (Traffic.step h.sessions) Traffic.start
      [.seals .offerer policy (some bytes) now, .seals .acceptor policy (some bytes') now] = w := by
    simp only [run_cons, run_nil, Traffic.step, Traffic.start, Handshake.sessions, Channel.fresh, hx, List.nil_append,
      Function.update_of_ne (show End.acceptor ≠ .offerer by decide), hy, Traffic.mk.injEq, and_true, w]
    refine ⟨?_, ?_⟩ <;> funext e <;> cases e <;> rfl
  refine ⟨h, by rw [hofferer, hacceptor, hself], ?_⟩
  simp only [hworld]
  refine ⟨⟨x, List.mem_singleton_self x, y, List.mem_singleton_self y, hne, hkeys.1, rfl⟩, x,
    List.mem_singleton_self x, ?_⟩
  have hreceives : h.offererSession.receives ⟨1, 0, false⟩ policy (h.offererSession.frame x) now' =
      .ok ⟨x.ciphertext, x.tag, x.aad⟩ :=
    receives_frame hx hof.id_eq rfl rfl hsame hsame.symm rfl (hof.active hauthOfferer rfl hnow')
  have hdecrypt : w.authentic h.offererSession.receive (Session.nonce 0) x.aad x.ciphertext x.tag = some bytes := by
    have hsealings : w.sealings = [x, y] := rfl
    have hkey : x.key = h.offererSession.receive := hkeys.2.symm
    have hfound : x.nonce = Session.nonce 0 := rfl
    rw [Traffic.authentic, hsealings, List.find?_cons_of_pos (by simp [hkey, hfound])]
    rfl
  rw [Session.openFrame, show w.channels .offerer = ⟨1, 0, false⟩ from rfl, hreceives]
  simp only [hdecrypt]
  rfl

end

/-- In every run the two sessions never reuse a key with a nonce, and while no ciphertext
belongs to two keys they never open a frame of their own, exactly when the two ports are
different. -/
theorem no_reuse_no_reflection_iff {crypto : Crypto} [DecidableEq crypto.SessionKey] (h : Handshake crypto)
    (hhkdf : crypto.IdealHkdf) :
    (∀ events, (run (Traffic.step h.sessions) Traffic.start events).NoReuse ∧
      ((run (Traffic.step h.sessions) Traffic.start events).Unambiguous →
        (run (Traffic.step h.sessions) Traffic.start events).NoReflection h.sessions)) ↔
    h.offerer.id ≠ h.acceptor.id := by
  constructor
  · intro hall hports
    obtain ⟨events, hideal, hreflect⟩ := h.self_reflection hports
    exact hreflect ((hall events).2 hideal)
  · intro hports events
    have hsep := h.separated hhkdf hports
    have hin := Traffic.run_inStep hsep events
    exact ⟨hin.noReuse hsep, hin.noReflection hsep⟩

theorem Sample.no_reuse_no_reflection_meets : ∃ h : Handshake crypto, ∀ events,
    (run (Traffic.step h.sessions) Traffic.start events).NoReuse ∧
      ((run (Traffic.step h.sessions) Traffic.start events).Unambiguous →
        (run (Traffic.step h.sessions) Traffic.start events).NoReflection h.sessions) := by
  obtain ⟨h, hports, -⟩ := meets
  exact ⟨h, (no_reuse_no_reflection_iff h idealHkdf).mpr hports⟩

/-- The ends of a session of a port with itself seal different frames under one key and one
nonce, and an end opens a frame of its own. -/
theorem Sample.self_session_reuses_and_reflects : ∃ h : Handshake crypto, h.offerer.id = h.acceptor.id ∧
    let w := run (Traffic.step h.sessions) Traffic.start
      [.seals .offerer (policyFor first) (some [1]) (now + 3), .seals .acceptor (policyFor first) (some [2]) (now + 3)]
    (∃ x ∈ w.log .offerer, ∃ y ∈ w.log .acceptor, x.bytes ≠ y.bytes ∧ x.key = y.key ∧ x.nonce = y.nonce) ∧
    ∃ x ∈ w.log .offerer, (h.offererSession.openFrame w.authentic (w.channels .offerer) (policyFor first)
      (h.offererSession.frame x) (now + 4)).1.toOption = some x.bytes := by
  have hauth : (policyFor first).authorize crypto first.id (some state) (some adapter) = .ok () :=
    ok_of_isOk (by decide +kernel)
  obtain ⟨m, hofferer, hacceptor, hstate, hadapter, htime⟩ :=
    @meeting first first (by decide +kernel) (by decide +kernel)
    (by decide +kernel) (by decide +kernel)
  refine m.self_session (by rw [hofferer, hacceptor]) ?_ ?_ ?_ (by decide) (by decide)
  · rw [hacceptor, hstate, hadapter]
    exact hauth
  · rw [htime]
    decide
  · rw [htime]
    decide

end Native
