import StrataPortNetwork.TwoMachine.Sample
import StrataPortNetwork.Transition

/-! # The session store of a receiver

Between any two events the store holds at most its capacity, a session is claimed once and
before its expiry, and yields at most one receipt. Only the clock and an authenticated
transfer take a session out. The ids that `randomUUID` draws are assumed to be new.
-/
namespace TwoMachine.ProofReceiver
open Js

section
variable {κ β : Type} [BEq κ]

theorem size_filter_le (m : JsMap κ β) (keep : β → Bool) : (m.filter keep).size ≤ m.size := List.length_filter_le _ _

theorem size_delete_le (m : JsMap κ β) (k : κ) : (m.delete k).size ≤ m.size := List.length_filter_le _ _

theorem size_set_le (m : JsMap κ β) (k : κ) (v : β) : (m.set k v).size ≤ m.size + 1 := by
  unfold JsMap.size JsMap.set
  split
  · simp
  · simp

end

variable {platform : Platform} {r : ProofReceiver}

/-! ## What the handlers do to the store -/

theorem challengeRequest_sessions (now : ℤ) (sessions : Sessions) :
    (r.challengeRequest now sessions).2 = r.expireSessions now sessions := by
  unfold challengeRequest
  dsimp only
  split <;> rfl

theorem resumeChallenge_ok {body : Except JsString Body} {drawn : Drawn} {now createdAt : ℤ}
    {sessions sessions' : Sessions} {session : Session}
    (h : r.resumeChallenge platform body drawn now createdAt sessions = (.ok session, sessions')) :
    (r.expireSessions now sessions).size < r.maxSessions ∧
      sessions' = (r.expireSessions now sessions).set drawn.sessionId session ∧
      ∃ json hello, readHello platform body = .ok json ∧ r.checkHello json = .ok hello ∧
        session = r.sessionOf platform hello drawn createdAt := by
  unfold resumeChallenge at h
  split at h
  · simp at h
  · rename_i hello hhello
    dsimp only at h
    split at h
    · simp at h
    · rename_i hcapacity
      rw [Prod.mk.injEq, Except.ok.injEq] at h
      obtain ⟨json, hjson, hchecked⟩ := bind_eq_ok.mp hhello
      exact ⟨not_le.mp hcapacity, by rw [← h.2, h.1], json, hello, hjson, hchecked, h.1.symm⟩

theorem resumeChallenge_error {body : Except JsString Body} {drawn : Drawn} {now createdAt : ℤ}
    {sessions sessions' : Sessions} {response : Response}
    (h : r.resumeChallenge platform body drawn now createdAt sessions = (.error response, sessions')) :
    sessions' = sessions ∨ sessions' = r.expireSessions now sessions := by
  unfold resumeChallenge at h
  split at h
  · exact Or.inl (congrArg Prod.snd h).symm
  · dsimp only at h
    split at h
    · exact Or.inr (congrArg Prod.snd h).symm
    · simp at h

/-- A claim is made of a session in the store, in time and with its MAC. -/
theorem transferRequest_ok {headers : TransferHeaders} {now : ℤ} {sessions sessions' : Sessions} {claim : Claim}
    (h : r.transferRequest platform headers now sessions = (.ok claim, sessions')) :
    headers = ⟨some claim.sessionId, some claim.authorization, some claim.iv, some claim.tag⟩ ∧
      sessions.get claim.sessionId = some claim.session ∧ r.expired now claim.session = false ∧
      r.authenticates platform claim.authorization claim.sessionId claim.session = true ∧
      sessions' = sessions.delete claim.sessionId := by
  unfold transferRequest at h
  split at h
  · rename_i sessionId authorization iv tag
    split at h
    · simp at h
    · rename_i session hsession
      split at h
      · simp at h
      · rename_i hexpired
        split at h
        · simp at h
        · rename_i hauth
          rw [Prod.mk.injEq, Except.ok.injEq] at h
          obtain ⟨rfl, rfl⟩ := h
          exact ⟨rfl, hsession, Bool.not_eq_true _ ▸ hexpired, by simpa using hauth, rfl⟩
  · simp at h

/-- A refused transfer takes at most a session out that has expired. -/
theorem transferRequest_error {headers : TransferHeaders} {now : ℤ} {sessions sessions' : Sessions}
    {response : Response} (h : r.transferRequest platform headers now sessions = (.error response, sessions')) :
    sessions' = sessions ∨ ∃ sessionId, sessions' = sessions.delete sessionId ∧
      ∀ session, sessions.get sessionId = some session → r.expired now session = true := by
  unfold transferRequest at h
  split at h
  · rename_i sessionId authorization iv tag
    split at h
    · rename_i hnone
      exact Or.inr ⟨sessionId, (congrArg Prod.snd h).symm, fun session hsession => by simp [hnone] at hsession⟩
    · rename_i session hsession
      split at h
      · rename_i hexpired
        refine Or.inr ⟨sessionId, (congrArg Prod.snd h).symm, fun session' hsession' => ?_⟩
        rw [hsession] at hsession'
        rw [← Option.some.inj hsession']
        exact hexpired
      · split at h
        · exact Or.inl (congrArg Prod.snd h).symm
        · simp at h
  · exact Or.inl (congrArg Prod.snd h).symm

theorem resumeTransfer_sessions (claim : Claim) (body : Except JsString Bytes) (remoteAddress : Option JsString)
    (now : ℤ) (sessions : Sessions) :
    (r.resumeTransfer platform claim body remoteAddress now sessions).2 = sessions ∨
      (r.resumeTransfer platform claim body remoteAddress now sessions).2 = sessions.delete claim.sessionId := by
  unfold resumeTransfer
  split
  · exact Or.inl rfl
  · split
    · exact Or.inr rfl
    · dsimp only
      split
      · exact Or.inl rfl
      · exact Or.inr rfl

/-- A receipt is made of the payload that the claim decrypts to. -/
theorem resumeTransfer_ok {claim : Claim} {body : Except JsString Bytes} {remoteAddress : Option JsString} {now : ℤ}
    {sessions sessions' : Sessions} {issued : Issued}
    (h : r.resumeTransfer platform claim body remoteAddress now sessions = (.ok issued, sessions')) :
    issued.claim = claim ∧ body = .ok issued.ciphertext ∧ issued.ciphertext.length ≤ r.maxBytes ∧
      r.openPayload platform claim issued.ciphertext = some issued.payload ∧
      issued.core = receiptCore platform claim issued.ciphertext issued.payload (isLoopback (remoteAddress.getD []))
        (platform.toISOString now) ∧
      ∃ transcript, receiptTranscript (.record issued.core.fields) = some transcript ∧
        issued.receiptMac = hmac platform r.secret transcript := by
  unfold resumeTransfer at h
  split at h
  · simp at h
  · rename_i ciphertext hread
    split at h
    · simp at h
    · rename_i payload hopen
      dsimp only at h
      split at h
      · simp at h
      · rename_i transcript htranscript
        rw [Prod.mk.injEq, Except.ok.injEq] at h
        obtain ⟨rfl, -⟩ := h
        have hbody : body = .ok ciphertext ∧ ciphertext.length ≤ r.maxBytes := by
          unfold readCiphertext at hread
          split at hread
          · rw [throw_eq_ok] at hread
            exact hread.elim
          · split at hread
            · rename_i hlength
              rw [pure_eq_ok] at hread
              exact ⟨by rw [hread], hread ▸ hlength⟩
            · rw [throw_eq_ok] at hread
              exact hread.elim
        exact ⟨rfl, hbody.1, hbody.2, hopen, rfl, transcript, htranscript, rfl⟩

/-! ## The invariant -/

/-- A new session gets an id that no session has had. -/
def FreshId (s : State) : Event → Prop
  | .helloBody _ _ drawn _ _ => drawn.sessionId ∉ s.created
  | _ => True

/-- The request waits for the ciphertext of a claim. -/
def Waits (requests : List Stage) (i : ℕ) (claim : Claim) : Prop := requests[i]? = some (.ciphertext claim)

/-- Stored, claimed and answered sessions exclude each other. -/
structure Sound (platform : Platform) (r : ProofReceiver) (s : State) : Prop where
  capacity : s.sessions.size ≤ r.maxSessions
  stored : ∀ sessionId session, s.sessions.get sessionId = some session →
    sessionId ∈ s.created ∧ ∀ c ∈ s.claims, c.2.sessionId ≠ sessionId
  claimed : ∀ c ∈ s.claims, c.2.sessionId ∈ s.created ∧ r.expired c.1 c.2.session = false ∧
    r.authenticates platform c.2.authorization c.2.sessionId c.2.session = true
  once : (s.claims.map fun c => c.2.sessionId).Nodup
  waiting : ∀ i claim, Waits s.requests i claim → (∃ now, (now, claim) ∈ s.claims) ∧
    (∀ x ∈ s.issued, x.claim.sessionId ≠ claim.sessionId) ∧
    ∀ j claim', Waits s.requests j claim' → claim'.sessionId = claim.sessionId → j = i
  issued : ∀ x ∈ s.issued, ∃ now, (now, x.claim) ∈ s.claims
  receipts : (s.issued.map fun x => x.claim.sessionId).Nodup

theorem start_sound : Sound platform r State.start := by
  constructor <;> simp [State.start, JsMap.empty, JsMap.size, JsMap.get, Waits]

/-- Fewer sessions and no other request that waits for a ciphertext. -/
theorem Sound.of_shrunk {s : State} (h : Sound platform r s) {sessions : Sessions} {requests : List Stage}
    (hsize : sessions.size ≤ s.sessions.size)
    (hsessions : ∀ sessionId session, sessions.get sessionId = some session → s.sessions.get sessionId = some session)
    (hrequests : ∀ i claim, Waits requests i claim → Waits s.requests i claim) :
    Sound platform r { s with sessions := sessions, requests := requests } where
  capacity := hsize.trans h.capacity
  stored sessionId session hget := h.stored sessionId session (hsessions sessionId session hget)
  claimed := h.claimed
  once := h.once
  waiting i claim hi := by
    obtain ⟨hclaimed, hissued, honly⟩ := h.waiting i claim (hrequests i claim hi)
    exact ⟨hclaimed, hissued, fun j claim' hj => honly j claim' (hrequests j claim' hj)⟩
  issued := h.issued
  receipts := h.receipts

theorem get_expireSessions {sessions : Sessions} {now : ℤ} {sessionId : JsString} {session : Session}
    (h : (r.expireSessions now sessions).get sessionId = some session) : sessions.get sessionId = some session := by
  rw [expireSessions, JsMap.get_filter, Option.filter_eq_some_iff] at h
  exact h.1

theorem get_of_delete {sessions : Sessions} {other sessionId : JsString} {session : Session}
    (h : (sessions.delete other).get sessionId = some session) : sessions.get sessionId = some session ∧ sessionId ≠ other := by
  rw [JsMap.get_delete] at h
  split at h
  · cases h
  · rename_i hne
    exact ⟨h, fun heq => hne (by rw [heq, beq_self_eq_true])⟩

theorem ciphertext_of_append {requests : List Stage} {stage : Stage} (hstage : ∀ claim, stage ≠ .ciphertext claim)
    {i : ℕ} {claim : Claim} (h : Waits (requests ++ [stage]) i claim) :
    Waits requests i claim := by
  rw [Waits, List.getElem?_append] at h
  split at h
  · exact h
  · have hmem := List.mem_of_getElem? h
    rw [List.mem_singleton] at hmem
    exact absurd hmem.symm (hstage claim)

theorem ciphertext_of_set {requests : List Stage} {stage : Stage} (hstage : ∀ claim, stage ≠ .ciphertext claim)
    {i j : ℕ} {claim : Claim} (h : Waits (requests.set j stage) i claim) :
    Waits requests i claim ∧ i ≠ j := by
  rw [Waits, List.getElem?_set] at h
  split at h
  · split at h
    · exact absurd (Option.some.inj h) (hstage claim)
    · cases h
  · rename_i hne
    exact ⟨h, Ne.symm hne⟩

theorem Sound.claim {s : State} (h : Sound platform r s) {headers : TransferHeaders} {now : ℤ} {claim : Claim}
    {sessions : Sessions} (hclaim : r.transferRequest platform headers now s.sessions = (.ok claim, sessions)) :
    Sound platform r { s with
      sessions := sessions
      requests := s.requests ++ [.ciphertext claim]
      claims := (now, claim) :: s.claims } := by
  obtain ⟨-, hsession, hexpired, hauth, rfl⟩ := transferRequest_ok hclaim
  obtain ⟨hcreated, hunclaimed⟩ := h.stored _ _ hsession
  have hunissued : ∀ x ∈ s.issued, x.claim.sessionId ≠ claim.sessionId := by
    intro x hx
    obtain ⟨now', hx⟩ := h.issued x hx
    exact hunclaimed _ hx
  -- a request that waits already has another session
  have hother : ∀ i claim', Waits s.requests i claim' → claim'.sessionId ≠ claim.sessionId := by
    intro i claim' hi
    obtain ⟨⟨now', hclaimed⟩, -, -⟩ := h.waiting i claim' hi
    exact hunclaimed _ hclaimed
  have hcases : ∀ i claim', Waits (s.requests ++ [.ciphertext claim]) i claim' →
      Waits s.requests i claim' ∨ (i = s.requests.length ∧ claim' = claim) := by
    intro i claim' hi
    rw [Waits, List.getElem?_append] at hi
    split at hi
    · exact Or.inl hi
    · rename_i hlt
      have hzero : i - s.requests.length = 0 := by
        by_contra hpos
        rw [List.getElem?_eq_none (by simp; omega)] at hi
        cases hi
      rw [hzero] at hi
      exact Or.inr ⟨by omega, (Stage.ciphertext.inj (Option.some.inj hi)).symm⟩
  constructor
  · exact (size_delete_le _ _).trans h.capacity
  · intro sessionId session hget
    obtain ⟨hget, hne⟩ := get_of_delete hget
    obtain ⟨hmem, hnot⟩ := h.stored sessionId session hget
    exact ⟨hmem, List.forall_mem_cons.mpr ⟨hne.symm, hnot⟩⟩
  · exact List.forall_mem_cons.mpr ⟨⟨hcreated, hexpired, hauth⟩, h.claimed⟩
  · rw [List.map_cons, List.nodup_cons]
    refine ⟨?_, h.once⟩
    intro hmem
    obtain ⟨c, hc, hsame⟩ := List.mem_map.mp hmem
    exact hunclaimed c hc hsame
  · intro i claim' hi
    rcases hcases i claim' hi with hold | ⟨rfl, rfl⟩
    · obtain ⟨⟨now', hclaimed⟩, hissued, honly⟩ := h.waiting i claim' hold
      refine ⟨⟨now', List.mem_cons_of_mem _ hclaimed⟩, hissued, ?_⟩
      intro j claim'' hj hsame
      rcases hcases j claim'' hj with hj | ⟨-, rfl⟩
      · exact honly j claim'' hj hsame
      · exact absurd hsame.symm (hother i claim' hold)
    · refine ⟨⟨now, List.mem_cons_self⟩, hunissued, ?_⟩
      intro j claim'' hj hsame
      rcases hcases j claim'' hj with hj | ⟨hj, -⟩
      · exact absurd hsame (hother j claim'' hj)
      · exact hj
  · intro x hx
    obtain ⟨now', hx⟩ := h.issued x hx
    exact ⟨now', List.mem_cons_of_mem _ hx⟩
  · exact h.receipts

theorem Sound.open {s : State} (h : Sound platform r s) {i : ℕ} {body : Except JsString Body} {drawn : Drawn}
    {now createdAt : ℤ} {session : Session} {sessions : Sessions} {response : Response} (hfresh : drawn.sessionId ∉ s.created)
    (hopen : r.resumeChallenge platform body drawn now createdAt s.sessions = (.ok session, sessions)) :
    Sound platform r { s with
      sessions := sessions
      requests := s.requests.set i (.answered response)
      created := drawn.sessionId :: s.created } := by
  obtain ⟨hcapacity, rfl, -⟩ := resumeChallenge_ok hopen
  have hwaiting := (@Sound.of_shrunk _ _ _ h s.sessions (s.requests.set i (.answered response)) le_rfl (fun _ _ => id)
    fun j claim hj => (ciphertext_of_set (by simp) hj).1).waiting
  constructor
  · exact (size_set_le _ _ _).trans hcapacity
  · intro sessionId session' hget
    rw [JsMap.get_set] at hget
    split at hget
    · rename_i hsame
      rw [← beq_iff_eq.mp hsame]
      exact ⟨List.mem_cons_self, fun c hc hid => hfresh (hid ▸ (h.claimed c hc).1)⟩
    · obtain ⟨hmem, hnot⟩ := h.stored sessionId session' (get_expireSessions hget)
      exact ⟨List.mem_cons_of_mem _ hmem, hnot⟩
  · intro c hc
    obtain ⟨hmem, hrest⟩ := h.claimed c hc
    exact ⟨List.mem_cons_of_mem _ hmem, hrest⟩
  · exact h.once
  · exact hwaiting
  · exact h.issued
  · exact h.receipts

theorem Sound.issue {s : State} (h : Sound platform r s) {i : ℕ} {claim : Claim}
    (hi : Waits s.requests i claim) {issued : Issued} (hclaim : issued.claim = claim)
    {sessions : Sessions} (hsize : sessions.size ≤ s.sessions.size)
    (hsessions : ∀ sessionId session, sessions.get sessionId = some session → s.sessions.get sessionId = some session) :
    Sound platform r { s with
      sessions := sessions, requests := s.requests.set i (.sink issued), issued := issued :: s.issued } := by
  obtain ⟨hclaimed, hunissued, honly⟩ := h.waiting i claim hi
  have hshrunk := @Sound.of_shrunk _ _ _ h sessions (s.requests.set i (.sink issued)) hsize hsessions
    fun j claim' hj => (ciphertext_of_set (by simp) hj).1
  refine ⟨hshrunk.capacity, hshrunk.stored, hshrunk.claimed, hshrunk.once, ?_, ?_, ?_⟩
  · intro j claim' hj
    obtain ⟨hclaimed', hunissued', honly'⟩ := hshrunk.waiting j claim' hj
    obtain ⟨hj, hne⟩ := ciphertext_of_set (by simp) hj
    refine ⟨hclaimed', List.forall_mem_cons.mpr ⟨?_, hunissued'⟩, honly'⟩
    rw [hclaim]
    exact fun hsame => hne (honly j claim' hj hsame.symm)
  · refine List.forall_mem_cons.mpr ⟨?_, h.issued⟩
    rw [hclaim]
    exact hclaimed
  · rw [List.map_cons, List.nodup_cons]
    refine ⟨?_, h.receipts⟩
    intro hmem
    obtain ⟨x, hx, hsame⟩ := List.mem_map.mp hmem
    exact hunissued x hx (hsame.trans (by rw [hclaim]))

theorem step_sound {s : State} (h : Sound platform r s) {e : Event} (hfresh : FreshId s e) :
    Sound platform r (r.step platform s e) := by
  have hexpire : ∀ now, (r.expireSessions now s.sessions).size ≤ s.sessions.size := fun now => size_filter_le _ _
  have hdelete : ∀ sessionId, (s.sessions.delete sessionId).size ≤ s.sessions.size := fun sessionId => size_delete_le _ _
  cases e with
  | timer now => exact h.of_shrunk (hexpire now) (fun _ _ => get_expireSessions) fun _ _ => id
  | challenge now =>
    have hsessions := challengeRequest_sessions (r := r) now s.sessions
    simp only [step]
    split
    · rename_i response sessions heq
      rw [heq] at hsessions
      subst hsessions
      exact h.of_shrunk (hexpire now) (fun _ _ => get_expireSessions) fun _ _ => ciphertext_of_append (by simp)
    · rename_i sessions heq
      rw [heq] at hsessions
      subst hsessions
      exact h.of_shrunk (hexpire now) (fun _ _ => get_expireSessions) fun _ _ => ciphertext_of_append (by simp)
  | helloBody i body drawn now createdAt =>
    simp only [step]
    split
    · split
      · rename_i response sessions heq
        have hset : ∀ (j : ℕ) (claim : Claim), Waits (s.requests.set i (.answered response)) j claim →
            Waits s.requests j claim := fun j claim hj => (ciphertext_of_set (by simp) hj).1
        rcases resumeChallenge_error heq with rfl | rfl
        · exact h.of_shrunk le_rfl (fun _ _ => id) hset
        · exact h.of_shrunk (hexpire now) (fun _ _ => get_expireSessions) hset
      · rename_i session sessions heq
        exact h.open hfresh heq
    · exact h
  | transfer headers now =>
    simp only [step]
    split
    · rename_i response sessions heq
      rcases transferRequest_error heq with rfl | ⟨sessionId, rfl, -⟩
      · exact h.of_shrunk le_rfl (fun _ _ => id) fun _ _ => ciphertext_of_append (by simp)
      · exact h.of_shrunk (hdelete sessionId) (fun _ _ hget => (get_of_delete hget).1)
          fun _ _ => ciphertext_of_append (by simp)
    · rename_i claim sessions heq
      exact h.claim heq
  | ciphertextBody i body remoteAddress now =>
    simp only [step]
    split
    · rename_i claim hi
      have hstore := @resumeTransfer_sessions platform r claim body remoteAddress now s.sessions
      have hsize : (r.resumeTransfer platform claim body remoteAddress now s.sessions).2.size ≤ s.sessions.size := by
        rcases hstore with heq | heq <;> rw [heq]
        exact hdelete _
      have hget : ∀ sessionId session,
          (r.resumeTransfer platform claim body remoteAddress now s.sessions).2.get sessionId = some session →
            s.sessions.get sessionId = some session := by
        rcases hstore with heq | heq <;> rw [heq]
        · exact fun _ _ => id
        · exact fun _ _ hget => (get_of_delete hget).1
      split
      · rename_i response sessions heq
        rw [heq] at hsize hget
        exact h.of_shrunk hsize hget fun j claim' hj => (ciphertext_of_set (by simp) hj).1
      · rename_i issued sessions heq
        obtain ⟨hclaim, -⟩ := resumeTransfer_ok heq
        rw [heq] at hsize hget
        exact h.issue hi hclaim hsize hget
    · exact h
  | sinkAnswers i persisted =>
    simp only [step]
    split
    · exact h.of_shrunk le_rfl (fun _ _ => id) fun j claim hj => (ciphertext_of_set (by simp) hj).1
    · exact h
  | unknownRequest => exact h.of_shrunk le_rfl (fun _ _ => id) fun _ _ => ciphertext_of_append (by simp)

/-! ## Live sessions -/

/-- The clock readings against which an event checks expiry. -/
def Event.readings : Event → List ℤ
  | .timer now => [now]
  | .challenge now => [now]
  | .helloBody _ _ _ now _ => [now]
  | .transfer _ now => [now]
  | _ => []

/-- A transfer request that carries the MAC of the session. -/
def Authenticated (platform : Platform) (r : ProofReceiver) (e : Event) (sessionId : JsString) (session : Session) : Prop :=
  ∃ authorization iv tag now, e = .transfer ⟨some sessionId, some authorization, some iv, some tag⟩ now ∧
    r.authenticates platform authorization sessionId session = true

theorem expireSessions_keeps {sessions : Sessions} {now : ℤ} {sessionId : JsString} {session : Session}
    (h : sessions.get sessionId = some session) (hlive : r.expired now session = false) :
    (r.expireSessions now sessions).get sessionId = some session := by
  rw [expireSessions, JsMap.get_filter, h, Option.filter_some, if_pos (by simp [hlive])]

theorem delete_keeps {sessions : Sessions} {other sessionId : JsString} (hne : other ≠ sessionId) :
    (sessions.delete other).get sessionId = sessions.get sessionId := by
  rw [JsMap.get_delete, if_neg (by simpa using hne)]

/-- A live session stays unless a transfer with its MAC takes it. -/
theorem step_keeps {s : State} (h : Sound platform r s) {e : Event} (hfresh : FreshId s e) {sessionId : JsString}
    {session : Session} (hget : s.sessions.get sessionId = some session)
    (hlive : ∀ now ∈ e.readings, r.expired now session = false) (hauth : ¬ Authenticated platform r e sessionId session) :
    (r.step platform s e).sessions.get sessionId = some session := by
  cases e with
  | timer now => exact expireSessions_keeps hget (hlive now List.mem_cons_self)
  | challenge now =>
    have hsessions := challengeRequest_sessions (r := r) now s.sessions
    have hkept := expireSessions_keeps hget (hlive now List.mem_cons_self)
    rw [← hsessions] at hkept
    simp only [step]
    split <;> (rename_i heq; rw [heq] at hkept; exact hkept)
  | helloBody i body drawn now createdAt =>
    have hkept := expireSessions_keeps hget (hlive now List.mem_cons_self)
    simp only [step]
    split
    · split
      · rename_i response sessions heq
        rcases resumeChallenge_error heq with rfl | rfl
        · exact hget
        · exact hkept
      · rename_i session' sessions heq
        obtain ⟨-, rfl, -⟩ := resumeChallenge_ok heq
        have hne : ¬ (drawn.sessionId == sessionId) = true := by
          intro hsame
          rw [beq_iff_eq] at hsame
          exact hfresh (hsame ▸ (h.stored sessionId session hget).1)
        simp only [JsMap.get_set, if_neg hne]
        exact hkept
    · exact hget
  | transfer headers now =>
    simp only [step]
    split
    · rename_i response sessions heq
      rcases transferRequest_error heq with rfl | ⟨other, rfl, hexpired⟩
      · exact hget
      · rw [delete_keeps, hget]
        rintro rfl
        exact absurd (hexpired session hget) (by simp [hlive now List.mem_cons_self])
    · rename_i claim sessions heq
      obtain ⟨rfl, hsession, -, hmac, rfl⟩ := transferRequest_ok heq
      rw [delete_keeps, hget]
      rintro rfl
      rw [hget] at hsession
      rw [← Option.some.inj hsession] at hmac
      exact hauth ⟨_, _, _, _, rfl, hmac⟩
  | ciphertextBody i body remoteAddress now =>
    simp only [step]
    split
    · rename_i claim hi
      -- the session of a claim is no longer in the store
      obtain ⟨⟨now', hclaimed⟩, -, -⟩ := h.waiting i claim hi
      have hne : claim.sessionId ≠ sessionId := (h.stored sessionId session hget).2 _ hclaimed
      have hkept : (r.resumeTransfer platform claim body remoteAddress now s.sessions).2.get sessionId = some session := by
        rcases @resumeTransfer_sessions platform r claim body remoteAddress now s.sessions with heq | heq <;>
          rw [heq]
        · exact hget
        · rw [delete_keeps hne, hget]
      split <;> (rename_i heq; rw [heq] at hkept; exact hkept)
    · exact hget
  | sinkAnswers i persisted =>
    simp only [step]
    split <;> exact hget
  | unknownRequest => exact hget

theorem run_sound {events : List Event} (hfresh : Transition.Steps (r.step platform) FreshId State.start events) :
    Sound platform r (Transition.run (r.step platform) State.start events) := by
  have hstep : ∀ s e, FreshId s e → Sound platform r s → Sound platform r (r.step platform s e) :=
    fun s e hfresh h => step_sound h hfresh
  exact Transition.run_invariant_of_steps hstep start_sound hfresh

theorem created_challenge (s : State) (now : ℤ) : (r.step platform s (.challenge now)).created = s.created := by
  simp only [step]
  split <;> rfl

theorem created_helloBody (s : State) (i : ℕ) (body : Except JsString Body) (drawn : Drawn) (now createdAt : ℤ) :
    ∀ sessionId ∈ (r.step platform s (.helloBody i body drawn now createdAt)).created,
      sessionId = drawn.sessionId ∨ sessionId ∈ s.created := by
  intro sessionId hmem
  simp only [step] at hmem
  split at hmem
  · split at hmem
    · exact Or.inr hmem
    · exact List.mem_cons.mp hmem
  · exact Or.inr hmem

/-- Two requests pass the first capacity check of a receiver for one session, and both
bodies arrive after it. -/
def race (hello : Except JsString Body) : List Event :=
  [.challenge Sample.now, .challenge Sample.now, .helloBody 0 hello Sample.firstDrawn Sample.now Sample.now,
    .helloBody 1 hello Sample.secondDrawn Sample.now Sample.now]

end TwoMachine.ProofReceiver
