import Mathlib.Data.Int.ConditionallyCompleteOrder
import Mathlib.Order.ConditionallyCompleteLattice.Basic
import StrataPortNetwork.Native.Directory
import StrataPortNetwork.Native.Sample
import StrataPortNetwork.Transition

/-! # Revisions and revocations in the directories

Runs of `ingest`, of queries and of `revoke` on either directory. Among the records that
outlast no later revision of their port, revisions never go back and no revision is
taken twice; a revoked port never returns.
-/
namespace Native
open Js Transition

section
variable (crypto : Crypto)

/-- The operations of a directory, with what its own parts guarantee. -/
structure Directory where
  kind : DirectoryKind
  query : SignedDirectory → Json → ℤ → Outcome JsString
  revoke : SignedDirectory → Json → Outcome SignedDirectory
  verify_spec : ∀ {record now body}, kind.verify record now = .ok body →
    ∃ raw expiresAt, record.get "body" = some raw ∧ ordered raw = some body ∧
      integerField body "expiresAt" = some expiresAt ∧ now < expiresAt
  query_spec : ∀ {directory q now port}, query directory q now = .ok port →
    directory.isRevoked (.str port) = false
  revoke_spec : ∀ {directory directory' id}, revoke directory id = .ok directory' →
    directory' = directory.drop id

inductive DirectoryCall
  | ingest (record : Json) (now : ℤ)
  | query (q : Json) (now : ℤ)
  | revoke (id : Json)

def DirectoryCall.readings : DirectoryCall → List ℤ
  | .ingest _ now => [now]
  | .query _ now => [now]
  | .revoke _ => []

/-- What a caller sees of a call that does not throw. -/
inductive Notice
  | accepted (port : JsString) (record : Json)
  | returned (port : JsString)
  | revoked (id : Json)

/-- A directory with the notices so far, the latest first. -/
structure Watched where
  directory : SignedDirectory
  trace : List Notice

def Watched.start (capacity : ℕ) : Watched := ⟨SignedDirectory.empty capacity, []⟩

def Directory.step (api : Directory) (w : Watched) : DirectoryCall → Watched
  | .ingest record now =>
    match SignedDirectory.ingest crypto api.kind w.directory record now with
    | (.ok port, directory) => ⟨directory, .accepted port record :: w.trace⟩
    | (.error _, directory) => ⟨directory, w.trace⟩
  | .query q now =>
    match api.query w.directory q now with
    | .ok port => ⟨w.directory, .returned port :: w.trace⟩
    | .error _ => w
  | .revoke id =>
    match api.revoke w.directory id with
    | .ok directory => ⟨directory, .revoked id :: w.trace⟩
    | .error _ => w

def recordRevision (record : Json) : ℤ := (integerField (signedBody record) "revision").getD 0
def recordExpiresAt (record : Json) : ℤ := (integerField (signedBody record) "expiresAt").getD 0

/-- A later record of a port has a higher revision, or is the same record; nothing comes
from a port after its revocation. -/
def Notice.Consistent : Notice → Notice → Prop
  | .accepted port record, .accepted port' record' => port = port' →
      recordRevision record < recordRevision record' ∨ canonicalBytes record = canonicalBytes record'
  | .revoked id, .accepted port _ => id ≠ .str port
  | .revoked id, .returned port => id ≠ .str port
  | _, _ => True

/-- A record ingested for a port whose stored record is gone expires no later than any
different record of the port, of the same or a higher revision, accepted before. -/
def Outlasted (api : Directory) (w : Watched) : DirectoryCall → Prop
  | .ingest record _ => ∀ port, (signedBody record).get api.kind.owner = some (.str port) →
      w.directory.records.get port = none → ∀ record', .accepted port record' ∈ w.trace →
        canonicalBytes record' ≠ canonicalBytes record → recordRevision record ≤ recordRevision record' →
          recordExpiresAt record ≤ recordExpiresAt record'
  | _ => True

/-- The canonical bytes of the records that the calls ingest. -/
def ingested (calls : List DirectoryCall) : Set Bytes :=
  {bytes | ∃ record now, .ingest record now ∈ calls ∧ canonicalBytes record = .ok bytes}

end

/-! ## One ingest -/

section
variable {crypto : Crypto}

theorem purged_get (directory : SignedDirectory) (now : ℤ) (port : JsString) :
    (directory.purged now).get port =
      (directory.records.get port).filter fun record => now < storedExpiresAt record := by
  rw [SignedDirectory.purged, JsMap.get_filter]

theorem storedBody_eq {record copy : Json} (h : ordered record = some copy) :
    storedBody copy = signedBody record := by
  rw [storedBody, signedBody, h, Option.bind_some]

/-- An admitted record is fresh, its port is not revoked, and it supersedes the stored
record of its port or repeats it. -/
theorem admits_ok {api : Directory} {directory : SignedDirectory} {record : Json} {now : ℤ}
    {port : JsString} (h : SignedDirectory.admits crypto api.kind directory record now = .ok port)
    (hrecord : (ordered record).isSome = true) :
    (signedBody record).get api.kind.owner = some (.str port) ∧ now < recordExpiresAt record ∧
      directory.isRevoked (.str port) = false ∧
      ∀ prior, directory.records.get port = some prior → storedRevision prior < recordRevision record ∨
        canonicalDigest crypto record = canonicalDigest crypto prior := by
  simp only [SignedDirectory.admits, bind_eq_ok, orThrow_eq_ok, ensure_eq_ok, Json.bind_str?_eq_some] at h
  obtain ⟨body, hverify, port', howner, -, hrevoked, hprior⟩ := h
  obtain ⟨raw, expiresAt, hraw, hordered, hexpires, hfresh⟩ := api.verify_spec hverify
  have hbody : signedBody record = body := signedBody_eq hraw hordered hrecord
  have hexpiry : recordExpiresAt record = expiresAt := by
    rw [recordExpiresAt, hbody, hexpires, Option.getD_some]
  have hsupersedes : port' = port ∧ ∀ prior, directory.records.get port' = some prior →
      SignedDirectory.supersedes crypto api.kind prior record body = .ok () := by
    cases hget : directory.records.get port' with
    | none =>
      simp only [hget, pure_eq_ok] at hprior
      exact ⟨hprior, by simp⟩
    | some prior =>
      simp only [hget, bind_eq_ok, pure_eq_ok] at hprior
      obtain ⟨⟨⟩, hsup, heq⟩ := hprior
      refine ⟨heq, ?_⟩
      rintro prior' hprior'
      rw [← Option.some.inj hprior']
      exact hsup
  obtain ⟨rfl, hsupersedes⟩ := hsupersedes
  refine ⟨hbody ▸ howner, hexpiry ▸ hfresh, by simpa using hrevoked, ?_⟩
  intro prior hget
  have hsup := hsupersedes prior hget
  simp only [SignedDirectory.supersedes] at hsup
  have hrevision : recordRevision record = (integerField body "revision").getD 0 := by
    rw [recordRevision, hbody]
  rw [← hrevision] at hsup
  split at hsup
  · simp at hsup
  · split at hsup
    · simp only [bind_eq_ok, ensure_eq_ok, beq_iff_eq] at hsup
      obtain ⟨own, hown, stored, hstored, rfl⟩ := hsup
      exact Or.inr (hown.trans hstored.symm)
    · exact Or.inl (by omega)

/-- What an ingest does to the directory and, when it accepts, to the record it accepts. -/
theorem ingest_cases (api : Directory) (directory : SignedDirectory) (record : Json) (now : ℤ)
    {result : Outcome JsString} {directory' : SignedDirectory}
    (h : SignedDirectory.ingest crypto api.kind directory record now = (result, directory')) :
    directory'.revoked = directory.revoked ∧
    ((∃ e, result = .error e) ∧
      (directory'.records = directory.records ∨ directory'.records = directory.purged now) ∨
    ∃ port copy, result = .ok port ∧ ordered record = some copy ∧
      (signedBody record).get api.kind.owner = some (.str port) ∧ now < recordExpiresAt record ∧
      directory.isRevoked (.str port) = false ∧
      directory'.records = (directory.purged now).set port copy ∧
      ∀ prior, directory.records.get port = some prior → storedRevision prior < recordRevision record ∨
        canonicalDigest crypto record = canonicalDigest crypto prior) := by
  unfold SignedDirectory.ingest at h
  cases hadmits : SignedDirectory.admits crypto api.kind directory record now with
  | error e =>
    simp only [hadmits, Prod.mk.injEq] at h
    obtain ⟨rfl, rfl⟩ := h
    exact ⟨rfl, Or.inl ⟨⟨e, rfl⟩, Or.inl rfl⟩⟩
  | ok port =>
    simp only [hadmits] at h
    generalize (if api.kind.recheck = true then (directory.purged now).has port
      else directory.records.has port) = known at h
    split at h
    · simp only [Prod.mk.injEq] at h
      obtain ⟨rfl, rfl⟩ := h
      exact ⟨rfl, Or.inl ⟨⟨_, rfl⟩, Or.inr rfl⟩⟩
    · cases hcopy : snapshot record with
      | error e =>
        simp only [hcopy, Prod.mk.injEq] at h
        obtain ⟨rfl, rfl⟩ := h
        exact ⟨rfl, Or.inl ⟨⟨e, rfl⟩, Or.inr rfl⟩⟩
      | ok copy =>
        simp only [hcopy, Prod.mk.injEq] at h
        obtain ⟨rfl, rfl⟩ := h
        have hordered := snapshot_eq_ok.mp hcopy
        obtain ⟨howner, hfresh, hrevoked, hprior⟩ := admits_ok hadmits (by rw [hordered, Option.isSome_some])
        exact ⟨rfl, Or.inr ⟨port, copy, rfl, hordered, howner, hfresh, hrevoked, rfl, hprior⟩⟩

/-! ## The invariant -/

/-- The accepted record of the port that no accepted record of the port comes after. -/
def Latest (trace : List Notice) (port : JsString) (record : Json) : Prop :=
  .accepted port record ∈ trace ∧ ∀ record', .accepted port record' ∈ trace →
    recordRevision record' < recordRevision record ∨ canonicalBytes record' = canonicalBytes record

/-- The store holds the latest record of a port that is not revoked, or has dropped it
after its expiry. -/
structure Guarded (past : List ℤ) (w : Watched) : Prop where
  consistent : w.trace.Pairwise fun later earlier => earlier.Consistent later
  revoked : ∀ port, .revoked (.str port) ∈ w.trace → w.directory.isRevoked (.str port) = true
  stored : ∀ port copy, w.directory.records.get port = some copy →
    ∃ record, Latest w.trace port record ∧ ordered record = some copy
  lost : ∀ port record, .accepted port record ∈ w.trace → w.directory.records.get port = none →
    w.directory.isRevoked (.str port) = true ∨
      ∃ record', Latest w.trace port record' ∧ ∃ r ∈ past, recordExpiresAt record' ≤ r

theorem Guarded.start (capacity : ℕ) : Guarded [] (Watched.start capacity) := by
  constructor <;> simp [Watched.start, SignedDirectory.empty]

theorem Guarded.later {past : List ℤ} {w : Watched} (h : Guarded past w) (readings : List ℤ) :
    Guarded (past ++ readings) w := by
  refine ⟨h.consistent, h.revoked, h.stored, ?_⟩
  intro port record hrecord hget
  rcases h.lost port record hrecord hget with hrevoked | ⟨record', hlatest, r, hr, hexpired⟩
  · exact Or.inl hrevoked
  · exact Or.inr ⟨record', hlatest, r, List.mem_append_left _ hr, hexpired⟩

theorem Guarded.congr {past : List ℤ} {w : Watched} (h : Guarded past w) {directory : SignedDirectory}
    (hrecords : directory.records = w.directory.records) (hrevoked : directory.revoked = w.directory.revoked) :
    Guarded past ⟨directory, w.trace⟩ := by
  have hsame : ∀ id, directory.isRevoked id = w.directory.isRevoked id := by
    intro id
    rw [SignedDirectory.isRevoked, hrevoked, SignedDirectory.isRevoked]
  refine ⟨h.consistent, fun port hport => (hsame _).trans (h.revoked port hport), ?_, ?_⟩
  · simpa only [hrecords] using h.stored
  · simpa only [hrecords, hsame] using h.lost

theorem recordRevision_congr {record record' : Json} (h : canonicalBytes record = canonicalBytes record') :
    recordRevision record = recordRevision record' := by
  rw [recordRevision, recordRevision, signedBody, signedBody, canonicalBytes_eq_iff.mp h]

theorem Latest.cons {trace : List Notice} {port : JsString} {record : Json} (h : Latest trace port record)
    {notice : Notice} (hnotice : ∀ record', notice ≠ .accepted port record') :
    Latest (notice :: trace) port record := by
  refine ⟨List.mem_cons_of_mem _ h.1, ?_⟩
  intro record' hrecord'
  rcases List.mem_cons.mp hrecord' with heq | hrecord'
  · exact absurd heq.symm (hnotice record')
  · exact h.2 record' hrecord'

/-- Purging keeps the invariant: what it drops has expired. -/
theorem Guarded.purge {past : List ℤ} {w : Watched} (h : Guarded past w) {now : ℤ}
    {directory : SignedDirectory} (hrevoked : directory.revoked = w.directory.revoked)
    (hrecords : directory.records = w.directory.purged now) :
    Guarded (past ++ [now]) ⟨directory, w.trace⟩ := by
  have hsame : ∀ id, directory.isRevoked id = w.directory.isRevoked id := by
    intro id
    rw [SignedDirectory.isRevoked, hrevoked, SignedDirectory.isRevoked]
  refine ⟨h.consistent, fun port hport => (hsame _).trans (h.revoked port hport), ?_, ?_⟩
  · intro port copy hget
    simp only [hrecords, purged_get, Option.filter_eq_some_iff] at hget
    exact h.stored port copy hget.1
  · intro port record hrecord hget
    simp only [hrecords, purged_get] at hget
    simp only [hsame]
    cases hprior : w.directory.records.get port with
    | none => exact (h.later [now]).lost port record hrecord hprior
    | some copy =>
      obtain ⟨record', hlatest, hcopy⟩ := h.stored port copy hprior
      rw [hprior, Option.filter_some] at hget
      have hexpired : ¬ now < storedExpiresAt copy := by simpa using hget
      have hexpiry : recordExpiresAt record' = storedExpiresAt copy := by
        rw [recordExpiresAt, ← storedBody_eq hcopy, storedExpiresAt]
      exact Or.inr ⟨record', hlatest, now, by simp, by omega⟩

/-- Storing a record that comes after every accepted one of its port keeps the invariant. -/
theorem Guarded.accept {past : List ℤ} {w : Watched} (h : Guarded past w) {port : JsString}
    {record copy : Json} (hcopy : ordered record = some copy)
    (hrevoked : w.directory.isRevoked (.str port) = false)
    (hafter : ∀ record', .accepted port record' ∈ w.trace →
      recordRevision record' < recordRevision record ∨ canonicalBytes record' = canonicalBytes record) :
    Guarded past ⟨{ w.directory with records := w.directory.records.set port copy },
      .accepted port record :: w.trace⟩ := by
  have hlatest : Latest (.accepted port record :: w.trace) port record := by
    refine ⟨List.mem_cons_self, ?_⟩
    intro record' hrecord'
    rcases List.mem_cons.mp hrecord' with heq | hrecord'
    · simp only [Notice.accepted.injEq, true_and] at heq
      exact Or.inr (by rw [heq])
    · exact hafter record' hrecord'
  have hother : ∀ port', port ≠ port' → ∀ record', Latest w.trace port' record' →
      Latest (.accepted port record :: w.trace) port' record' :=
    fun port' hne record' hl => hl.cons (by simp [hne])
  refine ⟨List.pairwise_cons.mpr ⟨?_, h.consistent⟩, ?_, ?_, ?_⟩
  · intro notice hnotice
    cases notice with
    | accepted port' record' =>
      rintro rfl
      exact hafter record' hnotice
    | returned port' => trivial
    | revoked id =>
      rintro rfl
      rw [h.revoked port hnotice] at hrevoked
      exact absurd hrevoked (by simp)
  · intro port' hport'
    exact h.revoked port' (by simpa using hport')
  · intro port' copy' hget
    simp only [JsMap.get_set, beq_iff_eq] at hget
    split at hget
    · rename_i heq
      subst heq
      rw [← Option.some.inj hget]
      exact ⟨record, hlatest, hcopy⟩
    · rename_i hne
      obtain ⟨record', hl, hc⟩ := h.stored port' copy' hget
      exact ⟨record', hother port' hne record' hl, hc⟩
  · intro port' record' hrecord' hget
    simp only [JsMap.get_set, beq_iff_eq] at hget
    split at hget
    · simp at hget
    · rename_i hne
      have hold : .accepted port' record' ∈ w.trace := by
        rcases List.mem_cons.mp hrecord' with heq | hold
        · simp only [Notice.accepted.injEq] at heq
          exact absurd heq.1.symm hne
        · exact hold
      rcases h.lost port' record' hold hget with hrev | ⟨record'', hl, hexp⟩
      · exact Or.inl hrev
      · exact Or.inr ⟨record'', hother port' hne record'' hl, hexp⟩

/-- Returning a record of a port that is not revoked keeps the invariant. -/
theorem Guarded.return {past : List ℤ} {w : Watched} (h : Guarded past w) {port : JsString}
    (hrevoked : w.directory.isRevoked (.str port) = false) :
    Guarded past ⟨w.directory, .returned port :: w.trace⟩ := by
  refine ⟨List.pairwise_cons.mpr ⟨?_, h.consistent⟩, ?_, ?_, ?_⟩
  · intro notice hnotice
    cases notice with
    | accepted port' record' => trivial
    | returned port' => trivial
    | revoked id =>
      rintro rfl
      rw [h.revoked port hnotice] at hrevoked
      exact absurd hrevoked (by simp)
  · intro port' hport'
    exact h.revoked port' (by simpa using hport')
  · intro port' copy hget
    obtain ⟨record, hl, hc⟩ := h.stored port' copy hget
    exact ⟨record, hl.cons (by simp), hc⟩
  · intro port' record hrecord hget
    rcases h.lost port' record (by simpa using hrecord) hget with hrev | ⟨record', hl, hexp⟩
    · exact Or.inl hrev
    · exact Or.inr ⟨record', hl.cons (by simp), hexp⟩

theorem isRevoked_drop (directory : SignedDirectory) (id : Json) (port : JsString) :
    (directory.drop id).isRevoked (.str port) = true ↔ id = .str port ∨ directory.isRevoked (.str port) = true := by
  have hrevoked : (directory.drop id).revoked =
      if directory.isRevoked id then directory.revoked else id :: directory.revoked := rfl
  rw [SignedDirectory.isRevoked, hrevoked]
  by_cases hid : directory.isRevoked id = true
  · rw [if_pos hid]
    constructor
    · exact Or.inr
    · rintro (rfl | h)
      · exact hid
      · exact h
  · rw [if_neg hid, List.any_cons, Bool.or_eq_true]
    exact or_congr_left Json.beq_str_iff

theorem get_drop (directory : SignedDirectory) (id : Json) (port : JsString) :
    (directory.drop id).records.get port = if id == .str port then none else directory.records.get port := by
  cases id with
  | str port' =>
    by_cases hport : port' = port
    · simp [SignedDirectory.drop, hport]
    · have hne : ¬ (Json.str port' == Json.str port) = true := fun h => hport (Json.str_beq_str _ _ |>.mp h)
      simp [SignedDirectory.drop, hport, hne]
  | null => rfl
  | bool b => rfl
  | num x => rfl
  | arr items => rfl
  | obj fields => rfl

/-- Revoking an id keeps the invariant. -/
theorem Guarded.drop {past : List ℤ} {w : Watched} (h : Guarded past w) (id : Json) :
    Guarded past ⟨w.directory.drop id, .revoked id :: w.trace⟩ := by
  refine ⟨List.pairwise_cons.mpr ⟨?_, h.consistent⟩, ?_, ?_, ?_⟩
  · intro notice _
    cases notice <;> trivial
  · intro port hport
    rw [isRevoked_drop]
    rcases List.mem_cons.mp hport with heq | hport
    · exact Or.inl (Notice.revoked.inj heq).symm
    · exact Or.inr (h.revoked port hport)
  · intro port copy hget
    simp only [get_drop] at hget
    split at hget
    · simp at hget
    · obtain ⟨record, hl, hc⟩ := h.stored port copy hget
      exact ⟨record, hl.cons (by simp), hc⟩
  · intro port record hrecord hget
    simp only [isRevoked_drop]
    simp only [get_drop] at hget
    split at hget
    · rename_i hid
      exact Or.inl (Or.inl (Json.beq_str_iff.mp hid))
    · rcases h.lost port record (by simpa using hrecord) hget with hrev | ⟨record', hl, hexp⟩
      · exact Or.inl (Or.inr hrev)
      · exact Or.inr ⟨record', hl.cons (by simp), hexp⟩

/-- The canonical bytes of every accepted record lie in `S`. -/
def Recorded (S : Set Bytes) (w : Watched) : Prop :=
  ∀ port record bytes, .accepted port record ∈ w.trace → canonicalBytes record = .ok bytes → bytes ∈ S

/-- An accepted record comes after every record accepted before it for its port. -/
theorem Guarded.after {api : Directory} {past : List ℤ} {w : Watched} (h : Guarded past w) {record : Json}
    {now : ℤ} (hok : Outlasted api w (.ingest record now)) (hpast : ∀ r ∈ past, r ≤ now)
    {port : JsString} (howner : (signedBody record).get api.kind.owner = some (.str port))
    (hfresh : now < recordExpiresAt record) (hrevoked : w.directory.isRevoked (.str port) = false)
    {S : Set Bytes} (hdigest : Set.InjOn crypto.digest S) (hrecorded : Recorded S w)
    (hS : ∀ bytes, canonicalBytes record = .ok bytes → bytes ∈ S)
    (hprior : ∀ prior, w.directory.records.get port = some prior → storedRevision prior < recordRevision record ∨
      canonicalDigest crypto record = canonicalDigest crypto prior) :
    ∀ record', .accepted port record' ∈ w.trace →
      recordRevision record' < recordRevision record ∨ canonicalBytes record' = canonicalBytes record := by
  -- it is enough to come after the latest one
  have hlatest : ∀ z, Latest w.trace port z →
      (recordRevision z < recordRevision record ∨ canonicalBytes z = canonicalBytes record) →
      ∀ record', .accepted port record' ∈ w.trace →
        recordRevision record' < recordRevision record ∨ canonicalBytes record' = canonicalBytes record := by
    intro z hz hafter record' hrecord'
    rcases hz.2 record' hrecord' with hlt | heq
    · rcases hafter with hlt' | heq'
      · exact Or.inl (hlt.trans hlt')
      · exact Or.inl (recordRevision_congr heq' ▸ hlt)
    · rcases hafter with hlt' | heq'
      · exact Or.inl (recordRevision_congr heq ▸ hlt')
      · exact Or.inr (heq.trans heq')
  cases hget : w.directory.records.get port with
  | some prior =>
    obtain ⟨z, hz, hcopy⟩ := h.stored port prior hget
    have hrevision : storedRevision prior = recordRevision z := by
      rw [recordRevision, ← storedBody_eq hcopy, storedRevision]
    have hbytes : canonicalBytes prior = canonicalBytes z :=
      canonicalBytes_congr ((ordered_ordered hcopy).trans hcopy.symm)
    refine hlatest z hz ?_
    rcases hprior prior hget with hlt | hsame
    · exact Or.inl (hrevision ▸ hlt)
    · right
      obtain ⟨bytes, hz_bytes⟩ : ∃ bytes, canonicalBytes z = .ok bytes :=
        ⟨_, canonicalBytes_eq_ok.mpr ⟨prior, hcopy, rfl⟩⟩
      have hd : canonicalDigest crypto z = .ok (crypto.digest bytes) := canonicalDigest_eq_ok.mpr ⟨bytes, hz_bytes, rfl⟩
      have hprior_digest : canonicalDigest crypto prior = canonicalDigest crypto z := by
        rw [canonicalDigest, hbytes, canonicalDigest]
      exact canonicalBytes_eq_iff.mpr (ordered_eq_of_digest hdigest hd (hsame.trans (hprior_digest.trans hd))
        (fun bytes => hrecorded port z bytes hz.1) hS)
  | none =>
    intro record' hrecord'
    rcases h.lost port record' hrecord' hget with hrev | ⟨z, hz, r, hr, hexpired⟩
    · rw [hrevoked] at hrev
      exact absurd hrev (by simp)
    · refine hlatest z hz ?_ record' hrecord'
      by_contra hnot
      obtain ⟨hrevision, hdifferent⟩ := not_or.mp hnot
      have hle := hok port howner hget z hz.1 hdifferent (not_lt.mp hrevision)
      have hr := hpast r hr
      omega

/-- One call whose record outlasts no later one keeps the invariant. -/
theorem step_guarded (api : Directory) {S : Set Bytes} (hdigest : Set.InjOn crypto.digest S)
    {past : List ℤ} {w : Watched} (h : Guarded past w) (hrecorded : Recorded S w) {call : DirectoryCall}
    (hok : Outlasted api w call)
    (hS : ∀ record now bytes, call = .ingest record now → canonicalBytes record = .ok bytes → bytes ∈ S)
    (hclock : ∀ r ∈ past, ∀ r' ∈ call.readings, r ≤ r') :
    Guarded (past ++ call.readings) (api.step crypto w call) ∧ Recorded S (api.step crypto w call) := by
  cases call with
  | ingest record now =>
    simp only [Directory.step]
    rcases hingest : SignedDirectory.ingest crypto api.kind w.directory record now with ⟨result, directory⟩
    obtain ⟨hrevoked, ⟨⟨e, rfl⟩, hrecords⟩ | ⟨port, copy, rfl, hcopy, howner, hfresh, hfree, hrecords, hprior⟩⟩ :=
      ingest_cases api w.directory record now hingest
    · refine ⟨?_, hrecorded⟩
      rcases hrecords with hrecords | hrecords
      · exact (h.later [now]).congr hrecords hrevoked
      · exact h.purge hrevoked hrecords
    · have hafter := h.after hok (fun r hr => hclock r hr now (List.mem_singleton_self now)) howner hfresh
        hfree hdigest hrecorded (fun bytes => hS record now bytes rfl) hprior
      have hpurged : Guarded (past ++ [now]) ⟨{ w.directory with records := w.directory.purged now }, w.trace⟩ :=
        h.purge rfl rfl
      refine ⟨(hpurged.accept hcopy hfree hafter).congr hrecords hrevoked, ?_⟩
      intro port' record' bytes hmem hbytes
      rcases List.mem_cons.mp hmem with heq | hmem
      · exact hS record now bytes rfl ((Notice.accepted.inj heq).2 ▸ hbytes)
      · exact hrecorded port' record' bytes hmem hbytes
  | query q now =>
    simp only [Directory.step]
    cases hquery : api.query w.directory q now with
    | error e => exact ⟨h.later [now], hrecorded⟩
    | ok port =>
      refine ⟨(h.later [now]).return (api.query_spec hquery), ?_⟩
      intro port' record' bytes hmem
      exact hrecorded port' record' bytes (by simpa using hmem)
  | revoke id =>
    simp only [Directory.step, DirectoryCall.readings, List.append_nil]
    cases hrevoke : api.revoke w.directory id with
    | error e => exact ⟨h, hrecorded⟩
    | ok directory =>
      rw [api.revoke_spec hrevoke]
      refine ⟨h.drop id, ?_⟩
      intro port' record' bytes hmem
      exact hrecorded port' record' bytes (by simpa using hmem)

/-- The notices of a directory run stay consistent when no ingested record outlasts a later
revision that the store has dropped. -/
theorem run_consistent (api : Directory) (capacity : ℕ) {calls : List DirectoryCall}
    (hclock : ClockForward DirectoryCall.readings calls)
    (hdigest : Set.InjOn crypto.digest (ingested calls))
    (hok : Steps (api.step crypto) (Outlasted api) (Watched.start capacity) calls) :
    (run (api.step crypto) (Watched.start capacity) calls).trace.Pairwise
      fun later earlier => earlier.Consistent later := by
  have hsteps : Steps (api.step crypto) (fun w call => Outlasted api w call ∧ call ∈ calls)
      (Watched.start capacity) calls := steps_and_mem hok
  have hstep : ∀ past w call, (Outlasted api w call ∧ call ∈ calls) →
      (∀ r ∈ past, ∀ r' ∈ call.readings, r ≤ r') → (Guarded past w ∧ Recorded (ingested calls) w) →
      Guarded (past ++ call.readings) (api.step crypto w call) ∧
        Recorded (ingested calls) (api.step crypto w call) := by
    rintro past w call ⟨hcall, hmem⟩ hpast ⟨hg, hr⟩
    refine step_guarded api hdigest hg hr hcall ?_ hpast
    rintro record now bytes rfl hbytes
    exact ⟨record, now, hmem, hbytes⟩
  have hstart : Guarded [] (Watched.start capacity) ∧ Recorded (ingested calls) (Watched.start capacity) :=
    ⟨Guarded.start capacity, fun _ _ _ hmem => by simp [Watched.start] at hmem⟩
  exact (run_invariant_of_clock hstep hstart hsteps (by simpa [ClockForward] using hclock)).1.consistent

/-! ## The two directories -/

/-- The peer directory; a query returns the port of the record it finds. -/
def peerDirectory (crypto : Crypto) : Directory where
  kind := SignedPeerDirectory.kind crypto
  query directory id now := do
    let record ← SignedPeerDirectory.get crypto directory id now
    orThrow (((signedBody record).get "portId").bind Json.str?) .typeError
  revoke := SignedPeerDirectory.revoke
  verify_spec := by
    intro record now body h
    have hverify : verifyPeerRecord crypto record now none = .ok body := h
    obtain ⟨raw, id, publicKey, hraw, hordered, hverified, -⟩ := verifyPeerRecord_ok hverify
    obtain ⟨-, expiresAt, -, hexpires, -, hfresh, -, -⟩ := lifetimeOk_iff.mp hverified.lifetime
    exact ⟨raw, expiresAt, hraw, hordered, hexpires, hfresh⟩
  query_spec := by
    intro directory id now port h
    simp only [SignedPeerDirectory.get, bind_eq_ok, orThrow_eq_ok, ensure_eq_ok, snapshot_eq_ok,
      Json.bind_str?_eq_some] at h
    obtain ⟨copy, ⟨-, hrevoked, record, hrecord, body, hverify, hcopy⟩, hport⟩ := h
    obtain ⟨key, hkey, -⟩ := Option.bind_eq_some_iff.mp hrecord
    have hid : id = .str key := by
      cases id <;> simp_all [Json.str?]
    obtain ⟨raw, id', publicKey, hraw, hordered, hverified, hexpected⟩ := verifyPeerRecord_ok hverify
    have hbody : signedBody copy = body := by
      have hr : (ordered record).isSome = true := by rw [hcopy, Option.isSome_some]
      rw [← signedBody_eq hraw hordered hr, signedBody, ordered_ordered hcopy, signedBody, hcopy]
    rw [hbody, hverified.portId_eq, ← hexpected key (congrArg some hid)] at hport
    rw [← Json.str.inj (Option.some.inj hport), ← hid]
    simpa using hrevoked
  revoke_spec := by
    intro directory directory' id h
    simp only [SignedPeerDirectory.revoke, bind_eq_ok, ensure_eq_ok, pure_eq_ok] at h
    exact h.choose_spec.2.symm

/-- The port name directory; a query returns the owner of the name it resolves. -/
def portNameDirectory (crypto : Crypto) : Directory where
  kind := SignedPortNameDirectory.kind crypto
  query directory uri now := PortResolution.ownerPort <$> SignedPortNameDirectory.resolve crypto directory uri now
  revoke := SignedPortNameDirectory.revoke
  verify_spec := by
    intro record now body h
    have hverify : verifyPortNames crypto record now = .ok body := h
    obtain ⟨raw, hraw, hordered, hlife⟩ := verifyPortNames_ok hverify
    obtain ⟨-, expiresAt, -, hexpires, -, hfresh, -, -⟩ := lifetimeOk_iff.mp hlife
    exact ⟨raw, expiresAt, hraw, hordered, hexpires, hfresh⟩
  query_spec := by
    intro directory uri now port h
    simp only [SignedPortNameDirectory.resolve, map_eq_ok, bind_eq_ok, orThrow_eq_ok, ensure_eq_ok] at h
    obtain ⟨resolution, ⟨address, haddress, -, hrevoked, record, -, hresolve⟩, rfl⟩ := h
    simp only [resolvePortName, bind_eq_ok, pure_eq_ok] at hresolve
    obtain ⟨address', haddress', -, -, -, -, -, -, rfl⟩ := hresolve
    rw [haddress, Except.ok.injEq] at haddress'
    rw [← haddress']
    simpa using hrevoked
  revoke_spec := by
    intro directory directory' id h
    simp only [SignedPortNameDirectory.revoke, bind_eq_ok, pure_eq_ok] at h
    exact h.choose_spec.2.symm

/-- A record that a directory verifies at `now`, for its port. -/
structure Directory.Verifies (api : Directory) (record : Json) (now : ℤ) (port : JsString) : Prop where
  verified : ∃ body, api.kind.verify record now = .ok body ∧ body.get api.kind.owner = some (.str port)
  ordered : (ordered record).isSome = true

/-- A verified record of a port that the directory does not know is accepted while there is room. -/
theorem Directory.Verifies.ingest {api : Directory} {directory : SignedDirectory} {record : Json} {now : ℤ}
    {port : JsString} (h : api.Verifies record now port) (hrevoked : directory.revoked = [])
    (hnone : directory.records.get port = none)
    (hroom : (directory.purged now).size < directory.capacity) : ∃ copy, Native.ordered record = some copy ∧
      SignedDirectory.ingest crypto api.kind directory record now =
        (.ok port, { directory with records := (directory.purged now).set port copy }) := by
  obtain ⟨body, hverify, howner⟩ := h.verified
  obtain ⟨copy, hcopy⟩ := Option.isSome_iff_exists.mp h.ordered
  refine ⟨copy, hcopy, ?_⟩
  have hadmits : SignedDirectory.admits crypto api.kind directory record now = .ok port := by
    simp [SignedDirectory.admits, bind_eq_ok, orThrow_eq_ok, ensure_eq_ok, hverify, howner,
      SignedDirectory.isRevoked, hrevoked, hnone]
  have hsnapshot := snapshot_eq_ok.mpr hcopy
  have hfull : ¬ directory.capacity ≤ (directory.purged now).size := by omega
  simp only [SignedDirectory.ingest, hadmits, hsnapshot, hfull, decide_false, Bool.and_false,
    Bool.false_eq_true, if_false]

theorem step_ingest {api : Directory} {w : Watched} {record : Json} {now : ℤ} {port : JsString}
    {directory : SignedDirectory}
    (h : SignedDirectory.ingest crypto api.kind w.directory record now = (.ok port, directory)) :
    api.step crypto w (.ingest record now) = ⟨directory, .accepted port record :: w.trace⟩ := by
  simp only [Directory.step, h]

theorem eq_empty_of_entries {m : JsMap JsString Json} (h : m.entries = []) : m = JsMap.empty := by
  cases m
  cases h
  rfl

/-- A record that expires is forgotten with the next ingest, and an older one of its port is accepted. -/
theorem purge_forgets {api : Directory} {record other record' : Json} {port port' : JsString} {now now' : ℤ}
    (h : api.Verifies record now port) (hother : api.Verifies other now' port')
    (h' : api.Verifies record' now' port) (hports : port' ≠ port) (hexpired : recordExpiresAt record ≤ now')
    (hrevision : recordRevision record' < recordRevision record) :
    ¬ (run (api.step crypto) (Watched.start 4)
      [.ingest record now, .ingest other now', .ingest record' now']).trace.Pairwise
      fun later earlier => earlier.Consistent later := by
  intro hpairwise
  have hentries : ∀ (k : JsString) (v : Json), (JsMap.empty.set k v).entries = [(k, v)] := fun _ _ =>
    JsMap.entries_set_of_get_eq_none rfl _
  have hstart : (SignedDirectory.empty 4).purged now = JsMap.empty := rfl
  obtain ⟨copy, hcopy, hfirst⟩ := @Directory.Verifies.ingest crypto _ (.empty 4) _ _ _ h rfl rfl
    (by rw [hstart]; exact Nat.zero_lt_succ 3)
  have hpast : ¬ now' < storedExpiresAt copy := by
    rw [storedExpiresAt, storedBody_eq hcopy]
    exact not_lt.mpr hexpired
  have hpurged : (SignedDirectory.mk (JsMap.empty.set port copy) [] 4).purged now' = JsMap.empty := by
    refine eq_empty_of_entries ?_
    simp only [SignedDirectory.purged, JsMap.filter, hentries, List.filter_cons, hpast, decide_false,
      Bool.false_eq_true, if_false, List.filter_nil]
  have hnone : ∀ v, (JsMap.empty.set port v : JsMap JsString Json).get port' = none := fun v => by
    simp [JsMap.get_set, Ne.symm hports]
  have hnone' : ∀ v, (JsMap.empty.set port' v : JsMap JsString Json).get port = none := fun v => by
    simp [JsMap.get_set, hports]
  obtain ⟨copy', -, hsecond⟩ := @Directory.Verifies.ingest crypto _ ⟨JsMap.empty.set port copy, [], 4⟩ _ _ _ hother
    rfl (hnone _) (by rw [hpurged]; exact Nat.zero_lt_succ 3)
  have hroom : ((SignedDirectory.mk (JsMap.empty.set port' copy') [] 4).purged now').size < 4 := by
    refine lt_of_le_of_lt (List.length_filter_le _ _) ?_
    rw [hentries]
    exact Nat.lt_of_sub_eq_succ rfl
  obtain ⟨copy'', -, hthird⟩ := @Directory.Verifies.ingest crypto _ ⟨JsMap.empty.set port' copy', [], 4⟩ _ _ _ h'
    rfl (hnone' _) hroom
  have hrun : (run (api.step crypto) (Watched.start 4)
      [.ingest record now, .ingest other now', .ingest record' now']).trace =
      [.accepted port record', .accepted port' other, .accepted port record] := by
    rw [hpurged] at hsecond
    have hone := @step_ingest crypto _ (Watched.start 4) _ _ _ _ hfirst
    have htwo := @step_ingest crypto _ ⟨⟨JsMap.empty.set port copy, [], 4⟩, [.accepted port record]⟩ _ _ _ _ hsecond
    have hthree := @step_ingest crypto _
      ⟨⟨JsMap.empty.set port' copy', [], 4⟩, [.accepted port' other, .accepted port record]⟩ _ _ _ _ hthird
    rw [run_cons, hone, run_cons]
    exact (congrArg (fun w => (run (api.step crypto) w [.ingest record' now']).trace) htwo).trans
      (congrArg Watched.trace hthree)
  rw [hrun] at hpairwise
  have hback := (List.pairwise_cons.mp hpairwise).1 (.accepted port record) (by simp) rfl
  rcases hback with hback | hback
  · omega
  · have hsame : signedBody record = signedBody record' := by
      rw [signedBody, signedBody, canonicalBytes_eq_iff.mp hback]
    rw [recordRevision, recordRevision, hsame] at hrevision
    exact lt_irrefl _ hrevision

theorem verifyPortNames_sign {identity : Identity crypto} {body record copy : Json} {now : ℤ}
    (hsign : identity.sign body = .ok record) (hcopy : ordered body = some copy) (htruthy : copy.truthy = true)
    (hport : copy.get "ownerPort" = some (.str identity.id))
    (hkey : copy.get "ownerPublicKey" = some (.str identity.publicKey))
    (hmanifest : verifyBody crypto copy now = .ok ()) :
    verifyPortNames crypto record now = .ok copy := by
  obtain ⟨hbody, -, -⟩ := Identity.sign_parts hsign hcopy
  have hverified := verifyEnvelope_sign hcopy hsign
  simp only [verifyPortNames, bind_eq_ok, orThrow_eq_ok, pure_eq_ok, Option.filter_eq_some_iff]
  exact ⟨copy, ⟨hbody, htruthy⟩, copy, by rw [hport, hkey]; exact hverified, (), hmanifest, rfl⟩

end

/-! ## Sample runs -/

instance (earlier later : Notice) : Decidable (earlier.Consistent later) :=
  match earlier, later with
  | .accepted port record, .accepted port' record' => inferInstanceAs (Decidable (port = port' →
      recordRevision record < recordRevision record' ∨ canonicalBytes record = canonicalBytes record'))
  | .revoked id, .accepted port _ => decidable_of_iff (¬ (id == .str port) = true) (not_congr Json.beq_str_iff)
  | .revoked id, .returned port => decidable_of_iff (¬ (id == .str port) = true) (not_congr Json.beq_str_iff)
  | .accepted _ _, .returned _ => isTrue trivial
  | .accepted _ _, .revoked _ => isTrue trivial
  | .returned _, .accepted _ _ => isTrue trivial
  | .returned _, .returned _ => isTrue trivial
  | .returned _, .revoked _ => isTrue trivial
  | .revoked _, .revoked _ => isTrue trivial

namespace Sample

def nameRecord (identity : Identity crypto) (revision now ttlMs : ℤ) : Json :=
  (signPortNames crypto identity (.arr [.record [("name", .text ""), ("targetPort", .str identity.id)]])
    (.int revision) now ttlMs).toOption.getD .null

def nameBody (identity : Identity crypto) (revision now ttlMs : ℤ) : Json :=
  .record [("schema", .text portNamesSchema), ("ownerPort", .str identity.id),
    ("ownerPublicKey", .str identity.publicKey), ("revision", .int revision), ("issuedAt", .int now),
    ("expiresAt", .int (now + ttlMs)),
    ("entries", .arr [.record [("name", .text ""), ("targetPort", .str identity.id)]])]

/-- The revision and the expiry of a snapshot. -/
def numbers (revision expiresAt : ℤ) (copy : Json) : Bool :=
  integerField copy "revision" == some revision && integerField copy "expiresAt" == some expiresAt

theorem numbers_iff {revision expiresAt : ℤ} {copy : Json} : numbers revision expiresAt copy = true ↔
    integerField copy "revision" = some revision ∧ integerField copy "expiresAt" = some expiresAt := by
  rw [numbers, Bool.and_eq_true, beq_iff_eq, beq_iff_eq]

theorem peerRecord_verifies {identity : Identity crypto} {revision issued ttlMs now : ℤ}
    (h : Passes (assertRecord crypto) (peerBody identity revision issued ttlMs) issued now
      (numbers revision (issued + ttlMs)) = true) :
    (peerDirectory crypto).Verifies (peerRecord identity revision issued ttlMs) now identity.id ∧
      recordRevision (peerRecord identity revision issued ttlMs) = revision ∧
      recordExpiresAt (peerRecord identity revision issued ttlMs) = issued + ttlMs := by
  obtain ⟨copy, hsign, hcopy, hverified, hport, -, hp⟩ := peerRecord_signed h
  obtain ⟨hrevision, hexpires⟩ := numbers_iff.mp hp
  obtain ⟨-, hbody, hordered⟩ := Identity.sign_parts hsign hcopy
  rw [recordRevision, recordExpiresAt, hbody, hrevision, hexpires]
  exact ⟨⟨⟨copy, hverified, hport⟩, hordered⟩, rfl, rfl⟩

theorem nameRecord_verifies {identity : Identity crypto} {revision issued ttlMs now : ℤ}
    (httl : 1 ≤ ttlMs ∧ ttlMs ≤ 3600000)
    (h : Passes (verifyBody crypto) (nameBody identity revision issued ttlMs) issued now
      (numbers revision (issued + ttlMs)) = true) :
    (portNameDirectory crypto).Verifies (nameRecord identity revision issued ttlMs) now identity.id ∧
      recordRevision (nameRecord identity revision issued ttlMs) = revision ∧
      recordExpiresAt (nameRecord identity revision issued ttlMs) = issued + ttlMs := by
  obtain ⟨hissued, copy, hcopy, htruthy, hnow, hp⟩ := passes_spec h
  obtain ⟨hrevision, hexpires⟩ := numbers_iff.mp hp
  obtain ⟨record, hsign⟩ : ∃ record, identity.sign (nameBody identity revision issued ttlMs) = .ok record :=
    ⟨_, Identity.sign_eq_ok.mpr ⟨copy, hcopy, rfl⟩⟩
  have hrecord : nameRecord identity revision issued ttlMs = record := by
    have hsigned : signPortNames crypto identity (.arr [.record [("name", .text ""), ("targetPort", .str identity.id)]])
        (.int revision) issued ttlMs = .ok record := by
      rw [← hsign, signPortNames]
      rw [nameBody] at hissued
      simp only [httl, hissued, ensure, decide_true, Bool.and_self, if_true, bind, Except.bind]
      rfl
    rw [nameRecord, hsigned]
    rfl
  have hport : copy.get "ownerPort" = some (.str identity.id) := by rw [get_ordered hcopy]; rfl
  have hkey : copy.get "ownerPublicKey" = some (.str identity.publicKey) := by rw [get_ordered hcopy]; rfl
  obtain ⟨-, hbody, hordered⟩ := Identity.sign_parts hsign hcopy
  rw [hrecord, recordRevision, recordExpiresAt, hbody, hrevision, hexpires]
  exact ⟨⟨⟨copy, verifyPortNames_sign hsign hcopy htruthy hport hkey hnow, hport⟩, hordered⟩, rfl, rfl⟩

end Sample

end Native
