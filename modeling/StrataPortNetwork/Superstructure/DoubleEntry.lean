import StrataPortNetwork.Superstructure.Accounting
import StrataPortNetwork.Superstructure.Sample
import StrataPortNetwork.Transition

/-! # Invariants of the accounts

Posted journals balance and budgets cover their reservations in every reachable state. The
balance of a journal is one over all its lines: it holds within each currency exactly where
the lines handed in do.
-/
namespace Superstructure.AccountingState
open Py
open Js (JsMap JsSet)

/-! ## What an operation does -/

section Spec
variable {s s' : AccountingState} {fate : Fate}

theorem insertEvidence_spec {receipts : List Receipt} {rows rows' : List (Str × Str)}
    (h : insertEvidence receipts rows = .ok rows') :
    rows' = rows ++ receipts.map fun r => (r.evidenceHash, r.messageId) := by
  induction receipts generalizing rows with
  | nil =>
    rw [insertEvidence, Js.pure_eq_ok] at h
    rw [List.map_nil, List.append_nil, h]
  | cons r rest ih =>
    simp only [insertEvidence, Js.bind_eq_ok] at h
    obtain ⟨-, -, -, -, -, -, hrest⟩ := h
    rw [ih hrest, List.append_assoc]
    rfl

/-- The lines of a journal, numbered from an index on. -/
def numbered (journalId : Str) : ℕ → List (Str × ℤ) → List JournalEntry
  | _, [] => []
  | index, (account, amount) :: rest => ⟨journalId, index, account, amount⟩ :: numbered journalId (index + 1) rest

/-- What the schema asks of the lines of a new journal. -/
def Insertable (accounts : JsMap Str AccountRow) : ℕ → List (Str × ℤ) → Prop
  | _, [] => True
  | index, (account, amount) :: rest =>
    (bindInt index = .ok () ∧ bindText account = .ok () ∧ bindInt amount = .ok () ∧ amount ≠ 0 ∧
      accounts.has account = true) ∧ Insertable accounts (index + 1) rest

/-- Where the journal has no lines from the index on, its lines are inserted as they are numbered. -/
theorem insertEntries_iff {accounts : JsMap Str AccountRow} {journalId : Str} {index : ℕ} {entries : List (Str × ℤ)}
    {rows rows' : List JournalEntry} (hfresh : ∀ row ∈ rows, row.journalId = journalId → row.lineNo < index) :
    insertEntries accounts journalId index entries rows = .ok rows' ↔
      Insertable accounts index entries ∧ rows' = rows ++ numbered journalId index entries := by
  induction entries generalizing index rows with
  | nil =>
    rw [insertEntries, Js.pure_eq_ok]
    simp [Insertable, numbered, eq_comm]
  | cons entry rest ih =>
    obtain ⟨account, amount⟩ := entry
    have hnext : ∀ row ∈ rows ++ [⟨journalId, index, account, amount⟩], row.journalId = journalId →
        row.lineNo < index + 1 := by
      intro row hrow hjournal
      rcases List.mem_append.mp hrow with hrow | hrow
      · exact Nat.lt_succ_of_lt (hfresh row hrow hjournal)
      · rw [List.mem_singleton.mp hrow]
        exact Nat.lt_succ_self index
    have hunique : (!rows.any fun row => row.journalId == journalId && row.lineNo == index) = true := by
      rw [Bool.not_eq_true', List.any_eq_false]
      intro row hrow hsame
      rw [Bool.and_eq_true, beq_iff_eq, beq_iff_eq] at hsame
      exact absurd hsame.2 (hfresh row hrow hsame.1).ne
    simp only [insertEntries, Js.bind_eq_ok, Js.ensure_eq_ok, decide_eq_true_eq, hunique, ih hnext, Insertable, numbered,
      List.append_assoc, List.singleton_append]
    constructor
    · rintro ⟨⟨⟩, hindex, ⟨⟩, haccount, ⟨⟩, hamount, ⟨⟩, hne, ⟨⟩, -, ⟨⟩, hknown, hrest, rfl⟩
      exact ⟨⟨⟨hindex, haccount, hamount, hne, hknown⟩, hrest⟩, rfl⟩
    · rintro ⟨⟨⟨hindex, haccount, hamount, hne, hknown⟩, hrest⟩, rfl⟩
      exact ⟨(), hindex, (), haccount, (), hamount, (), hne, (), trivial, (), hknown, hrest, rfl⟩

/-- An operation that raises has changed nothing. -/
theorem perform_error {call : Call} {e : PyError} (h : (s.perform call).1 = .error e) : (s.perform call).2 = s := by
  obtain ⟨operation, fate⟩ := call
  cases operation with
  | claimNonce portId nonce =>
    simp only [perform, claimNonce] at h ⊢
    rcases hrun : transaction fate (claimNonceIn portId nonce) s with ⟨_ | ⟨⟩, s'⟩
    · have hkept : s' = s := by
        have hkept := transaction_error (congrArg Prod.fst hrun)
        rwa [hrun] at hkept
      simp only
      split <;> exact hkept
    · rw [hrun] at h
      cases h
  | recordOutcome key receipts => exact transaction_error h
  | postJournal journalId entries =>
    simp only [perform, postJournal] at h ⊢
    split at h <;> rename_i hcheck
    · rw [if_pos hcheck]
    · rw [if_neg hcheck]
      exact transaction_error h
  | reserveBudget budgetId obligationId amount =>
    simp only [perform, reserveBudget] at h ⊢
    split at h <;> rename_i hcheck
    · rw [if_pos hcheck]
    · rw [if_neg hcheck]
      exact transaction_error h
  | admitAgent identityId ownerAuthority capabilityId manifest =>
    simp only [perform, admitAgent] at h ⊢
    split at h <;> rename_i hcheck
    · rw [if_pos hcheck]
    · rw [if_neg hcheck]
      exact transaction_error h
  | createA2aContract contractId requester executor obligationId acceptanceHash => exact transaction_error h

/-- The tables that the invariants read are the same. -/
structure SameBooks (s s' : AccountingState) : Prop where
  accounts : s'.accounts = s.accounts
  journals : s'.journals = s.journals
  journalEntries : s'.journalEntries = s.journalEntries
  budgets : s'.budgets = s.budgets
  obligations : s'.obligations = s.obligations
  idempotency : s'.idempotency = s.idempotency
  evidence : s'.evidence = s.evidence

theorem SameBooks.refl (s : AccountingState) : SameBooks s s := ⟨rfl, rfl, rfl, rfl, rfl, rfl, rfl⟩

/-- The checks that a journal passes before it is posted. -/
structure Posts (s : AccountingState) (fate : Fate) (journalId : Str) (entries : List (Str × ℤ)) : Prop where
  commits : fate = .commits
  lines : entries ≠ []
  balance : sumOf entries = 0
  encodes : bindText journalId = .ok ()
  fresh : s.journals.has journalId = false
  insertable : Insertable s.accounts 1 entries

/-- The state with the journal posted. -/
def posted (s : AccountingState) (journalId : Str) (entries : List (Str × ℤ)) : AccountingState :=
  { s with
    journals := s.journals.set journalId .posted
    journalEntries := s.journalEntries ++ numbered journalId 1 entries }

/-- Every line belongs to a journal. -/
def Filed (s : AccountingState) : Prop := ∀ row ∈ s.journalEntries, s.journals.has row.journalId = true

theorem postJournalIn_iff (hfiled : s.Filed) {journalId : Str} {entries : List (Str × ℤ)} :
    postJournalIn journalId entries s = .ok ((), s') ↔ bindText journalId = .ok () ∧
      s.journals.has journalId = false ∧ Insertable s.accounts 1 entries ∧ s' = s.posted journalId entries := by
  by_cases hhas : s.journals.has journalId = true
  · simp [postJournalIn, hhas]
  · rw [Bool.not_eq_true] at hhas
    have hfresh : ∀ row ∈ s.journalEntries, row.journalId = journalId → row.lineNo < 1 := by
      intro row hrow hsame
      exact absurd (hsame ▸ hfiled row hrow) (by simp [hhas])
    simp only [postJournalIn, Js.bind_eq_ok, Js.ensure_eq_ok, hhas, Bool.not_false, insertEntries_iff hfresh,
      Js.pure_eq_ok, Prod.mk.injEq, true_and]
    constructor
    · rintro ⟨⟨⟩, hbind, ⟨⟩, rows, ⟨hentries, rfl⟩, rfl⟩
      exact ⟨hbind, hentries, rfl⟩
    · rintro ⟨hbind, hentries, rfl⟩
      exact ⟨(), hbind, (), _, ⟨hentries, rfl⟩, rfl⟩

theorem postJournal_of_posts (hfiled : s.Filed) {journalId : Str} {entries : List (Str × ℤ)}
    (h : Posts s fate journalId entries) : postJournal fate journalId entries s = (.ok (), s.posted journalId entries) := by
  rw [postJournal, if_neg (by simp [h.lines, h.balance]), h.commits]
  exact transaction_of_ok ((postJournalIn_iff hfiled).mpr ⟨h.encodes, h.fresh, h.insertable, rfl⟩)

theorem posts_of_ok (hfiled : s.Filed) {journalId : Str} {entries : List (Str × ℤ)}
    (h : (postJournal fate journalId entries s).1 = .ok ()) : Posts s fate journalId entries := by
  unfold postJournal at h
  split at h
  · cases h
  · rename_i hcheck
    rw [not_or, not_not] at hcheck
    obtain ⟨hbind, hfresh, hentries, -⟩ := (postJournalIn_iff hfiled).mp (transaction_ok h)
    exact ⟨transaction_commits h, hcheck.1, hcheck.2, hbind, hfresh, hentries⟩

theorem reserveBudgetIn_spec {budgetId obligationId : Str} {amount : ℤ}
    (h : reserveBudgetIn budgetId obligationId amount s = .ok ((), s')) :
    ∃ budget, s.budgets.get budgetId = some budget ∧ budget.reservedMinor + amount ≤ budget.limitMinor ∧
      s.obligations.has obligationId = false ∧ s' = { s with
        budgets := s.budgets.set budgetId { budget with reservedMinor := budget.reservedMinor + amount }
        obligations := s.obligations.set obligationId ⟨budgetId, amount, .reserved⟩ } := by
  simp only [reserveBudgetIn, Js.bind_eq_ok, Js.ensure_eq_ok, Js.orThrow_eq_ok, Js.pure_eq_ok, Prod.mk.injEq, true_and,
    Bool.not_eq_true'] at h
  obtain ⟨-, -, -, -, budget', hreserve, -, -, -, -, -, -, -, hfresh, rfl⟩ := h
  cases hbudget : s.budgets.get budgetId with
  | none => simp [reserve, hbudget] at hreserve
  | some budget =>
    rw [hbudget, reserve] at hreserve
    split at hreserve
    · rename_i hle
      rw [← Option.some.inj hreserve]
      exact ⟨budget, rfl, hle, hfresh, rfl⟩
    · cases hreserve

theorem recordOutcomeIn_spec {key : Str} {receipts : List Receipt} (h : recordOutcomeIn key receipts s = .ok ((), s')) :
    s' = { s with
      idempotency := s.idempotency.set key receipts
      evidence := s.evidence ++ receipts.map fun r => (r.evidenceHash, r.messageId) } := by
  simp only [recordOutcomeIn, Js.bind_eq_ok, Js.pure_eq_ok, Prod.mk.injEq, true_and] at h
  obtain ⟨-, -, -, -, evidence, hevidence, rfl⟩ := h
  rw [insertEvidence_spec hevidence]

theorem sameBooks_of_claimNonceIn {portId nonce : Str} (h : claimNonceIn portId nonce s = .ok ((), s')) :
    SameBooks s s' := by
  simp only [claimNonceIn, Js.bind_eq_ok, Js.pure_eq_ok, Prod.mk.injEq, true_and] at h
  obtain ⟨-, -, -, -, -, -, rfl⟩ := h
  exact ⟨rfl, rfl, rfl, rfl, rfl, rfl, rfl⟩

theorem sameBooks_of_admitAgentIn {identityId ownerAuthority capabilityId : Str} {manifest : Dict}
    (h : admitAgentIn identityId ownerAuthority capabilityId manifest s = .ok ((), s')) : SameBooks s s' := by
  simp only [admitAgentIn, Js.bind_eq_ok, Js.pure_eq_ok, Prod.mk.injEq, true_and] at h
  obtain ⟨-, -, -, -, -, -, -, -, -, -, -, -, rfl⟩ := h
  exact ⟨rfl, rfl, rfl, rfl, rfl, rfl, rfl⟩

theorem sameBooks_of_createContractIn {contractId requester executor obligationId acceptanceHash : Str}
    (h : createContractIn contractId requester executor obligationId acceptanceHash s = .ok ((), s')) : SameBooks s s' := by
  simp only [createContractIn, Js.bind_eq_ok, Js.pure_eq_ok, Prod.mk.injEq, true_and] at h
  obtain ⟨-, -, -, -, -, -, -, -, -, -, -, -, -, -, -, -, rfl⟩ := h
  exact ⟨rfl, rfl, rfl, rfl, rfl, rfl, rfl⟩

end Spec

/-- What a step can do to the tables the invariants read. -/
inductive Effect (s : AccountingState) : Call → AccountingState → Prop
  | kept {call : Call} {s' : AccountingState} (same : SameBooks s s') : Effect s call s'
  | posted {journalId : Str} {entries : List (Str × ℤ)} {fate : Fate} (posts : Posts s fate journalId entries) :
    Effect s ⟨.postJournal journalId entries, fate⟩ (s.posted journalId entries)
  | reserved {budgetId obligationId : Str} {amount : ℤ} {fate : Fate} {budget : BudgetRow}
    (found : s.budgets.get budgetId = some budget) (fits : budget.reservedMinor + amount ≤ budget.limitMinor)
    (fresh : s.obligations.has obligationId = false) :
    Effect s ⟨.reserveBudget budgetId obligationId amount, fate⟩ { s with
      budgets := s.budgets.set budgetId { budget with reservedMinor := budget.reservedMinor + amount }
      obligations := s.obligations.set obligationId ⟨budgetId, amount, .reserved⟩ }
  | recorded {key : Str} {receipts : List Receipt} {fate : Fate} :
    Effect s ⟨.recordOutcome key receipts, fate⟩ { s with
      idempotency := s.idempotency.set key receipts
      evidence := s.evidence ++ receipts.map fun r => (r.evidenceHash, r.messageId) }

theorem step_effect {s : AccountingState} (hfiled : s.Filed) (call : Call) : Effect s call (s.step call) := by
  have hkept : ∀ {s' : AccountingState}, s' = s → Effect s call s' := by
    rintro s' rfl
    exact .kept (.refl _)
  rcases hresult : (s.perform call).1 with e | ⟨⟩
  · exact hkept (perform_error hresult)
  · obtain ⟨operation, fate⟩ := call
    cases operation with
    | claimNonce portId nonce =>
      simp only [step, perform, claimNonce] at hresult ⊢
      rcases hrun : transaction fate (claimNonceIn portId nonce) s with ⟨e | ⟨⟩, s'⟩
      · have hsame := transaction_error (congrArg Prod.fst hrun)
        rw [hrun] at hsame
        simp only
        split <;> exact hkept hsame
      · have hok := transaction_ok (congrArg Prod.fst hrun)
        rw [hrun] at hok
        exact .kept (sameBooks_of_claimNonceIn hok)
    | recordOutcome key receipts =>
      have hstep : s.step ⟨.recordOutcome key receipts, fate⟩ = _ := recordOutcomeIn_spec (transaction_ok hresult)
      rw [hstep]
      exact .recorded
    | postJournal journalId entries =>
      have hposts := posts_of_ok hfiled hresult
      have hstep : s.step ⟨.postJournal journalId entries, fate⟩ = s.posted journalId entries :=
        congrArg Prod.snd (postJournal_of_posts hfiled hposts)
      rw [hstep]
      exact .posted hposts
    | reserveBudget budgetId obligationId amount =>
      simp only [step, perform, reserveBudget] at hresult ⊢
      split at hresult
      · cases hresult
      · rename_i hcheck
        rw [if_neg hcheck]
        obtain ⟨budget, hfound, hfits, hfresh, heq⟩ := reserveBudgetIn_spec (transaction_ok hresult)
        rw [heq]
        exact .reserved hfound hfits hfresh
    | admitAgent identityId ownerAuthority capabilityId manifest =>
      simp only [step, perform, admitAgent] at hresult ⊢
      split at hresult
      · cases hresult
      · rename_i hcheck
        rw [if_neg hcheck]
        exact .kept (sameBooks_of_admitAgentIn (transaction_ok hresult))
    | createA2aContract contractId requester executor obligationId acceptanceHash =>
      exact .kept (sameBooks_of_createContractIn (transaction_ok hresult))

/-! ## Journals, budgets and evidence -/

/-- The lines of a journal in their order. -/
def linesOf (s : AccountingState) (journalId : Str) : List JournalEntry :=
  s.journalEntries.filter fun row => row.journalId == journalId

/-- The lines sum to zero and are numbered from 1 on. -/
def Balanced (lines : List JournalEntry) : Prop :=
  (lines.map JournalEntry.amountMinor).sum = 0 ∧ lines.map JournalEntry.lineNo = List.range' 1 lines.length

/-- The reserved obligations of a budget, in sum. -/
def reservedFor (s : AccountingState) (budgetId : Str) : ℤ :=
  ((s.obligations.values.filter fun o => o.budgetId == budgetId && o.state == .reserved).map
    ObligationRow.amountMinor).sum

structure Accounted (s : AccountingState) : Prop where
  journals : ∀ journalId, s.journals.get journalId = some .posted → Balanced (s.linesOf journalId)
  budgets : ∀ budgetId budget, s.budgets.get budgetId = some budget →
    budget.reservedMinor = s.reservedFor budgetId ∧ budget.reservedMinor ≤ budget.limitMinor
  evidence : ∀ key receipts, s.idempotency.get key = some receipts →
    ∀ r ∈ receipts, r.evidenceHash ∈ s.evidenceHashes

/-- Accounts and unreserved budgets, before anything is posted, reserved or recorded. -/
structure SetUp (s : AccountingState) : Prop where
  filed : s.Filed
  unposted : ∀ journalId, s.journals.get journalId ≠ some .posted
  unreserved : ∀ budgetId budget, s.budgets.get budgetId = some budget →
    budget.reservedMinor = 0 ∧ 0 ≤ budget.limitMinor
  obligations : ∀ o ∈ s.obligations.values, o.state ≠ .reserved
  unrecorded : ∀ key, s.idempotency.get key = none

section Books
variable {s s' : AccountingState}

theorem SetUp.accounted (h : SetUp s) : Accounted s := by
  refine ⟨fun journalId hposted => absurd hposted (h.unposted journalId), ?_, ?_⟩
  · intro budgetId budget hbudget
    obtain ⟨hzero, hlimit⟩ := h.unreserved budgetId budget hbudget
    have hnone : (s.obligations.values.filter fun o => o.budgetId == budgetId && o.state == .reserved) = [] := by
      rw [List.filter_eq_nil_iff]
      intro o ho
      simp [h.obligations o ho]
    rw [reservedFor, hnone, hzero]
    exact ⟨rfl, hlimit⟩
  · intro key receipts hrecorded
    rw [h.unrecorded key] at hrecorded
    cases hrecorded

theorem numbered_journalId {journalId : Str} {index : ℕ} {entries : List (Str × ℤ)} :
    ∀ row ∈ numbered journalId index entries, row.journalId = journalId := by
  induction entries generalizing index with
  | nil => simp [numbered]
  | cons entry rest ih => exact List.forall_mem_cons.mpr ⟨rfl, ih⟩

theorem numbered_amounts (journalId : Str) (index : ℕ) (entries : List (Str × ℤ)) :
    (numbered journalId index entries).map JournalEntry.amountMinor = entries.map Prod.snd := by
  induction entries generalizing index with
  | nil => rfl
  | cons entry rest ih => rw [numbered, List.map_cons, List.map_cons, ih]

theorem numbered_lines (journalId : Str) (index : ℕ) (entries : List (Str × ℤ)) :
    (numbered journalId index entries).map JournalEntry.lineNo =
      List.range' index (numbered journalId index entries).length := by
  induction entries generalizing index with
  | nil => rfl
  | cons entry rest ih => rw [numbered, List.map_cons, ih, List.length_cons, List.range'_succ]

theorem linesOf_posted_ne {journalId other : Str} (entries : List (Str × ℤ)) (hne : other ≠ journalId) :
    (s.posted journalId entries).linesOf other = s.linesOf other := by
  have hnone : (numbered journalId 1 entries).filter (fun row => row.journalId == other) = [] := by
    rw [List.filter_eq_nil_iff]
    intro row hrow
    rw [beq_iff_eq, numbered_journalId row hrow]
    exact hne.symm
  rw [linesOf, posted, List.filter_append, hnone, List.append_nil, linesOf]

theorem linesOf_posted (hfiled : s.Filed) {journalId : Str} (entries : List (Str × ℤ))
    (hfresh : s.journals.has journalId = false) :
    (s.posted journalId entries).linesOf journalId = numbered journalId 1 entries := by
  rw [linesOf, posted, List.filter_append, List.filter_eq_nil_iff.mpr, List.nil_append, List.filter_eq_self.mpr]
  · intro row hrow
    rw [beq_iff_eq, numbered_journalId row hrow]
  · intro row hrow
    rw [beq_iff_eq]
    intro hsame
    exact absurd (hsame ▸ hfiled row hrow) (by simp [hfresh])

theorem effect_filed (hfiled : s.Filed) {call : Call} (heffect : Effect s call s') : s'.Filed := by
  cases heffect with
  | kept hsame =>
    intro row hrow
    rw [hsame.journalEntries] at hrow
    rw [hsame.journals]
    exact hfiled row hrow
  | @posted journalId entries fate hposts =>
    intro row hrow
    rw [posted, JsMap.has_iff]
    simp only [JsMap.get_set]
    by_cases hsame : (journalId == row.journalId) = true
    · exact ⟨.posted, if_pos hsame⟩
    · rcases List.mem_append.mp hrow with hrow | hrow
      · obtain ⟨state, hstate⟩ := JsMap.has_iff.mp (hfiled row hrow)
        exact ⟨state, (if_neg hsame).trans hstate⟩
      · exact absurd (beq_iff_eq.mpr (numbered_journalId row hrow).symm) hsame
  | reserved hfound hfits hfresh => exact hfiled
  | recorded => exact hfiled

/-- Every operation keeps the accounts in order. -/
theorem effect_accounted (hfiled : s.Filed) (h : Accounted s) {call : Call} (heffect : Effect s call s') :
    Accounted s' := by
  cases heffect with
  | kept hsame =>
    constructor
    · rw [hsame.journals]
      simp only [linesOf, hsame.journalEntries]
      exact h.journals
    · rw [hsame.budgets]
      simp only [reservedFor, hsame.obligations]
      exact h.budgets
    · rw [hsame.idempotency]
      simp only [SQLiteState.evidenceHashes, hsame.evidence]
      exact h.evidence
  | @posted journalId entries fate hposts =>
    refine ⟨?_, h.budgets, h.evidence⟩
    intro other hother
    by_cases hsame : other = journalId
    · subst hsame
      rw [linesOf_posted hfiled entries hposts.fresh]
      refine ⟨?_, numbered_lines other 1 entries⟩
      rw [numbered_amounts]
      exact hposts.balance
    · rw [linesOf_posted_ne entries hsame]
      rw [posted, JsMap.get_set, if_neg (by simpa using Ne.symm hsame)] at hother
      exact h.journals other hother
  | @reserved budgetId obligationId amount fate budget hfound hfits hfresh =>
    refine ⟨h.journals, ?_, h.evidence⟩
    intro other row hrow
    have hvalues := JsMap.entries_set_of_get_eq_none (JsMap.get_eq_none_iff.mpr hfresh)
      (⟨budgetId, amount, .reserved⟩ : ObligationRow)
    simp only [JsMap.get_set] at hrow
    simp only [reservedFor, JsMap.values, hvalues, List.map_append, List.filter_append, List.sum_append]
    split at hrow
    · rename_i hsame
      rw [beq_iff_eq] at hsame
      subst hsame
      obtain ⟨hsum, -⟩ := h.budgets budgetId budget hfound
      rw [← Option.some.inj hrow]
      refine ⟨?_, hfits⟩
      simp only [hsum, reservedFor, JsMap.values]
      simp
    · rename_i hne
      obtain ⟨hsum, hle⟩ := h.budgets other row hrow
      refine ⟨?_, hle⟩
      simp only [hsum, reservedFor, JsMap.values]
      simp [hne]
  | @recorded key receipts fate =>
    refine ⟨h.journals, h.budgets, ?_⟩
    intro other found hfound r hr
    simp only [JsMap.get_set] at hfound
    simp only [SQLiteState.evidenceHashes, List.map_append, List.map_map, List.mem_append]
    split at hfound
    · rw [← Option.some.inj hfound] at hr
      exact Or.inr (List.mem_map_of_mem hr)
    · exact Or.inl (h.evidence other found hfound r hr)

/-- In every state that the operations reach the accounts are in order, and an operation
that raises there leaves the whole state as it was. -/
theorem accounting_invariant (hsetUp : SetUp s) (calls : List Call) :
    Accounted (Transition.run step s calls) ∧
      ∀ call e, ((Transition.run step s calls).perform call).1 = .error e →
        ((Transition.run step s calls).perform call).2 = Transition.run step s calls := by
  have hstep : ∀ (s : AccountingState) (call : Call), s.Filed ∧ Accounted s → (s.step call).Filed ∧ Accounted (s.step call) :=
    fun s call h => ⟨effect_filed h.1 (step_effect h.1 call), effect_accounted h.1 h.2 (step_effect h.1 call)⟩
  exact ⟨(Transition.run_invariant hstep ⟨hsetUp.filed, hsetUp.accounted⟩ calls).2, fun _ _ => perform_error⟩

/-! ## A sample -/

/-- Accounts in two currencies and a budget of 100. -/
def twoCurrencies : AccountingState where
  toSQLiteState := Sample.emptyState
  identities := JsMap.empty.set (str "owner") ⟨str "authority", none⟩
  capabilities := JsMap.empty
  accounts := (JsMap.empty.set (str "cash") ⟨str "USD", str "owner"⟩).set (str "till") ⟨str "EUR", str "owner"⟩
  journals := JsMap.empty
  journalEntries := []
  budgets := JsMap.empty.set (str "budget") ⟨str "cash", 100, 0⟩
  obligations := JsMap.empty
  contracts := JsMap.empty

theorem twoCurrencies_setUp : SetUp twoCurrencies := by
  constructor
  · simp [Filed, twoCurrencies]
  · simp [twoCurrencies]
  · intro budgetId budget hbudget
    simp only [twoCurrencies, JsMap.get_set, JsMap.get_empty] at hbudget
    split at hbudget
    · rw [← Option.some.inj hbudget]
      exact ⟨rfl, by norm_num⟩
    · cases hbudget
  · simp [twoCurrencies, JsMap.empty, JsMap.values]
  · simp [twoCurrencies, Sample.emptyState]

/-- Two reservations of 60, the second one beyond the limit. -/
theorem accounting_invariant_overdrawn :
    Accounted (Transition.run step twoCurrencies [⟨.reserveBudget (str "budget") (str "first") 60, .commits⟩,
      ⟨.reserveBudget (str "budget") (str "second") 60, .commits⟩]) :=
  (accounting_invariant twoCurrencies_setUp _).1

/-! ## Balance within each currency -/

def hasCurrency (s : AccountingState) (currency accountId : Str) : Bool :=
  (s.accounts.get accountId).any fun account => account.currency == currency

/-- What lines come to in one currency. -/
def totalIn (s : AccountingState) (currency : Str) (lines : List JournalEntry) : ℤ :=
  ((lines.filter fun row => s.hasCurrency currency row.accountId).map JournalEntry.amountMinor).sum

/-- Every posted journal sums to zero within each currency, and so do all lines together. -/
structure DoubleEntry (s : AccountingState) : Prop where
  journals : ∀ journalId, s.journals.get journalId = some .posted →
    ∀ currency, s.totalIn currency (s.linesOf journalId) = 0
  total : ∀ currency, s.totalIn currency s.journalEntries = 0

/-- The lines handed in sum to zero within each currency of their accounts. -/
def BalancesPerCurrency (s : AccountingState) (entries : List (Str × ℤ)) : Prop :=
  ∀ currency, sumOf (entries.filter fun e => s.hasCurrency currency e.1) = 0

/-- Where the call passes the checks of `post_journal`, its lines balance within each currency. -/
def PostsPerCurrency (s : AccountingState) (call : Call) : Prop :=
  ∀ journalId entries, call.operation = .postJournal journalId entries →
    Posts s call.fate journalId entries → s.BalancesPerCurrency entries

theorem totalIn_append (currency : Str) (lines lines' : List JournalEntry) :
    s.totalIn currency (lines ++ lines') = s.totalIn currency lines + s.totalIn currency lines' := by
  rw [totalIn, List.filter_append, List.map_append, List.sum_append]
  rfl

theorem totalIn_numbered (currency journalId : Str) (index : ℕ) (entries : List (Str × ℤ)) :
    s.totalIn currency (numbered journalId index entries) =
      sumOf (entries.filter fun e => s.hasCurrency currency e.1) := by
  induction entries generalizing index with
  | nil => rfl
  | cons entry rest ih =>
    obtain ⟨account, amount⟩ := entry
    have hrest := ih (index + 1)
    simp only [totalIn, sumOf] at hrest ⊢
    by_cases hcurrency : s.hasCurrency currency account = true
    · simp only [numbered, List.filter_cons, hcurrency, if_true, List.map_cons, List.sum_cons, hrest]
    · rw [Bool.not_eq_true] at hcurrency
      simp only [numbered, List.filter_cons, hcurrency, Bool.false_eq_true, if_false, hrest]

/-- Lines of accounts in one currency balance in every currency if they balance at all. -/
theorem balancesPerCurrency_of_single {entries : List (Str × ℤ)} {currency : Str} (hbalance : sumOf entries = 0)
    (hsingle : ∀ e ∈ entries, ∃ account, s.accounts.get e.1 = some account ∧ account.currency = currency) :
    s.BalancesPerCurrency entries := by
  intro other
  by_cases hsame : other = currency
  · rw [List.filter_eq_self.mpr, hbalance]
    intro e he
    obtain ⟨account, haccount, hcurrency⟩ := hsingle e he
    simp [hasCurrency, haccount, hcurrency, hsame]
  · rw [List.filter_eq_nil_iff.mpr]
    · rfl
    · intro e he
      obtain ⟨account, haccount, hcurrency⟩ := hsingle e he
      simp [hasCurrency, haccount, hcurrency, Ne.symm hsame]

theorem DoubleEntry.of_same (h : DoubleEntry s) (haccounts : s'.accounts = s.accounts)
    (hjournals : s'.journals = s.journals) (hentries : s'.journalEntries = s.journalEntries) : DoubleEntry s' := by
  have htotal : ∀ currency lines, s'.totalIn currency lines = s.totalIn currency lines := by
    intro currency lines
    simp only [totalIn, hasCurrency, haccounts]
  constructor
  · rw [hjournals]
    simp only [htotal, linesOf, hentries]
    exact h.journals
  · simp only [htotal, hentries]
    exact h.total

theorem doubleEntry_posted_iff (hfiled : s.Filed) (h : DoubleEntry s) {journalId : Str} {entries : List (Str × ℤ)}
    (hfresh : s.journals.has journalId = false) :
    DoubleEntry (s.posted journalId entries) ↔ s.BalancesPerCurrency entries := by
  have htotal : ∀ currency lines, (s.posted journalId entries).totalIn currency lines = s.totalIn currency lines :=
    fun _ _ => rfl
  constructor
  · intro hposted currency
    have hself : (s.posted journalId entries).journals.get journalId = some .posted := by
      rw [posted, JsMap.get_set, if_pos (beq_self_eq_true journalId)]
    have hzero := hposted.journals journalId hself currency
    rwa [htotal, linesOf_posted hfiled entries hfresh, totalIn_numbered] at hzero
  · intro hbalances
    constructor
    · intro other hother currency
      rw [htotal]
      by_cases hsame : other = journalId
      · rw [hsame, linesOf_posted hfiled entries hfresh, totalIn_numbered]
        exact hbalances currency
      · rw [linesOf_posted_ne entries hsame]
        rw [posted, JsMap.get_set, if_neg (by simpa using Ne.symm hsame)] at hother
        exact h.journals other hother currency
    · intro currency
      rw [htotal, posted, totalIn_append, h.total currency, totalIn_numbered, hbalances currency]
      rfl

/-- A step keeps every currency in balance exactly where the lines it posts balance in each. -/
theorem step_doubleEntry_iff (hfiled : s.Filed) (h : DoubleEntry s) (call : Call) :
    DoubleEntry (s.step call) ↔ s.PostsPerCurrency call := by
  by_cases hposts : ∃ journalId entries, call.operation = .postJournal journalId entries ∧
      Posts s call.fate journalId entries
  · obtain ⟨journalId, entries, hoperation, hposts⟩ := hposts
    obtain ⟨operation, fate⟩ := call
    subst hoperation
    have hstep : s.step ⟨.postJournal journalId entries, fate⟩ = s.posted journalId entries :=
      congrArg Prod.snd (postJournal_of_posts hfiled hposts)
    rw [hstep, doubleEntry_posted_iff hfiled h hposts.fresh]
    constructor
    · intro hbalances journalId' entries' hsame _
      obtain ⟨-, rfl⟩ := Operation.postJournal.inj hsame
      exact hbalances
    · intro hper
      exact hper journalId entries rfl hposts
  · have hper : s.PostsPerCurrency call :=
      fun journalId entries hoperation hpasses => absurd ⟨journalId, entries, hoperation, hpasses⟩ hposts
    refine iff_of_true ?_ hper
    have heffect := step_effect hfiled call
    generalize s.step call = s' at heffect ⊢
    cases heffect with
    | kept hsame => exact h.of_same hsame.accounts hsame.journals hsame.journalEntries
    | @posted journalId entries fate hpasses => exact absurd ⟨journalId, entries, rfl, hpasses⟩ hposts
    | reserved hfound hfits hfresh => exact h.of_same rfl rfl rfl
    | recorded => exact h.of_same rfl rfl rfl

/-- Every state of a run is in balance within each currency exactly where all journals
posted in it are handed in so. -/
theorem double_entry_per_currency_iff (hfiled : s.Filed) (h : DoubleEntry s) (calls : List Call) :
    Transition.Always step DoubleEntry s calls ↔ Transition.Steps step PostsPerCurrency s calls :=
  Transition.always_iff_steps (fun _ call hfiled => effect_filed hfiled (step_effect hfiled call))
    (fun _ call hfiled h => step_doubleEntry_iff hfiled h call) hfiled h calls

theorem twoCurrencies_doubleEntry : DoubleEntry twoCurrencies :=
  ⟨fun journalId hposted => absurd hposted (twoCurrencies_setUp.unposted journalId), fun _ => rfl⟩

/-- A hundred dollars against a hundred euros. -/
def exchange : Call := ⟨.postJournal (str "exchange") [(str "cash", 100), (str "till", -100)], .commits⟩

theorem double_entry_exchange :
    Transition.Always step DoubleEntry twoCurrencies [exchange] ↔
      Transition.Steps step PostsPerCurrency twoCurrencies [exchange] :=
  double_entry_per_currency_iff twoCurrencies_setUp.filed twoCurrencies_doubleEntry [exchange]

theorem exchange_posts : Posts twoCurrencies .commits (str "exchange") [(str "cash", 100), (str "till", -100)] := by
  have hbind : ∀ text : String, bindText (str text) = .ok () := fun text => bindText_ok (scalar_str text)
  have hint : ∀ i : ℤ, -9223372036854775808 ≤ i → i < 9223372036854775808 → bindInt i = .ok () := by
    intro i hlow hhigh
    rw [bindInt, Js.ensure_eq_ok, decide_eq_true_eq]
    exact ⟨hlow, hhigh⟩
  refine ⟨rfl, by simp, rfl, hbind _, rfl, ?_, ?_, trivial⟩
  · exact ⟨hint _ (by norm_num) (by norm_num), hbind _, hint _ (by norm_num) (by norm_num), by norm_num,
      JsMap.has_iff.mpr ⟨⟨str "USD", str "owner"⟩, by simp [twoCurrencies]⟩⟩
  · exact ⟨hint _ (by norm_num) (by norm_num), hbind _, hint _ (by norm_num) (by norm_num), by norm_num,
      JsMap.has_iff.mpr ⟨⟨str "EUR", str "owner"⟩, by simp [twoCurrencies]⟩⟩

/-- The exchange is posted, and the dollars no longer sum to zero. -/
theorem exchange_unbalanced :
    DoubleEntry twoCurrencies ∧ ¬ DoubleEntry (Transition.run step twoCurrencies [exchange]) := by
  refine ⟨twoCurrencies_doubleEntry, ?_⟩
  have hfiled := twoCurrencies_setUp.filed
  have hposted : Transition.run step twoCurrencies [exchange] = twoCurrencies.posted (str "exchange") _ :=
    congrArg Prod.snd (postJournal_of_posts hfiled exchange_posts)
  rw [hposted, doubleEntry_posted_iff hfiled twoCurrencies_doubleEntry exchange_posts.fresh]
  intro hbalances
  have husd := hbalances (str "USD")
  simp [sumOf, hasCurrency, twoCurrencies] at husd

end Books

end Superstructure.AccountingState
