import StrataPortNetwork.Superstructure.Ports
import StrataPortNetwork.Superstructure.Sqlite
import StrataPortNetwork.Py.Json

/-! # Durable accounting

The tables of the durable state and its operations, each one transaction. Every table
refuses a second row under its primary key, and the checks and foreign keys of the
schema are checked as a row is written. Timestamps that nothing reads are left out.
-/
namespace Superstructure
open Py
open Js (JsMap JsSet ensure orThrow)

/-! ## Tables -/

structure IdentityRow where
  authority : Str
  revokedAt : Option Str

structure CapabilityRow where
  ownerIdentity : Str
  manifest : Json
  revokedAt : Option Str

structure AccountRow where
  currency : Str
  ownerIdentity : Str

inductive JournalState
  | pending
  | posted
  | reversed
  deriving DecidableEq

structure JournalEntry where
  journalId : Str
  lineNo : ℕ
  accountId : Str
  amountMinor : ℤ

structure BudgetRow where
  accountId : Str
  limitMinor : ℤ
  reservedMinor : ℤ

inductive ObligationState
  | reserved
  | settled
  | released
  | disputed
  | reversed
  deriving DecidableEq

structure ObligationRow where
  budgetId : Str
  amountMinor : ℤ
  state : ObligationState

inductive ContractState
  | offered
  | accepted
  | submitted
  | verified
  | rejected
  | disputed
  | revoked
  deriving DecidableEq

structure ContractRow where
  requester : Str
  executor : Str
  obligationId : Option Str
  acceptanceHash : Str
  state : ContractState

/-- All tables, those of the ports among them. -/
structure AccountingState extends SQLiteState where
  identities : JsMap Str IdentityRow
  capabilities : JsMap Str CapabilityRow
  accounts : JsMap Str AccountRow
  journals : JsMap Str JournalState
  journalEntries : List JournalEntry
  budgets : JsMap Str BudgetRow
  obligations : JsMap Str ObligationRow
  contracts : JsMap Str ContractRow

namespace AccountingState
open SQLiteState (integrityError)

def foreignKeyError : PyError := integrityError "FOREIGN KEY constraint failed"

/-! ## Nonces and outcomes -/

def claimNonceIn (portId nonce : Str) (s : AccountingState) : Outcome (Unit × AccountingState) := do
  bindText portId
  bindText nonce
  ensure (!s.replayNonces.has (portId, nonce))
    (integrityError "UNIQUE constraint failed: replay_nonces.port_id, replay_nonces.nonce")
  pure ((), { s with replayNonces := s.replayNonces.add (portId, nonce) })

/-- `claim_nonce(port_id, nonce)`: an integrity error means that the nonce is taken. -/
def claimNonce (fate : Fate) (portId nonce : Str) (s : AccountingState) : Outcome Bool × AccountingState :=
  match transaction fate (claimNonceIn portId nonce) s with
  | (.ok (), s) => (.ok true, s)
  | (.error e, s) => if e.cls = .integrityError then (.ok false, s) else (.error e, s)

def insertEvidence : List Receipt → List (Str × Str) → Outcome (List (Str × Str))
  | [], rows => pure rows
  | r :: rest, rows => do
    bindText r.evidenceHash
    bindText r.messageId
    ensure (!rows.any fun row => row.1 == r.evidenceHash)
      (integrityError "UNIQUE constraint failed: evidence.evidence_hash")
    insertEvidence rest (rows ++ [(r.evidenceHash, r.messageId)])

def recordOutcomeIn (key : Str) (receipts : List Receipt) (s : AccountingState) : Outcome (Unit × AccountingState) := do
  bindText key
  ensure (!s.idempotency.has key) (integrityError "UNIQUE constraint failed: idempotency.key")
  let evidence ← insertEvidence receipts s.evidence
  pure ((), { s with idempotency := s.idempotency.set key receipts, evidence := evidence })

/-- `record_outcome(key, receipts)`. -/
def recordOutcome (fate : Fate) (key : Str) (receipts : List Receipt) : AccountingState → Outcome Unit × AccountingState :=
  transaction fate (recordOutcomeIn key receipts)

/-! ## Journals -/

/-- The lines of a journal from a line number on, checked against the accounts. -/
def insertEntries (accounts : JsMap Str AccountRow) (journalId : Str) :
    ℕ → List (Str × ℤ) → List JournalEntry → Outcome (List JournalEntry)
  | _, [], rows => pure rows
  | index, (account, amount) :: rest, rows => do
    bindInt index
    bindText account
    bindInt amount
    ensure (amount ≠ 0) (integrityError "CHECK constraint failed: amount_minor != 0")
    ensure (!rows.any fun row => row.journalId == journalId && row.lineNo == index)
      (integrityError "UNIQUE constraint failed: journal_entries.journal_id, journal_entries.line_no")
    ensure (accounts.has account) foreignKeyError
    insertEntries accounts journalId (index + 1) rest (rows ++ [⟨journalId, index, account, amount⟩])

def postJournalIn (journalId : Str) (entries : List (Str × ℤ)) (s : AccountingState) :
    Outcome (Unit × AccountingState) := do
  bindText journalId
  ensure (!s.journals.has journalId) (integrityError "UNIQUE constraint failed: journals.journal_id")
  let rows ← insertEntries s.accounts journalId 1 entries s.journalEntries
  pure ((), { s with journals := s.journals.set journalId .posted, journalEntries := rows })

/-- `sum(amount for _, amount in entries)`. -/
def sumOf (entries : List (Str × ℤ)) : ℤ := (entries.map Prod.snd).sum

/-- `post_journal(journal_id, entries)`. -/
def postJournal (fate : Fate) (journalId : Str) (entries : List (Str × ℤ)) (s : AccountingState) :
    Outcome Unit × AccountingState :=
  if entries = [] ∨ sumOf entries ≠ 0 then
    (.error ⟨.valueError, str "double-entry journal must balance to zero"⟩, s)
  else transaction fate (postJournalIn journalId entries) s

/-! ## Budgets -/

/-- The row that the update makes of a budget, none where its condition fails. A sum beyond
64 bits becomes a real above every limit. -/
def reserve (amount : ℤ) (budget : Option BudgetRow) : Option BudgetRow :=
  match budget with
  | some b => if b.reservedMinor + amount ≤ b.limitMinor then some { b with reservedMinor := b.reservedMinor + amount } else none
  | none => none

def reserveBudgetIn (budgetId obligationId : Str) (amount : ℤ) (s : AccountingState) :
    Outcome (Unit × AccountingState) := do
  bindInt amount
  bindText budgetId
  let budget ← orThrow (reserve amount (s.budgets.get budgetId))
    ⟨.valueError, str "budget missing or available limit exceeded"⟩
  ensure (0 ≤ budget.reservedMinor ∧ budget.reservedMinor ≤ budget.limitMinor)
    (integrityError "CHECK constraint failed: reserved_minor >= 0 AND reserved_minor <= limit_minor")
  bindText obligationId
  ensure (0 < amount) (integrityError "CHECK constraint failed: amount_minor > 0")
  ensure (!s.obligations.has obligationId) (integrityError "UNIQUE constraint failed: obligations.obligation_id")
  pure ((), { s with
    budgets := s.budgets.set budgetId budget
    obligations := s.obligations.set obligationId ⟨budgetId, amount, .reserved⟩ })

/-- `reserve_budget(budget_id, obligation_id, amount_minor)`. -/
def reserveBudget (fate : Fate) (budgetId obligationId : Str) (amount : ℤ) (s : AccountingState) :
    Outcome Unit × AccountingState :=
  if amount ≤ 0 then (.error ⟨.valueError, str "reservation must be positive"⟩, s)
  else transaction fate (reserveBudgetIn budgetId obligationId amount) s

/-! ## Agents and contracts -/

def isActive : Option Value → Bool
  | some (.str state) => state = str "active"
  | _ => false

/-- The keys that a manifest needs, and its revocation state. -/
def conforms (manifest : Dict) : Bool :=
  manifest.has (str "permitted_actions") && manifest.has (str "permitted_strata") &&
    manifest.has (str "financial_policy") && isActive (manifest.get (str "revocation_state"))

def admitAgentIn (identityId ownerAuthority capabilityId : Str) (manifest : Dict) (s : AccountingState) :
    Outcome (Unit × AccountingState) := do
  bindText identityId
  bindText ownerAuthority
  ensure (!s.identities.has identityId) (integrityError "UNIQUE constraint failed: identities.identity_id")
  let manifestJson ← dumps notSerializable (.ofDict manifest)
  bindText capabilityId
  ensure (!s.capabilities.has capabilityId) (integrityError "UNIQUE constraint failed: capabilities.capability_id")
  pure ((), { s with
    identities := s.identities.set identityId ⟨ownerAuthority, none⟩
    capabilities := s.capabilities.set capabilityId ⟨identityId, manifestJson, none⟩ })

/-- `admit_agent(identity_id, owner_authority, capability_id, manifest)`. -/
def admitAgent (fate : Fate) (identityId ownerAuthority capabilityId : Str) (manifest : Dict) (s : AccountingState) :
    Outcome Unit × AccountingState :=
  if !conforms manifest then (.error ⟨.valueError, str "agent conformance requirements not satisfied"⟩, s)
  else transaction fate (admitAgentIn identityId ownerAuthority capabilityId manifest) s

/-- A capability that the join finds for one of the two agents. -/
def joins (s : AccountingState) (requester executor : Str) (capability : CapabilityRow) : Bool :=
  (capability.ownerIdentity == requester || capability.ownerIdentity == executor) && capability.revokedAt.isNone &&
    (s.identities.get capability.ownerIdentity).any fun identity => identity.revokedAt.isNone

def createContractIn (contractId requester executor obligationId acceptanceHash : Str) (s : AccountingState) :
    Outcome (Unit × AccountingState) := do
  bindText requester
  bindText executor
  ensure (s.capabilities.values.countP (s.joins requester executor) = 2)
    ⟨.permissionError, str "both agents must pass conformance"⟩
  bindText contractId
  bindText obligationId
  bindText acceptanceHash
  ensure (!s.contracts.has contractId) (integrityError "UNIQUE constraint failed: a2a_contracts.contract_id")
  ensure (s.identities.has requester && s.identities.has executor && s.obligations.has obligationId) foreignKeyError
  pure ((), { s with
    contracts := s.contracts.set contractId ⟨requester, executor, some obligationId, acceptanceHash, .offered⟩ })

/-- `create_a2a_contract(contract_id, requester, executor, obligation_id, acceptance_hash)`. -/
def createA2aContract (fate : Fate) (contractId requester executor obligationId acceptanceHash : Str) :
    AccountingState → Outcome Unit × AccountingState :=
  transaction fate (createContractIn contractId requester executor obligationId acceptanceHash)

/-! ## Calls -/

inductive Operation
  | claimNonce (portId nonce : Str)
  | recordOutcome (key : Str) (receipts : List Receipt)
  | postJournal (journalId : Str) (entries : List (Str × ℤ))
  | reserveBudget (budgetId obligationId : Str) (amount : ℤ)
  | admitAgent (identityId ownerAuthority capabilityId : Str) (manifest : Dict)
  | createA2aContract (contractId requester executor obligationId acceptanceHash : Str)

/-- An operation and the fate of its transaction. -/
structure Call where
  operation : Operation
  fate : Fate

def perform (s : AccountingState) (call : Call) : Outcome Unit × AccountingState :=
  match call.operation with
  | .claimNonce portId nonce =>
    let (claimed, s) := claimNonce call.fate portId nonce s
    (claimed.map fun _ => (), s)
  | .recordOutcome key receipts => recordOutcome call.fate key receipts s
  | .postJournal journalId entries => postJournal call.fate journalId entries s
  | .reserveBudget budgetId obligationId amount => reserveBudget call.fate budgetId obligationId amount s
  | .admitAgent identityId ownerAuthority capabilityId manifest =>
    admitAgent call.fate identityId ownerAuthority capabilityId manifest s
  | .createA2aContract contractId requester executor obligationId acceptanceHash =>
    createA2aContract call.fate contractId requester executor obligationId acceptanceHash s

def step (s : AccountingState) (call : Call) : AccountingState := (s.perform call).2

/-! ## The tables of the ports -/

section
variable {s s' : AccountingState}

/-- A nonce that is claimed here is claimed in the tables of the ports. -/
theorem claimNonceIn_ports {portId nonce : Str} (h : claimNonceIn portId nonce s = .ok ((), s')) :
    s.toSQLiteState.claimNonce portId nonce = (true, s'.toSQLiteState) := by
  simp only [claimNonceIn, Js.bind_eq_ok, Js.ensure_eq_ok, Js.pure_eq_ok, Prod.mk.injEq, true_and,
    Bool.not_eq_true'] at h
  obtain ⟨-, -, -, -, -, hfresh, rfl⟩ := h
  rw [SQLiteState.claimNonce, if_neg (by simp [hfresh])]

theorem insertEvidence_ports {receipts : List Receipt} {rows rows' : List (Str × Str)}
    (h : insertEvidence receipts rows = .ok rows') : SQLiteState.insertEvidence receipts rows = .ok rows' := by
  induction receipts generalizing rows with
  | nil => exact h
  | cons r rest ih =>
    simp only [insertEvidence, Js.bind_eq_ok, Js.ensure_eq_ok, Bool.not_eq_true'] at h
    obtain ⟨-, -, -, -, -, hfresh, hrest⟩ := h
    rw [SQLiteState.insertEvidence, if_neg (by simp [hfresh])]
    exact ih hrest

/-- An outcome that is recorded here is recorded in the tables of the ports. -/
theorem recordOutcomeIn_ports {key : Str} {receipts : List Receipt}
    (h : recordOutcomeIn key receipts s = .ok ((), s')) :
    s.toSQLiteState.recordOutcome key receipts = .ok s'.toSQLiteState := by
  simp only [recordOutcomeIn, Js.bind_eq_ok, Js.ensure_eq_ok, Js.pure_eq_ok, Prod.mk.injEq, true_and] at h
  obtain ⟨-, -, -, hfresh, evidence, hevidence, rfl⟩ := h
  simp only [SQLiteState.recordOutcome, Js.bind_eq_ok, Js.ensure_eq_ok, Js.pure_eq_ok]
  exact ⟨(), hfresh, evidence, insertEvidence_ports hevidence, rfl⟩

end

end AccountingState

end Superstructure
