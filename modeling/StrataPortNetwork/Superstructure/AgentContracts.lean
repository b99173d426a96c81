import StrataPortNetwork.Superstructure.DoubleEntry

/-! # Contracts between admitted agents

`create_a2a_contract` decides on its two parties by the number of rows of a join. That this
admits two different agents rests on an invariant: an admitted identity owns one capability
row, every other identity owns none.
-/
namespace Superstructure.AccountingState
open Py
open Js (JsMap)

/-! ## Admissions -/

/-- The identity and the manifest that a call admits. -/
def admission (s : AccountingState) (call : Call) : List (Str × Dict) :=
  match call.operation, (s.perform call).1 with
  | .admitAgent identityId _ _ manifest, .ok () => [(identityId, manifest)]
  | _, _ => []

/-- The admissions of a run. -/
def admissions : AccountingState → List Call → List (Str × Dict)
  | _, [] => []
  | s, call :: rest => admission s call ++ admissions (s.step call) rest

/-- The capability rows of an identity. -/
def capabilityRows (s : AccountingState) (identityId : Str) : ℕ :=
  s.capabilities.values.countP fun capability => capability.ownerIdentity == identityId

/-- Neither capabilities nor contracts yet; the owners of accounts may have identities. -/
structure Deployed (s : AccountingState) : Prop where
  capabilities : s.capabilities = JsMap.empty
  contracts : s.contracts = JsMap.empty

/-- Every agent that was admitted owns one capability row, and every contract is between two
of them. -/
structure Conformant (owners : Str → Prop) (admitted : List (Str × Dict)) (s : AccountingState) : Prop where
  manifests : ∀ a ∈ admitted, s.identities.has a.1 = true ∧ conforms a.2 = true
  identities : ∀ id, s.identities.has id = true → owners id ∨ id ∈ admitted.map Prod.fst
  rows : ∀ id, s.capabilityRows id = if id ∈ admitted.map Prod.fst then 1 else 0
  contracts : ∀ c ∈ s.contracts.values, c.requester ≠ c.executor ∧
    c.requester ∈ admitted.map Prod.fst ∧ c.executor ∈ admitted.map Prod.fst

section
variable {s s' : AccountingState} {owners : Str → Prop} {admitted : List (Str × Dict)}

theorem Deployed.conformant (h : Deployed s) : Conformant (fun id => s.identities.has id = true) [] s := by
  refine ⟨by simp, fun id hid => .inl hid, fun id => ?_, ?_⟩
  · rw [capabilityRows, h.capabilities]
    rfl
  · rw [h.contracts]
    exact fun c hc => absurd hc List.not_mem_nil

/-- What leaves the three tables alone keeps the invariant. -/
theorem Conformant.of_same (h : Conformant owners admitted s) (hidentities : s'.identities = s.identities)
    (hcapabilities : s'.capabilities = s.capabilities) (hcontracts : s'.contracts = s.contracts) :
    Conformant owners admitted s' := by
  refine ⟨?_, ?_, ?_, ?_⟩
  · rw [hidentities]
    exact h.manifests
  · rw [hidentities]
    exact h.identities
  · intro id
    rw [capabilityRows, hcapabilities]
    exact h.rows id
  · rw [hcontracts]
    exact h.contracts

/-! ## The join -/

/-- The rows of the join are rows of one of the two parties. -/
theorem countP_joins_le (s : AccountingState) (requester executor : Str) :
    s.capabilities.values.countP (s.joins requester executor) ≤
      if requester = executor then s.capabilityRows requester else s.capabilityRows requester + s.capabilityRows executor := by
  have hjoins : ∀ capability ∈ s.capabilities.values, s.joins requester executor capability = true →
      (capability.ownerIdentity == requester || capability.ownerIdentity == executor) = true := by
    intro capability _ h
    simp only [joins, Bool.and_eq_true] at h
    exact h.1.1
  have hle := List.countP_mono_left hjoins
  split
  · rename_i hsame
    simpa [hsame, capabilityRows] using hle
  · refine hle.trans ?_
    rw [capabilityRows, capabilityRows]
    generalize s.capabilities.values = values
    induction values with
    | nil => simp
    | cons capability values ih =>
      simp only [List.countP_cons]
      by_cases hr : capability.ownerIdentity == requester <;> by_cases he : capability.ownerIdentity == executor <;>
        simp only [hr, he, Bool.or_true, Bool.or_false, if_true, Bool.false_eq_true, if_false] <;> omega

/-- Two rows of the join belong to two different agents that were admitted. -/
theorem Conformant.of_joins (h : Conformant owners admitted s) {requester executor : Str}
    (hcount : s.capabilities.values.countP (s.joins requester executor) = 2) :
    requester ≠ executor ∧ requester ∈ admitted.map Prod.fst ∧ executor ∈ admitted.map Prod.fst := by
  have hle := countP_joins_le s requester executor
  have hone : ∀ id, s.capabilityRows id ≤ 1 := by
    intro id
    rw [h.rows]
    split <;> omega
  have hadmitted : ∀ id, 1 ≤ s.capabilityRows id → id ∈ admitted.map Prod.fst := by
    intro id hid
    by_contra hnot
    rw [h.rows, if_neg hnot] at hid
    omega
  have hr := hone requester
  have he := hone executor
  by_cases hsame : requester = executor
  · rw [if_pos hsame] at hle
    omega
  · rw [if_neg hsame] at hle
    exact ⟨hsame, hadmitted _ (by omega), hadmitted _ (by omega)⟩

/-! ## Steps -/

theorem values_set_fresh {κ β : Type} [BEq κ] [PartialEquivBEq κ] {m : JsMap κ β} {k : κ} (h : m.has k = false) (v : β) :
    (m.set k v).values = m.values ++ [v] := by
  rw [JsMap.values, JsMap.entries_set_of_get_eq_none (JsMap.get_eq_none_iff.mpr h), List.map_append]
  rfl

theorem Conformant.admitAgent (h : Conformant owners admitted s) {identityId ownerAuthority capabilityId : Str} {manifest : Dict}
    (hconforms : conforms manifest = true)
    (hrun : admitAgentIn identityId ownerAuthority capabilityId manifest s = .ok ((), s')) :
    Conformant owners (admitted ++ [(identityId, manifest)]) s' := by
  simp only [admitAgentIn, Js.bind_eq_ok, Js.ensure_eq_ok, Js.pure_eq_ok, Prod.mk.injEq, true_and, Bool.not_eq_true'] at hrun
  obtain ⟨-, -, -, -, -, hidentity, json, -, -, -, -, hcapability, rfl⟩ := hrun
  have hnew : identityId ∉ admitted.map Prod.fst := by
    intro hmem
    obtain ⟨a, ha, rfl⟩ := List.mem_map.mp hmem
    rw [(h.manifests a ha).1] at hidentity
    cases hidentity
  have hhas : ∀ id, (s.identities.set identityId ⟨ownerAuthority, none⟩).has id =
      (id == identityId || s.identities.has id) := by
    intro id
    rw [Bool.eq_iff_iff, JsMap.has_iff]
    simp only [JsMap.get_set, Bool.or_eq_true, beq_iff_eq, JsMap.has_iff]
    by_cases hid : identityId = id
    · simp [hid]
    · simp [hid, Ne.symm hid]
  refine ⟨?_, ?_, ?_, ?_⟩
  · intro a ha
    rw [hhas]
    rcases List.mem_append.mp ha with ha | ha
    · obtain ⟨hpresent, hmanifest⟩ := h.manifests a ha
      exact ⟨by rw [hpresent, Bool.or_true], hmanifest⟩
    · rw [List.mem_singleton.mp ha]
      exact ⟨by simp, hconforms⟩
  · intro id hid
    rw [hhas, Bool.or_eq_true, beq_iff_eq] at hid
    rw [List.map_append, List.mem_append]
    rcases hid with rfl | hid
    · exact .inr (.inr (List.mem_singleton_self _))
    · exact (h.identities id hid).imp_right .inl
  · intro id
    rw [capabilityRows, values_set_fresh hcapability, List.countP_append, ← capabilityRows, h.rows, List.map_append,
      List.countP_singleton]
    by_cases hid : identityId = id
    · subst hid
      simp [hnew]
    · have hone : (identityId == id) = false := beq_eq_false_iff_ne.mpr hid
      simp only [hone, Bool.false_eq_true, if_false, Nat.add_zero, List.mem_append, List.map_cons, List.map_nil,
        List.mem_singleton, Ne.symm hid, or_false]
  · intro c hc
    obtain ⟨hne, hrequester, hexecutor⟩ := h.contracts c hc
    rw [List.map_append]
    exact ⟨hne, List.mem_append_left _ hrequester, List.mem_append_left _ hexecutor⟩

theorem Conformant.createContract (h : Conformant owners admitted s)
    {contractId requester executor obligationId acceptanceHash : Str}
    (hrun : createContractIn contractId requester executor obligationId acceptanceHash s = .ok ((), s')) :
    Conformant owners admitted s' := by
  simp only [createContractIn, Js.bind_eq_ok, Js.ensure_eq_ok, Js.pure_eq_ok, Prod.mk.injEq, true_and, Bool.not_eq_true',
    decide_eq_true_eq] at hrun
  obtain ⟨-, -, -, -, -, hcount, -, -, -, -, -, -, -, hfresh, -, -, rfl⟩ := hrun
  refine ⟨h.manifests, h.identities, h.rows, fun c hc => ?_⟩
  rw [values_set_fresh hfresh] at hc
  rcases List.mem_append.mp hc with hc | hc
  · exact h.contracts c hc
  · rw [List.mem_singleton.mp hc]
    exact h.of_joins hcount

theorem Conformant.step (h : Conformant owners admitted s) (call : Call) :
    Conformant owners (admitted ++ admission s call) (s.step call) := by
  rcases hresult : (s.perform call).1 with e | ⟨⟩
  · have hnone : admission s call = [] := by
      rw [admission, hresult]
      split <;> simp_all
    rw [hnone, List.append_nil, AccountingState.step, perform_error hresult]
    exact h
  · obtain ⟨operation, fate⟩ := call
    cases operation with
    | claimNonce portId nonce =>
      rw [show admission s ⟨.claimNonce portId nonce, fate⟩ = [] from rfl, List.append_nil]
      simp only [AccountingState.step, perform, claimNonce] at hresult ⊢
      rcases hrun : transaction fate (claimNonceIn portId nonce) s with ⟨e | ⟨⟩, s'⟩
      · have hsame : s' = s := by simpa [hrun] using transaction_error (congrArg Prod.fst hrun)
        rw [hsame]
        simp only
        split <;> exact h
      · have hok := transaction_ok (congrArg Prod.fst hrun)
        rw [hrun] at hok
        simp only [claimNonceIn, Js.bind_eq_ok, Js.pure_eq_ok, Prod.mk.injEq, true_and] at hok
        obtain ⟨-, -, -, -, -, -, rfl⟩ := hok
        exact h.of_same rfl rfl rfl
    | recordOutcome key receipts =>
      have hstep : s.step ⟨.recordOutcome key receipts, fate⟩ = _ := recordOutcomeIn_spec (transaction_ok hresult)
      rw [show admission s ⟨.recordOutcome key receipts, fate⟩ = [] from rfl, List.append_nil, hstep]
      exact h.of_same rfl rfl rfl
    | postJournal journalId entries =>
      rw [show admission s ⟨.postJournal journalId entries, fate⟩ = [] from rfl, List.append_nil]
      simp only [AccountingState.step, perform, postJournal] at hresult ⊢
      split at hresult <;> rename_i hcheck
      · cases hresult
      · rw [if_neg hcheck]
        have hok := transaction_ok hresult
        simp only [postJournalIn, Js.bind_eq_ok, Js.pure_eq_ok, Prod.mk.injEq, true_and] at hok
        obtain ⟨-, -, -, -, rows, -, hstate⟩ := hok
        rw [← hstate]
        exact h.of_same rfl rfl rfl
    | reserveBudget budgetId obligationId amount =>
      rw [show admission s ⟨.reserveBudget budgetId obligationId amount, fate⟩ = [] from rfl, List.append_nil]
      simp only [AccountingState.step, perform, reserveBudget] at hresult ⊢
      split at hresult <;> rename_i hcheck
      · cases hresult
      · rw [if_neg hcheck]
        obtain ⟨budget, -, -, -, heq⟩ := reserveBudgetIn_spec (transaction_ok hresult)
        rw [heq]
        exact h.of_same rfl rfl rfl
    | admitAgent identityId ownerAuthority capabilityId manifest =>
      have hone : admission s ⟨.admitAgent identityId ownerAuthority capabilityId manifest, fate⟩ = [(identityId, manifest)] := by
        rw [admission, hresult]
      rw [hone]
      simp only [AccountingState.step, perform, AccountingState.admitAgent] at hresult ⊢
      split at hresult <;> rename_i hcheck
      · cases hresult
      · rw [if_neg hcheck]
        exact h.admitAgent (by simpa using hcheck) (transaction_ok hresult)
    | createA2aContract contractId requester executor obligationId acceptanceHash =>
      rw [show admission s ⟨.createA2aContract contractId requester executor obligationId acceptanceHash, fate⟩ = [] from rfl,
        List.append_nil]
      exact h.createContract (transaction_ok hresult)

theorem Conformant.run (h : Conformant owners admitted s) (calls : List Call) :
    Conformant owners (admitted ++ admissions s calls) (Transition.run AccountingState.step s calls) := by
  induction calls generalizing s admitted with
  | nil =>
    rw [admissions, List.append_nil]
    exact h
  | cons call calls ih =>
    rw [admissions, ← List.append_assoc]
    exact ih (h.step call)

end

/-- Whatever calls follow, every contract is between two different identities that were both
admitted with a manifest that conforms, and every identity that was not there at the start
has exactly one capability row. -/
theorem contracts_between_admitted {s : AccountingState} (hs : Deployed s) (calls : List Call) :
    let s' := Transition.run step s calls
    (∀ c ∈ s'.contracts.values, c.requester ≠ c.executor ∧ ∀ agent, agent = c.requester ∨ agent = c.executor →
      ∃ manifest, (agent, manifest) ∈ admissions s calls ∧ conforms manifest = true) ∧
    ∀ id, s'.identities.has id = true → s.identities.has id = true ∨ s'.capabilityRows id = 1 := by
  intro s'
  have h : Conformant (fun id => s.identities.has id = true) (admissions s calls) s' := hs.conformant.run calls
  have hadmitted : ∀ agent ∈ (admissions s calls).map Prod.fst,
      ∃ manifest, (agent, manifest) ∈ admissions s calls ∧ conforms manifest = true := by
    intro agent hagent
    obtain ⟨a, ha, rfl⟩ := List.mem_map.mp hagent
    exact ⟨a.2, ha, (h.manifests a ha).2⟩
  refine ⟨fun c hc => ?_, fun id hid => ?_⟩
  · obtain ⟨hne, hrequester, hexecutor⟩ := h.contracts c hc
    refine ⟨hne, ?_⟩
    rintro agent (rfl | rfl)
    · exact hadmitted _ hrequester
    · exact hadmitted _ hexecutor
  · refine (h.identities id hid).imp_right fun hmem => ?_
    rw [h.rows, if_pos hmem]

/-! ## Two agents -/

def activeManifest : Dict := Sample.dict [("permitted_actions", .list []), ("permitted_strata", .list []),
  ("financial_policy", .none), ("revocation_state", .str (str "active"))]

/-- Two agents are admitted and contract over a reservation; the owner of the account is no
party to a contract. -/
def hiring : List Call := [
  ⟨.admitAgent (str "a") (str "authority") (str "capability-a") activeManifest, .commits⟩,
  ⟨.admitAgent (str "b") (str "authority") (str "capability-b") activeManifest, .commits⟩,
  ⟨.reserveBudget (str "budget") (str "job") 10, .commits⟩,
  ⟨.createA2aContract (str "offer") (str "a") (str "b") (str "job") (str "hash"), .commits⟩,
  ⟨.createA2aContract (str "other") (str "a") (str "owner") (str "job") (str "hash"), .commits⟩]

theorem contracts_between_admitted_hired :
    let s' := Transition.run step twoCurrencies hiring
    s'.contracts.size = 1 ∧ ∀ c ∈ s'.contracts.values, c.requester ≠ c.executor := by
  intro s'
  have h := contracts_between_admitted (s := twoCurrencies) ⟨rfl, rfl⟩ hiring
  exact ⟨by decide +kernel, fun c hc => (h.1 c hc).1⟩

end Superstructure.AccountingState
