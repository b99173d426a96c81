import Mathlib.Algebra.Order.Field.Basic
import Mathlib.Tactic.FieldSimp
import Mathlib.Tactic.Linarith
import StrataPortNetwork.Js.Coercion
import StrataPortNetwork.ProcessIntelligence.Refinement

/-! # Fitness of observed records

The fitness of the records that a filter selects: counts, means and rates over exact rationals. Every
rate is a share of the selected records, except that of recoveries, which is taken of the failures.
-/
namespace ProcessIntelligence
open Js
open CognitiveState (coalesce)

/-! ## Sums of costs -/

/-- What `+` has made of the costs so far: a number, or a string once one of them is no number. -/
inductive CostSum
  | num (x : JsNumber)
  | str (s : JsString)

/-- The text that a string is joined with. -/
def Primitive.text : Primitive → JsString
  | .null => js "null"
  | .bool b => if b then js "true" else js "false"
  | .num x => x.toText
  | .str s => s

/-- `sum + cost`. -/
def CostSum.plus : CostSum → Primitive → CostSum
  | .str s, cost => .str (s ++ Primitive.text cost)
  | .num x, .str s => .str (x.toText ++ s)
  | .num x, .num y => .num (Synaptic.add x y)
  | .num x, .bool b => .num (Synaptic.add x (.int (if b then 1 else 0)))
  | .num x, .null => .num x

/-- The sum of `record.cost ?? 0`; `none` is a TypeError. -/
def sumCosts (records : List EdgeRecord) : Option CostSum :=
  records.foldlM (fun sum r => (toPrimitive? (coalesce (some r.cost) (.int 0))).map sum.plus) (.num (.int 0))

/-- `sum / count`. -/
def CostSum.over (sum : CostSum) (count : ℕ) : Numeric :=
  match sum with
  | .num x => .finite (x.toRat / count)
  | .str s => match stringToNumber s with
    | .finite q => .finite (q / count)
    | x => x

/-! ## Fitness -/

structure Fitness where
  executions : ℕ
  verifiedSuccessRate : ℚ
  reliability : ℚ
  meanLatency : ℚ
  meanCost : Numeric
  retries : ℕ
  failureRate : ℚ
  recoveryRate : ℚ
  verificationStrength : ℚ
  contextFit : ℚ

/-- `record[key] === value` for every entry of the filter. -/
def selects (filter : Fields) (r : EdgeRecord) : Bool := filter.all fun f => r.toJson.fields.lookup f.1 == some f.2

def EdgeRecord.verifiedSuccess (r : EdgeRecord) : Bool := r.success && r.verified
def EdgeRecord.failed (r : EdgeRecord) : Bool := !r.success
def EdgeRecord.recovered (r : EdgeRecord) : Bool := r.success && decide (0 < r.fallbackCount)

/-- `count === 0 ? 0 : part / count`. -/
def share (part count : ℕ) : ℚ := if count = 0 then 0 else part / count

/-- `mean_cost`; `none` is a TypeError. -/
def meanCost (selected : List EdgeRecord) : Option Numeric :=
  if selected.length = 0 then some (.finite 0) else (sumCosts selected).map fun sum => sum.over selected.length

/-- The fitness of the selected records. -/
def fitnessOf (selected : List EdgeRecord) : Option Fitness :=
  let count := selected.length
  let verifiedSuccesses := selected.countP EdgeRecord.verifiedSuccess
  let failures := selected.countP EdgeRecord.failed
  (meanCost selected).map fun meanCost => {
    executions := count
    verifiedSuccessRate := share verifiedSuccesses count
    reliability := share (count - failures) count
    meanLatency := if count = 0 then 0 else (selected.map fun r => r.latency.toRat).sum / count
    meanCost
    retries := (selected.map EdgeRecord.retryCount).sum
    failureRate := share failures count
    recoveryRate := share (selected.countP EdgeRecord.recovered) failures
    verificationStrength := share (selected.countP EdgeRecord.verified) count
    contextFit := share verifiedSuccesses count }

/-- `fitness(filter)`; `none` is a TypeError. -/
def fitness (records : List EdgeRecord) (filter : Fields) : Option Fitness := fitnessOf (records.filter (selects filter))

/-! ## Shares -/

def InUnit (q : ℚ) : Prop := 0 ≤ q ∧ q ≤ 1

theorem share_nonneg (part count : ℕ) : 0 ≤ share part count := by
  unfold share
  split
  · exact le_rfl
  · positivity

theorem share_le_share {part part' : ℕ} (h : part ≤ part') (count : ℕ) : share part count ≤ share part' count := by
  unfold share
  split
  · exact le_rfl
  · have hcast : (part : ℚ) ≤ part' := by exact_mod_cast h
    exact div_le_div_of_nonneg_right hcast (Nat.cast_nonneg count)

/-- A share is of the unit interval exactly when its part is no more than the whole, or there is no whole. -/
theorem inUnit_share_iff {part count : ℕ} : InUnit (share part count) ↔ count = 0 ∨ part ≤ count := by
  unfold InUnit
  refine (and_iff_right (share_nonneg part count)).trans ?_
  unfold share
  split
  · rename_i hzero
    simp [hzero]
  · rename_i hpos
    have hcount : (0 : ℚ) < count := by exact_mod_cast Nat.pos_of_ne_zero hpos
    rw [div_le_one hcount, Nat.cast_le]
    simp [hpos]

theorem inUnit_share {part count : ℕ} (h : part ≤ count) : InUnit (share part count) := inUnit_share_iff.mpr (.inr h)

theorem share_add_share {part count : ℕ} (h : part ≤ count) (hpos : count ≠ 0) : share (count - part) count + share part count = 1 := by
  have hcount : (count : ℚ) ≠ 0 := by exact_mod_cast hpos
  rw [share, share, if_neg hpos, if_neg hpos, Nat.cast_sub h]
  field_simp
  ring

/-! ## Rates -/

/-- The rates of a fitness are rates. -/
structure Rates (selected : List EdgeRecord) (f : Fitness) : Prop where
  verifiedSuccessRate : InUnit f.verifiedSuccessRate
  reliability : InUnit f.reliability
  failureRate : InUnit f.failureRate
  recoveryRate : InUnit f.recoveryRate
  verificationStrength : InUnit f.verificationStrength
  contextFit : InUnit f.contextFit
  complement : selected ≠ [] → f.reliability + f.failureRate = 1
  success_le_reliability : f.verifiedSuccessRate ≤ f.reliability
  success_le_strength : f.verifiedSuccessRate ≤ f.verificationStrength

theorem countP_failed_add (selected : List EdgeRecord) :
    selected.countP EdgeRecord.failed + selected.countP EdgeRecord.success = selected.length := by
  have hsplit := List.length_eq_countP_add_countP EdgeRecord.success (l := selected)
  have hfailed : selected.countP EdgeRecord.failed = selected.countP fun r => ¬ r.success = true :=
    List.countP_congr fun r _ => by simp [EdgeRecord.failed]
  omega

/-- A fitness consists of the shares of the selected records. -/
theorem fitnessOf_eq_some {selected : List EdgeRecord} {f : Fitness} (h : fitnessOf selected = some f) :
    f.executions = selected.length ∧
      f.verifiedSuccessRate = share (selected.countP EdgeRecord.verifiedSuccess) selected.length ∧
      f.reliability = share (selected.length - selected.countP EdgeRecord.failed) selected.length ∧
      f.failureRate = share (selected.countP EdgeRecord.failed) selected.length ∧
      f.recoveryRate = share (selected.countP EdgeRecord.recovered) (selected.countP EdgeRecord.failed) ∧
      f.verificationStrength = share (selected.countP EdgeRecord.verified) selected.length ∧
      f.contextFit = share (selected.countP EdgeRecord.verifiedSuccess) selected.length := by
  obtain ⟨_, -, rfl⟩ := Option.map_eq_some_iff.mp h
  exact ⟨rfl, rfl, rfl, rfl, rfl, rfl, rfl⟩

theorem rates_iff {selected : List EdgeRecord} {f : Fitness} (h : fitnessOf selected = some f) : Rates selected f ↔
    selected.countP EdgeRecord.failed = 0 ∨ selected.countP EdgeRecord.recovered ≤ selected.countP EdgeRecord.failed := by
  obtain ⟨-, hsuccess, hreliability, hfailure, hrecovery, hstrength, hcontext⟩ := fitnessOf_eq_some h
  have hsplit := countP_failed_add selected
  have hverified : selected.countP EdgeRecord.verifiedSuccess ≤ selected.countP EdgeRecord.success :=
    List.countP_mono_left fun r _ hr => by
      rw [EdgeRecord.verifiedSuccess, Bool.and_eq_true] at hr
      exact hr.1
  have hstrong : selected.countP EdgeRecord.verifiedSuccess ≤ selected.countP EdgeRecord.verified :=
    List.countP_mono_left fun r _ hr => by
      rw [EdgeRecord.verifiedSuccess, Bool.and_eq_true] at hr
      exact hr.2
  rw [← inUnit_share_iff, ← hrecovery]
  refine ⟨Rates.recoveryRate, fun hrate => ?_⟩
  constructor
  · rw [hsuccess]
    exact inUnit_share List.countP_le_length
  · rw [hreliability]
    exact inUnit_share (Nat.sub_le _ _)
  · rw [hfailure]
    exact inUnit_share List.countP_le_length
  · exact hrate
  · rw [hstrength]
    exact inUnit_share List.countP_le_length
  · rw [hcontext]
    exact inUnit_share List.countP_le_length
  · intro hne
    rw [hreliability, hfailure]
    exact share_add_share List.countP_le_length fun hzero => hne (List.length_eq_zero_iff.mp hzero)
  · rw [hsuccess, hreliability]
    exact share_le_share (by omega) _
  · rw [hsuccess, hstrength]
    exact share_le_share hstrong _

/-- The rates of any history under any filter are rates, exactly when no selected record failed or at most as
many have succeeded after a fallback as have failed. -/
theorem fitness_rates_iff (records : List EdgeRecord) (filter : Fields) {f : Fitness} (h : fitness records filter = some f) :
    Rates (records.filter (selects filter)) f ↔ (records.filter (selects filter)).countP EdgeRecord.failed = 0 ∨
      (records.filter (selects filter)).countP EdgeRecord.recovered ≤ (records.filter (selects filter)).countP EdgeRecord.failed :=
  rates_iff h

namespace Sample

/-- An execution of the process `p`, which succeeded or not, after so many fallbacks. -/
def executionOf (success : Bool) (fallbacks : ℤ) : Call where
  input := .record [("correlation_id", .text "task-1"), ("source_component", .text "a"), ("target_component", .text "b"),
    ("source_role", .text "SOURCE"), ("target_role", .text "TARGET"), ("process_id", .text "p"), ("input_state_root", .text "r"),
    ("output_state_root", .text "s"), ("success", .bool success), ("verified", .bool success), ("fallback_count", .int fallbacks)]
  startNow := .int 0
  endNow := .int 250
  executionId := js "edge"

def observeAll (calls : List Call) : Outcome (List EdgeRecord) := calls.foldlM (observe secondEngine) []

/-- The records of calls that are observed. -/
def recordsOf (calls : List Call) : List EdgeRecord := (observeAll calls).toOption.getD []

theorem observeAll_recordsOf {calls : List Call} (h : (observeAll calls).isOk = true) : observeAll calls = .ok (recordsOf calls) := by
  unfold recordsOf
  cases hresult : observeAll calls with
  | error e =>
    rw [hresult] at h
    cases h
  | ok records => rfl

theorem fitness_of_isSome (records : List EdgeRecord) (filter : Fields) (h : (fitness records filter).isSome = true) :
    ∃ f, fitness records filter = some f := Option.isSome_iff_exists.mp h

/-- A failure, and a success after a fallback. -/
def recovered : List Call := [executionOf false 0, executionOf true 1]

/-- As many successes after a fallback as failures: all rates are rates. -/
theorem recovered_rates : ∃ f, observeAll recovered = .ok (recordsOf recovered) ∧ fitness (recordsOf recovered) [] = some f ∧
    Rates ((recordsOf recovered).filter (selects [])) f := by
  obtain ⟨f, hf⟩ := fitness_of_isSome (recordsOf recovered) [] (by decide +kernel)
  exact ⟨f, observeAll_recordsOf (by decide +kernel), hf, (fitness_rates_iff _ _ hf).mpr (by decide +kernel)⟩

/-- A failure, and two successes after a fallback. -/
def recoveredTwice : List Call := [executionOf false 0, executionOf true 1, executionOf true 1]

/-- More successes after a fallback than failures: the recovery rate is 2. -/
theorem recovered_twice_rate : ∃ f, observeAll recoveredTwice = .ok (recordsOf recoveredTwice) ∧
    fitness (recordsOf recoveredTwice) [] = some f ∧ f.recoveryRate = 2 ∧
    ¬ Rates ((recordsOf recoveredTwice).filter (selects [])) f := by
  obtain ⟨f, hf⟩ := fitness_of_isSome (recordsOf recoveredTwice) [] (by decide +kernel)
  have hcounts : ((recordsOf recoveredTwice).filter (selects [])).countP EdgeRecord.failed = 1 ∧
      ((recordsOf recoveredTwice).filter (selects [])).countP EdgeRecord.recovered = 2 := by decide +kernel
  obtain ⟨-, -, -, -, hrate, -⟩ := fitnessOf_eq_some hf
  have htwo : f.recoveryRate = 2 := by
    rw [hrate, hcounts.1, hcounts.2]
    norm_num [share]
  refine ⟨f, observeAll_recordsOf (by decide +kernel), hf, htwo, fun hrates => ?_⟩
  have hunit := hrates.recoveryRate.2
  rw [htwo] at hunit
  norm_num at hunit

end Sample

end ProcessIntelligence
