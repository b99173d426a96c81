import Mathlib.Data.Rat.Floor
import StrataPortNetwork.ProcessIntelligence.Fitness

/-! # Deltas of fitness

A delta compares the profile of a process with an earlier one. Executions, means and the recovery rate
are differences; the verified successes and failures are those of the whole profile.
-/
namespace Js.Numeric

def neg : Numeric → Numeric
  | .finite q => .finite (-q)
  | .infinite negative => .infinite !negative
  | .nan => .nan

def add : Numeric → Numeric → Numeric
  | .finite p, .finite q => .finite (p + q)
  | .finite _, .infinite negative => .infinite negative
  | .infinite negative, .finite _ => .infinite negative
  | .infinite negative, .infinite negative' => if negative = negative' then .infinite negative else .nan
  | _, _ => .nan

def sub (x y : Numeric) : Numeric := x.add y.neg

def isFinite : Numeric → Bool
  | .finite _ => true
  | _ => false

/-- Two differences add up to the whole one, if the middle is finite or the whole one is none. -/
theorem sub_add_sub_iff (x y z : Numeric) : (y.sub x).add (z.sub y) = z.sub x ↔ y.isFinite = true ∨ z.sub x = .nan := by
  rcases x with _ | x | (_ | _) <;> rcases z with _ | z | (_ | _) <;> rcases y with _ | y | (_ | _) <;>
    simp [sub, add, neg, isFinite]
  ring

end Js.Numeric

namespace ProcessIntelligence
open Js

/-- `Math.round`. -/
def round (q : ℚ) : ℤ := ⌊q + 1 / 2⌋

/-- `profile(processId, contextRef)`. -/
def profile (records : List EdgeRecord) (processId : Json) (contextRef : Option Json) : Option Fitness :=
  fitness records ((js "process_id", processId) :: contextRef.toList.map fun v => (js "context_ref", v))

/-- A delta without its root. -/
structure FitnessReport where
  deltaId : JsString
  processId : Json
  baseFitnessRoot : Json
  newExecutions : ℤ
  verifiedSuccesses : ℤ
  verifiedFailures : ℤ
  latencyDelta : ℚ
  costDelta : Numeric
  recoveryDelta : ℚ
  evidenceRefs : List JsString
  verificationRefs : List JsString
  createdAt : JsString

structure FitnessDelta extends FitnessReport where
  resultFitnessRoot : JsString

/-- The records of a process. -/
def ofProcess (processId : Json) (records : List EdgeRecord) : List EdgeRecord := records.filter fun r => r.processId == processId

/-- A call of `delta`, with the identifier and the reading of the clock that it draws. -/
structure DeltaCall where
  baseFitnessRoot : Json
  deltaId : JsString
  now : JsNumber

/-- `delta(processId, baseFitnessRoot, priorProfile)`; the root of a report depends on how the engine prints quotients. -/
def delta (engine : Engine) (fitnessRoot : FitnessReport → JsString) (records : List EdgeRecord) (processId : Json)
    (priorProfile : Option Fitness) (call : DeltaCall) : Outcome FitnessDelta := do
  let profile ← orThrow (profile records processId none) .typeError
  let createdAt ← orThrow (engine.toISOString call.now) .rangeError
  let report : FitnessReport := {
    deltaId := call.deltaId
    processId
    baseFitnessRoot := call.baseFitnessRoot
    newExecutions := profile.executions - ((priorProfile.map Fitness.executions).getD 0 : ℕ)
    verifiedSuccesses := round (profile.verifiedSuccessRate * profile.executions)
    verifiedFailures := round (profile.failureRate * profile.executions)
    latencyDelta := profile.meanLatency - (priorProfile.map Fitness.meanLatency).getD 0
    costDelta := profile.meanCost.sub ((priorProfile.map Fitness.meanCost).getD (.finite 0))
    recoveryDelta := profile.recoveryRate - (priorProfile.map Fitness.recoveryRate).getD 0
    evidenceRefs := (ofProcess processId records).flatMap EdgeRecord.evidenceRefs
    verificationRefs := (ofProcess processId records).flatMap EdgeRecord.verificationRefs
    createdAt }
  pure { report with resultFitnessRoot := fitnessRoot report }

/-! ## Counts -/

theorem round_natCast (n : ℕ) : round n = n := by
  rw [round, Int.floor_eq_iff]
  constructor <;> push_cast <;> linarith

theorem share_mul {part count : ℕ} (h : part ≤ count) : share part count * count = part := by
  unfold share
  split
  · rename_i hzero
    subst hzero
    rw [Nat.le_zero.mp h]
    norm_num
  · rename_i hpos
    have hcount : (count : ℚ) ≠ 0 := by exact_mod_cast hpos
    exact div_mul_cancel₀ _ hcount

theorem selects_process (processId : Json) (r : EdgeRecord) : selects [(js "process_id", processId)] r = (r.processId == processId) := by
  have hget : r.toJson.fields.lookup (js "process_id") = some r.processId := Json.get_record _ "process_id"
  rw [selects, List.all_cons, hget]
  simp

theorem profile_eq (records : List EdgeRecord) (processId : Json) :
    profile records processId none = fitnessOf (ofProcess processId records) := by
  have hselect : ∀ r ∈ records, selects [(js "process_id", processId)] r = (r.processId == processId) :=
    fun r _ => selects_process processId r
  rw [profile, fitness, ofProcess]
  exact congrArg fitnessOf (List.filter_congr hselect)

theorem success_add_failed_le (records : List EdgeRecord) :
    records.countP EdgeRecord.verifiedSuccess + records.countP EdgeRecord.failed ≤ records.length := by
  have hsplit := countP_failed_add records
  have hverified : records.countP EdgeRecord.verifiedSuccess ≤ records.countP EdgeRecord.success :=
    List.countP_mono_left fun r _ hr => by
      rw [EdgeRecord.verifiedSuccess, Bool.and_eq_true] at hr
      exact hr.1
  omega

/-! ## What a delta reports -/

section
variable {engine : Engine} {fitnessRoot : FitnessReport → JsString} {processId : Json}
variable {prior last : Fitness} {call : DeltaCall} {d : FitnessDelta}

theorem profile_executions {records : List EdgeRecord} (h : profile records processId none = some last) :
    last.executions = (ofProcess processId records).length := by
  rw [profile_eq] at h
  exact (fitnessOf_eq_some h).1

/-- The parts of a delta against an earlier profile. -/
structure Reports (records : List EdgeRecord) (processId : Json) (prior last : Fitness) (d : FitnessDelta) : Prop where
  executions : d.newExecutions = last.executions - prior.executions
  successes : d.verifiedSuccesses = (ofProcess processId records).countP EdgeRecord.verifiedSuccess
  failures : d.verifiedFailures = (ofProcess processId records).countP EdgeRecord.failed
  latency : d.latencyDelta = last.meanLatency - prior.meanLatency
  cost : d.costDelta = last.meanCost.sub prior.meanCost
  recovery : d.recoveryDelta = last.recoveryRate - prior.recoveryRate

theorem reports_of_delta {records : List EdgeRecord} (hlast : profile records processId none = some last)
    (h : delta engine fitnessRoot records processId (some prior) call = .ok d) :
    Reports records processId prior last d := by
  simp only [delta, bind_eq_ok, orThrow_eq_ok, pure_eq_ok] at h
  obtain ⟨profile, hprofile, _, -, rfl⟩ := h
  rw [hlast, Option.some.injEq] at hprofile
  subst hprofile
  rw [profile_eq] at hlast
  obtain ⟨hexecutions, hsuccess, -, hfailure, -⟩ := fitnessOf_eq_some hlast
  refine ⟨rfl, ?_, ?_, rfl, rfl, rfl⟩
  · rw [hsuccess, hexecutions, share_mul List.countP_le_length, round_natCast]
  · rw [hfailure, hexecutions, share_mul List.countP_le_length, round_natCast]

end

/-- The counts of a delta are those of the records observed since. -/
structure Incremental (processId : Json) (recent : List EdgeRecord) (d : FitnessDelta) : Prop where
  executions : d.newExecutions = (ofProcess processId recent).length
  successes : d.verifiedSuccesses = (ofProcess processId recent).countP EdgeRecord.verifiedSuccess
  failures : d.verifiedFailures = (ofProcess processId recent).countP EdgeRecord.failed
  bounded : d.verifiedSuccesses + d.verifiedFailures ≤ d.newExecutions

/-- The deltas of two consecutive intervals add up to the delta of both. -/
structure AddUp (first second both : FitnessDelta) : Prop where
  executions : first.newExecutions + second.newExecutions = both.newExecutions
  successes : first.verifiedSuccesses + second.verifiedSuccesses = both.verifiedSuccesses
  failures : first.verifiedFailures + second.verifiedFailures = both.verifiedFailures
  latency : first.latencyDelta + second.latencyDelta = both.latencyDelta
  cost : first.costDelta.add second.costDelta = both.costDelta
  recovery : first.recoveryDelta + second.recoveryDelta = both.recoveryDelta

/-- Among the records of a process, none is a failure or a verified success. -/
def Unsettled (processId : Json) (records : List EdgeRecord) : Prop :=
  (ofProcess processId records).countP EdgeRecord.verifiedSuccess = 0 ∧ (ofProcess processId records).countP EdgeRecord.failed = 0

theorem ofProcess_append (processId : Json) (before after : List EdgeRecord) :
    ofProcess processId (before ++ after) = ofProcess processId before ++ ofProcess processId after := List.filter_append _ _

section
variable {processId : Json} {before recent : List EdgeRecord} {prior last : Fitness} {d : FitnessDelta}

/-- Against the profile of some records, a delta counts the later ones exactly when those settled nothing. -/
theorem incremental_iff (hprior : profile before processId none = some prior) (hlast : profile (before ++ recent) processId none = some last)
    (h : Reports (before ++ recent) processId prior last d) : Incremental processId recent d ↔ Unsettled processId before := by
  have hexecutions := h.executions
  have hsuccesses := h.successes
  have hfailures := h.failures
  rw [profile_executions hlast, profile_executions hprior, ofProcess_append, List.length_append] at hexecutions
  rw [ofProcess_append, List.countP_append] at hsuccesses hfailures
  have hbound := success_add_failed_le (ofProcess processId recent)
  constructor
  · intro hincremental
    have hsuccesses' := hincremental.successes
    have hfailures' := hincremental.failures
    constructor <;> omega
  · rintro ⟨hnoSuccess, hnoFailure⟩
    constructor <;> omega

end

/-- Deltas of consecutive intervals count only what is new and add up exactly when the process has settled
nothing before the second interval and its mean cost there is a number, or that of the union is no number either. -/
theorem deltas_incremental_iff (engine : Engine) (fitnessRoot : FitnessReport → JsString) (earlier between later : List EdgeRecord)
    (processId : Json) (call₁ call₂ call : DeltaCall) {prior middle last : Fitness} {first second both : FitnessDelta}
    (hprior : profile earlier processId none = some prior)
    (hmiddle : profile (earlier ++ between) processId none = some middle)
    (hlast : profile (earlier ++ between ++ later) processId none = some last)
    (hfirst : delta engine fitnessRoot (earlier ++ between) processId (some prior) call₁ = .ok first)
    (hsecond : delta engine fitnessRoot (earlier ++ between ++ later) processId (some middle) call₂ = .ok second)
    (hboth : delta engine fitnessRoot (earlier ++ between ++ later) processId (some prior) call = .ok both) :
    (Incremental processId between first ∧ Incremental processId later second ∧ Incremental processId (between ++ later) both ∧
        AddUp first second both) ↔
      Unsettled processId (earlier ++ between) ∧ (middle.meanCost.isFinite = true ∨ last.meanCost.sub prior.meanCost = .nan) := by
  have hfirst' := reports_of_delta hmiddle hfirst
  have hsecond' := reports_of_delta hlast hsecond
  have hboth' := reports_of_delta hlast hboth
  have hcost : first.costDelta.add second.costDelta = both.costDelta ↔
      middle.meanCost.isFinite = true ∨ last.meanCost.sub prior.meanCost = .nan := by
    rw [hfirst'.cost, hsecond'.cost, hboth'.cost]
    exact Numeric.sub_add_sub_iff _ _ _
  have hunion : earlier ++ between ++ later = earlier ++ (between ++ later) := List.append_assoc _ _ _
  constructor
  · rintro ⟨-, hincremental, -, hadd⟩
    exact ⟨(incremental_iff hmiddle hlast hsecond').mp hincremental, hcost.mp hadd.cost⟩
  · rintro ⟨hunsettled, hmean⟩
    have hearlier : Unsettled processId earlier := by
      unfold Unsettled at hunsettled ⊢
      rw [ofProcess_append, List.countP_append, List.countP_append] at hunsettled
      omega
    refine ⟨(incremental_iff hprior hmiddle hfirst').mpr hearlier, (incremental_iff hmiddle hlast hsecond').mpr hunsettled, ?_, ?_⟩
    · rw [hunion] at hlast hboth'
      exact (incremental_iff hprior hlast hboth').mpr hearlier
    · have hsuccesses := hfirst'.successes
      have hfailures := hfirst'.failures
      rw [hunsettled.1] at hsuccesses
      rw [hunsettled.2] at hfailures
      refine ⟨?_, ?_, ?_, ?_, hcost.mpr hmean, ?_⟩
      · rw [hfirst'.executions, hsecond'.executions, hboth'.executions]
        ring
      · rw [hsuccesses, hsecond'.successes, hboth'.successes]
        simp
      · rw [hfailures, hsecond'.failures, hboth'.failures]
        simp
      · rw [hfirst'.latency, hsecond'.latency, hboth'.latency]
        ring
      · rw [hfirst'.recovery, hsecond'.recovery, hboth'.recovery]
        ring

namespace Sample

/-- A success that nobody verified. -/
def unverified : Call := { executionOf true 0 with input := (executionOf true 0).input.set "verified" (.bool false) }

def process : Json := .text "p"
def atSecond (n : ℤ) : DeltaCall := ⟨.null, js "delta", .int n⟩
def rootless : FitnessReport → JsString := fun _ => []

theorem profile_of_isFinite (records : List EdgeRecord) (h : (profile records process none).any (fun f => f.meanCost.isFinite) = true) :
    ∃ f, profile records process none = some f ∧ f.meanCost.isFinite = true := by
  cases hprofile : profile records process none with
  | none =>
    rw [hprofile] at h
    cases h
  | some f =>
    rw [hprofile] at h
    exact ⟨f, rfl, h⟩

theorem delta_ok {records : List EdgeRecord} {f : Fitness} (h : profile records process none = some f) (prior : Fitness) (n : ℤ) :
    ∃ d, delta secondEngine rootless records process (some prior) (atSecond n) = .ok d := by
  rw [delta, h]
  exact ⟨_, rfl⟩

/-- An interval of unverified successes, then a verified one. -/
theorem unverified_then_verified : ∃ first second both : FitnessDelta,
    Incremental process (recordsOf [unverified]) first ∧ Incremental process (recordsOf [executionOf true 0]) second ∧
      AddUp first second both := by
  obtain ⟨prior, hprior, -⟩ := profile_of_isFinite (recordsOf [unverified]) (by decide +kernel)
  obtain ⟨middle, hmiddle, hfinite⟩ := profile_of_isFinite (recordsOf [unverified] ++ recordsOf [unverified]) (by decide +kernel)
  obtain ⟨last, hlast, -⟩ := profile_of_isFinite
    (recordsOf [unverified] ++ recordsOf [unverified] ++ recordsOf [executionOf true 0]) (by decide +kernel)
  obtain ⟨first, hfirst⟩ := delta_ok hmiddle prior 1
  obtain ⟨second, hsecond⟩ := delta_ok hlast middle 2
  obtain ⟨both, hboth⟩ := delta_ok hlast prior 2
  have hunsettled : Unsettled process (recordsOf [unverified] ++ recordsOf [unverified]) := ⟨by decide +kernel, by decide +kernel⟩
  obtain ⟨hincremental, hincremental', -, hadd⟩ := (deltas_incremental_iff secondEngine rootless _ _ _ process (atSecond 1) (atSecond 2)
    (atSecond 2) hprior hmiddle hlast hfirst hsecond hboth).mpr ⟨hunsettled, .inl hfinite⟩
  exact ⟨first, second, both, hincremental, hincremental', hadd⟩

/-- After one verified success, one more is reported as two in one execution. -/
theorem verified_twice : ∃ middle d, profile (recordsOf [executionOf true 0]) process none = some middle ∧
    delta secondEngine rootless (recordsOf [executionOf true 0] ++ recordsOf [executionOf true 0]) process (some middle) (atSecond 1) =
      .ok d ∧ d.newExecutions = 1 ∧ d.verifiedSuccesses = 2 := by
  obtain ⟨middle, hmiddle, -⟩ := profile_of_isFinite (recordsOf [executionOf true 0]) (by decide +kernel)
  obtain ⟨last, hlast, -⟩ := profile_of_isFinite (recordsOf [executionOf true 0] ++ recordsOf [executionOf true 0]) (by decide +kernel)
  obtain ⟨d, hd⟩ := delta_ok hlast middle 1
  have hreports := reports_of_delta hlast hd
  have hcount : (ofProcess process (recordsOf [executionOf true 0])).length = 1 ∧
      (ofProcess process (recordsOf [executionOf true 0] ++ recordsOf [executionOf true 0])).length = 2 ∧
      (ofProcess process (recordsOf [executionOf true 0] ++ recordsOf [executionOf true 0])).countP EdgeRecord.verifiedSuccess = 2 := by
    decide +kernel
  refine ⟨middle, d, hmiddle, hd, ?_, ?_⟩
  · rw [hreports.executions, profile_executions hlast, profile_executions hmiddle, hcount.1, hcount.2.1]
    rfl
  · rw [hreports.successes, hcount.2.2]
    rfl

end Sample

end ProcessIntelligence
