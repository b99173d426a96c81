import StrataPortNetwork.Superstructure.Records
import StrataPortNetwork.Precedence
import StrataPortNetwork.Transition

/-! # Governed plans

`intelligence.py`: a plan is built of steps that depend on each other, is authorized within a
budget, and adapts to steps that fail. The calls keep the ids, the dependencies and the budgets
of the steps, so a plan can be executed, and spends no more than its limit on the way, as far as
its steps allow it from the start.
-/
namespace Superstructure
open Py
open Js (ensure)

inductive ActionState
  | proposed
  | authorized
  | executing
  | observed
  | providerReported
  | reconciled
  | verified
  | blocked
  deriving DecidableEq

structure PlanStep where
  stepId : Str
  capability : Str
  dependencies : List Str
  authority : Str
  budgetMinor : ℤ
  deadline : Str
  evidenceRequirements : List Str
  alternatives : List Str
  state : ActionState

structure GovernedPlan where
  planId : Str
  objectiveId : Str
  organizationId : Str
  tenantId : Str
  steps : List PlanStep
  version : ℤ
  rationale : Str

namespace PlanningEngine

/-- `build(objective_id, organization_id, tenant_id, steps, rationale)` under a random id. -/
def build (planId objectiveId organizationId tenantId : Str) (steps : List PlanStep) (rationale : Str) :
    Outcome GovernedPlan := do
  let ids := steps.map PlanStep.stepId
  ensure (organizationId ≠ [] ∧ tenantId ≠ [] ∧ ∀ s ∈ steps, ∀ id ∈ s.dependencies, id ∈ ids)
    ⟨.valueError, str "tenant context and valid dependency graph required"⟩
  pure ⟨planId, objectiveId, organizationId, tenantId, steps, 1, rationale⟩

/-- `authorize(plan, permitted_authorities, budget_limit)`. -/
def authorize (plan : GovernedPlan) (permittedAuthorities : List Str) (budgetLimit : ℤ) : Outcome GovernedPlan := do
  ensure ((plan.steps.map PlanStep.budgetMinor).sum ≤ budgetLimit) ⟨.permissionError, str "budget authority denied"⟩
  ensure (∀ s ∈ plan.steps, s.authority ∈ permittedAuthorities) ⟨.permissionError, str "step authority denied"⟩
  pure { plan with
    steps := plan.steps.map fun s => { s with state := .authorized }
    version := plan.version + 1 }

/-- What becomes of a step that failed. -/
def replanStep (step : PlanStep) : PlanStep :=
  match step.alternatives with
  | [] => { step with state := .blocked }
  | alternative :: rest => { step with capability := alternative, state := .proposed, alternatives := rest }

/-- `replan(plan, failed_step, reason)`. -/
def replan (plan : GovernedPlan) (failedStep reason : Str) : GovernedPlan :=
  { plan with
    steps := plan.steps.map fun step => if step.stepId = failedStep then replanStep step else step
    version := plan.version + 1
    rationale := plan.rationale ++ str "; replanned: " ++ reason }

end PlanningEngine

/-! ## Calls on a plan -/

inductive PlanCall
  | authorize (permittedAuthorities : List Str) (budgetLimit : ℤ)
  | replan (failedStep reason : Str)

namespace GovernedPlan
open PlanningEngine

/-- The plan after a call; a call that raises returns none. -/
def after (plan : GovernedPlan) : PlanCall → GovernedPlan
  | .authorize permittedAuthorities budgetLimit =>
    match PlanningEngine.authorize plan permittedAuthorities budgetLimit with
    | .ok authorized => authorized
    | .error _ => plan
  | .replan failedStep reason => PlanningEngine.replan plan failedStep reason

/-- What the calls leave of a step as it is. -/
def outline (step : PlanStep) : Str × List Str × ℤ := (step.stepId, step.dependencies, step.budgetMinor)

theorem outline_replanStep (step : PlanStep) : outline (replanStep step) = outline step := by
  rw [replanStep]
  split <;> rfl

theorem authorize_eq_ok {plan authorized : GovernedPlan} {permittedAuthorities : List Str} {budgetLimit : ℤ} :
    PlanningEngine.authorize plan permittedAuthorities budgetLimit = .ok authorized ↔
      (plan.steps.map PlanStep.budgetMinor).sum ≤ budgetLimit ∧ (∀ s ∈ plan.steps, s.authority ∈ permittedAuthorities) ∧
        authorized = { plan with
          steps := plan.steps.map fun s => { s with state := .authorized }
          version := plan.version + 1 } := by
  simp only [PlanningEngine.authorize, Js.bind_eq_ok, Js.ensure_eq_ok, Js.pure_eq_ok, decide_eq_true_eq, exists_const]
  refine and_congr_right fun _ => and_congr_right fun _ => eq_comm

/-- No call changes the outline of a step. -/
theorem outline_after (plan : GovernedPlan) (call : PlanCall) : (plan.after call).steps.map outline = plan.steps.map outline := by
  cases call with
  | authorize permittedAuthorities budgetLimit =>
    rw [after]
    split
    · rename_i authorized hauthorized
      obtain ⟨-, -, rfl⟩ := authorize_eq_ok.mp hauthorized
      simp only [List.map_map]
      rfl
    · rfl
  | replan failedStep reason =>
    simp only [after, PlanningEngine.replan, List.map_map]
    refine List.map_congr_left fun step _ => ?_
    simp only [Function.comp_apply]
    split
    · exact outline_replanStep step
    · rfl

theorem outline_run (plan : GovernedPlan) (calls : List PlanCall) :
    (Transition.run after plan calls).steps.map outline = plan.steps.map outline := by
  have hstep : ∀ (p : GovernedPlan) (call : PlanCall), p.steps.map outline = plan.steps.map outline →
      (p.after call).steps.map outline = plan.steps.map outline := fun p call h => (outline_after p call).trans h
  exact Transition.run_invariant hstep rfl calls

end GovernedPlan

/-! ## Execution -/

/-- The ids of the steps are unique, no step depends on itself, and all steps have an order in which each one comes after
those it depends on. -/
structure Executable (steps : List PlanStep) : Prop where
  unique : (steps.map PlanStep.stepId).Nodup
  acyclic : Precedence.Acyclic PlanStep.stepId PlanStep.dependencies steps
  ordered : ∃ order : List PlanStep, order.Perm steps ∧ Precedence.Ordered PlanStep.stepId PlanStep.dependencies [] order

/-- The steps that are left when all steps whose dependencies are taken are taken, as often as there are steps. -/
def waiting (steps : List PlanStep) : List PlanStep :=
  Precedence.left PlanStep.stepId PlanStep.dependencies steps.length [] steps

theorem executable_iff {steps : List PlanStep} (hclosed : ∀ s ∈ steps, ∀ id ∈ s.dependencies, id ∈ steps.map PlanStep.stepId) :
    Executable steps ↔ (steps.map PlanStep.stepId).Nodup ∧ waiting steps = [] := by
  constructor
  · rintro ⟨hunique, hacyclic, -⟩
    exact ⟨hunique, (Precedence.acyclic_iff_left_eq_nil hunique hclosed).mp hacyclic⟩
  · rintro ⟨hunique, hnone⟩
    exact ⟨hunique, (Precedence.acyclic_iff_left_eq_nil hunique hclosed).mpr hnone, _,
      Precedence.perm_taken_of_left_eq_nil hnone, Precedence.ordered_taken _ _ _⟩

/-- Whether steps are left waiting is told by their outlines. -/
theorem executable_congr {steps steps' : List PlanStep} (h : steps.map GovernedPlan.outline = steps'.map GovernedPlan.outline)
    (hclosed : ∀ s ∈ steps, ∀ id ∈ s.dependencies, id ∈ steps.map PlanStep.stepId) : Executable steps ↔ Executable steps' := by
  have hids : steps.map PlanStep.stepId = steps'.map PlanStep.stepId := by
    have := congrArg (List.map Prod.fst) h
    rwa [List.map_map, List.map_map] at this
  have hclosed' : ∀ s ∈ steps', ∀ id ∈ s.dependencies, id ∈ steps'.map PlanStep.stepId := by
    intro s hs id hid
    obtain ⟨t, ht, houtline⟩ := List.mem_map.mp (h ▸ List.mem_map_of_mem hs)
    rw [← hids]
    refine hclosed t ht id ?_
    rwa [show t.dependencies = s.dependencies from congrArg (·.2.1) houtline]
  have hwaiting : ∀ list : List PlanStep, waiting list = [] ↔
      Precedence.left Prod.fst (fun o : Str × List Str × ℤ => o.2.1) list.length [] (list.map GovernedPlan.outline) = [] := by
    intro list
    rw [Precedence.left_map, List.map_eq_nil_iff]
    rfl
  have hlength : steps.length = steps'.length := by
    have := congrArg List.length h
    rwa [List.length_map, List.length_map] at this
  rw [executable_iff hclosed, executable_iff hclosed', hids, hwaiting, hwaiting, h, hlength]

theorem build_eq_ok {planId objectiveId organizationId tenantId rationale : Str} {steps : List PlanStep} {plan : GovernedPlan} :
    PlanningEngine.build planId objectiveId organizationId tenantId steps rationale = .ok plan ↔
      (organizationId ≠ [] ∧ tenantId ≠ [] ∧ ∀ s ∈ steps, ∀ id ∈ s.dependencies, id ∈ steps.map PlanStep.stepId) ∧
        plan = ⟨planId, objectiveId, organizationId, tenantId, steps, 1, rationale⟩ := by
  simp only [PlanningEngine.build, Js.bind_eq_ok, Js.ensure_eq_ok, Js.pure_eq_ok, decide_eq_true_eq, exists_const]
  exact and_congr_right fun _ => eq_comm

/-- What becomes of a plan that was built can be executed, whatever calls are made, exactly when the ids of its steps are
unique and no step is left waiting. -/
theorem built_plans_executable_iff {planId objectiveId organizationId tenantId rationale : Str} {steps : List PlanStep}
    {plan : GovernedPlan}
    (h : PlanningEngine.build planId objectiveId organizationId tenantId steps rationale = .ok plan) :
    (∀ calls, Executable (Transition.run GovernedPlan.after plan calls).steps) ↔
      (steps.map PlanStep.stepId).Nodup ∧ waiting steps = [] := by
  obtain ⟨⟨-, -, hclosed⟩, rfl⟩ := build_eq_ok.mp h
  rw [← executable_iff hclosed]
  constructor
  · intro hall
    exact hall []
  · intro hexecutable calls
    exact (executable_congr (GovernedPlan.outline_run _ calls).symm hclosed).mp hexecutable

/-! ## Spending -/

/-- A part of some amounts is no more than the positive ones of them. -/
theorem sum_le_of_sublist {part amounts : List ℤ} (h : part.Sublist amounts) : part.sum ≤ (amounts.filter fun a => 0 < a).sum := by
  induction h with
  | slnil => rfl
  | @cons part rest a _ ih =>
    by_cases ha : 0 < a
    · rw [List.filter_cons_of_pos (by simpa using ha), List.sum_cons]
      omega
    · rwa [List.filter_cons_of_neg (by simpa using ha)]
  | @cons_cons part rest a _ ih =>
    rw [List.sum_cons]
    by_cases ha : 0 < a
    · rw [List.filter_cons_of_pos (by simpa using ha), List.sum_cons]
      omega
    · rw [List.filter_cons_of_neg (by simpa using ha)]
      omega

/-- Every part of some amounts stays within a limit exactly when the positive ones do together. -/
theorem parts_within_iff {amounts : List ℤ} {limit : ℤ} :
    (∀ part : List ℤ, part.Sublist amounts → part.sum ≤ limit) ↔ (amounts.filter fun a => 0 < a).sum ≤ limit :=
  ⟨fun h => h _ List.filter_sublist, fun h _ hpart => (sum_le_of_sublist hpart).trans h⟩

/-- Whatever part of an authorized plan is executed stays within the limit, exactly when the positive budgets of its steps do
together. -/
theorem authorized_parts_within_iff {plan authorized : GovernedPlan} {permittedAuthorities : List Str} {budgetLimit : ℤ}
    (h : PlanningEngine.authorize plan permittedAuthorities budgetLimit = .ok authorized) :
    (∀ part : List PlanStep, part.Sublist authorized.steps → (part.map PlanStep.budgetMinor).sum ≤ budgetLimit) ↔
      ((plan.steps.map PlanStep.budgetMinor).filter fun amount => 0 < amount).sum ≤ budgetLimit := by
  obtain ⟨-, -, rfl⟩ := GovernedPlan.authorize_eq_ok.mp h
  have hbudgets : (plan.steps.map fun s => { s with state := .authorized }).map PlanStep.budgetMinor =
      plan.steps.map PlanStep.budgetMinor := by
    rw [List.map_map]
    rfl
  rw [← parts_within_iff, ← hbudgets]
  constructor
  · intro hparts amounts hamounts
    obtain ⟨part, hpart, rfl⟩ := List.sublist_map_iff.mp hamounts
    exact hparts part hpart
  · exact fun hparts part hpart => hparts _ (hpart.map _)

namespace Sample

/-- A step that depends on others. -/
def planStep (stepId : String) (dependencies : List String) (budgetMinor : ℤ) : PlanStep where
  stepId := str stepId
  capability := str "communications.send"
  dependencies := dependencies.map str
  authority := str "G3T Connected"
  budgetMinor := budgetMinor
  deadline := str "deadline"
  evidenceRequirements := [str "receipt"]
  alternatives := [str "communications.health"]
  state := .proposed

def planOf (steps : List PlanStep) : GovernedPlan := ⟨str "plan", str "objective", str "org", str "tenant", steps, 1, str "initial"⟩

/-- The second step is listed before the one that it depends on. -/
def chained : List PlanStep := [planStep "s2" ["s1"] 5, planStep "s1" [] 5]

theorem chained_built : PlanningEngine.build (str "plan") (str "objective") (str "org") (str "tenant") chained (str "initial") =
    .ok (planOf chained) := build_eq_ok.mpr ⟨by decide +kernel, rfl⟩

theorem chained_executable : PlanningEngine.build (str "plan") (str "objective") (str "org") (str "tenant") chained
      (str "initial") = .ok (planOf chained) ∧
    Executable (Transition.run GovernedPlan.after (planOf chained) [.authorize [str "G3T Connected"] 10]).steps :=
  ⟨chained_built, (built_plans_executable_iff chained_built).mpr (by decide +kernel) _⟩

/-- Two steps that wait for each other. -/
def deadlocked : List PlanStep := [planStep "s1" ["s2"] 5, planStep "s2" ["s1"] 5]

theorem deadlock_built : ¬ ∀ (planId objectiveId organizationId tenantId rationale : Str) (steps : List PlanStep) (plan : GovernedPlan),
    PlanningEngine.build planId objectiveId organizationId tenantId steps rationale = .ok plan → Executable plan.steps := by
  intro hclaim
  have hexecutable := hclaim (str "plan") (str "objective") (str "org") (str "tenant") (str "initial") deadlocked (planOf deadlocked)
    (build_eq_ok.mpr ⟨by decide +kernel, rfl⟩)
  have hclosed : ∀ s ∈ deadlocked, ∀ id ∈ s.dependencies, id ∈ deadlocked.map PlanStep.stepId := by decide +kernel
  exact absurd ((executable_iff hclosed).mp hexecutable).2 (by decide +kernel)

/-- The second step takes back what the first one spends above the limit. -/
def refunded : GovernedPlan := planOf [planStep "s1" [] 100, planStep "s2" ["s1"] (-100)]

theorem modest_parts_within : (∃ authorized, PlanningEngine.authorize (planOf chained) [str "G3T Connected"] 10 = .ok authorized ∧
    ∀ part : List PlanStep, part.Sublist authorized.steps → (part.map PlanStep.budgetMinor).sum ≤ 10) := by
  have hauthorized := (@GovernedPlan.authorize_eq_ok (planOf chained) _ [str "G3T Connected"] 10).mpr
    ⟨by decide +kernel, by decide +kernel, rfl⟩
  exact ⟨_, hauthorized, (authorized_parts_within_iff hauthorized).mpr (by decide +kernel)⟩

theorem refund_hides_excess : ¬ ∀ (plan authorized : GovernedPlan) (permittedAuthorities : List Str) (budgetLimit : ℤ),
    PlanningEngine.authorize plan permittedAuthorities budgetLimit = .ok authorized →
      ∀ part : List PlanStep, part.Sublist authorized.steps → (part.map PlanStep.budgetMinor).sum ≤ budgetLimit := by
  intro hclaim
  have hauthorized := (@GovernedPlan.authorize_eq_ok refunded _ [str "G3T Connected"] 0).mpr
    ⟨by decide +kernel, by decide +kernel, rfl⟩
  have hwithin := (authorized_parts_within_iff hauthorized).mp (hclaim _ _ _ _ hauthorized)
  exact absurd hwithin (by decide +kernel)

end Sample

end Superstructure
