import StrataPortNetwork.Js.Coercion
import StrataPortNetwork.ProcessIntelligence.Runtime

/-! # Graduation of processes to skills

A process graduates when its policy finds no reason against it. The policy compares what the evidence
says as it stands, and what does not compare as below a threshold counts as having met it.
-/
namespace ProcessIntelligence
open Js
open CognitiveState (coalesce)

/-! ## Genomes -/

def PROCESS_GENOME_CONTRACT_VERSION : String := "kindred.process-genome.v1"

def requiredObjects : List String := ["input_contract", "output_contract", "state_requirements", "execution_topology",
  "authority_requirements", "verification_requirements", "retry_policy", "rollback_policy", "timing_profile", "latency_profile",
  "resource_profile", "cost_profile", "security_profile", "edge_metrics", "lineage"]

def requiredArrays : List String := ["preconditions", "postconditions", "dependencies", "abilities", "model_requirements",
  "provider_requirements", "success_criteria", "failure_criteria", "performance_history_refs", "evidence_refs", "receipt_refs",
  "parent_process_refs"]

/-- A safe integer of at least 1. -/
def version? (v : Option Json) : Option ℕ := (v.bind count?).filter (1 ≤ ·)

/-- `iso(value, reasonClass)`; `isDate` is whether `Date.parse` gives a finite number. -/
def iso (isDate : JsString → Bool) (v : Option Json) (reasonClass : String) : Outcome Unit :=
  ensure ((v.bind Json.str?).any isDate) (.rejected reasonClass)

/-- `validateProcessGenome(value)`. -/
def validateProcessGenome (isDate : JsString → Bool) (value : Json) : Outcome Json := do
  let invalid := "process_genome_invalid"
  ensure value.isRecord (.rejected invalid)
  ensure (value.get "contract_version" == some (.text PROCESS_GENOME_CONTRACT_VERSION) &&
    requiredObjects.all (fun field => (value.get field).any Json.isRecord) &&
    (version? (value.get "process_version")).isSome && (version? (value.get "genome_version")).isSome) (.rejected invalid)
  ensureAll (fun field => do let _ ← nonEmpty (value.get field) invalid) ["process_id", "role", "purpose", "consequence_class"]
  ensureAll (fun field => do let _ ← stringArray ((value.get field).getD .null) invalid) requiredArrays
  iso isDate (value.get "created_at") invalid
  iso isDate (value.get "updated_at") invalid
  let _ ← nonEmpty (value.get "skill_status") invalid
  let _ ← nonEmpty (value.get "graduation_status") invalid
  pure value.rebuild

/-! ## The policy -/

/-- The thresholds a policy is made of; a missing one is `none`. -/
structure ThresholdOptions where
  executionCount : Option ℚ
  verifiedSuccessCount : Option ℚ
  successRate : Option ℚ
  verificationRate : Option ℚ
  maximumAuthorityViolations : Option ℚ
  maximumSecurityFailures : Option ℚ

structure ProcessSkillGraduationPolicy where
  executionCount : ℚ
  verifiedSuccessCount : ℚ
  successRate : ℚ
  verificationRate : ℚ
  maximumAuthorityViolations : ℚ
  maximumSecurityFailures : ℚ

namespace ProcessSkillGraduationPolicy

/-- `new ProcessSkillGraduationPolicy(thresholds)`. -/
def create (thresholds : ThresholdOptions) : ProcessSkillGraduationPolicy where
  executionCount := thresholds.executionCount.getD 3
  verifiedSuccessCount := thresholds.verifiedSuccessCount.getD 3
  successRate := thresholds.successRate.getD 1
  verificationRate := thresholds.verificationRate.getD 1
  maximumAuthorityViolations := thresholds.maximumAuthorityViolations.getD 0
  maximumSecurityFailures := thresholds.maximumSecurityFailures.getD 0

/-- The fields of the evidence that a policy bounds from below. -/
def minima (policy : ProcessSkillGraduationPolicy) : List (String × ℚ) := [("execution_count", policy.executionCount),
  ("verified_success_count", policy.verifiedSuccessCount), ("success_rate", policy.successRate),
  ("verification_rate", policy.verificationRate)]

/-- The fields that it bounds from above. -/
def maxima (policy : ProcessSkillGraduationPolicy) : List (String × ℚ) :=
  [("authority_violations", policy.maximumAuthorityViolations), ("security_failures", policy.maximumSecurityFailures)]

/-- The reasons of the checks that fail. -/
def reasons (fails : String × ℚ → Option Bool) (suffix : String) : List (String × ℚ) → Outcome (List String)
  | [] => pure []
  | check :: rest => do
    let failed ← orThrow (fails check) .typeError
    let later ← reasons fails suffix rest
    pure (if failed then (check.1 ++ suffix) :: later else later)

/-- `evaluate(evidence)`: the reasons against graduation, of which an eligible process has none. -/
def evaluate (policy : ProcessSkillGraduationPolicy) (evidence : Json) : Outcome (List String) := do
  ensure (!evidence.isNull) .typeError
  let below ← reasons (fun check => isBelow? (evidence.get check.1) check.2) "_below_threshold" policy.minima
  let above ← reasons (fun check => isAbove? (some (coalesce (evidence.get check.1) (.int 0))) check.2) "_exceeded" policy.maxima
  pure (below ++ above)

theorem reasons_eq_nil {fails : String × ℚ → Option Bool} {suffix : String} {checks : List (String × ℚ)} :
    reasons fails suffix checks = .ok [] ↔ ∀ check ∈ checks, fails check = some false := by
  induction checks with
  | nil => simp [reasons]
  | cons check rest ih =>
    rw [List.forall_mem_cons, ← ih]
    simp only [reasons, bind_eq_ok, orThrow_eq_ok, pure_eq_ok]
    constructor
    · rintro ⟨failed, hfailed, later, hlater, hnil⟩
      cases failed with
      | true => cases hnil
      | false =>
        obtain rfl : later = [] := hnil
        exact ⟨hfailed, hlater⟩
    · rintro ⟨hpasses, hrest⟩
      exact ⟨false, hpasses, [], hrest, rfl⟩

theorem evaluate_eq_nil {policy : ProcessSkillGraduationPolicy} {evidence : Json} (h : policy.evaluate evidence = .ok []) :
    (∀ check ∈ policy.minima, isBelow? (evidence.get check.1) check.2 = some false) ∧
      ∀ check ∈ policy.maxima, isAbove? (some (coalesce (evidence.get check.1) (.int 0))) check.2 = some false := by
  simp only [evaluate, bind_eq_ok, pure_eq_ok] at h
  obtain ⟨-, -, below, hbelow, above, habove, hnil⟩ := h
  obtain ⟨rfl, rfl⟩ := List.append_eq_nil_iff.mp hnil
  exact ⟨reasons_eq_nil.mp hbelow, reasons_eq_nil.mp habove⟩

end ProcessSkillGraduationPolicy

/-! ## The registry -/

structure GraduatedSkill where
  skillId : JsString
  sourceProcessId : JsString
  genomeRef : JsString
  skillVersion : ℕ
  role : JsString
  fitnessProfile : Json
  supportedContexts : List JsString
  knownLimitations : List JsString
  verifiedSuccessCount : Option Json
  verificationRate : Option Json
  lineage : Json
  evidenceRefs : List JsString

structure ProcessSkillRegistry where
  policy : ProcessSkillGraduationPolicy
  skills : JsMap JsString GraduatedSkill

/-- `graduate(genomeInput, evidence)`. -/
def ProcessSkillRegistry.graduate (digest : Synaptic.Digest) (isDate : JsString → Bool) (registry : ProcessSkillRegistry)
    (genomeInput evidence : Json) : Outcome (GraduatedSkill × ProcessSkillRegistry) := do
  let genome ← validateProcessGenome isDate genomeInput
  let reasons ← registry.policy.evaluate evidence
  ensure (reasons.length = 0) (.rejected "process_skill_graduation_denied")
  let processId ← nonEmpty (genome.get "process_id") "process_genome_invalid"
  let version ← orThrow (version? (genome.get "process_version")) (.rejected "process_genome_invalid")
  let role ← nonEmpty (genome.get "role") "process_genome_invalid"
  let supportedContexts ← stringArray
    (coalesce (evidence.get "supported_contexts") (.arr [.text "deterministic_local"])) "skill_context_invalid"
  let knownLimitations ← stringArray (coalesce (evidence.get "known_limitations") (.arr [])) "skill_limitations_invalid"
  let evidenceRefs ← stringArray (coalesce (evidence.get "evidence_refs") (.arr [])) "skill_evidence_invalid"
  let skill : GraduatedSkill := {
    skillId := js "kindred.process-skill." ++ processId ++ js ".v" ++ natText version
    sourceProcessId := processId
    genomeRef := stateRoot digest "process-genome" genome
    skillVersion := version
    role
    fitnessProfile := evidence.rebuild
    supportedContexts, knownLimitations
    verifiedSuccessCount := evidence.get "verified_success_count"
    verificationRate := evidence.get "verification_rate"
    lineage := ((genome.get "lineage").getD .null).rebuild
    evidenceRefs }
  pure (skill, { registry with skills := registry.skills.set skill.skillId skill })

/-! ## What graduation proves -/

/-- A value is a number of at least a threshold. -/
def AtLeast (v : Option Json) (threshold : ℚ) : Prop := ∃ x, v = some (.num x) ∧ threshold ≤ x.toRat

/-- A value is absent. -/
def Absent (v : Option Json) : Prop := v = none ∨ v = some .null

/-- A value is absent, or a number of at most a threshold. -/
def AtMost (v : Option Json) (threshold : ℚ) : Prop := Absent v ∨ ∃ x, v = some (.num x) ∧ x.toRat ≤ threshold

/-- The evidence meets every threshold of a policy. -/
structure Proven (policy : ProcessSkillGraduationPolicy) (evidence : Json) : Prop where
  minima : ∀ check ∈ policy.minima, AtLeast (evidence.get check.1) check.2
  maxima : ∀ check ∈ policy.maxima, AtMost (evidence.get check.1) check.2

/-- The counts and rates of the evidence are numbers, and its violations and failures are numbers or absent. -/
structure Measured (evidence : Json) : Prop where
  required : ∀ name ∈ ["execution_count", "verified_success_count", "success_rate", "verification_rate"], isNumber (evidence.get name)
  optional : ∀ name ∈ ["authority_violations", "security_failures"], Absent (evidence.get name) ∨ isNumber (evidence.get name)

theorem atLeast_of_number {v : Option Json} {threshold : ℚ} (h : isBelow? v threshold = some false) (hv : isNumber v) :
    AtLeast v threshold := by
  obtain ⟨x, rfl⟩ := hv
  rw [isBelow?_num, Option.some.injEq, decide_eq_false_iff_not, not_lt] at h
  exact ⟨x, rfl, h⟩

theorem atMost_of_number {v : Option Json} {threshold : ℚ} (h : isAbove? (some (coalesce v (.int 0))) threshold = some false)
    (hv : Absent v ∨ isNumber v) : AtMost v threshold := by
  refine hv.imp_right ?_
  rintro ⟨x, rfl⟩
  have hcoalesce : coalesce (some (.num x)) (.int 0) = .num x := rfl
  rw [hcoalesce, isAbove?_num, Option.some.injEq, decide_eq_false_iff_not, not_lt] at h
  exact ⟨x, rfl, h⟩

theorem evaluate_of_graduate {digest : Synaptic.Digest} {isDate : JsString → Bool} {registry : ProcessSkillRegistry}
    {genomeInput evidence : Json} {result : GraduatedSkill × ProcessSkillRegistry}
    (h : registry.graduate digest isDate genomeInput evidence = .ok result) : registry.policy.evaluate evidence = .ok [] := by
  simp only [ProcessSkillRegistry.graduate, bind_eq_ok, ensure_eq_ok, decide_eq_true_eq] at h
  obtain ⟨-, -, reasons, hreasons, -, hnone, -⟩ := h
  rw [hreasons, List.length_eq_zero_iff.mp hnone]

/-- A process that graduates has met every threshold exactly when its counts and rates are numbers and its
violations and failures are numbers or absent. -/
theorem graduation_proven_iff (digest : Synaptic.Digest) (isDate : JsString → Bool) (thresholds : ThresholdOptions)
    (skills : JsMap JsString GraduatedSkill) (genomeInput evidence : Json) {result : GraduatedSkill × ProcessSkillRegistry}
    (h : ProcessSkillRegistry.graduate digest isDate ⟨.create thresholds, skills⟩ genomeInput evidence = .ok result) :
    Proven (.create thresholds) evidence ↔ Measured evidence := by
  obtain ⟨hminima, hmaxima⟩ := ProcessSkillGraduationPolicy.evaluate_eq_nil (evaluate_of_graduate h)
  constructor
  · intro hproven
    have hrequired := hproven.minima
    have hoptional := hproven.maxima
    simp only [ProcessSkillGraduationPolicy.minima, ProcessSkillGraduationPolicy.maxima, List.forall_mem_cons] at hrequired hoptional
    have hnumber : ∀ {v : Option Json} {threshold : ℚ}, AtLeast v threshold → isNumber v := fun ⟨x, hx, _⟩ => ⟨x, hx⟩
    have hcount : ∀ {v : Option Json} {threshold : ℚ}, AtMost v threshold → Absent v ∨ isNumber v :=
      fun hmost => hmost.imp_right fun ⟨x, hx, _⟩ => ⟨x, hx⟩
    constructor
    · simp only [List.forall_mem_cons]
      exact ⟨hnumber hrequired.1, hnumber hrequired.2.1, hnumber hrequired.2.2.1, hnumber hrequired.2.2.2.1, by simp⟩
    · simp only [List.forall_mem_cons]
      exact ⟨hcount hoptional.1, hcount hoptional.2.1, by simp⟩
  · intro hmeasured
    refine ⟨fun check hcheck => atLeast_of_number (hminima check hcheck) (hmeasured.required _ ?_),
      fun check hcheck => atMost_of_number (hmaxima check hcheck) (hmeasured.optional _ ?_)⟩
    · exact List.mem_map_of_mem (f := Prod.fst) hcheck
    · exact List.mem_map_of_mem (f := Prod.fst) hcheck

namespace Sample

/-- A genome as `createProcessGenome` fills it in. -/
def reader : Json := .record ([("contract_version", .text PROCESS_GENOME_CONTRACT_VERSION), ("process_id", .text "reader"),
    ("process_version", .int 1), ("genome_version", .int 1), ("role", .text "READER"), ("purpose", .text "read"),
    ("consequence_class", .text "local_reversible"), ("skill_status", .text "PROCESS"), ("graduation_status", .text "NOT_ELIGIBLE"),
    ("created_at", .text "1970-01-01T00:00:00.000Z"), ("updated_at", .text "1970-01-01T00:00:00.000Z")] ++
  requiredObjects.map (·, .record []) ++ requiredArrays.map (·, .arr []))

/-- The registry with the default policy. -/
def untaught : ProcessSkillRegistry := ⟨.create ⟨none, none, none, none, none, none⟩, JsMap.empty⟩

def measurements : Json := .record [("execution_count", .int 4), ("verified_success_count", .int 3), ("success_rate", .int 1),
  ("verification_rate", .int 1)]

theorem graduates_of_isOk (evidence : Json)
    (h : (untaught.graduate Synaptic.Synaptizer.sampleDigest (fun _ => true) reader evidence).isOk = true) :
    ∃ result, untaught.graduate Synaptic.Synaptizer.sampleDigest (fun _ => true) reader evidence = .ok result := by
  cases hresult : untaught.graduate Synaptic.Synaptizer.sampleDigest (fun _ => true) reader evidence with
  | error e =>
    rw [hresult] at h
    cases h
  | ok result => exact ⟨result, rfl⟩

/-- Four executions, three of them verified, prove the thresholds. -/
theorem measured_proves : Proven untaught.policy measurements := by
  obtain ⟨result, hresult⟩ := graduates_of_isOk measurements (by decide +kernel)
  refine (graduation_proven_iff Synaptic.Synaptizer.sampleDigest (fun _ => true) ⟨none, none, none, none, none, none⟩ JsMap.empty
    reader measurements hresult).mpr ⟨?_, ?_⟩
  · simp only [List.forall_mem_cons]
    exact ⟨⟨_, Json.get_record _ _⟩, ⟨_, Json.get_record _ _⟩, ⟨_, Json.get_record _ _⟩, ⟨_, Json.get_record _ _⟩, by simp⟩
  · simp only [List.forall_mem_cons]
    exact ⟨.inl (.inl (Json.get_record _ _)), .inl (.inl (Json.get_record _ _)), by simp⟩

/-- Evidence of nothing at all graduates under the default policy. -/
theorem empty_evidence_graduates : ∃ result,
    untaught.graduate Synaptic.Synaptizer.sampleDigest (fun _ => true) reader (.record []) = .ok result ∧
      ¬ Proven untaught.policy (.record []) := by
  obtain ⟨result, hresult⟩ := graduates_of_isOk (.record []) (by decide +kernel)
  refine ⟨result, hresult, fun hproven => ?_⟩
  obtain ⟨x, hx, -⟩ := hproven.minima _ List.mem_cons_self
  cases hx

end Sample

end ProcessIntelligence
