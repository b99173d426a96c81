import StrataPortNetwork.Js.Untied
import StrataPortNetwork.ProcessIntelligence.Graduation
import StrataPortNetwork.Transition

/-! # Synthesis and promotion of capabilities

Graduated skills are composed into candidates, candidates with complete evidence are promoted, and
what was promoted for an intent in a context is answered from the cache afterwards. The reference
that a promotion gets is the hash of a receipt with a random identifier, and is a parameter.
-/
namespace ProcessIntelligence
open Js
open CognitiveState (coalesce)

/-! ## The registry and its cache -/

/-- `get(skillId)`. -/
def ProcessSkillRegistry.get (registry : ProcessSkillRegistry) (skillId : Json) : Outcome GraduatedSkill :=
  orThrow (skillId.str?.bind registry.skills.get) (.rejected "process_skill_unknown")

structure ProcessSkillCache where
  hits : ℕ
  misses : ℕ

/-- `get(skillId)` of a cache over a registry, which rejects in no other way than the registry. -/
def ProcessSkillCache.get (cache : ProcessSkillCache) (registry : ProcessSkillRegistry) (skillId : Json) :
    Outcome GraduatedSkill × ProcessSkillCache :=
  match registry.get skillId with
  | .ok skill => (.ok skill, { cache with hits := cache.hits + 1 })
  | .error e => (.error e, { cache with misses := cache.misses + 1 })

/-! ## The composition cache -/

/-- `canonical(value)` of a value that may be undefined. -/
def canonicalProperty (v : Option Json) : JsString := (v.map canonical).getD (js "undefined")

structure CapabilityCompositionCache where
  entries : JsMap JsString Json
  hits : ℕ
  misses : ℕ

namespace CapabilityCompositionCache
variable (digest : Synaptic.Digest)

/-- `key(intentClass, contextRoot)`. -/
def key (intentClass contextRoot : Option Json) : JsString :=
  js "sha256:" ++ digest.hex (utf8Encode (js "capability-composition-cache-key:\x7b\"contextRoot\":" ++ canonicalProperty contextRoot ++
    js ",\"intentClass\":" ++ canonicalProperty intentClass ++ js "\x7d"))

/-- `get(intentClass, contextRoot)`. -/
def get (cache : CapabilityCompositionCache) (intentClass contextRoot : Option Json) : Option Json × CapabilityCompositionCache :=
  match cache.entries.get (key digest intentClass contextRoot) with
  | none => (none, { cache with misses := cache.misses + 1 })
  | some capability => (some capability, { cache with hits := cache.hits + 1 })

/-- `set(intentClass, contextRoot, capability)`. -/
def set (cache : CapabilityCompositionCache) (intentClass contextRoot : Option Json) (capability : Json) : CapabilityCompositionCache :=
  { cache with entries := cache.entries.set (key digest intentClass contextRoot) capability }

end CapabilityCompositionCache

/-! ## Candidates -/

def compositionKinds : List String := ["SEQUENTIAL", "PARALLEL", "FAN_OUT", "FAN_IN", "CONDITIONAL", "ITERATIVE", "COMPETITIVE",
  "COOPERATIVE", "HIERARCHICAL", "EVENT_DRIVEN"]

def nodeId (n : ℕ) : Json := .str (js "node-" ++ natText n)

/-- The nodes of the skills in order, each with an edge to the next. -/
def compositionGraph (kind : Option Json) (skills : List GraduatedSkill) : Json := .defined [("kind", kind),
  ("nodes", some (.arr (skills.mapIdx fun index skill => .record [("node_id", nodeId (index + 1)), ("skill_id", .str skill.skillId),
    ("role", .str skill.role)]))),
  ("edges", some (.arr ((skills.drop 1).mapIdx fun index _ => .record [("from", nodeId (index + 1)), ("to", nodeId (index + 2))])))]

/-- The candidate of an input. -/
def candidateOf (input : Json) (skills : List GraduatedSkill) (supportedContexts evidenceRefs : List JsString) : Json :=
  let copied := fun name (default : Json) => some (coalesce (input.get name) default).rebuild
  .defined [("contract_version", some (.text "kindred.prosynthesized-capability.v1")), ("capability_id", input.get "capability_id"),
    ("capability_version", some (coalesce (input.get "capability_version") (.int 1))), ("name", input.get "name"),
    ("role", input.get "role"), ("outcome_class", input.get "outcome_class"),
    ("source_skill_refs", some (.arr (skills.map fun skill => .str skill.skillId))),
    ("source_genome_refs", some (.arr (skills.map fun skill => .str skill.genomeRef))),
    ("composition_graph", some (compositionGraph (input.get "composition_kind") skills)),
    ("inputs", copied "inputs" (.record [])), ("outputs", copied "outputs" (.record [])),
    ("supported_contexts", some (.arr (supportedContexts.map .str))),
    ("authority_requirements", copied "authority_requirements" (.record [("level", .text "none")])),
    ("side_effect_class", some (coalesce (input.get "side_effect_class") (.text "local_reversible"))),
    ("state_requirements", copied "state_requirements" (.record [])),
    ("verification_policy", copied "verification_policy" (.record [("required", .bool true)])),
    ("resource_profile", copied "resource_profile" (.record [])), ("performance_profile", copied "performance_profile" (.record [])),
    ("failure_profile", copied "failure_profile" (.record [])),
    ("rollback_profile", copied "rollback_profile" (.record [("mode", .text "checkpoint")])),
    ("evidence_refs", some (.arr (evidenceRefs.map .str))), ("synthesis_receipt_ref", some .null),
    ("lineage", some (.record [("source_process_ids", .arr (skills.map fun skill => .str skill.sourceProcessId))])),
    ("status", some (.text "CANDIDATE"))]

/-- The skills of an input, two at least. -/
def skillsOf (registry : ProcessSkillRegistry) (input : Json) : Outcome (List GraduatedSkill) := do
  ensure (compositionKinds.any fun kind => input.get "composition_kind" == some (.text kind)) (.rejected "composition_kind_invalid")
  let skillIds ← orThrow ((input.get "skill_ids").bind Json.items?) .typeError
  let skills ← skillIds.mapM registry.get
  ensure (2 ≤ skills.length) (.rejected "prosynthesis_requires_multiple_skills")
  pure skills

/-- What `synthesize` returns. -/
structure Synthesis where
  capability : Json
  cacheHit : Bool
  discoveryCount : ℕ

structure ProSynthesine where
  cache : CapabilityCompositionCache
  discoveryCount : ℕ

/-- `synthesize(input)`: the cache counts the lookup and the discovery is counted even when the candidate is rejected. -/
def ProSynthesine.synthesize (digest : Synaptic.Digest) (registry : ProcessSkillRegistry) (s : ProSynthesine) (input : Json) :
    Outcome Synthesis × ProSynthesine :=
  if input.isNull then (.error .typeError, s)
  else
    match s.cache.get digest (input.get "intent_class") (input.get "context_root") with
    | (some cached, cache) => (.ok ⟨cached, true, 0⟩, { s with cache })
    | (none, cache) =>
      match skillsOf registry input with
      | .error e => (.error e, { s with cache })
      | .ok skills =>
        let candidate : Outcome Synthesis := do
          let supportedContexts ← stringArray (coalesce (input.get "supported_contexts") (.arr [.text "deterministic_local"]))
            "capability_context_invalid"
          let evidenceRefs ← stringArray (coalesce (input.get "evidence_refs") (.arr [])) "capability_evidence_invalid"
          pure ⟨candidateOf input skills supportedContexts evidenceRefs, false, skills.length⟩
        (candidate, ⟨cache, s.discoveryCount + skills.length⟩)

/-! ## Promotion -/

def requiredEvidence : List String := ["sandbox_passed", "deterministic_tests_passed", "integration_test_passed", "failure_tests_passed",
  "verification_passed", "authority_evaluation_passed"]

/-- The capability that a candidate is promoted to, under the reference of its receipt. -/
def promotedOf (candidate : Json) (receiptRef : JsString) : Json :=
  (candidate.rebuild.set "status" (.text "PROSYNTHESIZED")).set "synthesis_receipt_ref" (.str receiptRef)

/-- The checks of `promote(candidateInput, evidence)` and the capability that they let through. -/
def promotion (candidate evidence : Json) (receiptRef : JsString) : Outcome Json := do
  ensure (!candidate.isNull) .typeError
  ensure (candidate.rebuild.get "status" == some (.text "CANDIDATE")) (.rejected "capability_not_candidate")
  ensure (!evidence.isNull) .typeError
  ensure (requiredEvidence.all fun field => evidence.get field == some (.bool true)) (.rejected "capability_promotion_evidence_incomplete")
  pure (promotedOf candidate receiptRef)

/-- `promote(candidateInput, evidence)`. -/
def ProSynthesine.promote (digest : Synaptic.Digest) (s : ProSynthesine) (candidate evidence : Json) (receiptRef : JsString) :
    Outcome Json × ProSynthesine :=
  match promotion candidate evidence receiptRef with
  | .error e => (.error e, s)
  | .ok capability =>
    (.ok capability, { s with cache := s.cache.set digest (evidence.get "intent_class") (evidence.get "context_root") capability })

/-! ## Runs -/

/-- A registry, the cache of its skills and a ProSynthesine on it. -/
structure Workshop where
  skills : JsMap JsString GraduatedSkill
  skillCache : ProcessSkillCache
  prosynthesine : ProSynthesine

def Workshop.fresh : Workshop := ⟨JsMap.empty, ⟨0, 0⟩, ⟨⟨JsMap.empty, 0, 0⟩, 0⟩⟩

inductive WorkshopCall
  | graduate (genomeInput evidence : Json)
  | getSkill (skillId : Json)
  | discover (intentClass contextRoot : Option Json)
  | synthesize (input : Json)
  | promote (candidate evidence : Json) (receiptRef : JsString)

section
variable (digest : Synaptic.Digest) (isDate : JsString → Bool) (policy : ProcessSkillGraduationPolicy)

/-- The workshop after a call. -/
def Workshop.step (s : Workshop) : WorkshopCall → Workshop
  | .graduate genomeInput evidence =>
    match ProcessSkillRegistry.graduate digest isDate ⟨policy, s.skills⟩ genomeInput evidence with
    | .ok (_, registry) => { s with skills := registry.skills }
    | .error _ => s
  | .getSkill skillId => { s with skillCache := (s.skillCache.get ⟨policy, s.skills⟩ skillId).2 }
  | .discover intentClass contextRoot =>
    { s with prosynthesine := { s.prosynthesine with cache := (s.prosynthesine.cache.get digest intentClass contextRoot).2 } }
  | .synthesize input => { s with prosynthesine := (s.prosynthesine.synthesize digest ⟨policy, s.skills⟩ input).2 }
  | .promote candidate evidence receiptRef =>
    { s with prosynthesine := (s.prosynthesine.promote digest candidate evidence receiptRef).2 }

abbrev Workshop.run (calls : List WorkshopCall) : Workshop := Transition.run (Workshop.step digest isDate policy) .fresh calls

end

/-! ## What calls leave in the maps -/

/-- The skill that a call registers. -/
def graduated (digest : Synaptic.Digest) (isDate : JsString → Bool) (policy : ProcessSkillGraduationPolicy) :
    WorkshopCall → Option GraduatedSkill
  | .graduate genomeInput evidence =>
    ((ProcessSkillRegistry.graduate digest isDate ⟨policy, JsMap.empty⟩ genomeInput evidence).map Prod.fst).toOption
  | _ => none

/-- The capability that a call promotes, with the key it is kept under. -/
def promoted (digest : Synaptic.Digest) : WorkshopCall → Option (JsString × Json)
  | .promote candidate evidence receiptRef => ((promotion candidate evidence receiptRef).map fun capability =>
      (CapabilityCompositionCache.key digest (evidence.get "intent_class") (evidence.get "context_root"), capability)).toOption
  | _ => none

section
variable {digest : Synaptic.Digest} {isDate : JsString → Bool} {policy : ProcessSkillGraduationPolicy}

/-- What a registry registers depends on its policy alone. -/
theorem graduate_eq (skills : JsMap JsString GraduatedSkill) (genomeInput evidence : Json) :
    ProcessSkillRegistry.graduate digest isDate ⟨policy, skills⟩ genomeInput evidence =
      (fun result => (result.1, ⟨policy, skills.set result.1.skillId result.1⟩)) <$>
        ProcessSkillRegistry.graduate digest isDate ⟨policy, JsMap.empty⟩ genomeInput evidence := by
  simp only [ProcessSkillRegistry.graduate, map_bind, map_pure]

theorem skills_step (skillId : JsString) (s : Workshop) (call : WorkshopCall) :
    (Workshop.step digest isDate policy s call).skills.get skillId =
      ((graduated digest isDate policy call).filter fun skill => skill.skillId == skillId).or (s.skills.get skillId) := by
  cases call with
  | graduate genomeInput evidence =>
    rw [Workshop.step, graduate_eq, graduated]
    cases hresult : ProcessSkillRegistry.graduate digest isDate ⟨policy, JsMap.empty⟩ genomeInput evidence with
    | error e => rfl
    | ok result =>
      change (s.skills.set result.1.skillId result.1).get skillId = (Option.filter _ (some result.1)).or _
      rw [JsMap.get_set, Option.filter_some]
      split <;> rfl
  | getSkill | discover | synthesize | promote => rfl

theorem entries_get (cache : CapabilityCompositionCache) (intentClass contextRoot : Option Json) :
    (cache.get digest intentClass contextRoot).2.entries = cache.entries := by
  rw [CapabilityCompositionCache.get]
  split <;> rfl

theorem cache_synthesize {input : Json} (hnull : input.isNull = false) (registry : ProcessSkillRegistry) (s : ProSynthesine) :
    (s.synthesize digest registry input).2.cache = (s.cache.get digest (input.get "intent_class") (input.get "context_root")).2 := by
  rw [ProSynthesine.synthesize, hnull, if_neg Bool.false_ne_true]
  cases hget : s.cache.get digest (input.get "intent_class") (input.get "context_root") with
  | mk cached cache =>
    cases cached with
    | some capability => rfl
    | none => cases hskills : skillsOf registry input <;> rfl

theorem entries_synthesize (registry : ProcessSkillRegistry) (s : ProSynthesine) (input : Json) :
    (s.synthesize digest registry input).2.cache.entries = s.cache.entries := by
  cases hnull : input.isNull with
  | true =>
    rw [ProSynthesine.synthesize, hnull]
    rfl
  | false => rw [cache_synthesize hnull, entries_get]

theorem entries_step (key : JsString) (s : Workshop) (call : WorkshopCall) :
    (Workshop.step digest isDate policy s call).prosynthesine.cache.entries.get key =
      (((promoted digest call).filter fun entry => entry.1 == key).map Prod.snd).or (s.prosynthesine.cache.entries.get key) := by
  cases call with
  | promote candidate evidence receiptRef =>
    rw [Workshop.step, ProSynthesine.promote, promoted]
    cases hresult : promotion candidate evidence receiptRef with
    | error e => rfl
    | ok capability =>
      change (s.prosynthesine.cache.entries.set _ capability).get key = ((Option.filter _ (some (_, capability))).map Prod.snd).or _
      rw [JsMap.get_set, Option.filter_some]
      split <;> rfl
  | graduate genomeInput evidence =>
    rw [Workshop.step]
    split <;> rfl
  | discover intentClass contextRoot =>
    change (s.prosynthesine.cache.get digest intentClass contextRoot).2.entries.get key = _
    rw [entries_get]
    rfl
  | synthesize input =>
    change (s.prosynthesine.synthesize digest ⟨policy, s.skills⟩ input).2.cache.entries.get key = _
    rw [entries_synthesize]
    rfl
  | getSkill => rfl

/-! ## Counters -/

/-- A call looks a capability up. -/
def looksUp : WorkshopCall → Bool
  | .discover .. => true
  | .synthesize input => !input.isNull
  | _ => false

def getsSkill : WorkshopCall → Bool
  | .getSkill _ => true
  | _ => false

theorem lookups_get (cache : CapabilityCompositionCache) (intentClass contextRoot : Option Json) :
    (cache.get digest intentClass contextRoot).2.hits + (cache.get digest intentClass contextRoot).2.misses =
      cache.hits + cache.misses + 1 := by
  rw [CapabilityCompositionCache.get]
  split <;> simp only <;> omega

theorem lookups_step (s : Workshop) (call : WorkshopCall) :
    (Workshop.step digest isDate policy s call).prosynthesine.cache.hits + (Workshop.step digest isDate policy s call).prosynthesine.cache.misses =
      s.prosynthesine.cache.hits + s.prosynthesine.cache.misses + if looksUp call then 1 else 0 := by
  cases call with
  | discover intentClass contextRoot => exact lookups_get s.prosynthesine.cache intentClass contextRoot
  | synthesize input =>
    cases hnull : input.isNull with
    | true =>
      have hsame : Workshop.step digest isDate policy s (.synthesize input) = s := by
        rw [Workshop.step, ProSynthesine.synthesize, hnull]
        rfl
      rw [hsame, looksUp, hnull]
      rfl
    | false =>
      have hcache := @cache_synthesize digest input hnull ⟨policy, s.skills⟩ s.prosynthesine
      rw [Workshop.step, hcache, lookups_get, looksUp, hnull]
      rfl
  | promote candidate evidence receiptRef =>
    rw [Workshop.step, ProSynthesine.promote]
    split <;> rfl
  | graduate genomeInput evidence =>
    rw [Workshop.step]
    split <;> rfl
  | getSkill => rfl

theorem skillCache_step (s : Workshop) (call : WorkshopCall) :
    (Workshop.step digest isDate policy s call).skillCache.hits + (Workshop.step digest isDate policy s call).skillCache.misses =
      s.skillCache.hits + s.skillCache.misses + if getsSkill call then 1 else 0 := by
  cases call with
  | getSkill skillId =>
    rw [Workshop.step, ProcessSkillCache.get]
    split
    · exact Nat.succ_add_eq_add_succ ..
    · rfl
  | graduate genomeInput evidence =>
    rw [Workshop.step]
    split <;> rfl
  | discover | synthesize | promote => rfl

/-! ## What runs have made -/

/-- The skill is what the last graduation under its id made of a genome that its evidence let through. -/
def Graduated (digest : Synaptic.Digest) (isDate : JsString → Bool) (policy : ProcessSkillGraduationPolicy) (calls : List WorkshopCall)
    (skill : GraduatedSkill) : Prop :=
  ∃ before genomeInput evidence after, calls = before ++ .graduate genomeInput evidence :: after ∧
    graduated digest isDate policy (.graduate genomeInput evidence) = some skill ∧ policy.evaluate evidence = .ok [] ∧
    ∀ call ∈ after, ∀ other, graduated digest isDate policy call = some other → other.skillId ≠ skill.skillId

/-- No call promoted under the key. -/
def Unpromoted (digest : Synaptic.Digest) (key : JsString) (calls : List WorkshopCall) : Prop :=
  ∀ call ∈ calls, ∀ entry, promoted digest call = some entry → entry.1 ≠ key

/-- The capability is what the last promotion under the key made of a candidate with complete evidence. -/
def Promoted (digest : Synaptic.Digest) (calls : List WorkshopCall) (key : JsString) (capability : Json) : Prop :=
  ∃ before candidate evidence receiptRef after, calls = before ++ .promote candidate evidence receiptRef :: after ∧
    candidate.rebuild.get "status" = some (.text "CANDIDATE") ∧ (∀ field ∈ requiredEvidence, evidence.get field = some (.bool true)) ∧
    capability = promotedOf candidate receiptRef ∧
    CapabilityCompositionCache.key digest (evidence.get "intent_class") (evidence.get "context_root") = key ∧ Unpromoted digest key after

theorem filter_eq_none {α : Type} {x : Option α} {p : α → Bool} (h : x.filter p = none) {a : α} (ha : x = some a) : p a = false := by
  rw [ha, Option.filter_some] at h
  by_contra hp
  rw [Bool.not_eq_false] at hp
  rw [if_pos hp] at h
  cases h

theorem graduated_of_get {calls : List WorkshopCall} {skillId : JsString} {skill : GraduatedSkill}
    (h : (Workshop.run digest isDate policy calls).skills.get skillId = some skill) :
    skill.skillId = skillId ∧ Graduated digest isDate policy calls skill := by
  have hrun := Transition.read_run (fun s : Workshop => s.skills.get skillId) _ (@skills_step digest isDate policy skillId) Workshop.fresh calls
  rw [h] at hrun
  rcases hrun with ⟨before, call, after, hcalls, hwrite, hafter⟩ | ⟨hstart, -⟩
  · obtain ⟨hmade, hid⟩ := Option.filter_eq_some_iff.mp hwrite
    have hid : skill.skillId = skillId := eq_of_beq hid
    refine ⟨hid, ?_⟩
    cases call with
    | graduate genomeInput evidence =>
      refine ⟨before, genomeInput, evidence, after, hcalls, hmade, ?_, fun call hcall other hother heq => ?_⟩
      · rw [graduated] at hmade
        cases hresult : ProcessSkillRegistry.graduate digest isDate ⟨policy, JsMap.empty⟩ genomeInput evidence with
        | error e =>
          rw [hresult] at hmade
          cases hmade
        | ok result => exact evaluate_of_graduate hresult
      · have hdifferent := filter_eq_none (hafter call hcall) hother
        rw [heq, hid, beq_self_eq_true] at hdifferent
        cases hdifferent
    | getSkill | discover | synthesize | promote => cases hmade
  · cases hstart

theorem promotion_eq_ok {candidate evidence : Json} {receiptRef : JsString} {capability : Json}
    (h : promotion candidate evidence receiptRef = .ok capability) : candidate.rebuild.get "status" = some (.text "CANDIDATE") ∧
      (∀ field ∈ requiredEvidence, evidence.get field = some (.bool true)) ∧ capability = promotedOf candidate receiptRef := by
  simp only [promotion, bind_eq_ok, ensure_eq_ok, pure_eq_ok, List.all_eq_true] at h
  obtain ⟨-, -, -, hstatus, -, -, -, hevidence, rfl⟩ := h
  exact ⟨Json.opt_eq_of_beq hstatus, fun field hfield => Json.opt_eq_of_beq (hevidence field hfield), rfl⟩

/-- What the cache answers has been promoted in the run; where it has no answer, nothing has. -/
theorem promoted_of_get (calls : List WorkshopCall) (key : JsString) :
    match (Workshop.run digest isDate policy calls).prosynthesine.cache.entries.get key with
    | some capability => Promoted digest calls key capability
    | none => Unpromoted digest key calls := by
  have hrun := Transition.read_run (fun s : Workshop => s.prosynthesine.cache.entries.get key) _ (@entries_step digest isDate policy key) Workshop.fresh calls
  have hunpromoted : ∀ {l : List WorkshopCall},
      (∀ call ∈ l, ((promoted digest call).filter fun entry => entry.1 == key).map Prod.snd = none) → Unpromoted digest key l :=
    fun hl call hcall entry hentry heq => by
      have hdifferent := filter_eq_none (Option.map_eq_none_iff.mp (hl call hcall)) hentry
      rw [heq, beq_self_eq_true] at hdifferent
      cases hdifferent
  cases hget : (Workshop.run digest isDate policy calls).prosynthesine.cache.entries.get key with
  | none =>
    rw [hget] at hrun
    exact hunpromoted hrun.2
  | some capability =>
    rw [hget] at hrun
    rcases hrun with ⟨before, call, after, hcalls, hwrite, hafter⟩ | ⟨hstart, -⟩
    · obtain ⟨entry, hentry, rfl⟩ := Option.map_eq_some_iff.mp hwrite
      obtain ⟨hpromoted, hkey⟩ := Option.filter_eq_some_iff.mp hentry
      cases call with
      | promote candidate evidence receiptRef =>
        rw [promoted] at hpromoted
        cases hresult : promotion candidate evidence receiptRef with
        | error e =>
          rw [hresult] at hpromoted
          cases hpromoted
        | ok capability =>
          rw [hresult] at hpromoted
          obtain rfl := Option.some.inj hpromoted
          obtain ⟨hstatus, hevidence, hcapability⟩ := promotion_eq_ok hresult
          exact ⟨before, candidate, evidence, receiptRef, after, hcalls, hstatus, hevidence, hcapability, eq_of_beq hkey,
            hunpromoted hafter⟩
      | getSkill | discover | synthesize | graduate => cases hpromoted
    · cases hstart

theorem cacheHit_cases {registry : ProcessSkillRegistry} {s : ProSynthesine} {input : Json} {synthesis : Synthesis}
    (h : (s.synthesize digest registry input).1 = .ok synthesis) :
    (s.cache.entries.get (CapabilityCompositionCache.key digest (input.get "intent_class") (input.get "context_root")) =
        some synthesis.capability ∧ synthesis.cacheHit = true ∧ synthesis.discoveryCount = 0) ∨
    (s.cache.entries.get (CapabilityCompositionCache.key digest (input.get "intent_class") (input.get "context_root")) = none ∧
      ∃ skills supportedContexts evidenceRefs, skillsOf registry input = .ok skills ∧
        synthesis = ⟨candidateOf input skills supportedContexts evidenceRefs, false, skills.length⟩) := by
  rw [ProSynthesine.synthesize] at h
  split at h
  · cases h
  · rw [CapabilityCompositionCache.get] at h
    cases hget : s.cache.entries.get (CapabilityCompositionCache.key digest (input.get "intent_class") (input.get "context_root")) with
    | some capability =>
      rw [hget] at h
      obtain rfl := Except.ok.inj h
      exact .inl ⟨rfl, rfl, rfl⟩
    | none =>
      rw [hget] at h
      cases hskills : skillsOf registry input with
      | error e =>
        rw [hskills] at h
        cases h
      | ok skills =>
        rw [hskills] at h
        simp only [bind_eq_ok, pure_eq_ok] at h
        obtain ⟨supportedContexts, -, evidenceRefs, -, rfl⟩ := h
        exact .inr ⟨rfl, skills, supportedContexts, evidenceRefs, rfl, rfl⟩

theorem forall₂_of_mapM {α β : Type} {f : α → Outcome β} {items : List α} {found : List β} (h : items.mapM f = .ok found) :
    List.Forall₂ (fun item result => f item = .ok result) items found := by
  induction items generalizing found with
  | nil =>
    obtain rfl := pure_eq_ok.mp h
    exact .nil
  | cons item rest ih =>
    rw [List.mapM_cons] at h
    simp only [bind_eq_ok, pure_eq_ok] at h
    obtain ⟨result, hresult, results, hresults, rfl⟩ := h
    exact .cons hresult (ih hresults)

/-- The skills of an input in a run are those that it names, and have been graduated. -/
theorem skillsOf_run {calls : List WorkshopCall} {input : Json} {skills : List GraduatedSkill}
    (h : skillsOf ⟨policy, (Workshop.run digest isDate policy calls).skills⟩ input = .ok skills) : 2 ≤ skills.length ∧
      input.get "skill_ids" = some (.arr (skills.map fun skill => .str skill.skillId)) ∧
      ∀ skill ∈ skills, Graduated digest isDate policy calls skill := by
  simp only [skillsOf, bind_eq_ok, ensure_eq_ok, orThrow_eq_ok, pure_eq_ok, decide_eq_true_eq, Option.bind_eq_some_iff] at h
  obtain ⟨-, -, skillIds, ⟨v, hv, hitems⟩, found, hfound, -, hlength, rfl⟩ := h
  have hnamed : skillIds = found.map (fun skill => .str skill.skillId) ∧ ∀ skill ∈ found, Graduated digest isDate policy calls skill := by
    have hpairs := forall₂_of_mapM hfound
    clear hfound hitems hlength
    induction hpairs with
    | nil => exact ⟨rfl, by simp⟩
    | @cons skillId skill rest results hskill _ ih =>
      rw [ProcessSkillRegistry.get, orThrow_eq_ok, Option.bind_eq_some_iff] at hskill
      obtain ⟨text, htext, hget⟩ := hskill
      obtain ⟨hid, hgraduated⟩ := graduated_of_get hget
      obtain rfl : skillId = .str text := by
        cases skillId with
        | str _ => rw [Option.some.inj htext]
        | null | bool _ | num _ | arr _ | obj _ => cases htext
      rw [ih.1, List.map_cons, hid]
      exact ⟨rfl, List.forall_mem_cons.mpr ⟨hgraduated, ih.2⟩⟩
  obtain rfl : v = .arr skillIds := by
    cases v with
    | arr _ => rw [Option.some.inj hitems]
    | null | bool _ | num _ | str _ | obj _ => cases hitems
  exact ⟨hlength, hnamed.1 ▸ hv, hnamed.2⟩

theorem rebuild_set {v w : Json} (hv : v.rebuild = v) (hw : w.rebuild = w) (name : String) : (v.set name w).rebuild = v.set name w := by
  have hfields : Json.OwnOrdered v.fields ∧ ∀ f ∈ v.fields, f.2.rebuild = f.2 := by
    cases v with
    | obj fields => exact Json.rebuild_obj_iff.mp hv
    | null | bool _ | num _ | str _ | arr _ => exact ⟨List.Pairwise.nil, by simp [Json.fields]⟩
  refine Json.rebuild_obj_iff.mpr ⟨Json.ownOrdered_setField hfields.1 _ _, fun f hf => ?_⟩
  rcases mem_setField hf with rfl | hmem
  · exact hw
  · exact hfields.2 f hmem

theorem rebuild_promotedOf (candidate : Json) (receiptRef : JsString) :
    (promotedOf candidate receiptRef).rebuild = promotedOf candidate receiptRef :=
  rebuild_set (rebuild_set (rebuild_rebuild candidate) rfl _) rfl _

/-- What is promoted is no candidate any more. -/
theorem not_promoted_again {calls : List WorkshopCall} {key : JsString} {capability : Json} (h : Promoted digest calls key capability)
    (evidence : Json) (receiptRef : JsString) : ∃ e, promotion capability evidence receiptRef = .error e := by
  cases hagain : promotion capability evidence receiptRef with
  | error e => exact ⟨e, rfl⟩
  | ok again =>
    obtain ⟨-, candidate, -, ref, -, -, -, -, rfl, -, -⟩ := h
    have hstatus := (promotion_eq_ok hagain).1
    rw [rebuild_promotedOf, promotedOf, Json.get_set, if_neg (by decide), Json.get_set, if_pos rfl] at hstatus
    cases hstatus

end

/-- What a synthesis returns after a run: the capability that was promoted last under its key, which is not
promoted again, or a candidate of the skills it names, all of them graduated, where none was promoted. -/
inductive Made (digest : Synaptic.Digest) (isDate : JsString → Bool) (policy : ProcessSkillGraduationPolicy) (calls : List WorkshopCall)
    (input : Json) : Synthesis → Prop
  | cached {capability : Json} (hpromoted : Promoted digest calls
        (CapabilityCompositionCache.key digest (input.get "intent_class") (input.get "context_root")) capability)
      (hfinal : ∀ evidence receiptRef, ∃ e, promotion capability evidence receiptRef = .error e) : Made digest isDate policy calls input
        ⟨capability, true, 0⟩
  | composed {skills : List GraduatedSkill} {supportedContexts evidenceRefs : List JsString}
      (hunpromoted : Unpromoted digest (CapabilityCompositionCache.key digest (input.get "intent_class") (input.get "context_root")) calls)
      (hseveral : 2 ≤ skills.length) (hnamed : input.get "skill_ids" = some (.arr (skills.map fun skill => .str skill.skillId)))
      (hgraduated : ∀ skill ∈ skills, Graduated digest isDate policy calls skill) : Made digest isDate policy calls input
        ⟨candidateOf input skills supportedContexts evidenceRefs, false, skills.length⟩

/-- After every run of a workshop, each lookup of a skill or a capability is counted once, and whatever a synthesis
returns was promoted in the run on complete evidence or is composed of skills graduated in the run. -/
theorem workshop_run (digest : Synaptic.Digest) (isDate : JsString → Bool) (policy : ProcessSkillGraduationPolicy) (calls : List WorkshopCall) :
    (Workshop.run digest isDate policy calls).skillCache.hits + (Workshop.run digest isDate policy calls).skillCache.misses =
      calls.countP getsSkill ∧
    (Workshop.run digest isDate policy calls).prosynthesine.cache.hits + (Workshop.run digest isDate policy calls).prosynthesine.cache.misses =
      calls.countP looksUp ∧
    ∀ input synthesis, ((Workshop.run digest isDate policy calls).prosynthesine.synthesize digest
      ⟨policy, (Workshop.run digest isDate policy calls).skills⟩ input).1 = .ok synthesis → Made digest isDate policy calls input synthesis := by
  refine ⟨?_, ?_, fun input synthesis h => ?_⟩
  · exact (Transition.count_run (fun s : Workshop => s.skillCache.hits + s.skillCache.misses) getsSkill
      (@skillCache_step digest isDate policy) Workshop.fresh calls).trans (Nat.zero_add _)
  · exact (Transition.count_run (fun s : Workshop => s.prosynthesine.cache.hits + s.prosynthesine.cache.misses) looksUp
      (@lookups_step digest isDate policy) Workshop.fresh calls).trans (Nat.zero_add _)
  · have hcell := @promoted_of_get digest isDate policy calls
      (CapabilityCompositionCache.key digest (input.get "intent_class") (input.get "context_root"))
    rcases cacheHit_cases h with ⟨hget, hhit, hcount⟩ | ⟨hget, skills, supportedContexts, evidenceRefs, hskills, rfl⟩
    · rw [hget] at hcell
      obtain ⟨capability, cacheHit, discoveryCount⟩ := synthesis
      obtain rfl : cacheHit = true := hhit
      obtain rfl : discoveryCount = 0 := hcount
      exact .cached hcell (not_promoted_again hcell)
    · rw [hget] at hcell
      obtain ⟨hseveral, hnamed, hgraduated⟩ := skillsOf_run hskills
      exact .composed hcell hseveral hnamed hgraduated

namespace Sample
open Synaptic.Synaptizer (sampleDigest)

/-- Two processes graduate, and a capability is promoted for one intent. -/
def workshopCalls : List WorkshopCall := [.graduate reader measurements, .graduate (reader.set "process_id" (.text "writer")) measurements,
  .promote (.record [("status", .text "CANDIDATE")])
    (.record (requiredEvidence.map (·, .bool true) ++ [("intent_class", .text "plan")])) (js "receipt")]

def synthesizes (calls : List WorkshopCall) (input : Json) : Option (Bool × ℕ) :=
  let s := Workshop.run sampleDigest (fun _ => true) untaught.policy calls
  (s.prosynthesine.synthesize sampleDigest ⟨untaught.policy, s.skills⟩ input).1.toOption.map fun synthesis =>
    (synthesis.cacheHit, synthesis.discoveryCount)

example : synthesizes (workshopCalls.drop 2) (.record [("intent_class", .text "plan")]) = some (true, 0) := by decide +kernel

example : synthesizes workshopCalls (.record [("intent_class", .text "act"), ("composition_kind", .text "SEQUENTIAL"),
    ("skill_ids", .arr [.text "kindred.process-skill.reader.v1", .text "kindred.process-skill.writer.v1"])]) = some (false, 2) := by
  decide +kernel

end Sample

end ProcessIntelligence
