import StrataPortNetwork.Js.Coercion
import StrataPortNetwork.ProcessIntelligence.Cycles

/-! # Fencing tokens of resumptions

A checkpoint is resumed under a fencing token, which is refused when it compares as not greater than
the token of the checkpoint. A token that is missing compares as neither, so it is accepted, and then
any token is accepted after it.
-/
namespace ProcessIntelligence
open Js Logged

/-- A checkpoint, with what a resumption adds to it. -/
structure FailoverCheckpoint extends Checkpoint where
  materializedAtPort : Option JsString
  duplicateConsequentialEffects : Option ℕ

/-- A checkpoint as `execute` returns it. -/
def Checkpoint.initial (c : Checkpoint) : FailoverCheckpoint := ⟨c, none, none⟩

/-- `resumePostSynthesis(checkpoint, options)`. -/
def resumePostSynthesis (checkpoint : FailoverCheckpoint) (options : Json) : Outcome FailoverCheckpoint := do
  ensure (!options.isNull) .typeError
  let stale ← orThrow (lessOrEqual? (options.get "fencing_token") checkpoint.fencingToken) .typeError
  ensure (!stale) (.rejected "stale_failover_fencing_token")
  let port ← nonEmpty (options.get "port") "failover_port_invalid"
  pure { checkpoint with
    materializedAtPort := some port
    fencingToken := options.get "fencing_token"
    duplicateConsequentialEffects := some 0 }

/-- Resumptions one after another, each of the checkpoint before it. -/
def resumeAll (checkpoint : FailoverCheckpoint) : List Json → Outcome (List FailoverCheckpoint)
  | [] => pure []
  | options :: rest => do
    let next ← resumePostSynthesis checkpoint options
    let later ← resumeAll next rest
    pure (next :: later)

/-- A token is a number greater than the one before it. -/
def Exceeds (before token : Option Json) : Prop :=
  ∃ x y, before = some (.num x) ∧ token = some (.num y) ∧ x.toRat < y.toRat

/-- The tokens under which checkpoints are held. -/
def tokensOf (checkpoints : List FailoverCheckpoint) : List (Option Json) := checkpoints.map fun c => c.fencingToken

/-- Every token is a number strictly greater than all tokens before it. -/
def Fenced (tokens : List (Option Json)) : Prop := tokens.Pairwise Exceeds

instance : IsTrans (Option Json) Exceeds where
  trans := by
    rintro _ _ _ ⟨x, y, rfl, rfl, hxy⟩ ⟨y', z, hy, rfl, hyz⟩
    cases hy
    exact ⟨x, z, rfl, rfl, hxy.trans hyz⟩

theorem resumePostSynthesis_ok {checkpoint next : FailoverCheckpoint} {options : Json}
    (h : resumePostSynthesis checkpoint options = .ok next) :
    lessOrEqual? (options.get "fencing_token") checkpoint.fencingToken = some false ∧
      next.fencingToken = options.get "fencing_token" := by
  simp only [resumePostSynthesis, bind_eq_ok, ensure_eq_ok, orThrow_eq_ok, pure_eq_ok, Bool.not_eq_true'] at h
  obtain ⟨-, -, stale, hstale, -, rfl, -, -, rfl⟩ := h
  exact ⟨hstale, rfl⟩

/-- Between numbers, a resumption exceeds the checkpoint. -/
theorem exceeds_of_numbers {checkpoint next : FailoverCheckpoint} {options : Json}
    (h : resumePostSynthesis checkpoint options = .ok next) (hbefore : isNumber checkpoint.fencingToken)
    (htoken : isNumber (options.get "fencing_token")) : Exceeds checkpoint.fencingToken next.fencingToken := by
  obtain ⟨hfresh, hnext⟩ := resumePostSynthesis_ok h
  obtain ⟨x, hx⟩ := hbefore
  obtain ⟨y, hy⟩ := htoken
  rw [hx, hy, lessOrEqual?_num, Option.some.injEq, decide_eq_false_iff_not, not_le] at hfresh
  exact ⟨x, y, hx, hnext.trans hy, hfresh⟩

theorem tokensOf_resumeAll {checkpoint : FailoverCheckpoint} {options : List Json} {chain : List FailoverCheckpoint}
    (h : resumeAll checkpoint options = .ok chain) : tokensOf chain = options.map fun o => o.get "fencing_token" := by
  induction options generalizing checkpoint chain with
  | nil =>
    cases h
    rfl
  | cons o rest ih =>
    simp only [resumeAll, bind_eq_ok, pure_eq_ok] at h
    obtain ⟨next, hnext, later, hlater, rfl⟩ := h
    rw [tokensOf, List.map_cons, List.map_cons, (resumePostSynthesis_ok hnext).2]
    exact congrArg _ (ih hlater)

/-- A chain of resumptions under numbers is fenced. -/
theorem fenced_of_numbers {checkpoint : FailoverCheckpoint} {options : List Json} {chain : List FailoverCheckpoint}
    (h : resumeAll checkpoint options = .ok chain) (hbefore : isNumber checkpoint.fencingToken)
    (htokens : ∀ o ∈ options, isNumber (o.get "fencing_token")) : Fenced (checkpoint.fencingToken :: tokensOf chain) := by
  rw [Fenced, ← List.isChain_iff_pairwise]
  induction options generalizing checkpoint chain with
  | nil =>
    cases h
    exact .singleton _
  | cons o rest ih =>
    simp only [resumeAll, bind_eq_ok, pure_eq_ok] at h
    obtain ⟨next, hnext, later, hlater, rfl⟩ := h
    have htoken := htokens o List.mem_cons_self
    refine .cons_cons (exceeds_of_numbers hnext hbefore htoken) (ih hlater ?_ fun o' ho' => htokens o' (List.mem_cons_of_mem o ho'))
    rwa [(resumePostSynthesis_ok hnext).2]

/-- In a fenced chain that goes on, every token is a number. -/
theorem isNumber_of_fenced {before : Option Json} {tokens : List (Option Json)} (h : Fenced (before :: tokens)) (hne : tokens ≠ []) :
    ∀ t ∈ before :: tokens, isNumber t := by
  obtain ⟨hfirst, -⟩ := List.pairwise_cons.mp h
  obtain ⟨t, rest, rfl⟩ := List.exists_cons_of_ne_nil hne
  intro t' ht'
  rcases List.mem_cons.mp ht' with rfl | ht'
  · obtain ⟨x, -, hx, -⟩ := hfirst t List.mem_cons_self
    exact ⟨x, hx⟩
  · obtain ⟨-, y, -, hy, -⟩ := hfirst t' ht'
    exact ⟨y, hy⟩

section
variable {σ : Type} {digest : Synaptic.Digest} {engine : Engine} {ctx : RunContext} {readings : ℕ → Readings}
variable {options : RuntimeOptions} {env : Environment σ} {input : ExecuteInput}

/-- A checkpoint carries the fencing token that `execute` was called with. -/
theorem fencingToken_of_execute {records : List EdgeRecord} {s : σ} {dynamic : DynamicExecution}
    (h : (executeLogged digest engine ctx readings options env input records (s, [])).1 = .ok dynamic) :
    dynamic.checkpoint.fencingToken = input.fencingToken := by
  have htriple : Triple (fun _ => True) (executeLogged digest engine ctx readings options env input records)
      (fun dynamic _ => dynamic.checkpoint.fencingToken = input.fencingToken) fun _ => True :=
    .after fun _ => .after fun _ => .after fun _ => .pure fun _ _ => rfl
  cases hended : executeLogged digest engine ctx readings options env input records (s, []) with
  | mk result rest =>
    rw [hended] at h
    obtain rfl : result = .ok dynamic := h
    exact htriple.of_ok trivial hended

end

/-- The tokens of a chain of resumptions, after the one that the execution was called with, are strictly
increasing numbers exactly when they and that one are numbers. -/
theorem resumptions_fenced_iff {σ : Type} (digest : Synaptic.Digest) (engine : Engine) (ctx : RunContext) (readings : ℕ → Readings)
    (runtime : RuntimeOptions) (env : Environment σ) (input : ExecuteInput) (records : List EdgeRecord) (s : σ)
    {dynamic : DynamicExecution} {options : List Json} {chain : List FailoverCheckpoint}
    (hexecute : (executeLogged digest engine ctx readings runtime env input records (s, [])).1 = .ok dynamic)
    (hresume : resumeAll dynamic.checkpoint.initial options = .ok chain) :
    Fenced (dynamic.checkpoint.fencingToken :: tokensOf chain) ↔
      options = [] ∨ (isNumber input.fencingToken ∧ ∀ o ∈ options, isNumber (o.get "fencing_token")) := by
  have htoken := fencingToken_of_execute hexecute
  constructor
  · intro hfenced
    refine or_iff_not_imp_left.mpr fun hne => ?_
    have htokens := tokensOf_resumeAll hresume
    have hsome : tokensOf chain ≠ [] := by
      rw [htokens]
      exact fun hnil => hne (List.map_eq_nil_iff.mp hnil)
    have hnumbers := isNumber_of_fenced hfenced hsome
    rw [htokens, htoken] at hnumbers
    exact ⟨hnumbers _ List.mem_cons_self, fun o ho => hnumbers _ (List.mem_cons_of_mem _ (List.mem_map_of_mem ho))⟩
  · rintro (rfl | ⟨hbefore, htokens⟩)
    · cases hresume
      exact List.pairwise_singleton _ _
    · have hinitial : isNumber dynamic.checkpoint.initial.fencingToken := htoken ▸ hbefore
      exact fenced_of_numbers hresume hinitial htokens

namespace Sample

/-- Callbacks that let the skills run. -/
def quiet : Environment Unit where
  now := fun _ => (.ok (some (.int 0)), ())
  observe := fun _ _ _ _ => (.ok (.record []), ())
  isSuitable := fun _ _ _ => (.ok true, ())
  recompose := fun selected _ _ _ _ => (.ok selected, ())
  authorize := fun _ _ _ => (.ok (), ())
  skills := fun selected => (counting selected).map fun skill v observation _ => (.ok (skill v (some observation)), ())
  verify := fun _ _ => (.ok true, ())

/-- The two skills under the fencing token 1. -/
def fencedSkills : ExecuteInput := { twoSkills with fencingToken := some (.int 1) }

def executeQuiet : Outcome DynamicExecution :=
  (executeLogged Synaptic.Synaptizer.sampleDigest secondEngine taskContext still .default quiet fencedSkills [] ((), [])).1

theorem executeQuiet_ok : ∃ dynamic, executeQuiet = .ok dynamic := by
  have hturns : ∀ started, turns Synaptic.Synaptizer.sampleDigest secondEngine taskContext still .default quiet fencedSkills started
        ⟨fencedSkills.initialGraph, JsSet.empty, [], [], 0, 0, 0, fencedSkills.state, []⟩ =
      turnsFor Synaptic.Synaptizer.sampleDigest secondEngine taskContext still .default quiet fencedSkills started 6
        ⟨fencedSkills.initialGraph, JsSet.empty, [], [], 0, 0, 0, fencedSkills.state, []⟩ := fun _ => turns_eq_turnsFor (by decide)
  have hok : executeQuiet.isOk = true := by
    simp only [executeQuiet, executeLogged, hturns]
    decide +kernel
  cases hresult : executeQuiet with
  | error e =>
    rw [hresult] at hok
    cases hok
  | ok dynamic => exact ⟨dynamic, rfl⟩

def atPort (token : Option Json) : Json := .defined [("port", some (.text "PORT_2")), ("fencing_token", token)]

theorem get_atPort (token : Option Json) (name : String) :
    (atPort token).get name = ([("port", some (.text "PORT_2")), ("fencing_token", token)].lookup name).join :=
  Json.get_defined (by simp) name

/-- A token that is not refused is taken. -/
theorem resume_atPort {c : FailoverCheckpoint} {token : Option Json} (h : lessOrEqual? token c.fencingToken = some false) :
    ∃ next, resumePostSynthesis c (atPort token) = .ok next ∧ next.fencingToken = token := by
  have htoken : (atPort token).get "fencing_token" = token := get_atPort token "fencing_token"
  have hport : nonEmpty ((atPort token).get "port") "failover_port_invalid" = .ok (js "PORT_2") := by
    rw [get_atPort]
    exact nonEmpty_of_named (by decide +kernel) _
  refine ⟨{ c with materializedAtPort := some (js "PORT_2"), fencingToken := token, duplicateConsequentialEffects := some 0 }, ?_, rfl⟩
  simp only [resumePostSynthesis, bind_eq_ok, ensure_eq_ok, orThrow_eq_ok, pure_eq_ok]
  exact ⟨(), rfl, false, by rw [htoken]; exact h, (), rfl, _, hport, by rw [htoken]⟩

theorem resumeAll_two {c : FailoverCheckpoint} (token token' : Option Json) (h : lessOrEqual? token c.fencingToken = some false)
    (h' : lessOrEqual? token' token = some false) :
    ∃ chain, resumeAll c [atPort token, atPort token'] = .ok chain ∧ tokensOf chain = [token, token'] := by
  obtain ⟨next, hnext, htoken⟩ := resume_atPort h
  obtain ⟨last, hlast, htoken'⟩ := resume_atPort (c := next) (htoken.symm ▸ h')
  have hchain : resumeAll c [atPort token, atPort token'] = .ok [next, last] := by
    simp only [resumeAll, bind_eq_ok, pure_eq_ok]
    exact ⟨next, hnext, _, ⟨last, hlast, _, rfl, rfl⟩, rfl⟩
  exact ⟨_, hchain, by rw [tokensOf, List.map_cons, List.map_singleton, htoken, htoken']⟩

/-- The tokens 2 and 5 are accepted one after the other, and fence the checkpoint. -/
theorem two_five_fenced : ∃ dynamic chain, executeQuiet = .ok dynamic ∧
    resumeAll dynamic.checkpoint.initial [atPort (some (.int 2)), atPort (some (.int 5))] = .ok chain ∧
    Fenced (dynamic.checkpoint.fencingToken :: tokensOf chain) := by
  obtain ⟨dynamic, hexecute⟩ := executeQuiet_ok
  have htoken : dynamic.checkpoint.initial.fencingToken = some (.int 1) := fencingToken_of_execute hexecute
  obtain ⟨chain, hchain, -⟩ := resumeAll_two (c := dynamic.checkpoint.initial) (some (.int 2)) (some (.int 5))
    (htoken.symm ▸ by decide +kernel) (by decide +kernel)
  refine ⟨dynamic, chain, hexecute, hchain, (resumptions_fenced_iff Synaptic.Synaptizer.sampleDigest secondEngine taskContext still
    .default quiet fencedSkills [] () hexecute hchain).mpr (.inr ⟨⟨_, rfl⟩, fun o ho => ?_⟩)⟩
  simp only [List.mem_cons, List.not_mem_nil, or_false] at ho
  rcases ho with rfl | rfl
  · exact ⟨_, get_atPort _ _⟩
  · exact ⟨_, get_atPort _ _⟩

/-- After a missing token, the token of the checkpoint is accepted again. -/
theorem missing_then_same : ∃ dynamic chain, executeQuiet = .ok dynamic ∧
    resumeAll dynamic.checkpoint.initial [atPort none, atPort (some (.int 1))] = .ok chain ∧
    tokensOf chain = [none, dynamic.checkpoint.fencingToken] ∧ ¬ Fenced (dynamic.checkpoint.fencingToken :: tokensOf chain) := by
  obtain ⟨dynamic, hexecute⟩ := executeQuiet_ok
  have htoken : dynamic.checkpoint.initial.fencingToken = some (.int 1) := fencingToken_of_execute hexecute
  obtain ⟨chain, hchain, htokens⟩ := resumeAll_two (c := dynamic.checkpoint.initial) none (some (.int 1))
    (htoken.symm ▸ by decide +kernel) (by decide +kernel)
  have hsame : tokensOf chain = [none, dynamic.checkpoint.fencingToken] := htokens.trans (by rw [← htoken]; rfl)
  refine ⟨dynamic, chain, hexecute, hchain, hsame, fun hfenced => ?_⟩
  obtain ⟨x, hx⟩ := isNumber_of_fenced hfenced (by rw [hsame]; simp) none (by rw [hsame]; simp)
  cases hx

end Sample

end ProcessIntelligence
