import StrataPortNetwork.CognitiveBody.Compiler
import StrataPortNetwork.Synaptizer.Tally

/-! # What the compiler selects

The ports of a type that match an intent are listed once, by priority, then by the evidence for
them in the context, then by name. The plan starts from the first of each list and does not
depend on the order in which ports or relationships come.
-/
namespace CognitiveBody
open Js
open CognitiveState (coalesce)

/-! ## Evidence -/

/-- The relationships of a snapshot; none without a snapshot. -/
def relationshipsOf (snapshot : Json) : List Json := ((snapshot.get "relationships").bind Json.items?).getD []

/-- The exact evidence for a port in a context. -/
def evidence (snapshot contextRef : Json) (port : CognitivePort) : ℚ :=
  (((relationshipsOf snapshot).filter (isEvidence port contextRef)).map fun relationship => (reinforcementOf relationship).toRat).sum

/-- The score that the compiler gives a port. -/
def scoreOf (snapshot contextRef : Json) (port : CognitivePort) : JsNumber :=
  Synaptic.total (((relationshipsOf snapshot).filter (isEvidence port contextRef)).map reinforcementOf)

section
variable {snapshot contextRef : Json}

theorem toRat_scoreOf (port : CognitivePort) : (scoreOf snapshot contextRef port).toRat = evidence snapshot contextRef port := by
  rw [scoreOf, Synaptic.toRat_total, List.map_map]
  rfl

theorem isEvidence_of_no_targets {port : CognitivePort} (h : port.evidenceTargets.isEmpty = true) (contextRef relationship : Json) :
    isEvidence port contextRef relationship = false := by
  rw [isEvidence, List.isEmpty_iff.mp h]
  rfl

/-- Every score of a checked snapshot is the exact evidence. -/
theorem synapticEvidenceScore_eq (h : checkSnapshot snapshot = .ok ()) (port : CognitivePort) :
    synapticEvidenceScore port snapshot contextRef = .ok (scoreOf snapshot contextRef port) := by
  rw [checkSnapshot, ensure_eq_ok, Bool.or_eq_true, Bool.and_eq_true] at h
  unfold synapticEvidenceScore
  split
  · rename_i hnull
    cases snapshot with
    | null => rfl
    | bool _ | num _ | str _ | arr _ | obj _ => cases hnull
  · rename_i hnull
    obtain ⟨relationships, hrelationships⟩ := Option.isSome_iff_exists.mp (h.resolve_left hnull).1
    have hof : relationshipsOf snapshot = relationships := by rw [relationshipsOf, hrelationships, Option.getD_some]
    rw [hrelationships, scoreOf, hof]
    split
    · rename_i hempty
      have hnone : relationships.filter (isEvidence port contextRef) = [] :=
        List.filter_eq_nil_iff.mpr fun relationship _ => by rw [isEvidence_of_no_targets hempty]; exact Bool.false_ne_true
      rw [hnone]
      rfl
    · rfl

end

/-! ## Rank -/

/-- One port ranks before another: by priority, then by evidence, then by name. -/
def Outranks (collation : Collation) (snapshot contextRef : Json) (p q : CognitivePort) : Prop :=
  q.priority.toRat < p.priority.toRat ∨ q.priority = p.priority ∧
    (evidence snapshot contextRef q < evidence snapshot contextRef p ∨
      evidence snapshot contextRef q = evidence snapshot contextRef p ∧ collation.le p.portId q.portId = true)

/-- The comparator separates the names of the ports. -/
def Separated (collation : Collation) (ports : List CognitivePort) : Prop :=
  ports.Pairwise fun p q => ¬ (collation.le p.portId q.portId = true ∧ collation.le q.portId p.portId = true)

/-- The ports of a type that match an intent. -/
def candidates (ports : List CognitivePort) (portType : PortType) (intentClass : JsString) : List CognitivePort :=
  ports.filter fun port => port.portType == portType && matchesIntent port intentClass

section
variable {collation : Collation} {snapshot contextRef : Json} {ports : List CognitivePort} {portType : PortType} {intentClass : JsString}

theorem Outranks.total (collation : Collation) (snapshot contextRef : Json) (p q : CognitivePort) :
    Outranks collation snapshot contextRef p q ∨ Outranks collation snapshot contextRef q p := by
  unfold Outranks
  rcases lt_trichotomy q.priority.toRat p.priority.toRat with hlt | heq | hlt
  · exact .inl (.inl hlt)
  · have hpriority := JsNumber.toRat_injective heq
    rcases lt_trichotomy (evidence snapshot contextRef q) (evidence snapshot contextRef p) with hlt | heq | hlt
    · exact .inl (.inr ⟨hpriority, .inl hlt⟩)
    · rcases collation.total p.portId q.portId with hle | hle
      · exact .inl (.inr ⟨hpriority, .inr ⟨heq, hle⟩⟩)
      · exact .inr (.inr ⟨hpriority.symm, .inr ⟨heq.symm, hle⟩⟩)
    · exact .inr (.inr ⟨hpriority.symm, .inl hlt⟩)
  · exact .inr (.inl hlt)

theorem Outranks.trans {p q r : CognitivePort} (hpq : Outranks collation snapshot contextRef p q)
    (hqr : Outranks collation snapshot contextRef q r) : Outranks collation snapshot contextRef p r := by
  unfold Outranks at *
  rcases hpq with hpq | ⟨hpq, hpq'⟩
  · rcases hqr with hqr | ⟨hqr, -⟩
    · exact .inl (hqr.trans hpq)
    · exact .inl (hqr ▸ hpq)
  · rcases hqr with hqr | ⟨hqr, hqr'⟩
    · exact .inl (hpq ▸ hqr)
    · refine .inr ⟨hqr.trans hpq, ?_⟩
      rcases hpq' with hpq' | ⟨hpq', hle⟩
      · rcases hqr' with hqr' | ⟨hqr', -⟩
        · exact .inl (hqr'.trans hpq')
        · exact .inl (hqr' ▸ hpq')
      · rcases hqr' with hqr' | ⟨hqr', hle'⟩
        · exact .inl (hpq' ▸ hqr')
        · exact .inr ⟨hqr'.trans hpq', collation.trans _ _ _ hle hle'⟩

/-- Ports that rank before each other have names that compare as equal. -/
theorem Outranks.antisymm {p q : CognitivePort} (hpq : Outranks collation snapshot contextRef p q)
    (hqp : Outranks collation snapshot contextRef q p) :
    collation.le p.portId q.portId = true ∧ collation.le q.portId p.portId = true := by
  unfold Outranks at *
  rcases hpq with hpq | ⟨hpq, hpq'⟩
  · rcases hqp with hqp | ⟨hqp, -⟩
    · exact absurd hqp hpq.asymm
    · exact absurd hpq (hqp ▸ lt_irrefl _)
  · rcases hqp with hqp | ⟨-, hqp'⟩
    · exact absurd hqp (hpq ▸ lt_irrefl _)
    · rcases hpq' with hpq' | ⟨hpq', hle⟩
      · rcases hqp' with hqp' | ⟨hqp', -⟩
        · exact absurd hqp' hpq'.asymm
        · exact absurd hpq' (hqp' ▸ lt_irrefl _)
      · rcases hqp' with hqp' | ⟨-, hle'⟩
        · exact absurd hqp' (hpq' ▸ lt_irrefl _)
        · exact ⟨hle, hle'⟩

instance : Std.Total (Outranks collation snapshot contextRef) := ⟨Outranks.total collation snapshot contextRef⟩
instance : IsTrans CognitivePort (Outranks collation snapshot contextRef) := ⟨fun _ _ _ => Outranks.trans⟩

/-- The comparison of the compiler is the rank of the ports. -/
theorem ranksBefore_iff (p q : CognitivePort) :
    ranksBefore collation ⟨p, scoreOf snapshot contextRef p⟩ ⟨q, scoreOf snapshot contextRef q⟩ ↔
      Outranks collation snapshot contextRef p q := by
  have hne : ∀ {x y : JsNumber}, x ≠ y → (y.toRat ≤ x.toRat ↔ y.toRat < x.toRat) := by
    intro x y h
    exact ⟨fun hle => lt_of_le_of_ne hle fun heq => h (JsNumber.toRat_injective heq).symm, le_of_lt⟩
  have hirrefl : ∀ {x y : JsNumber}, x = y → ¬ y.toRat < x.toRat := fun h => h ▸ lt_irrefl _
  unfold ranksBefore Outranks
  by_cases hpriority : p.priority = q.priority
  · rw [if_neg (not_not_intro hpriority), or_iff_right (hirrefl hpriority), and_iff_right hpriority.symm, ← toRat_scoreOf, ← toRat_scoreOf]
    by_cases hscore : scoreOf snapshot contextRef p = scoreOf snapshot contextRef q
    · rw [if_neg (not_not_intro hscore), or_iff_right (hirrefl hscore), hscore, and_iff_right rfl]
    · rw [if_pos hscore, hne hscore, or_iff_left]
      exact fun h => hscore (JsNumber.toRat_injective h.1).symm
  · rw [if_pos hpriority, hne hpriority, or_iff_left]
    exact fun h => hpriority h.1.symm

/-! ## Rankings -/

variable (collation contextRef ports portType intentClass) in
/-- The ranking of a type of ports: its candidates by rank, with their scores. -/
theorem rankPorts_eq (h : checkSnapshot snapshot = .ok ()) : ∃ ranking : List CognitivePort,
    rankPorts collation ports portType intentClass snapshot contextRef =
      .ok (ranking.map fun port => ⟨port, scoreOf snapshot contextRef port⟩) ∧
    ranking.Perm (candidates ports portType intentClass) ∧ ranking.Pairwise (Outranks collation snapshot contextRef) := by
  classical
  have hmap : ∀ l : List CognitivePort, (l.mapM fun port => (do
      let score ← synapticEvidenceScore port snapshot contextRef
      pure ⟨port, score⟩ : Outcome RankedPort)) = .ok (l.map fun port => ⟨port, scoreOf snapshot contextRef port⟩) := by
    intro l
    induction l with
    | nil => rfl
    | cons port rest ih =>
      rw [List.mapM_cons, ih, synapticEvidenceScore_eq h]
      rfl
  refine ⟨(candidates ports portType intentClass).insertionSort (Outranks collation snapshot contextRef), ?_,
    List.perm_insertionSort _ _, List.pairwise_insertionSort _ _⟩
  rw [rankPorts, hmap]
  exact congrArg Except.ok (List.map_insertionSort _ _ _ _ fun p _ q _ => (ranksBefore_iff p q).symm).symm

theorem Separated.sublist {l : List CognitivePort} (h : Separated collation ports) (hl : l.Sublist ports) : Separated collation l :=
  List.Pairwise.sublist hl h

/-- Candidates in rank order are determined by what they are, not by the order they came in. -/
theorem ranking_unique {ranking ranking' : List CognitivePort} (hseparated : Separated collation ranking) (hperm : ranking.Perm ranking')
    (h : ranking.Pairwise (Outranks collation snapshot contextRef)) (h' : ranking'.Pairwise (Outranks collation snapshot contextRef)) :
    ranking = ranking' := by
  refine List.Perm.eq_of_pairwise (fun p q hp hq hpq hqp => ?_) h h' hperm
  by_contra hne
  have hsymm : Std.Symm fun p q : CognitivePort => ¬ (collation.le p.portId q.portId = true ∧ collation.le q.portId p.portId = true) :=
    ⟨fun _ _ h h' => h h'.symm⟩
  exact hseparated.forall hp (hperm.mem_iff.mpr hq) hne (Outranks.antisymm hpq hqp)

/-! ## Selection -/

/-- The first of the candidates of a type, if there is one. -/
def IsFirst (collation : Collation) (snapshot contextRef : Json) (ports : List CognitivePort) (portType : PortType)
    (intentClass : JsString) : Option CognitivePort → Prop
  | none => candidates ports portType intentClass = []
  | some port => port ∈ candidates ports portType intentClass ∧
      ∀ other ∈ candidates ports portType intentClass, other ≠ port → Outranks collation snapshot contextRef port other

theorem isFirst_head {ranking : List CognitivePort} (hperm : ranking.Perm (candidates ports portType intentClass))
    (h : ranking.Pairwise (Outranks collation snapshot contextRef)) :
    IsFirst collation snapshot contextRef ports portType intentClass ranking.head? := by
  cases ranking with
  | nil => exact List.perm_nil.mp hperm.symm
  | cons port rest =>
    refine ⟨hperm.mem_iff.mp List.mem_cons_self, fun other hother hne => ?_⟩
    have hmem := (List.mem_cons.mp (hperm.mem_iff.mpr hother)).resolve_left hne
    exact (List.pairwise_cons.mp h).1 other hmem

variable (collation contextRef ports portType intentClass) in
theorem selectOne_eq (h : checkSnapshot snapshot = .ok ()) : ∃ selected,
    selectOne collation ports portType intentClass snapshot contextRef = .ok selected ∧
    IsFirst collation snapshot contextRef ports portType intentClass selected := by
  obtain ⟨ranking, hranking, hperm, hpairwise⟩ := rankPorts_eq collation contextRef ports portType intentClass h
  refine ⟨ranking.head?, ?_, isFirst_head hperm hpairwise⟩
  rw [selectOne, hranking]
  cases ranking <;> rfl

/-! ## The order of ports and relationships -/

/-- The same snapshot up to the order of its relationships. -/
inductive Rearranged : Option Json → Option Json → Prop
  | same (snapshot : Option Json) : Rearranged snapshot snapshot
  | relationships {snapshot : Json} {relationships relationships' : List Json} (hget : snapshot.get "relationships" = some (.arr relationships))
      (h : relationships.Perm relationships') : Rearranged (some snapshot) (some (snapshot.set "relationships" (.arr relationships')))

/-- What the compiler reads of two snapshots that are the same up to the order of relationships. -/
structure ReadsAlike (snapshot snapshot' : Json) : Prop where
  relationships : (relationshipsOf snapshot).Perm (relationshipsOf snapshot')
  check : checkSnapshot snapshot = checkSnapshot snapshot'
  stateRoot : snapshot.get "state_root" = snapshot'.get "state_root"

theorem Rearranged.readsAlike {found found' : Option Json} (h : Rearranged found found') :
    ReadsAlike (coalesce found .null) (coalesce found' .null) := by
  cases h with
  | same => exact ⟨.refl _, rfl, rfl⟩
  | @relationships snapshot relationships relationships' hget h =>
    have hobject : ∃ fields, snapshot = .obj fields := by
      cases snapshot with
      | obj fields => exact ⟨fields, rfl⟩
      | null | bool _ | num _ | str _ | arr _ => cases hget
    obtain ⟨fields, rfl⟩ := hobject
    have hget' : ((Json.obj fields).set "relationships" (.arr relationships')).get "relationships" = some (.arr relationships') := by
      rw [Json.get_set, if_pos rfl]
    have hroot : ((Json.obj fields).set "relationships" (.arr relationships')).get "state_root" = (Json.obj fields).get "state_root" := by
      rw [Json.get_set, if_neg (by decide)]
    refine ⟨?_, ?_, hroot.symm⟩
    · change (relationshipsOf (.obj fields)).Perm (relationshipsOf ((Json.obj fields).set "relationships" (.arr relationships')))
      rw [relationshipsOf, relationshipsOf, hget, hget']
      exact h
    · change checkSnapshot (.obj fields) = checkSnapshot ((Json.obj fields).set "relationships" (.arr relationships'))
      rw [checkSnapshot, checkSnapshot, hget, hget', hroot]
      rfl

variable {snapshot' : Json} {ports' : List CognitivePort}

theorem ReadsAlike.scoreOf_eq (h : ReadsAlike snapshot snapshot') (port : CognitivePort) :
    scoreOf snapshot contextRef port = scoreOf snapshot' contextRef port :=
  Synaptic.total_perm ((h.relationships.filter _).map _)

theorem ReadsAlike.outranks_iff (h : ReadsAlike snapshot snapshot') (p q : CognitivePort) :
    Outranks collation snapshot contextRef p q ↔ Outranks collation snapshot' contextRef p q := by
  have hevidence : ∀ port, evidence snapshot contextRef port = evidence snapshot' contextRef port := by
    intro port
    rw [← toRat_scoreOf, ← toRat_scoreOf, h.scoreOf_eq]
  rw [Outranks, Outranks, hevidence, hevidence]

variable (contextRef intentClass) in
/-- A ranking does not depend on the order of the ports or of the relationships. -/
theorem rankPorts_congr_order (hseparated : Separated collation ports) (hports : ports.Perm ports') (h : ReadsAlike snapshot snapshot')
    (hcheck : checkSnapshot snapshot = .ok ()) (portType : PortType) :
    rankPorts collation ports' portType intentClass snapshot' contextRef =
      rankPorts collation ports portType intentClass snapshot contextRef := by
  obtain ⟨ranking, hranking, hperm, hpairwise⟩ := rankPorts_eq collation contextRef ports portType intentClass hcheck
  obtain ⟨ranking', hranking', hperm', hpairwise'⟩ := rankPorts_eq collation contextRef ports' portType intentClass (h.check ▸ hcheck)
  have hsymm : Std.Symm fun p q : CognitivePort => ¬ (collation.le p.portId q.portId = true ∧ collation.le q.portId p.portId = true) :=
    ⟨fun _ _ h h' => h h'.symm⟩
  have hcandidates : Separated collation ranking :=
    (hperm.pairwise_iff (fun h => hsymm.symm _ _ h)).mpr (hseparated.sublist (List.filter_sublist))
  have hsame : ranking = ranking' := by
    refine ranking_unique hcandidates (hperm.trans ((hports.filter _).trans hperm'.symm)) hpairwise ?_
    exact hpairwise'.imp fun hpq => (h.outranks_iff _ _).mpr hpq
  rw [hranking, hranking', hsame]
  exact congrArg Except.ok (List.map_congr_left fun port _ => by rw [h.scoreOf_eq])

end

section
variable {collation : Collation} {input : CompilerInput}

/-- A plan is made of the first ports of each type and of the ranking of the process ports. -/
structure Selects (collation : Collation) (input : CompilerInput) (plan : ActivationPlan) (intent process : CognitivePort)
    (cogniton verification : Option CognitivePort) : Prop where
  intent_first : IsFirst collation (coalesce input.synapticSnapshot .null) (coalesce input.contextRef .null) input.fabric.ports .intent
    input.intentClass (some intent)
  cogniton_first : IsFirst collation (coalesce input.synapticSnapshot .null) (coalesce input.contextRef .null) input.fabric.ports .cogniton
    input.intentClass cogniton
  process_first : IsFirst collation (coalesce input.synapticSnapshot .null) (coalesce input.contextRef .null) input.fabric.ports .process
    input.intentClass (some process)
  verification_first : IsFirst collation (coalesce input.synapticSnapshot .null) (coalesce input.contextRef .null) input.fabric.ports
    .verification input.intentClass verification
  process_port : plan.processPortId = process.portId
  pipeline : plan.activePortIds = intent.portId :: (cogniton.map CognitivePort.portId).toList ++
    process.portId :: (verification.map CognitivePort.portId).toList
  verification_required : plan.verificationRequired = true ↔
    input.verificationRequired ≠ some (.bool false) ∨ process.verificationRequired = true
  verification_port : plan.verificationRequired = true → verification.isSome = true

/-- The trace lists the candidates once, in rank order, with the evidence for them. -/
structure Traces (collation : Collation) (input : CompilerInput) (trace : List RankedPort) : Prop where
  once : (trace.map RankedPort.port).Nodup
  all : (trace.map RankedPort.port).Perm (candidates input.fabric.ports .process input.intentClass)
  ranked : trace.Pairwise fun r r' =>
    Outranks collation (coalesce input.synapticSnapshot .null) (coalesce input.contextRef .null) r.port r'.port
  scored : ∀ r ∈ trace, r.synapticScore.toRat =
    evidence (coalesce input.synapticSnapshot .null) (coalesce input.contextRef .null) r.port

theorem Separated.nodup {ports : List CognitivePort} (h : Separated collation ports) : ports.Nodup := by
  refine List.Pairwise.imp ?_ h
  rintro p q hpq rfl
  have hle : collation.le p.portId p.portId = true := (collation.total p.portId p.portId).elim id id
  exact hpq ⟨hle, hle⟩

theorem checkSnapshot_of_plan {p : ActivationPlan} (h : plan collation input = .ok p) :
    checkSnapshot (coalesce input.synapticSnapshot .null) = .ok () := by
  simp only [plan, bind_eq_ok] at h
  obtain ⟨-, -, _, hcheck, -⟩ := h
  exact hcheck

theorem plan_selects (hseparated : Separated collation input.fabric.ports) {p : ActivationPlan} (h : plan collation input = .ok p) :
    (∃ intent process cogniton verification, Selects collation input p intent process cogniton verification) ∧
      Traces collation input p.processSelectionTrace := by
  have hcheck := checkSnapshot_of_plan h
  obtain ⟨ranking, hranking, hperm, hpairwise⟩ := rankPorts_eq collation (coalesce input.contextRef .null) input.fabric.ports .process
    input.intentClass hcheck
  have hselect := fun portType => selectOne_eq collation (coalesce input.contextRef .null) input.fabric.ports portType
    input.intentClass hcheck
  obtain ⟨intent?, hintent, hfirstIntent⟩ := hselect .intent
  obtain ⟨cogniton?, hcogniton, hfirstCogniton⟩ := hselect .cogniton
  obtain ⟨verification?, hverification, hfirstVerification⟩ := hselect .verification
  simp only [plan, bind_eq_ok, hintent, hcogniton, hverification, hranking, Except.ok.injEq, exists_eq_left', orThrow_eq_ok, ensure_eq_ok,
    pure_eq_ok] at h
  obtain ⟨-, -, -, -, intent, rfl, process, hprocess, -, hrequired, rfl⟩ := h
  have hhead : ranking.head? = some process := by
    cases ranking with
    | nil => cases hprocess
    | cons port rest => exact hprocess
  have hfirstProcess := isFirst_head hperm hpairwise
  rw [hhead] at hfirstProcess
  refine ⟨⟨intent, process, cogniton?, verification?, hfirstIntent, hfirstCogniton, hfirstProcess, hfirstVerification, rfl, ?_, ?_, ?_⟩, ?_⟩
  · cases cogniton? <;> cases verification? <;> rfl
  · simp only [Bool.or_eq_true, Bool.not_eq_true']
    refine or_congr_left ?_
    rw [← Bool.not_eq_true, not_iff_not]
    constructor
    · exact Json.opt_eq_of_beq
    · intro hfalse
      rw [hfalse]
      rfl
  · intro hneeded
    have hflag : (!(input.verificationRequired == some (.bool false)) || process.verificationRequired) = true := hneeded
    rw [hflag] at hrequired
    exact hrequired
  · have hports : ((ranking.map fun port => (⟨port, scoreOf (coalesce input.synapticSnapshot .null) (coalesce input.contextRef .null) port⟩ :
        RankedPort)).map RankedPort.port) = ranking := by
      rw [List.map_map]
      exact List.map_id ranking
    refine ⟨?_, ?_, ?_, ?_⟩
    · rw [hports]
      exact hperm.nodup_iff.mpr ((hseparated.sublist List.filter_sublist).nodup)
    · rw [hports]
      exact hperm
    · rw [List.pairwise_map]
      exact hpairwise
    · exact List.forall_mem_map.mpr fun port _ => toRat_scoreOf port

/-- Plans do not depend on the order of ports or relationships. -/
theorem plan_congr_order (hseparated : Separated collation input.fabric.ports) {ports' : List CognitivePort} {snapshot' : Option Json}
    (hports : input.fabric.ports.Perm ports') (hsnapshot : Rearranged input.synapticSnapshot snapshot') {p : ActivationPlan}
    (h : plan collation input = .ok p) :
    plan collation { input with fabric := { input.fabric with ports := ports' }, synapticSnapshot := snapshot' } = .ok p := by
  have hcheck := checkSnapshot_of_plan h
  have halike := hsnapshot.readsAlike
  have hrank := rankPorts_congr_order (coalesce input.contextRef .null) input.intentClass hseparated hports halike hcheck
  rw [← h]
  simp only [plan, selectOne, hrank, ← halike.check, ← halike.stateRoot]

end

/-- A compilation that succeeds takes the first ports by priority, evidence and name, verifies
whenever the input or the process port asks for it, and traces all process ports in rank order;
neither the order of the ports nor that of the relationships matters. -/
theorem compile_selects (digest : Synaptic.Digest) (collation : Collation) (input : CompilerInput)
    (hseparated : Separated collation input.fabric.ports) {compiled : ActivationPlan × JsString}
    (h : compile digest collation input = .ok compiled) :
    (∃ intent process cogniton verification, Selects collation input compiled.1 intent process cogniton verification) ∧
    Traces collation input compiled.1.processSelectionTrace ∧
    ∀ ports' snapshot', input.fabric.ports.Perm ports' → Rearranged input.synapticSnapshot snapshot' →
      compile digest collation { input with fabric := { input.fabric with ports := ports' }, synapticSnapshot := snapshot' } =
        .ok compiled := by
  rw [compile, bind_eq_ok] at h
  obtain ⟨p, hplan, h⟩ := h
  have hcompiled : compiled.1 = p := by
    obtain ⟨root, -, hpure⟩ := bind_eq_ok.mp h
    exact (congrArg Prod.fst (Except.ok.inj hpure)).symm
  obtain ⟨hselects, htraces⟩ := plan_selects hseparated hplan
  rw [hcompiled]
  refine ⟨hselects, htraces, fun ports' snapshot' hports hsnapshot => ?_⟩
  rw [compile, plan_congr_order hseparated hports hsnapshot hplan]
  exact h

namespace Sample

def codeUnits : Collation := ⟨Json.leUnits, Json.leUnits_total, fun _ _ _ => Json.leUnits_trans⟩

def port (name : String) (portType : PortType) (priority : ℤ) (evidenceTargets : List JsString) : CognitivePort :=
  ⟨js name, portType, js "role", .int priority, [], evidenceTargets, false⟩

/-- Two process ports of one priority, with evidence for the second. -/
def ports : List CognitivePort := [port "intent" .intent 0 [], port "process-a" .process 1 [js "a"],
  port "process-b" .process 1 [js "b"], port "verification" .verification 0 []]

def relationship (target : String) (reinforcement : JsNumber) : Json :=
  .record [("target_component", .text target), ("context_ref", .null), ("reinforcement", .num reinforcement)]

def relationships : List Json := [relationship "b" (.reduce 15 1), relationship "a" (.int 1)]

def input : CompilerInput where
  intentClass := js "plan"
  graphStateRoot := js "graph"
  fabric := ⟨js "fabric", ports⟩
  synapticSnapshot := some (.record [("relationships", .arr relationships), ("state_root", .text "snapshot")])
  contextRef := none
  verificationRequired := none
  authorityScope := none

theorem separated_ports : Separated codeUnits ports := by
  unfold Separated
  decide +kernel

/-- The process port with more evidence is selected, in whatever order ports and relationships come. -/
theorem selects_b : ∃ compiled, compile StateModule.Sample.zeros codeUnits input = .ok compiled ∧
    compiled.1.processPortId = js "process-b" ∧ Traces codeUnits input compiled.1.processSelectionTrace ∧
    compile StateModule.Sample.zeros codeUnits { input with
      fabric := ⟨js "fabric", ports.reverse⟩
      synapticSnapshot := some ((Json.record [("relationships", .arr relationships), ("state_root", .text "snapshot")]).set
        "relationships" (.arr relationships.reverse)) } = .ok compiled := by
  have hprocess : ((compile StateModule.Sample.zeros codeUnits input).map fun compiled => compiled.1.processPortId).toOption =
      some (js "process-b") := by decide +kernel
  cases hcompiled : compile StateModule.Sample.zeros codeUnits input with
  | error e =>
    rw [hcompiled] at hprocess
    cases hprocess
  | ok compiled =>
    rw [hcompiled] at hprocess
    obtain ⟨-, htraces, horder⟩ := compile_selects StateModule.Sample.zeros codeUnits input separated_ports hcompiled
    have hget : (Json.record [("relationships", .arr relationships), ("state_root", .text "snapshot")]).get "relationships" =
        some (.arr relationships) := by simp
    have hrearranged := Rearranged.relationships hget (List.reverse_perm relationships).symm
    exact ⟨compiled, rfl, Option.some.inj hprocess, htraces, horder _ _ (List.reverse_perm ports).symm hrearranged⟩

end Sample

end CognitiveBody
