import StrataPortNetwork.CognitiveState.RoundTrip
import StrataPortNetwork.FileSystem
import StrataPortNetwork.Transition

/-! # Saves in flight

The saves of one process to one path write the same temporary file and rename it. The steps
of several saves come in any order. As long as no save opens the temporary file while
another one is between its open and its rename, the state file is always the complete
envelope of one save.
-/
namespace CognitiveState
open Js FileSystem

inductive Stage
  | opening
  /-- The temporary file is open, and so much of it is written. -/
  | writing (file written : ℕ)
  | renaming
  | resolved
  | rejected

/-- A save between its open and its rename. -/
def Stage.InFlight : Stage → Prop
  | .writing _ _ | .renaming => True
  | .opening | .resolved | .rejected => False

/-- A save that was accepted. -/
structure Call where
  saved : Saved
  stage : Stage

structure Process where
  disk : Disk JsString UInt8
  calls : ℕ → Option Call
  /-- The renames that succeeded, with the content that they put in place. -/
  renamed : List (ℕ × Option Bytes)

inductive Event
  | call (id : ℕ) (request : SaveRequest)
  | opens (id : ℕ)
  /-- A piece of at most so many bytes. -/
  | writes (id count : ℕ)
  | closes (id : ℕ)
  | renames (id : ℕ)
  /-- A file operation of the save fails. -/
  | fails (id : ℕ)

/-- The stores of a process that share a path. -/
structure Place where
  path : JsString
  pid : ℕ

def Place.temporaryPath (place : Place) : JsString := place.path ++ js ".tmp-" ++ natText place.pid

namespace Process

def setCall (p : Process) (id : ℕ) (call : Call) : Process := { p with calls := Function.update p.calls id (some call) }

theorem setCall_calls (p : Process) (id : ℕ) (call : Call) (other : ℕ) :
    (p.setCall id call).calls other = if other = id then some call else p.calls other := Function.update_apply ..

@[simp] theorem setCall_disk (p : Process) (id : ℕ) (call : Call) : (p.setCall id call).disk = p.disk := rfl
@[simp] theorem setCall_renamed (p : Process) (id : ℕ) (call : Call) : (p.setCall id call).renamed = p.renamed := rfl

variable (sha256 : Bytes → JsString) (place : Place)

/-- One step of one save. -/
def step (p : Process) : Event → Process
  | .call id request =>
    match p.calls id, save sha256 request with
    | none, .ok saved => p.setCall id ⟨saved, .opening⟩
    | _, _ => p
  | .opens id =>
    match p.calls id with
    | some ⟨saved, .opening⟩ =>
      let (disk, file) := p.disk.truncate place.temporaryPath
      { p with disk := disk }.setCall id ⟨saved, .writing file 0⟩
    | _ => p
  | .writes id count =>
    match p.calls id with
    | some ⟨saved, .writing file written⟩ =>
      let piece := (saved.file.drop written).take count
      { p with disk := p.disk.write file (overwrite 0 (p.disk.contents file) written piece) }.setCall id
        ⟨saved, .writing file (written + piece.length)⟩
    | _ => p
  | .closes id =>
    match p.calls id with
    | some ⟨saved, .writing _ written⟩ => if written = saved.file.length then p.setCall id ⟨saved, .renaming⟩ else p
    | _ => p
  | .renames id =>
    match p.calls id with
    | some ⟨saved, .renaming⟩ =>
      match p.disk.entries place.temporaryPath with
      | some _ =>
        let disk := p.disk.rename place.temporaryPath place.path
        { p with disk := disk, renamed := p.renamed ++ [(id, disk.read place.path)] }.setCall id ⟨saved, .resolved⟩
      -- another save has renamed the file away
      | none => p.setCall id ⟨saved, .rejected⟩
    | _ => p
  | .fails id =>
    match p.calls id with
    | some ⟨saved, .opening⟩ | some ⟨saved, .writing _ _⟩ | some ⟨saved, .renaming⟩ => p.setCall id ⟨saved, .rejected⟩
    | _ => p

end Process

/-- No save opens the temporary file while another one is between its open and its rename. -/
def Apart (p : Process) : Event → Prop
  | .opens id => ∀ other call, other ≠ id → p.calls other = some call → ¬ call.stage.InFlight
  | _ => True

/-- The state file, if it exists, is the complete envelope of a save, and each save that
resolved had its own envelope in place when it renamed. -/
structure Atomic (place : Place) (p : Process) : Prop where
  file : ∀ content, p.disk.read place.path = some content → ∃ id call, p.calls id = some call ∧ content = call.saved.file
  renamed : ∀ id content, (id, content) ∈ p.renamed → ∃ call, p.calls id = some call ∧ content = some call.saved.file
  resolved : ∀ id call, p.calls id = some call → call.stage = .resolved → (id, some call.saved.file) ∈ p.renamed

/-- What the temporary file holds for a save in flight. -/
def Prepared (place : Place) (disk : Disk JsString UInt8) (call : Call) : Prop :=
  match call.stage with
  | .writing file written => disk.entries place.temporaryPath = some file ∧ disk.contents file = call.saved.file.take written ∧
      written ≤ call.saved.file.length
  | .renaming => disk.read place.temporaryPath = some call.saved.file
  | .opening | .resolved | .rejected => True

/-- The invariant of saves whose windows do not overlap. -/
structure InTurn (place : Place) (p : Process) : Prop where
  atomic : Atomic place p
  prepared : ∀ id call, p.calls id = some call → Prepared place p.disk call
  alone : ∀ id id' call call', p.calls id = some call → p.calls id' = some call' → call.stage.InFlight → call'.stage.InFlight → id = id'

theorem Place.path_ne (place : Place) : place.path ≠ place.temporaryPath := by
  intro h
  have hlength := congrArg List.length h
  have hsuffix : (js ".tmp-").length = 5 := by decide
  rw [temporaryPath, List.length_append, List.length_append, hsuffix] at hlength
  omega

theorem prepared_of_not_inFlight {place : Place} {disk : Disk JsString UInt8} {call : Call} (h : ¬ call.stage.InFlight) :
    Prepared place disk call := by
  rcases call with ⟨saved, _ | _ | _ | _ | _⟩
  · trivial
  · exact absurd trivial h
  · exact absurd trivial h
  · trivial
  · trivial

section
open Process
variable {place : Place} {p : Process} {id : ℕ} {call : Call} {disk : Disk JsString UInt8}

theorem calls_setCall (hsame : ∀ old, p.calls id = some old → old.saved = call.saved) (other : ℕ) (old : Call)
    (hold : p.calls other = some old) : ∃ new, (p.setCall id call).calls other = some new ∧ old.saved = new.saved := by
  rw [setCall_calls]
  split
  · rename_i heq
    exact ⟨call, rfl, hsame old (heq ▸ hold)⟩
  · exact ⟨old, hold, rfl⟩

/-- A save that goes on without resolving leaves the state file and the finished saves as they are. -/
theorem Atomic.setCall (h : Atomic place p) (hread : disk.read place.path = p.disk.read place.path)
    (hsame : ∀ old, p.calls id = some old → old.saved = call.saved ∧ old.stage ≠ .resolved) (hstage : call.stage ≠ .resolved) :
    Atomic place ({ p with disk := disk }.setCall id call) := by
  have hkept := fun other old hold => calls_setCall (fun old hold => (hsame old hold).1) other old hold
  constructor
  · intro content hcontent
    obtain ⟨other, old, hold, rfl⟩ := h.file content (hread ▸ hcontent)
    obtain ⟨new, hnew, hsaved⟩ := hkept other old hold
    exact ⟨other, new, hnew, by rw [hsaved]⟩
  · intro other content hmem
    obtain ⟨old, hold, rfl⟩ := h.renamed other content hmem
    obtain ⟨new, hnew, hsaved⟩ := hkept other old hold
    exact ⟨new, hnew, by rw [hsaved]⟩
  · intro other new hnew hresolved
    rw [setCall_calls] at hnew
    split at hnew
    · cases hnew
      exact absurd hresolved hstage
    · exact h.resolved other new hnew hresolved

/-- A save goes on while no other save is in flight, or without touching the disk. -/
theorem InTurn.setCall (h : InTurn place p) (hread : disk.read place.path = p.disk.read place.path)
    (hsame : ∀ old, p.calls id = some old → old.saved = call.saved ∧ old.stage ≠ .resolved) (hstage : call.stage ≠ .resolved)
    (hprepared : Prepared place disk call)
    (hothers : ∀ other old, other ≠ id → p.calls other = some old → old.stage.InFlight → disk = p.disk ∧ ¬ call.stage.InFlight) :
    InTurn place ({ p with disk := disk }.setCall id call) := by
  refine ⟨h.atomic.setCall hread hsame hstage, ?_, ?_⟩
  · intro other new hnew
    rw [setCall_calls] at hnew
    split at hnew
    · cases hnew
      exact hprepared
    · rename_i hne
      by_cases hflight : new.stage.InFlight
      · change Prepared place disk new
        rw [(hothers other new hne hnew hflight).1]
        exact h.prepared other new hnew
      · exact prepared_of_not_inFlight hflight
  · intro other other' new new' hnew hnew' hflight hflight'
    rw [setCall_calls] at hnew hnew'
    split at hnew <;> split at hnew'
    · rename_i heq heq'
      exact heq.trans heq'.symm
    · rename_i hne
      cases hnew
      exact absurd hflight (hothers other' new' hne hnew' hflight').2
    · rename_i hne heq
      cases hnew'
      exact absurd hflight' (hothers other new hne hnew hflight).2
    · exact h.alone other other' new new' hnew hnew' hflight hflight'

/-- The save that renames is the only one in flight, so the temporary file is its own. -/
theorem InTurn.renames (h : InTurn place p) {saved : Saved} (hcall : p.calls id = some ⟨saved, .renaming⟩) :
    InTurn place ({ p with
      disk := p.disk.rename place.temporaryPath place.path
      renamed := p.renamed ++ [(id, (p.disk.rename place.temporaryPath place.path).read place.path)] }.setCall id ⟨saved, .resolved⟩) := by
  have hread : p.disk.read place.temporaryPath = some saved.file := h.prepared id _ hcall
  have hothers : ∀ other old, other ≠ id → p.calls other = some old → ¬ old.stage.InFlight := by
    intro other old hne hold hflight
    exact hne (h.alone other id old _ hold hcall hflight trivial)
  have hsame : ∀ old, p.calls id = some old → old.saved = saved := by
    intro old hold
    rw [hcall, Option.some.injEq] at hold
    rw [← hold]
  have hkept : ∀ other old, p.calls other = some old →
      ∃ new, (p.setCall id ⟨saved, .resolved⟩).calls other = some new ∧ old.saved = new.saved := calls_setCall hsame
  have hplaced : (p.disk.rename place.temporaryPath place.path).read place.path = some saved.file := by
    rw [Disk.read_rename, hread]
  refine ⟨⟨?_, ?_, ?_⟩, ?_, ?_⟩
  · intro content hcontent
    exact ⟨id, ⟨saved, .resolved⟩, by rw [setCall_calls, if_pos rfl], Option.some.inj (hcontent.symm.trans hplaced)⟩
  · intro other content hmem
    rcases List.mem_append.mp hmem with hmem | hmem
    · obtain ⟨old, hold, rfl⟩ := h.atomic.renamed other content hmem
      obtain ⟨new, hnew, hsaved⟩ := hkept other old hold
      exact ⟨new, hnew, by rw [hsaved]⟩
    · rw [List.mem_singleton, Prod.mk.injEq] at hmem
      obtain ⟨rfl, rfl⟩ := hmem
      exact ⟨_, by rw [setCall_calls, if_pos rfl], hplaced⟩
  · intro other new hnew hresolved
    rw [setCall_calls] at hnew
    split at hnew
    · rename_i heq
      cases hnew
      exact List.mem_append_right _ (List.mem_singleton.mpr (Prod.ext heq hplaced.symm))
    · exact List.mem_append_left _ (h.atomic.resolved other new hnew hresolved)
  · intro other new hnew
    rw [setCall_calls] at hnew
    split at hnew
    · cases hnew
      trivial
    · rename_i hne
      exact prepared_of_not_inFlight (hothers other new hne hnew)
  · intro other other' new new' hnew hnew' hflight
    rw [setCall_calls] at hnew
    split at hnew
    · cases hnew
      exact False.elim hflight
    · rename_i hne
      exact absurd hflight (hothers other new hne hnew)

variable {sha256 : Bytes → JsString}

theorem path_not_file {n : ℕ} (h : p.disk.entries place.temporaryPath = some n) : p.disk.entries place.path ≠ some n :=
  fun hpath => place.path_ne (p.disk.single hpath h)

theorem unresolved_of {saved : Saved} {stage : Stage} (hcall : p.calls id = some ⟨saved, stage⟩) (hstage : stage ≠ .resolved)
    (old : Call) (hold : p.calls id = some old) : old.saved = saved ∧ old.stage ≠ .resolved := by
  rw [hcall, Option.some.injEq] at hold
  exact hold ▸ ⟨rfl, hstage⟩

theorem InTurn.rejects (h : InTurn place p) {saved : Saved} {stage : Stage} (hcall : p.calls id = some ⟨saved, stage⟩)
    (hstage : stage ≠ .resolved) : InTurn place (p.setCall id ⟨saved, .rejected⟩) :=
  h.setCall rfl (unresolved_of hcall hstage) (by simp) trivial fun _ _ _ _ _ => ⟨rfl, not_false⟩

/-- A save in flight goes on with its own temporary file. -/
theorem InTurn.proceeds (h : InTurn place p) {saved : Saved} {stage stage' : Stage} (hcall : p.calls id = some ⟨saved, stage⟩)
    (hflight : stage.InFlight) (hflight' : stage'.InFlight) (hread : disk.read place.path = p.disk.read place.path)
    (hprepared : Prepared place disk ⟨saved, stage'⟩) : InTurn place ({ p with disk := disk }.setCall id ⟨saved, stage'⟩) := by
  have hnot : ∀ {stage : Stage}, stage.InFlight → stage ≠ .resolved := by
    rintro _ hstage rfl
    exact hstage
  refine h.setCall hread (unresolved_of hcall (hnot hflight)) (hnot hflight') hprepared ?_
  exact fun other old hne hold hold_flight => absurd (h.alone other id old _ hold hcall hold_flight hflight) hne

theorem Prepared.writes {saved : Saved} {file written : ℕ} (h : Prepared place disk ⟨saved, .writing file written⟩) (count : ℕ) :
    let piece := (saved.file.drop written).take count
    Prepared place (disk.write file (overwrite 0 (disk.contents file) written piece))
      ⟨saved, .writing file (written + piece.length)⟩ := by
  intro piece
  obtain ⟨hentry, hcontent, hle⟩ := h
  have hlength : (disk.contents file).length = written := by
    rw [hcontent, List.length_take]
    exact Nat.min_eq_left hle
  have hpiece : piece.length = min count (saved.file.length - written) := by
    rw [List.length_take, List.length_drop]
  have hover : overwrite 0 (disk.contents file) written piece = disk.contents file ++ piece := by
    have := overwrite_length 0 (disk.contents file) piece
    rwa [hlength] at this
  refine ⟨hentry, ?_, ?_⟩
  · rw [Disk.write_contents, hover, hcontent]
    change saved.file.take written ++ piece = saved.file.take (written + piece.length)
    rw [List.take_add, hpiece, ← List.length_drop, ← List.take_eq_take_min]
  · change written + piece.length ≤ saved.file.length
    change written ≤ saved.file.length at hle
    omega

/-- One step keeps the saves in turn, unless it opens the temporary file of another one. -/
theorem InTurn.step (event : Event) (hapart : Apart p event) (h : InTurn place p) : InTurn place (p.step sha256 place event) := by
  cases event with
  | call id request =>
    simp only [Process.step]
    split
    · rename_i saved hfree _
      refine h.setCall rfl (fun old hold => ?_) (by simp) trivial fun _ _ _ _ _ => ⟨rfl, not_false⟩
      rw [hfree] at hold
      cases hold
    · exact h
  | opens id =>
    simp only [Process.step]
    split
    · rename_i saved hcall
      obtain ⟨hentry, hempty⟩ := p.disk.truncate_spec place.temporaryPath
      refine h.setCall (Disk.read_truncate _ place.path_ne) (unresolved_of hcall (by simp)) (by simp)
        ⟨hentry, hempty, Nat.zero_le _⟩ ?_
      exact fun other old hne hold hflight => absurd hflight (hapart other old hne hold)
    · exact h
  | writes id count =>
    simp only [Process.step]
    split
    · rename_i saved file written hcall
      have hprepared := h.prepared id _ hcall
      exact h.proceeds hcall trivial trivial (Disk.read_write (path_not_file hprepared.1) _) (hprepared.writes count)
    · exact h
  | closes id =>
    simp only [Process.step]
    split
    · rename_i saved file written hcall
      split
      · rename_i hwritten
        obtain ⟨hentry, hcontent, -⟩ := h.prepared id _ hcall
        refine h.proceeds hcall trivial trivial rfl ?_
        change p.disk.read place.temporaryPath = some saved.file
        rw [Disk.read, hentry, Option.map_some, hcontent, hwritten, List.take_length]
      · exact h
    · exact h
  | renames id =>
    simp only [Process.step]
    split
    · rename_i saved hcall
      split
      · exact h.renames hcall
      · exact h.rejects hcall (by simp)
    · exact h
  | fails id =>
    simp only [Process.step]
    split
    · rename_i saved hcall
      exact h.rejects hcall (by simp)
    · rename_i saved file written hcall
      exact h.rejects hcall (by simp)
    · rename_i saved hcall
      exact h.rejects hcall (by simp)
    · exact h

/-- The process before any save. -/
def started (disk : Disk JsString UInt8) : Process := ⟨disk, fun _ => none, []⟩

theorem inTurn_started (hfree : disk.entries place.path = none) : InTurn place (started disk) := by
  refine ⟨⟨fun content hcontent => ?_, fun id content hmem => ?_, fun id call hcall => ?_⟩, fun id call hcall => ?_,
    fun id _ call _ hcall => ?_⟩
  · change (disk.entries place.path).map disk.contents = some content at hcontent
    rw [hfree] at hcontent
    cases hcontent
  · cases hmem
  · cases hcall
  · cases hcall
  · cases hcall

/-- In every run that starts without a state file and whose saves open the temporary file one
after the other's rename, the state file is always the complete envelope of one save, and
each save that resolves had its own envelope in place when it renamed. -/
theorem saves_atomic (hfree : disk.entries place.path = none) (events : List Event)
    (hapart : Transition.Steps (Process.step sha256 place) Apart (started disk) events) :
    Atomic place (Transition.run (Process.step sha256 place) (started disk) events) := by
  have hstep : ∀ p event, Apart p event → InTurn place p → InTurn place (Process.step sha256 place p event) :=
    fun p event hapart h => h.step event hapart
  exact (Transition.run_invariant_of_steps hstep (inTurn_started hfree) hapart).atomic

/-! ## Overlapping saves -/

/-- A save that is called goes as far as its rename, whatever the other saves do later. -/
theorem calls_prepares {saved : Saved} (hcall : p.calls id = some ⟨saved, .opening⟩) (other : ℕ) :
    (Transition.run (Process.step sha256 place) p [.opens id, .writes id saved.file.length, .closes id]).calls other =
      if other = id then some ⟨saved, .renaming⟩ else p.calls other := by
  by_cases hother : other = id
  · simp [Transition.run, Process.step, hcall, setCall_calls, hother]
  · simp [Transition.run, Process.step, hcall, setCall_calls, hother]

theorem file_ne_nil {request : SaveRequest} {saved : Saved} (h : save sha256 request = .ok saved) : saved.file ≠ [] := by
  obtain ⟨-, -, -, -, -, -, -, envelope, -, rfl⟩ := save_eq_ok h
  rw [utf8Encode_append_ascii _ (by decide)]
  exact List.append_ne_nil_of_right_ne_nil _ (List.cons_ne_nil _ _)

/-- A save that opens the temporary file before another one renames it leaves that one with an
empty state file. -/
theorem overlap_empties {saved saved' : Saved} {id' : ℕ} (hne : id ≠ id') (hcall : p.calls id = some ⟨saved, .renaming⟩)
    (hcall' : p.calls id' = some ⟨saved', .opening⟩) :
    let p' := Transition.run (Process.step sha256 place) p [.opens id', .renames id]
    (id, some []) ∈ p'.renamed ∧ p'.calls id = some ⟨saved, .resolved⟩ := by
  obtain ⟨hentry, hempty⟩ := p.disk.truncate_spec place.temporaryPath
  have hread : (p.disk.truncate place.temporaryPath).1.read place.temporaryPath = some [] := by
    rw [Disk.read, hentry, Option.map_some, hempty]
  simp [Transition.run, Process.step, hcall, hcall', setCall_calls, hne, hentry, Disk.read_rename, hread]

end

/-! ## A sample of overlapping saves -/

namespace Sample

def place : Place := ⟨js "state.json", 7⟩

def emptyDisk : Disk JsString UInt8 where
  entries _ := none
  contents _ := []
  next := 0
  below h := by cases h
  single h := by cases h

/-- One save from its call to its rename. -/
def alone : List Event := [.call 0 (request none), .opens 0, .writes 0 1000000, .closes 0, .renames 0]

theorem saves_atomic_alone : Atomic place (Transition.run (Process.step sha256 place) (started emptyDisk) alone) := by
  refine saves_atomic rfl alone ?_
  obtain ⟨saved, hsaved⟩ := request_saved none
  have hother : ∀ (other : ℕ) (call : Call), other ≠ 0 →
      ((started emptyDisk).setCall 0 ⟨saved, .opening⟩).calls other ≠ some call := by
    intro other call hne h
    rw [Process.setCall_calls, if_neg hne] at h
    cases h
  simp only [alone, Transition.Steps, Apart, true_and, and_true]
  intro other call hne hcall
  simp only [Process.step, started, hsaved] at hcall
  exact absurd hcall (hother other call hne)

def fileLength : ℕ := ((save sha256 (request none)).toOption.map fun saved => saved.file.length).getD 0

/-- The second save opens the temporary file that the first one is about to rename. -/
def overlapping : List Event :=
  [.call 0 (request none), .call 1 (request none), .opens 0, .writes 0 fileLength, .closes 0, .opens 1, .renames 0]

/-- The first save resolves, with an empty state file in place. -/
theorem overlapping_not_atomic : ¬ Atomic place (Transition.run (Process.step sha256 place) (started emptyDisk) overlapping) := by
  obtain ⟨saved, hsaved⟩ := request_saved none
  have hlength : fileLength = saved.file.length := by
    rw [fileLength, hsaved]
    rfl
  let called := Transition.run (Process.step sha256 place) (started emptyDisk) [.call 0 (request none), .call 1 (request none)]
  have hcalled : called.calls 0 = some ⟨saved, .opening⟩ ∧ called.calls 1 = some ⟨saved, .opening⟩ := by
    simp [called, Transition.run, Process.step, hsaved, started, Process.setCall_calls]
  let prepared := Transition.run (Process.step sha256 place) called [.opens 0, .writes 0 saved.file.length, .closes 0]
  have hprepared : ∀ other, prepared.calls other = if other = 0 then some ⟨saved, .renaming⟩ else called.calls other :=
    calls_prepares hcalled.1
  have hoverlap : _ ∧ (Transition.run (Process.step sha256 place) prepared [.opens 1, .renames 0]).calls 0 = _ :=
    overlap_empties (by decide) (hprepared 0) ((hprepared 1).trans hcalled.2)
  intro h
  have hwhole : Transition.run (Process.step sha256 place) (started emptyDisk) overlapping =
      Transition.run (Process.step sha256 place) prepared [.opens 1, .renames 0] := by
    rw [overlapping, hlength]
    rfl
  rw [hwhole] at h
  obtain ⟨call, hcall, hempty⟩ := h.renamed 0 (some []) hoverlap.1
  rw [hoverlap.2, Option.some.injEq] at hcall
  rw [← hcall, Option.some.injEq] at hempty
  exact file_ne_nil hsaved hempty.symm

end Sample

end CognitiveState
