import Mathlib.Data.List.Basic
import Mathlib.Tactic.Common

/-! # Computations that log their calls

A computation calls into an environment of unknown behaviour, which answers or throws and may
change its own state; every call is logged. A triple says what a computation makes of a log,
however the environment answers and however the computation ends.
-/
namespace Logged
variable {σ ε φ α β : Type}

/-- A computation that may fail with `φ`, in an environment of states `σ`, with a log of `ε`. -/
abbrev Act (σ ε φ α : Type) := ExceptT φ (StateM (σ × List ε)) α

/-- A call of the environment, with the entry that its answer makes. -/
def call (reply : σ → Except φ α × σ) (entry : Except φ α → ε) : Act σ ε φ α :=
  fun s => ((reply s.1).1, (reply s.1).2, s.2 ++ [entry (reply s.1).1])

/-- An entry of its own. -/
def note (entry : ε) : Act σ ε φ Unit := fun s => (.ok (), s.1, s.2 ++ [entry])

/-- A computation that calls nothing. -/
def only (x : Except φ α) : Act σ ε φ α := fun s => (x, s)

theorem bind_apply (x : Act σ ε φ α) (f : α → Act σ ε φ β) (s : σ × List ε) : (x >>= f) s = match x s with
    | (.ok a, s') => f a s'
    | (.error e, s') => (.error e, s') := by
  change ExceptT.bind x f s = _
  simp only [ExceptT.bind, ExceptT.mk, Bind.bind, StateT.bind]
  cases x s with
  | mk result rest => cases result <;> rfl

/-- From a log with `P`, a computation that returns `a` leaves one with `Q a`, one that fails one with `E`. -/
def Triple (P : List ε → Prop) (x : Act σ ε φ α) (Q : α → List ε → Prop) (E : List ε → Prop) : Prop :=
  ∀ s log, P log → match x (s, log) with
    | (.ok a, _, log') => Q a log'
    | (.error _, _, log') => E log'

namespace Triple
variable {P P' : List ε → Prop} {Q Q' : α → List ε → Prop} {R : β → List ε → Prop} {E : List ε → Prop}

theorem bind {x : Act σ ε φ α} {f : α → Act σ ε φ β} (hx : Triple P x Q E) (hf : ∀ a, Triple (Q a) (f a) R E) :
    Triple P (x >>= f) R E := by
  intro s log hlog
  have hstep := hx s log hlog
  rw [bind_apply]
  cases hresult : x (s, log) with
  | mk result rest =>
    rw [hresult] at hstep
    cases result with
    | error e => exact hstep
    | ok a => exact hf a rest.1 rest.2 hstep

theorem pure {a : α} (h : ∀ log, P log → Q a log) : Triple P (Pure.pure a : Act σ ε φ α) Q E := fun _ log hlog => h log hlog

theorem only {x : Except φ α} (hok : ∀ a log, x = .ok a → P log → Q a log) (herror : ∀ log, P log → E log) :
    Triple P (only x : Act σ ε φ α) Q E := by
  intro s log hlog
  cases x with
  | error e => exact herror log hlog
  | ok a => exact hok a log rfl hlog

theorem note {entry : ε} {Q : Unit → List ε → Prop} (h : ∀ log, P log → Q () (log ++ [entry])) :
    Triple P (note entry : Act σ ε φ Unit) Q E := fun _ log hlog => h log hlog

theorem call {reply : σ → Except φ α × σ} {entry : Except φ α → ε} (hok : ∀ a log, P log → Q a (log ++ [entry (.ok a)]))
    (herror : ∀ e log, P log → E (log ++ [entry (.error e)])) : Triple P (call reply entry) Q E := by
  intro s log hlog
  unfold Logged.call
  cases hreply : (reply s).1 with
  | error e => exact herror e log hlog
  | ok a => exact hok a log hlog

theorem weaken {x : Act σ ε φ α} (h : Triple P x Q E) (hpre : ∀ log, P' log → P log) (hpost : ∀ a log, Q a log → Q' a log) :
    Triple P' x Q' E := by
  intro s log hlog
  have hstep := h s log (hpre log hlog)
  cases hresult : x (s, log) with
  | mk result rest =>
    rw [hresult] at hstep
    cases result with
    | error e => exact hstep
    | ok a => exact hpost a rest.2 hstep

theorem any {x : Act σ ε φ α} : Triple P x (fun _ _ => True) fun _ => True := by
  intro s log _
  cases hresult : x (s, log) with
  | mk result rest => cases result <;> trivial

/-- What a computation ends with does not depend on what comes before its last part. -/
theorem after {x : Act σ ε φ α} {f : α → Act σ ε φ β} (hf : ∀ a, Triple (fun _ => True) (f a) R fun _ => True) :
    Triple P (x >>= f) R fun _ => True := any.bind hf

theorem of_ok {x : Act σ ε φ α} (h : Triple P x Q E) {s s' : σ × List ε} {a : α} (hs : P s.2) (hx : x s = (.ok a, s')) : Q a s'.2 := by
  have hstep := h s.1 s.2 hs
  rw [hx] at hstep
  exact hstep

theorem of_error {x : Act σ ε φ α} (h : Triple P x Q E) {s s' : σ × List ε} {e : φ} (hs : P s.2) (hx : x s = (.error e, s')) : E s'.2 := by
  have hstep := h s.1 s.2 hs
  rw [hx] at hstep
  exact hstep

theorem always {x : Act σ ε φ α} (h : Triple P x (fun _ => E) E) {s : σ × List ε} (hs : P s.2) : E (x s).2.2 := by
  cases hx : x s with
  | mk result rest =>
    cases result with
    | error e => exact h.of_error hs hx
    | ok a => exact h.of_ok hs hx

end Triple

/-! ## What is left of the environment -/

/-- From an environment with `P`, a computation that returns `a` leaves one with `Q a`, one that fails one with `E`. -/
def Leaves (P : σ → Prop) (x : Act σ ε φ α) (Q : α → σ → Prop) (E : σ → Prop) : Prop :=
  ∀ s log, P s → match x (s, log) with
    | (.ok a, s', _) => Q a s'
    | (.error _, s', _) => E s'

namespace Leaves
variable {P : σ → Prop} {Q : α → σ → Prop} {R : β → σ → Prop} {E : σ → Prop}

theorem bind {x : Act σ ε φ α} {f : α → Act σ ε φ β} (hx : Leaves P x Q E) (hf : ∀ a, Leaves (Q a) (f a) R E) :
    Leaves P (x >>= f) R E := by
  intro s log hs
  have hstep := hx s log hs
  rw [bind_apply]
  cases hresult : x (s, log) with
  | mk result rest =>
    rw [hresult] at hstep
    cases result with
    | error e => exact hstep
    | ok a => exact hf a rest.1 rest.2 hstep

theorem pure {a : α} (h : ∀ s, P s → Q a s) : Leaves P (Pure.pure a : Act σ ε φ α) Q E := fun s _ hs => h s hs

theorem only {x : Except φ α} (hok : ∀ a s, x = .ok a → P s → Q a s) (herror : ∀ e s, x = .error e → P s → E s) :
    Leaves P (Logged.only x : Act σ ε φ α) Q E := by
  intro s log hs
  cases x with
  | error e => exact herror e s rfl hs
  | ok a => exact hok a s rfl hs

theorem note {entry : ε} {Q : Unit → σ → Prop} (h : ∀ s, P s → Q () s) : Leaves P (Logged.note entry : Act σ ε φ Unit) Q E :=
  fun s _ hs => h s hs

theorem call {reply : σ → Except φ α × σ} {entry : Except φ α → ε} (hok : ∀ a s s', reply s = (.ok a, s') → P s → Q a s')
    (herror : ∀ e s s', reply s = (.error e, s') → P s → E s') : Leaves P (Logged.call reply entry) Q E := by
  intro s log hs
  unfold Logged.call
  cases hreply : reply s with
  | mk result s' =>
    cases result with
    | error e => exact herror e s s' hreply hs
    | ok a => exact hok a s s' hreply hs

theorem of_ok {x : Act σ ε φ α} (h : Leaves P x Q E) {s s' : σ × List ε} {a : α} (hs : P s.1) (hx : x s = (.ok a, s')) : Q a s'.1 := by
  have hstep := h s.1 s.2 hs
  rw [hx] at hstep
  exact hstep

theorem of_error {x : Act σ ε φ α} (h : Leaves P x Q E) {s s' : σ × List ε} {e : φ} (hs : P s.1) (hx : x s = (.error e, s')) :
    E s'.1 := by
  have hstep := h s.1 s.2 hs
  rw [hx] at hstep
  exact hstep

end Leaves

/-! ## Environments that answer as functions do -/

/-- In the state `s` a computation results in `y` whatever the log, and leaves `s'` when it returns. -/
def Answers (x : Act σ ε φ α) (s : σ) (y : Except φ α) (s' : σ) : Prop :=
  ∀ log, (x (s, log)).1 = y ∧ ∀ a, y = .ok a → (x (s, log)).2.1 = s'

namespace Answers
variable {s s' s'' : σ}

theorem bind {x : Act σ ε φ α} {f : α → Act σ ε φ β} {y : Except φ α} {g : α → Except φ β} (hx : Answers x s y s')
    (hf : ∀ a, y = .ok a → Answers (f a) s' (g a) s'') : Answers (x >>= f) s (y >>= g) s'' := by
  intro log
  obtain ⟨hresult, hstate⟩ := hx log
  rw [bind_apply]
  cases hstep : x (s, log) with
  | mk result rest =>
    rw [hstep] at hresult hstate
    obtain rfl : result = y := hresult
    cases result with
    | error e => exact ⟨rfl, fun _ h => nomatch h⟩
    | ok a =>
      obtain rfl : rest.1 = s' := hstate a rfl
      exact hf a rfl rest.2

/-- A call that always returns is no step of its own. -/
theorem after {x : Act σ ε φ α} {f : α → Act σ ε φ β} {a : α} {y : Except φ β} (hx : Answers x s (.ok a) s')
    (hf : Answers (f a) s' y s'') : Answers (x >>= f) s y s'' :=
  bind (g := fun _ => y) hx fun _ h => Except.ok.inj h ▸ hf

theorem pure {a : α} : Answers (Pure.pure a : Act σ ε φ α) s (.ok a) s := fun _ => ⟨rfl, fun _ _ => rfl⟩

theorem only {x : Except φ α} : Answers (only x : Act σ ε φ α) s x s := fun _ => ⟨rfl, fun _ _ => rfl⟩

theorem note {entry : ε} : Answers (note entry : Act σ ε φ Unit) s (.ok ()) s := fun _ => ⟨rfl, fun _ _ => rfl⟩

theorem call {reply : σ → Except φ α × σ} {entry : Except φ α → ε} : Answers (call reply entry) s (reply s).1 (reply s).2 :=
  fun _ => ⟨rfl, fun _ _ => rfl⟩

end Answers

end Logged
