import Mathlib.Data.List.Induction
import Mathlib.Data.List.Pairwise
import Mathlib.Order.Basic

/-! # Runs of deterministic systems

A system is a step function on its states; a run applies a list of operations. The
rules here turn what one step preserves into what every run preserves, the last of
them for facts that hold until a clock reaches their deadline.
-/
namespace Transition
variable {σ α τ : Type*} (step : σ → α → σ)

def run (s : σ) (ops : List α) : σ := ops.foldl step s

@[simp] theorem run_nil (s : σ) : run step s [] = s := rfl
@[simp] theorem run_cons (s : σ) (a : α) (ops : List α) :
    run step s (a :: ops) = run step (step s a) ops := rfl

theorem run_append (s : σ) (ops ops' : List α) :
    run step s (ops ++ ops') = run step (run step s ops) ops' := List.foldl_append ..

/-- Every step of a run meets a condition on its state and its operation. -/
def Steps (ok : σ → α → Prop) : σ → List α → Prop
  | _, [] => True
  | s, a :: ops => ok s a ∧ Steps ok (step s a) ops

instance decidableSteps (ok : σ → α → Prop) [∀ s a, Decidable (ok s a)] : ∀ s ops, Decidable (Steps step ok s ops)
  | _, [] => inferInstanceAs (Decidable True)
  | s, a :: ops =>
    have : Decidable (Steps step ok (step s a) ops) := decidableSteps ok (step s a) ops
    inferInstanceAs (Decidable (_ ∧ _))

variable {step}

theorem steps_append {ok : σ → α → Prop} {s : σ} {ops ops' : List α} :
    Steps step ok s (ops ++ ops') ↔ Steps step ok s ops ∧ Steps step ok (run step s ops) ops' := by
  induction ops generalizing s with
  | nil => simp [Steps]
  | cons a ops ih => simp [Steps, ih, and_assoc]

theorem steps_of_forall {ok : α → Prop} {s : σ} {ops : List α} (h : ∀ a ∈ ops, ok a) :
    Steps step (fun _ a => ok a) s ops := by
  induction ops generalizing s with
  | nil => trivial
  | cons a ops ih => exact ⟨h a List.mem_cons_self, ih fun b hb => h b (List.mem_cons_of_mem a hb)⟩

theorem steps_and_forall {ok : σ → α → Prop} {ok' : α → Prop} {s : σ} {ops : List α} (h : Steps step ok s ops)
    (h' : ∀ a ∈ ops, ok' a) : Steps step (fun s a => ok s a ∧ ok' a) s ops := by
  induction ops generalizing s with
  | nil => trivial
  | cons a ops ih =>
    exact ⟨⟨h.1, h' a List.mem_cons_self⟩, ih h.2 fun b hb => h' b (List.mem_cons_of_mem a hb)⟩

/-- The steps of a run are among its operations. -/
theorem steps_and_mem {ok : σ → α → Prop} {s : σ} {ops : List α} (h : Steps step ok s ops) :
    Steps step (fun s a => ok s a ∧ a ∈ ops) s ops := by
  suffices hall : ∀ all : List α, (∀ a ∈ ops, a ∈ all) → Steps step (fun s a => ok s a ∧ a ∈ all) s ops from
    hall ops fun _ ha => ha
  intro all hsub
  induction ops generalizing s with
  | nil => trivial
  | cons a ops ih =>
    exact ⟨⟨h.1, hsub a List.mem_cons_self⟩, ih h.2 fun b hb => hsub b (List.mem_cons_of_mem a hb)⟩

/-- What each step preserves, a run preserves. -/
theorem run_invariant {inv : σ → Prop} (hstep : ∀ s a, inv s → inv (step s a)) {s : σ} (hs : inv s)
    (ops : List α) : inv (run step s ops) := by
  induction ops generalizing s with
  | nil => exact hs
  | cons a ops ih => exact ih (hstep s a hs)

/-- What each step that meets the condition preserves, a run of such steps preserves. -/
theorem run_invariant_of_steps {ok : σ → α → Prop} {inv : σ → Prop}
    (hstep : ∀ s a, ok s a → inv s → inv (step s a)) {s : σ} (hs : inv s) {ops : List α}
    (hok : Steps step ok s ops) : inv (run step s ops) := by
  induction ops generalizing s with
  | nil => exact hs
  | cons a ops ih => exact ih (hstep s a hok.1 hs) hok.2

/-- Every state of a run, the first and the last included, has a property. -/
def Always (step : σ → α → σ) (p : σ → Prop) : σ → List α → Prop
  | s, [] => p s
  | s, a :: ops => p s ∧ Always step p (step s a) ops

/-- What each step preserves exactly when it meets the condition, a run preserves exactly
when all its steps meet it. The context is what steps preserve anyway. -/
theorem always_iff_steps {context inv : σ → Prop} {ok : σ → α → Prop}
    (hcontext : ∀ s a, context s → context (step s a))
    (hstep : ∀ s a, context s → inv s → (inv (step s a) ↔ ok s a)) {s : σ} (hc : context s) (hs : inv s)
    (ops : List α) : Always step inv s ops ↔ Steps step ok s ops := by
  induction ops generalizing s with
  | nil => simp [Always, Steps, hs]
  | cons a ops ih =>
    simp only [Always, Steps, hs, true_and]
    by_cases hok : ok s a
    · simp only [hok, true_and]
      exact ih (hcontext s a hc) ((hstep s a hc hs).mpr hok)
    · simp only [hok, false_and, iff_false]
      intro halways
      have hnext : inv (step s a) := by
        cases ops with
        | nil => exact halways
        | cons b ops => exact halways.1
      exact hok ((hstep s a hc hs).mp hnext)

/-! ## Cells -/

variable {β : Type*}

/-- A cell shows what the last operation that writes it has written. -/
theorem read_run (read : σ → Option β) (write : α → Option β) (hstep : ∀ s a, read (step s a) = (write a).or (read s)) (s : σ)
    (ops : List α) : match read (run step s ops) with
      | some v => (∃ before a after, ops = before ++ a :: after ∧ write a = some v ∧ ∀ b ∈ after, write b = none) ∨
          read s = some v ∧ ∀ b ∈ ops, write b = none
      | none => read s = none ∧ ∀ b ∈ ops, write b = none := by
  induction ops using List.reverseRecOn with
  | nil =>
    rw [run_nil]
    cases read s <;> simp
  | append_singleton ops a ih =>
    rw [run_append, run_cons, run_nil, hstep]
    cases hwrite : write a with
    | some w => exact .inl ⟨ops, a, [], rfl, hwrite, by simp⟩
    | none =>
      have hlast : ∀ {l : List α}, (∀ b ∈ l, write b = none) → ∀ b ∈ l ++ [a], write b = none := fun hl b hb =>
        (List.mem_append.mp hb).elim (hl b) fun hb => List.mem_singleton.mp hb ▸ hwrite
      rw [Option.none_or]
      cases hread : read (run step s ops) with
      | none =>
        rw [hread] at ih
        exact ⟨ih.1, hlast ih.2⟩
      | some v =>
        rw [hread] at ih
        rcases ih with ⟨before, a', after, rfl, hwritten, hafter⟩ | ⟨hstart, hnone⟩
        · exact .inl ⟨before, a', after ++ [a], by simp, hwritten, hlast hafter⟩
        · exact .inr ⟨hstart, hlast hnone⟩

/-- A counter counts the operations that step it. -/
theorem count_run (count : σ → ℕ) (counted : α → Bool) (hstep : ∀ s a, count (step s a) = count s + if counted a then 1 else 0) (s : σ)
    (ops : List α) : count (run step s ops) = count s + ops.countP counted := by
  induction ops generalizing s with
  | nil => rfl
  | cons a ops ih => rw [run_cons, ih, hstep, List.countP_cons, Nat.add_assoc, Nat.add_comm (List.countP _ _)]

/-! ## Clocks -/

variable [Preorder τ] (readings : α → List τ)

/-- The clock readings of a run, in order, never go backwards. -/
def ClockForward (ops : List α) : Prop := (ops.flatMap readings).Pairwise (· ≤ ·)

variable {readings}

instance [DecidableLE τ] (ops : List α) : Decidable (ClockForward readings ops) :=
  inferInstanceAs (Decidable (List.Pairwise _ _))

theorem ClockForward.append {ops ops' : List α} (h : ClockForward readings (ops ++ ops')) :
    ClockForward readings ops ∧ ClockForward readings ops' ∧
      ∀ r ∈ ops.flatMap readings, ∀ r' ∈ ops'.flatMap readings, r ≤ r' := by
  rw [ClockForward, List.flatMap_append, List.pairwise_append] at h
  exact h

/-- What each admissible step preserves while the clock goes forward, a run preserves. The
invariant may speak of the readings so far. -/
theorem run_invariant_of_clock {ok : σ → α → Prop} {inv : List τ → σ → Prop}
    (hstep : ∀ past s a, ok s a → (∀ r ∈ past, ∀ r' ∈ readings a, r ≤ r') → inv past s →
      inv (past ++ readings a) (step s a))
    {past : List τ} {s : σ} (hs : inv past s) {ops : List α} (hok : Steps step ok s ops)
    (hclock : (past ++ ops.flatMap readings).Pairwise (· ≤ ·)) :
    inv (past ++ ops.flatMap readings) (run step s ops) := by
  induction ops generalizing past s with
  | nil => simpa using hs
  | cons a ops ih =>
    rw [List.flatMap_cons, ← List.append_assoc] at hclock ⊢
    have hpast := (List.pairwise_append.mp (List.pairwise_append.mp hclock).1).2.2
    exact ih (hstep past s a hok.1 hpast hs) hok.2 hclock

/-! ## Ledgers of leased entries -/

/-- A system that admits entries and remembers each of them until a clock reading reaches
the entry's deadline. An entry it still remembers excludes those it clashes with, up to
that deadline. -/
structure Ledger (step : σ → α → σ) (readings : α → List τ) (ok : σ → α → Prop) (β : Type*) where
  entries : σ → List (τ × β)
  deadline : β → τ
  held : σ → β → Prop
  clash : β → β → Prop
  keeps : ∀ s a b, ok s a → held s b → held (step s a) b ∨ ∃ r ∈ readings a, deadline b ≤ r
  grows : ∀ s a, ok s a → entries (step s a) = entries s ∨ ∃ r ∈ readings a, ∃ b,
    entries (step s a) = (r, b) :: entries s ∧ r < deadline b ∧ held (step s a) b ∧
      ∀ e ∈ entries s, held s e.2 → clash e.2 b → deadline e.2 ≤ r

namespace Ledger
variable {ok : σ → α → Prop} {β : Type*} (ledger : Ledger step readings ok β)

/-- Entries were admitted before their deadline, a later entry clashes with an earlier one
only past the deadline of that one, and an entry no longer held is past its deadline. -/
structure Sound (past : List τ) (s : σ) : Prop where
  fresh : ∀ e ∈ ledger.entries s, e.1 < ledger.deadline e.2
  apart : (ledger.entries s).Pairwise fun later earlier =>
    ledger.clash earlier.2 later.2 → ledger.deadline earlier.2 ≤ later.1
  kept : ∀ e ∈ ledger.entries s, ledger.held s e.2 ∨ ∃ r ∈ past, ledger.deadline e.2 ≤ r

theorem step_sound {past : List τ} {s : σ} (hs : ledger.Sound past s) {a : α} (hok : ok s a)
    (hclock : ∀ r ∈ past, ∀ r' ∈ readings a, r ≤ r') : ledger.Sound (past ++ readings a) (step s a) := by
  have hkept : ∀ e ∈ ledger.entries s,
      ledger.held (step s a) e.2 ∨ ∃ r ∈ past ++ readings a, ledger.deadline e.2 ≤ r := by
    intro e he
    rcases hs.kept e he with hheld | ⟨r, hr, hd⟩
    · rcases ledger.keeps s a e.2 hok hheld with hheld | ⟨r, hr, hd⟩
      · exact Or.inl hheld
      · exact Or.inr ⟨r, List.mem_append_right _ hr, hd⟩
    · exact Or.inr ⟨r, List.mem_append_left _ hr, hd⟩
  rcases ledger.grows s a hok with hsame | ⟨r, hr, b, hgrown, hfresh, hheld, hclash⟩
  · exact ⟨by rw [hsame]; exact hs.fresh, by rw [hsame]; exact hs.apart, by rw [hsame]; exact hkept⟩
  · have hapart : ∀ e ∈ ledger.entries s, ledger.clash e.2 b → ledger.deadline e.2 ≤ r := by
      intro e he hc
      rcases hs.kept e he with hheld | ⟨r', hr', hd⟩
      · exact hclash e he hheld hc
      · exact hd.trans (hclock r' hr' r hr)
    refine ⟨?_, ?_, ?_⟩ <;> rw [hgrown]
    · exact List.forall_mem_cons.mpr ⟨hfresh, hs.fresh⟩
    · exact List.pairwise_cons.mpr ⟨hapart, hs.apart⟩
    · exact List.forall_mem_cons.mpr ⟨Or.inl hheld, hkept⟩

/-- Starting from no entries, every run of admissible steps is sound. -/
theorem sound_of_nil {s : σ} (hs : ledger.entries s = []) {ops : List α} (hok : Steps step ok s ops)
    (hclock : ClockForward readings ops) :
    ledger.Sound (ops.flatMap readings) (run step s ops) := by
  have hstart : ledger.Sound [] s := by
    constructor <;> simp [hs]
  have hstep : ∀ past s a, ok s a → (∀ r ∈ past, ∀ r' ∈ readings a, r ≤ r') → ledger.Sound past s →
      ledger.Sound (past ++ readings a) (step s a) :=
    fun past s a hok hpast hs => ledger.step_sound hs hok hpast
  simpa using run_invariant_of_clock hstep hstart hok (by simpa [ClockForward] using hclock)

/-- Where every entry clashes with itself, none is admitted twice. -/
theorem Sound.nodup {ledger : Ledger step readings ok β} {past : List τ} {s : σ}
    (hs : ledger.Sound past s) (hself : ∀ b, ledger.clash b b) :
    ((ledger.entries s).map Prod.snd).Nodup := by
  rw [List.Nodup, List.pairwise_map]
  refine hs.apart.imp_of_mem ?_
  intro later earlier hlater _ hapart heq
  have hd := hapart (heq ▸ hself _)
  rw [← heq] at hd
  exact lt_irrefl _ ((hs.fresh later hlater).trans_le hd)

end Ledger

end Transition
