import StrataPortNetwork.Superstructure.Records
import StrataPortNetwork.Py.Encodable

/-! # Database transactions

`transaction` runs a body on the committed state: a body that raises is rolled back, and a
transaction that cannot begin or commit changes nothing. Parameters are bound before a
statement runs.
-/
namespace Superstructure
open Py
open Js (ensure)

/-- What becomes of a transaction. A process that stops before it does not begin it. -/
inductive Fate
  | commits
  | failsToBegin (e : PyError)
  | failsToCommit (e : PyError)

/-- `with state.transaction() as db`. -/
def transaction {σ α : Type} (fate : Fate) (body : σ → Outcome (α × σ)) (s : σ) : Outcome α × σ :=
  match fate, body s with
  | .failsToBegin e, _ => (.error e, s)
  | _, .error e => (.error e, s)
  | .failsToCommit e, .ok _ => (.error e, s)
  | .commits, .ok (a, s') => (.ok a, s')

/-- Two operations in a row: the second one is not begun where the first one raises. -/
def andThen {σ α β : Type} (r : Outcome α × σ) (f : α → σ → Outcome β × σ) : Outcome β × σ :=
  match r with
  | (.error e, s) => (.error e, s)
  | (.ok a, s) => f a s

section
variable {σ α : Type} {body : σ → Outcome (α × σ)} {s : σ}

/-- A transaction that raises has changed nothing. -/
theorem transaction_error {fate : Fate} {e : PyError} (h : (transaction fate body s).1 = .error e) :
    (transaction fate body s).2 = s := by
  unfold transaction at h ⊢
  split <;> rename_i heq <;> simp_all

theorem transaction_of_ok {a : α} {s' : σ} (h : body s = .ok (a, s')) : transaction .commits body s = (.ok a, s') := by
  simp only [transaction, h]

theorem transaction_commits {fate : Fate} {a : α} (h : (transaction fate body s).1 = .ok a) : fate = .commits := by
  unfold transaction at h
  split at h <;> simp_all

theorem transaction_ok {fate : Fate} {a : α} (h : (transaction fate body s).1 = .ok a) :
    body s = .ok (a, (transaction fate body s).2) := by
  unfold transaction at h ⊢
  split <;> rename_i heq <;> simp_all

/-- What the first operation leaves and the second one keeps. -/
theorem andThen_invariant {β : Type} {inv : σ → Prop} {r : Outcome α × σ} {f : α → σ → Outcome β × σ} (hr : inv r.2)
    (hf : ∀ a s, inv s → inv (f a s).2) : inv (andThen r f).2 := by
  rcases r with ⟨_ | a, s⟩
  · exact hr
  · exact hf a s hr

end

/-! ## Parameters -/

/-- Binding a text: one with lone surrogates has no UTF-8 bytes. -/
def bindText (text : Str) : Outcome Unit := do
  let _ ← encode text
  pure ()

theorem bindText_ok {text : Str} (h : Scalar text) : bindText text = .ok () := by
  obtain ⟨bytes, hbytes⟩ := encode_ok_iff.mpr h
  simp only [bindText, hbytes]
  rfl

theorem scalar_of_bindText {text : Str} (h : bindText text = .ok ()) : Scalar text := by
  simp only [bindText, Js.bind_eq_ok] at h
  obtain ⟨bytes, hbytes, -⟩ := h
  exact encode_ok_iff.mp ⟨bytes, hbytes⟩

def bindOption (text : Option Str) : Outcome Unit := text.elim (pure ()) bindText

/-- Binding an integer, of 64 bits at most. -/
def bindInt (i : ℤ) : Outcome Unit :=
  ensure (-9223372036854775808 ≤ i ∧ i < 9223372036854775808)
    ⟨.overflowError, str "Python int too large to convert to SQLite INTEGER"⟩

/-- The text that a value is bound as. -/
def textOf : Value → Outcome Str
  | .str s => pure s
  | _ => throw ⟨.programmingError, str "Error binding parameter: type is not supported"⟩

end Superstructure
