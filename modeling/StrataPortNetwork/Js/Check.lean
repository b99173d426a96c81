import StrataPortNetwork.Js.Regex

/-! # Validation by early rejection

A chain of checks that throws at the first failure, over any type of errors. A chain
succeeds exactly when each of its checks holds.
-/
namespace Js
variable {ε α β : Type}

def ensure (condition : Bool) (e : ε) : Except ε Unit := if condition then .ok () else .error e

/-- `if (!pattern.test(value)) throw e`, where the coercion may throw `coercion`. -/
def ensureTest (pattern : Regex) (v : Option Json) (e coercion : ε) : Except ε Unit :=
  match pattern.test v with
  | some true => .ok ()
  | some false => .error e
  | none => .error coercion

def orThrow (x : Option α) (e : ε) : Except ε α :=
  match x with
  | some a => .ok a
  | none => .error e

@[simp] theorem ensure_eq_ok {condition : Bool} {e : ε} {u : Unit} :
    ensure condition e = .ok u ↔ condition = true := by
  cases condition <;> simp [ensure]

@[simp] theorem ensureTest_eq_ok {pattern : Regex} {v : Option Json} {e coercion : ε} {u : Unit} :
    ensureTest pattern v e coercion = .ok u ↔ pattern.test v = some true := by
  unfold ensureTest
  split <;> simp_all

@[simp] theorem orThrow_eq_ok {x : Option α} {e : ε} {a : α} : orThrow x e = .ok a ↔ x = some a := by
  cases x <;> simp [orThrow]

@[simp] theorem bind_eq_ok {x : Except ε α} {f : α → Except ε β} {b : β} :
    (x >>= f) = .ok b ↔ ∃ a, x = .ok a ∧ f a = .ok b := by
  cases x <;> simp [bind, Except.bind]

@[simp] theorem map_eq_ok {x : Except ε α} {f : α → β} {b : β} :
    (f <$> x) = .ok b ↔ ∃ a, x = .ok a ∧ f a = b := by
  cases x <;> simp [Functor.map, Except.map]

@[simp] theorem pure_eq_ok {a b : α} : (pure a : Except ε α) = .ok b ↔ a = b := by
  simp [pure, Except.pure]

@[simp] theorem throw_eq_ok {e : ε} {b : α} : (throw e : Except ε α) = .ok b ↔ False := by
  simp [throw, throwThe, MonadExceptOf.throw]

/-- A check over every item of a list. -/
def ensureAll (check : α → Except ε Unit) : List α → Except ε Unit
  | [] => .ok ()
  | a :: rest => do
    check a
    ensureAll check rest

@[simp] theorem ensureAll_eq_ok {check : α → Except ε Unit} {items : List α} {u : Unit} :
    ensureAll check items = .ok u ↔ ∀ a ∈ items, check a = .ok () := by
  induction items with
  | nil => simp [ensureAll]
  | cons a rest ih =>
    simp only [ensureAll, bind_eq_ok, List.forall_mem_cons, ih]
    constructor
    · rintro ⟨⟨⟩, ha, hrest⟩
      exact ⟨ha, hrest⟩
    · rintro ⟨ha, hrest⟩
      exact ⟨(), ha, hrest⟩

/-! ## Values that pass a pattern -/

/-- A string passes a pattern exactly when the pattern accepts it. -/
@[simp] theorem test_str (pattern : Regex) (s : JsString) :
    pattern.test (some (.str s)) = some (pattern.accepts s) := rfl

/-- Whatever passes a pattern coerces to a string the pattern accepts. -/
theorem test_eq_true_iff {pattern : Regex} {v : Json} :
    pattern.test (some v) = some true ↔ ∃ s, v.toStr? = some s ∧ pattern.accepts s = true := by
  simp [Regex.test]

end Js
