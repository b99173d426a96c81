import Mathlib.Data.List.Forall2
import Mathlib.Data.List.Induction
import Mathlib.Algebra.Order.Ring.Int

/-! # Hash chains

A row passes its check against the hash of the row before it and its place in the chain.
When the hash of a row determines the row and what it is linked to, the length of a chain
and the hash of its last row determine all of it.
-/
namespace HashChain
variable {ρ η : Type*} (check : ρ → Option η → ℤ → Prop) (hash : ρ → Option η)

/-- The rows from a place on, after the given hash. -/
def Linked : List ρ → Option η → ℤ → Prop
  | [], _, _ => True
  | row :: rest, previous, place => check row previous place ∧ Linked rest (hash row) (place + 1)

/-- The hash of the last row. -/
def last (rows : List ρ) (previous : Option η) : Option η := rows.foldl (fun _ row => hash row) previous

@[simp] theorem last_nil (previous : Option η) : last hash [] previous = previous := rfl

@[simp] theorem last_append (rows : List ρ) (row : ρ) (previous : Option η) :
    last hash (rows ++ [row]) previous = hash row := by simp [last]

theorem last_eq_getLast {rows : List ρ} (h : rows ≠ []) (previous : Option η) :
    last hash rows previous = hash (rows.getLast h) := by
  obtain ⟨rest, row, rfl⟩ := List.eq_nil_or_concat rows |>.resolve_left h
  simp

variable {check hash}

theorem linked_append {rows : List ρ} {row : ρ} {previous : Option η} {place : ℤ} :
    Linked check hash (rows ++ [row]) previous place ↔
      Linked check hash rows previous place ∧ check row (last hash rows previous) (place + rows.length) := by
  induction rows generalizing previous place with
  | nil => simp [Linked]
  | cons first rest ih =>
    rw [List.cons_append, Linked, Linked, ih, and_assoc, List.length_cons, Nat.cast_succ, add_assoc,
      add_comm (1 : ℤ)]
    rfl

/-- The length and the last hash determine a chain, also where the other chain is held to another check. -/
theorem forall₂_of_last {check' : ρ → Option η → ℤ → Prop} {same : ρ → ρ → Prop}
    (hinj : ∀ {row row' previous previous' place}, check row previous place → check' row' previous' place →
      hash row = hash row' → same row row' ∧ previous = previous')
    {rows rows' : List ρ} {start : Option η} {place : ℤ} (h : Linked check hash rows start place)
    (h' : Linked check' hash rows' start place) (hlength : rows.length = rows'.length)
    (hlast : last hash rows start = last hash rows' start) : List.Forall₂ same rows rows' := by
  induction rows using List.reverseRecOn generalizing rows' with
  | nil =>
    rw [List.length_nil] at hlength
    rw [List.length_eq_zero_iff.mp hlength.symm]
    exact .nil
  | append_singleton rest row ih =>
    rcases List.eq_nil_or_concat rows' with rfl | ⟨rest', row', hrows⟩
    · simp at hlength
    · rw [List.concat_eq_append] at hrows
      subst hrows
      rw [linked_append] at h h'
      rw [last_append, last_append] at hlast
      have hrest : rest.length = rest'.length := by simpa using hlength
      rw [← hrest] at h'
      obtain ⟨hsame, hprevious⟩ := hinj h.2 h'.2 hlast
      exact List.rel_append (ih h.1 h'.1 hrest hprevious) (.cons hsame .nil)

end HashChain
