import Mathlib.Logic.Relation
import Mathlib.Data.List.Basic

/-! # Partial parent functions and cascades

A collection of nodes, each with at most one parent. What holds of every link holds along
every chain; a node added under an old one closes no cycle; and a bounded worklist sweep
collects a set of nodes together with all its descendants.
-/
namespace Forest
variable {ι : Type}

/-! ## Chains -/

section
variable {parent : ι → Option ι}

/-- The second node is reached from the first over one or more parent links. -/
def Above (parent : ι → Option ι) : ι → ι → Prop := Relation.TransGen fun a b => parent a = some b

def Acyclic (parent : ι → Option ι) : Prop := ∀ a, ¬ Above parent a a

theorem above_of_links {r : ι → ι → Prop} (hr : ∀ a b c, r a b → r b c → r a c)
    (hlink : ∀ a b, parent a = some b → r a b) {a b : ι} (h : Above parent a b) : r a b := by
  induction h with
  | single hab => exact hlink _ _ hab
  | tail _ hbc ih => exact hr _ _ _ ih (hlink _ _ hbc)

/-- What passes from each parent to its children passes down every chain. -/
theorem above_down {p : ι → Prop} (hlink : ∀ a b, parent a = some b → p b → p a) {a b : ι}
    (h : Above parent a b) (hb : p b) : p a := by
  induction h with
  | single hab => exact hlink _ _ hab hb
  | tail _ hbc ih => exact ih (hlink _ _ hbc hb)

theorem above_cases {a b : ι} (h : Above parent a b) :
    ∃ c, parent a = some c ∧ (c = b ∨ Above parent c b) := by
  induction h with
  | single hab => exact ⟨_, hab, Or.inl rfl⟩
  | tail _ hbc ih =>
    obtain ⟨c, hac, rfl | hcb⟩ := ih
    · exact ⟨c, hac, Or.inr (Relation.TransGen.single hbc)⟩
    · exact ⟨c, hac, Or.inr (hcb.tail hbc)⟩

/-- A new node below an old one closes no cycle, as no old link leads to it. -/
theorem acyclic_extend {parent' : ι → Option ι} {n : ι} (h : Acyclic parent) (hold : ∀ a, a ≠ n → parent' a = parent a)
    (hfresh : ∀ a, parent' a ≠ some n) : Acyclic parent' := by
  have hpath : ∀ a b, Above parent' a b → b ≠ n ∧ (a ≠ n → Above parent a b) := by
    intro a b hab
    induction hab with
    | single hab =>
      refine ⟨fun hb => hfresh _ (hb ▸ hab), fun ha => ?_⟩
      exact Relation.TransGen.single ((hold _ ha).symm.trans hab)
    | tail _ hbc ih =>
      refine ⟨fun hc => hfresh _ (hc ▸ hbc), fun ha => ?_⟩
      exact (ih.2 ha).tail ((hold _ ih.1).symm.trans hbc)
  intro a ha
  obtain ⟨hn, hpath⟩ := hpath a a ha
  exact h a (hpath hn)

end

/-! ## Sweeps -/

section
variable {β : Type} [DecidableEq ι] (key : β → ι) (parent : β → Option ι) (limit : ℕ)

/-- One pass over the items: an item whose parent is collected is collected too. `none`
when more than `limit` nodes are collected. -/
def sweep : List β → List ι → Bool → Option (List ι × Bool)
  | [], found, changed => some (found, changed)
  | b :: rest, found, changed =>
    if (parent b).any found.contains && !found.contains (key b) then
      if limit < found.length + 1 then none else sweep rest (found ++ [key b]) true
    else sweep rest found changed

/-- Passes over the items until one changes nothing. -/
def saturate (items : List β) : ℕ → List ι → Option (List ι)
  | 0, found => some found
  | fuel + 1, found =>
    match sweep key parent limit items found false with
    | none => none
    | some (found, true) => saturate items fuel found
    | some (found, false) => some found

variable {key parent limit}

/-- What one pass keeps, what it may add, and when it reports a change. -/
structure Swept (key : β → ι) (parent : β → Option ι) (items : List β) (found found' : List ι)
    (changed changed' : Bool) : Prop where
  keeps : ∀ k ∈ found, k ∈ found'
  least : ∀ p : ι → Prop, (∀ k ∈ found, p k) →
    (∀ b ∈ items, ∀ q, parent b = some q → p q → p (key b)) → ∀ k ∈ found', p k
  nodup : found.Nodup → found'.Nodup
  stays : changed = true → changed' = true
  grows : changed' = true → changed = true ∨ ∃ b ∈ items, key b ∉ found ∧ key b ∈ found'
  closed : changed' = false → found' = found ∧ ∀ b ∈ items, ∀ q ∈ found, parent b = some q → key b ∈ found

theorem sweep_spec {items : List β} {found found' : List ι} {changed changed' : Bool}
    (h : sweep key parent limit items found changed = some (found', changed')) :
    Swept key parent items found found' changed changed' := by
  induction items generalizing found changed with
  | nil =>
    simp only [sweep, Option.some.injEq, Prod.mk.injEq] at h
    obtain ⟨rfl, rfl⟩ := h
    exact ⟨fun _ hk => hk, fun _ hp _ => hp, id, id, Or.inl, fun _ => ⟨rfl, by simp⟩⟩
  | cons b rest ih =>
    rw [sweep] at h
    split at h
    · rename_i hdrawn
      simp only [Bool.and_eq_true, Option.any_eq_true, Bool.not_eq_true', List.contains_iff_mem] at hdrawn
      obtain ⟨⟨q, hq, hfound⟩, hnew⟩ := hdrawn
      have hnot : key b ∉ found := by simpa [← Bool.not_eq_true, List.contains_iff_mem] using hnew
      split at h
      · simp at h
      · have hrest := ih h
        have hchanged : changed' = true := hrest.stays rfl
        have hhere : key b ∈ found' := hrest.keeps _ (List.mem_append_right _ List.mem_cons_self)
        constructor
        · exact fun k hk => hrest.keeps k (List.mem_append_left _ hk)
        · intro p hp hlink
          refine hrest.least p ?_ fun c hc => hlink c (List.mem_cons_of_mem b hc)
          intro k hk
          rcases List.mem_append.mp hk with hk | hk
          · exact hp k hk
          · rw [List.mem_singleton.mp hk]
            exact hlink b List.mem_cons_self q hq (hp q hfound)
        · intro hn
          refine hrest.nodup (List.nodup_append.mpr ⟨hn, by simp, ?_⟩)
          intro k hk k' hk' heq
          rw [List.mem_singleton.mp hk'] at heq
          exact hnot (heq ▸ hk)
        · exact fun _ => hchanged
        · exact fun _ => Or.inr ⟨b, List.mem_cons_self, hnot, hhere⟩
        · intro hfalse
          rw [hchanged] at hfalse
          exact absurd hfalse (by simp)
    · rename_i hskip
      have hrest := ih h
      constructor
      · exact hrest.keeps
      · exact fun p hp hlink => hrest.least p hp fun c hc => hlink c (List.mem_cons_of_mem b hc)
      · exact hrest.nodup
      · exact hrest.stays
      · intro htrue
        rcases hrest.grows htrue with hbefore | ⟨c, hc, hadded⟩
        · exact Or.inl hbefore
        · exact Or.inr ⟨c, List.mem_cons_of_mem b hc, hadded⟩
      · intro hfalse
        refine ⟨(hrest.closed hfalse).1, ?_⟩
        intro c hc q hq hparent
        rcases List.mem_cons.mp hc with rfl | hc
        · by_contra hnot
          exact hskip (by simp [hparent, hq, hnot])
        · exact (hrest.closed hfalse).2 c hc q hq hparent

/-- The items not collected yet: each pass but the last has fewer of them. -/
def pending (key : β → ι) (items : List β) (found : List ι) : ℕ :=
  (items.filter fun b => !found.contains (key b)).length

theorem pending_lt {items : List β} {found found' : List ι} (hkeeps : ∀ k ∈ found, k ∈ found') {b : β}
    (hb : b ∈ items) (hbefore : key b ∉ found) (hafter : key b ∈ found') :
    pending key items found' < pending key items found := by
  have hsub : ∀ c, (!found'.contains (key c)) = true → (!found.contains (key c)) = true := by
    intro c hc
    simp only [Bool.not_eq_true', ← Bool.not_eq_true, List.contains_iff_mem] at hc ⊢
    exact fun hk => hc (hkeeps _ hk)
  have heq : (items.filter fun c => !found'.contains (key c)) =
      (items.filter fun c => !found.contains (key c)).filter fun c => !found'.contains (key c) := by
    rw [List.filter_filter]
    refine List.filter_congr fun c _ => ?_
    cases hc : !found'.contains (key c) with
    | false => simp
    | true => rw [hsub c hc, Bool.and_true]
  rw [pending, pending, heq, List.length_filter_lt_length_iff_exists]
  exact ⟨b, List.mem_filter.mpr ⟨hb, by simpa using hbefore⟩, by simpa using hafter⟩

/-- What the passes collect: the least set of nodes with the first ones in it that has
every item whose parent is in it. -/
structure Saturated (key : β → ι) (parent : β → Option ι) (items : List β) (found found' : List ι) : Prop where
  keeps : ∀ k ∈ found, k ∈ found'
  least : ∀ p : ι → Prop, (∀ k ∈ found, p k) →
    (∀ b ∈ items, ∀ q, parent b = some q → p q → p (key b)) → ∀ k ∈ found', p k
  nodup : found.Nodup → found'.Nodup
  closed : ∀ b ∈ items, ∀ q ∈ found', parent b = some q → key b ∈ found'

theorem saturate_spec {items : List β} {fuel : ℕ} {found found' : List ι}
    (h : saturate key parent limit items fuel found = some found') (hfuel : pending key items found < fuel) :
    Saturated key parent items found found' := by
  induction fuel generalizing found with
  | zero => omega
  | succ fuel ih =>
    rw [saturate] at h
    split at h
    · simp at h
    · rename_i next hsweep
      have hpass := sweep_spec hsweep
      obtain hbefore | ⟨b, hb, hnew, hadded⟩ := hpass.grows rfl
      · simp at hbefore
      · have hrest := ih h (by have := pending_lt hpass.keeps hb hnew hadded; omega)
        exact ⟨fun k hk => hrest.keeps k (hpass.keeps k hk),
          fun p hp hlink => hrest.least p (hpass.least p hp hlink) hlink,
          fun hn => hrest.nodup (hpass.nodup hn), hrest.closed⟩
    · rename_i next hsweep
      have hpass := sweep_spec hsweep
      obtain ⟨hsame, hclosed⟩ := hpass.closed rfl
      rw [Option.some.injEq] at h
      subst h hsame
      exact ⟨fun _ hk => hk, fun p hp _ => hp, id, hclosed⟩

theorem pending_le (items : List β) (found : List ι) : pending key items found ≤ items.length :=
  List.length_filter_le ..

/-- The passes as a loop without a bound, and what it ends with. -/
inductive Passes (key : β → ι) (parent : β → Option ι) (limit : ℕ) (items : List β) : List ι → Option (List ι) → Prop
  | overflows {found : List ι} (pass : sweep key parent limit items found false = none) :
    Passes key parent limit items found none
  | again {found next : List ι} {result : Option (List ι)}
    (pass : sweep key parent limit items found false = some (next, true))
    (rest : Passes key parent limit items next result) : Passes key parent limit items found result
  | ends {found next : List ι} (pass : sweep key parent limit items found false = some (next, false)) :
    Passes key parent limit items found (some next)

/-- The loop ends, with what the bounded passes give. -/
theorem saturate_passes {items : List β} {fuel : ℕ} {found : List ι} (hfuel : pending key items found < fuel) :
    Passes key parent limit items found (saturate key parent limit items fuel found) := by
  induction fuel generalizing found with
  | zero => omega
  | succ fuel ih =>
    rw [saturate]
    split
    · rename_i hsweep
      exact .overflows hsweep
    · rename_i next hsweep
      have hpass := sweep_spec hsweep
      obtain hbefore | ⟨b, hb, hnew, hadded⟩ := hpass.grows rfl
      · simp at hbefore
      · exact .again hsweep (ih (by have := pending_lt hpass.keeps hb hnew hadded; omega))
    · rename_i next hsweep
      exact .ends hsweep

end

end Forest
