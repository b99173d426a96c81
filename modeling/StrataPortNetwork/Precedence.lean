import Mathlib.Data.List.Nodup
import Mathlib.Logic.Relation
import Mathlib.Order.WellFoundedSet

/-! # Orders of dependent items

Items need other items, which they name by their keys. Taking in rounds what is ready, until a
round takes nothing, finds an order in which each item comes after what it needs, or is left
with items that wait for each other.
-/
namespace Precedence
variable {α κ : Type*} (key : α → κ) (needs : α → List κ)

/-- An item with the first key needs the second one. -/
def DependsOn (items : List α) (k k' : κ) : Prop := ∃ a ∈ items, key a = k ∧ k' ∈ needs a

/-- No item needs itself, directly or through others. -/
def Acyclic (items : List α) : Prop := ∀ k, ¬ Relation.TransGen (DependsOn key needs items) k k

/-- Each item comes after what it needs, apart from what is done before. -/
def Ordered : List κ → List α → Prop
  | _, [] => True
  | done, a :: rest => (∀ k ∈ needs a, k ∈ done) ∧ Ordered (key a :: done) rest

section
variable [DecidableEq κ]

def ready (done : List κ) (a : α) : Bool := (needs a).all done.contains

/-- The items that so many rounds take, in the order of the rounds. -/
def taken : ℕ → List κ → List α → List α
  | 0, _, _ => []
  | n + 1, done, items =>
    let round := items.filter (ready needs done)
    round ++ taken n (round.map key ++ done) (items.filter fun a => !ready needs done a)

/-- The items that so many rounds leave. -/
def left : ℕ → List κ → List α → List α
  | 0, _, items => items
  | n + 1, done, items =>
    left n ((items.filter (ready needs done)).map key ++ done) (items.filter fun a => !ready needs done a)

end

variable {key needs} {items rest : List α} {done : List κ}

theorem DependsOn.mono (h : ∀ a ∈ rest, a ∈ items) {k k' : κ} (hneeds : DependsOn key needs rest k k') :
    DependsOn key needs items k k' :=
  hneeds.imp fun a ha => ⟨h a ha.1, ha.2⟩

theorem Acyclic.mono (h : Acyclic key needs items) (hrest : ∀ a ∈ rest, a ∈ items) : Acyclic key needs rest :=
  fun k hk => h k (hk.lift id fun _ _ => DependsOn.mono hrest)

/-! ## Orders -/

theorem Ordered.mono {done' : List κ} (hdone : ∀ k ∈ done, k ∈ done') (h : Ordered key needs done items) :
    Ordered key needs done' items := by
  induction items generalizing done done' with
  | nil => trivial
  | cons a rest ih =>
    refine ⟨fun k hk => hdone k (h.1 k hk), ih ?_ h.2⟩
    intro k hk
    rcases List.mem_cons.mp hk with rfl | hk
    · exact List.mem_cons_self
    · exact List.mem_cons_of_mem _ (hdone k hk)

theorem ordered_append : Ordered key needs done (items ++ rest) ↔
    Ordered key needs done items ∧ Ordered key needs ((items.map key).reverse ++ done) rest := by
  induction items generalizing done with
  | nil => simp [Ordered]
  | cons a items ih => simp [Ordered, ih, and_assoc]

/-- Items that need only what is done come in any order. -/
theorem ordered_of_needs (h : ∀ a ∈ items, ∀ k ∈ needs a, k ∈ done) : Ordered key needs done items := by
  induction items generalizing done with
  | nil => trivial
  | cons a rest ih =>
    refine ⟨h a List.mem_cons_self, ih fun b hb k hk => ?_⟩
    exact List.mem_cons_of_mem _ (h b (List.mem_cons_of_mem a hb) k hk)

/-- Where keys are distinct, an order of the items makes every dependency go back in it. -/
theorem Ordered.idxOf_lt [DecidableEq κ] (h : Ordered key needs [] items) (hnodup : (items.map key).Nodup) {k k' : κ}
    (hneeds : DependsOn key needs items k k') : (items.map key).idxOf k' < (items.map key).idxOf k := by
  obtain ⟨a, ha, rfl, hk'⟩ := hneeds
  obtain ⟨before, after, rfl⟩ := List.append_of_mem ha
  have hbefore : k' ∈ before.map key := by simpa using (ordered_append.mp h).2.1 k' hk'
  rw [List.map_append, List.map_cons] at hnodup ⊢
  have hfresh : key a ∉ before.map key := fun hmem =>
    (List.nodup_append.mp hnodup).2.2 _ hmem _ List.mem_cons_self rfl
  rw [List.idxOf_append_of_mem hbefore, List.idxOf_append_of_notMem hfresh, List.idxOf_cons_self]
  exact (List.idxOf_lt_length_iff.mpr hbefore).trans_le (Nat.le_add_right _ _)

/-- Items with distinct keys that have an order are acyclic. -/
theorem Ordered.acyclic (h : Ordered key needs [] items) (hnodup : (items.map key).Nodup) : Acyclic key needs items := by
  classical
  have hlt : ∀ {k k' : κ}, Relation.TransGen (DependsOn key needs items) k k' →
      (items.map key).idxOf k' < (items.map key).idxOf k := by
    intro k k' hpath
    induction hpath with
    | single hneeds => exact h.idxOf_lt hnodup hneeds
    | tail _ hneeds ih => exact (h.idxOf_lt hnodup hneeds).trans ih
  exact fun k hk => lt_irrefl _ (hlt hk)

theorem acyclic_perm (h : items.Perm rest) : Acyclic key needs items ↔ Acyclic key needs rest :=
  ⟨fun hitems => hitems.mono fun _ => h.mem_iff.mpr, fun hrest => hrest.mono fun _ => h.mem_iff.mp⟩

/-! ## Rounds -/

section
variable [DecidableEq κ]

theorem ready_iff {a : α} : ready needs done a = true ↔ ∀ k ∈ needs a, k ∈ done := by
  simp [ready]

theorem perm_taken_left (n : ℕ) (done : List κ) (items : List α) :
    (taken key needs n done items ++ left key needs n done items).Perm items := by
  induction n generalizing done items with
  | zero => exact List.Perm.refl _
  | succ n ih =>
    rw [taken, left, List.append_assoc]
    exact ((ih _ _).append_left _).trans (List.filter_append_perm _ items)

theorem perm_taken_of_left_eq_nil {n : ℕ} (h : left key needs n done items = []) : (taken key needs n done items).Perm items := by
  have hperm : (taken key needs n done items ++ left key needs n done items).Perm items := perm_taken_left n done items
  rwa [h, List.append_nil] at hperm

/-- What the rounds take is in order. -/
theorem ordered_taken (n : ℕ) (done : List κ) (items : List α) : Ordered key needs done (taken key needs n done items) := by
  induction n generalizing done items with
  | zero => trivial
  | succ n ih =>
    rw [taken, ordered_append]
    refine ⟨ordered_of_needs fun a ha => ready_iff.mp (List.mem_filter.mp ha).2, (ih _ _).mono fun k hk => ?_⟩
    simpa using hk

/-- The rounds read the keys and the needs of the items only. -/
theorem left_map {β : Type*} (f : β → α) (n : ℕ) (done : List κ) (items : List β) :
    left key needs n done (items.map f) = (left (key ∘ f) (needs ∘ f) n done items).map f := by
  induction n generalizing done items with
  | zero => rfl
  | succ n ih =>
    have hround : ∀ p : α → Bool, (items.map f).filter p = (items.filter (p ∘ f)).map f := fun p => List.filter_map
    rw [left, left, hround, hround, ih, List.map_map]
    rfl

/-- Among acyclic items that need only each other and what is done, one is ready. -/
theorem exists_ready (hacyclic : Acyclic key needs items) (hclosed : ∀ a ∈ items, ∀ k ∈ needs a, k ∈ done ∨ k ∈ items.map key)
    (hne : items ≠ []) : ∃ a ∈ items, ready needs done a = true := by
  by_contra hnone
  simp only [not_exists, not_and, ready_iff, not_forall] at hnone
  have hstrict : IsStrictOrder κ fun k k' => Relation.TransGen (DependsOn key needs items) k' k :=
    { irrefl := hacyclic, trans := fun _ _ _ h h' => h'.trans h }
  have hfinite : {k | k ∈ items.map key}.Finite := (items.map key).finite_toSet
  obtain ⟨a, ha⟩ := List.exists_mem_of_ne_nil items hne
  -- A key on which no other one depends no further would belong to an item that is ready.
  have hwell := hfinite.wellFoundedOn (r := fun k k' => Relation.TransGen (DependsOn key needs items) k' k)
  obtain ⟨⟨m, hm⟩, -, hmin⟩ := hwell.has_min Set.univ ⟨⟨key a, List.mem_map_of_mem ha⟩, trivial⟩
  obtain ⟨b, hb, rfl⟩ := List.mem_map.mp hm
  obtain ⟨k, hk, hdone⟩ := hnone b hb
  exact hmin ⟨k, (hclosed b hb k hk).resolve_left hdone⟩ trivial (.single ⟨b, hb, rfl, hk⟩)

/-- As many rounds as there are items leave none of them, if they are acyclic. -/
theorem left_eq_nil {n : ℕ} (hn : items.length ≤ n) (hacyclic : Acyclic key needs items)
    (hclosed : ∀ a ∈ items, ∀ k ∈ needs a, k ∈ done ∨ k ∈ items.map key) : left key needs n done items = [] := by
  induction n generalizing done items with
  | zero => exact List.length_eq_zero_iff.mp (Nat.le_zero.mp hn)
  | succ n ih =>
    by_cases hne : items = []
    · subst hne
      exact ih (Nat.zero_le n) hacyclic (by simp)
    · obtain ⟨a, ha, hready⟩ := exists_ready hacyclic hclosed hne
      have hshorter : (items.filter fun b => !ready needs done b).length < items.length :=
        List.length_filter_lt_length_iff_exists.mpr ⟨a, ha, by simp [hready]⟩
      refine ih (by omega) (hacyclic.mono fun b hb => (List.mem_filter.mp hb).1) fun b hb k hk => ?_
      rcases hclosed b (List.mem_filter.mp hb).1 k hk with hdone | hkey
      · exact .inl (List.mem_append_right _ hdone)
      · obtain ⟨c, hc, rfl⟩ := List.mem_map.mp hkey
        cases hready : ready needs done c with
        | true => exact .inl (List.mem_append_left _ (List.mem_map_of_mem (List.mem_filter.mpr ⟨hc, hready⟩)))
        | false => exact .inr (List.mem_map_of_mem (List.mem_filter.mpr ⟨hc, by simp [hready]⟩))

/-- Items with distinct keys that need only each other are acyclic exactly when the rounds leave none of them, and what the
rounds take is then an order of all of them. -/
theorem acyclic_iff_left_eq_nil (hnodup : (items.map key).Nodup) (hclosed : ∀ a ∈ items, ∀ k ∈ needs a, k ∈ items.map key) :
    Acyclic key needs items ↔ left key needs items.length [] items = [] := by
  refine ⟨fun hacyclic => left_eq_nil le_rfl hacyclic fun a ha k hk => .inr (hclosed a ha k hk), fun hnone => ?_⟩
  have hperm := perm_taken_of_left_eq_nil hnone
  have hnodup' := (hperm.map key).nodup_iff.mpr hnodup
  exact (acyclic_perm hperm).mp ((ordered_taken _ _ _).acyclic hnodup')

end

end Precedence
