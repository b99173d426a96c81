import StrataPortNetwork.Js.Collation

/-! # Ties of a collation

Sorting by a collation keeps keys that compare as equal in the order they came in. Two orders of
the same keys are therefore sorted alike exactly when they agree on every tie.
-/
namespace Js.Collation
variable (collation : Collation)

/-- Keys that compare as equal stand in the same order in both lists. -/
def SameTies (keys keys' : List JsString) : Prop := ∀ a b, collation.le a b = true → collation.le b a = true →
  ([a, b].Sublist keys ↔ [a, b].Sublist keys')

variable {collation} {keys keys' : List JsString}

theorem SameTies.symm (h : collation.SameTies keys keys') : collation.SameTies keys' keys := fun a b hab hba => (h a b hab hba).symm

theorem perm_sortOn {α : Type} (key : α → JsString) (items : List α) : (collation.sortOn key items).Perm items :=
  List.perm_insertionSort _ items

/-- Of two different members, one stands before the other. -/
theorem pair_sublist {α : Type} {l : List α} {a b : α} (ha : a ∈ l) (hb : b ∈ l) (hne : a ≠ b) : [a, b].Sublist l ∨ [b, a].Sublist l := by
  induction l with
  | nil => cases ha
  | cons c rest ih =>
    rcases List.mem_cons.mp ha with rfl | harest
    · have hbrest := (List.mem_cons.mp hb).resolve_left hne.symm
      exact .inl ((List.singleton_sublist.mpr hbrest).cons_cons a)
    · rcases List.mem_cons.mp hb with rfl | hbrest
      · exact .inr ((List.singleton_sublist.mpr harest).cons_cons b)
      · exact (ih harest hbrest).imp (List.Sublist.cons c) (List.Sublist.cons c)

/-- Two members stand in one order only. -/
theorem eq_of_pair_sublist {α : Type} {l : List α} (hnodup : l.Nodup) {a b : α} (hab : [a, b].Sublist l) (hba : [b, a].Sublist l) :
    a = b := by
  by_contra hne
  induction l with
  | nil => cases hab
  | cons c rest ih =>
    obtain ⟨hc, hrest⟩ := List.nodup_cons.mp hnodup
    cases hab with
    | cons _ hab =>
      cases hba with
      | cons _ hba => exact ih hrest hab hba
      | cons_cons _ hba => exact hc (hab.subset (List.mem_cons_of_mem a List.mem_cons_self))
    | cons_cons _ hab =>
      cases hba with
      | cons _ hba => exact hc (hba.subset (List.mem_cons_of_mem b List.mem_cons_self))
      | cons_cons _ hba => exact hne rfl

theorem sublist_sortOn (hle : collation.le a b = true) (h : [a, b].Sublist keys) : [a, b].Sublist (collation.sortOn id keys) := by
  have : Std.Total fun a b : JsString => collation.le (id a) (id b) = true := ⟨fun _ _ => collation.total _ _⟩
  have : IsTrans JsString fun a b => collation.le (id a) (id b) = true := ⟨fun _ _ _ => collation.trans _ _ _⟩
  exact List.pair_sublist_insertionSort (r := fun a b : JsString => collation.le (id a) (id b) = true) hle h

/-- The order of sorted keys, ties included. -/
theorem pairwise_sortOn (hnodup : keys.Nodup) : (collation.sortOn id keys).Pairwise fun a b =>
    collation.le a b = true ∧ (collation.le b a = true → [a, b].Sublist keys) := by
  have : Std.Total fun a b : JsString => collation.le (id a) (id b) = true := ⟨fun _ _ => collation.total _ _⟩
  have : IsTrans JsString fun a b => collation.le (id a) (id b) = true := ⟨fun _ _ _ => collation.trans _ _ _⟩
  have hsorted : (collation.sortOn id keys).Pairwise fun a b => collation.le a b = true :=
    List.pairwise_insertionSort (fun a b : JsString => collation.le (id a) (id b) = true) keys
  have hperm : (collation.sortOn id keys).Perm keys := perm_sortOn id keys
  have hnodup' : (collation.sortOn id keys).Nodup := hperm.nodup_iff.mpr hnodup
  rw [List.pairwise_iff_forall_sublist] at hsorted ⊢
  intro a b hab
  refine ⟨hsorted hab, fun hba => ?_⟩
  have hne : a ≠ b := List.pairwise_iff_forall_sublist.mp hnodup' hab
  have ha : a ∈ keys := hperm.mem_iff.mp (hab.subset List.mem_cons_self)
  have hb : b ∈ keys := hperm.mem_iff.mp (hab.subset (List.mem_cons_of_mem a List.mem_cons_self))
  refine (pair_sublist ha hb hne).resolve_right fun hbefore => hne ?_
  exact eq_of_pair_sublist hnodup' hab (sublist_sortOn hba hbefore)

/-- The same keys are sorted alike exactly when they agree on ties. -/
theorem sortOn_eq_iff (hnodup : keys.Nodup) (hperm : keys.Perm keys') :
    collation.sortOn id keys = collation.sortOn id keys' ↔ collation.SameTies keys keys' := by
  have hnodup' : keys'.Nodup := hperm.nodup_iff.mp hnodup
  constructor
  · intro heq
    have hforward : ∀ {l l' : List JsString}, l.Nodup → l.Perm l' → collation.sortOn id l = collation.sortOn id l' → ∀ {a b},
        collation.le a b = true → collation.le b a = true → [a, b].Sublist l → [a, b].Sublist l' := by
      intro l l' hn hp heq a b hab hba hsub
      have hne : a ≠ b := List.pairwise_iff_forall_sublist.mp hn hsub
      have ha : a ∈ l' := hp.mem_iff.mp (hsub.subset List.mem_cons_self)
      have hb : b ∈ l' := hp.mem_iff.mp (hsub.subset (List.mem_cons_of_mem a List.mem_cons_self))
      refine (pair_sublist ha hb hne).resolve_right fun hbefore => hne ?_
      have hsorted := sublist_sortOn hab hsub
      rw [heq] at hsorted
      exact eq_of_pair_sublist ((perm_sortOn id l').nodup_iff.mpr (hp.nodup_iff.mp hn)) hsorted (sublist_sortOn hba hbefore)
    exact fun a b hab hba => ⟨hforward hnodup hperm heq hab hba, hforward hnodup' hperm.symm heq.symm hab hba⟩
  · intro hties
    refine List.Perm.eq_of_pairwise (fun a b _ _ hab hba => ?_) (pairwise_sortOn hnodup)
      ((pairwise_sortOn hnodup').imp fun {a b} h => ⟨h.1, fun hba => (hties a b h.1 hba).mpr (h.2 hba)⟩)
      ((perm_sortOn id keys).trans (hperm.trans (perm_sortOn id keys').symm))
    exact eq_of_pair_sublist hnodup (hab.2 hba.1) (hba.2 hab.1)

end Js.Collation
