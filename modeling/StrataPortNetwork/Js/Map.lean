import Mathlib.Data.List.Basic

/-! # Insertion-ordered maps and sets

The entries of a `Map` in insertion order, no two under the same key. Key equality is
a partial equivalence only: an array or object used as a key equals nothing, not even
itself, so its entry counts towards the size but is never found again. A `JsSet` is a
`Set` of primitive values.
-/
namespace Js

structure JsMap (κ β : Type) [BEq κ] where
  entries : List (κ × β)
  distinct : entries.Pairwise fun e e' => (e.1 == e'.1) = false

namespace JsMap
variable {κ β : Type} [BEq κ]

def empty : JsMap κ β := ⟨[], List.Pairwise.nil⟩

def get (m : JsMap κ β) (k : κ) : Option β := (m.entries.find? fun e => e.1 == k).map Prod.snd
def has (m : JsMap κ β) (k : κ) : Bool := m.entries.any fun e => e.1 == k
def size (m : JsMap κ β) : ℕ := m.entries.length
def values (m : JsMap κ β) : List β := m.entries.map Prod.snd

/-- The entries whose value passes `keep`: a loop over the map that deletes the others. -/
def filter (m : JsMap κ β) (keep : β → Bool) : JsMap κ β :=
  ⟨m.entries.filter (fun e => keep e.2), m.distinct.filter _⟩

/-- The entries whose key passes `keep`. -/
def restrict (m : JsMap κ β) (keep : κ → Bool) : JsMap κ β :=
  ⟨m.entries.filter (fun e => keep e.1), m.distinct.filter _⟩

def delete (m : JsMap κ β) (k : κ) : JsMap κ β :=
  ⟨m.entries.filter (fun e => !(e.1 == k)), m.distinct.filter _⟩

/-- `map.set(k, v)`: an entry under the key keeps its place and its key. -/
def set (m : JsMap κ β) (k : κ) (v : β) : JsMap κ β :=
  if h : m.has k = true then
    ⟨m.entries.map (fun e => if e.1 == k then (e.1, v) else e), by
      rw [List.pairwise_map]
      refine m.distinct.imp ?_
      intro e e' he
      split <;> split <;> exact he⟩
  else
    ⟨m.entries ++ [(k, v)], by
      rw [List.pairwise_append]
      refine ⟨m.distinct, List.pairwise_singleton _ _, ?_⟩
      intro e he e' he'
      rw [List.mem_singleton.mp he']
      rw [Bool.not_eq_true, has, List.any_eq_false] at h
      simpa using h e he⟩

@[simp] theorem get_empty (k : κ) : (empty : JsMap κ β).get k = none := rfl

theorem mem_of_get {m : JsMap κ β} {k : κ} {v : β} (h : m.get k = some v) :
    ∃ e ∈ m.entries, (e.1 == k) = true ∧ e.2 = v := by
  obtain ⟨e, he, hv⟩ := Option.map_eq_some_iff.mp h
  exact ⟨e, List.mem_of_find?_eq_some he, by simpa using List.find?_some he, hv⟩

theorem has_iff {m : JsMap κ β} {k : κ} : m.has k = true ↔ ∃ v, m.get k = some v := by
  constructor
  · intro h
    cases hf : m.entries.find? (fun e => e.1 == k) with
    | none =>
      obtain ⟨e, he, hk⟩ := List.any_eq_true.mp h
      exact absurd hk (by simpa using List.find?_eq_none.mp hf e he)
    | some e => exact ⟨e.2, by rw [get, hf]; rfl⟩
  · rintro ⟨v, hv⟩
    obtain ⟨e, he, hk, -⟩ := mem_of_get hv
    exact List.any_eq_true.mpr ⟨e, he, hk⟩

theorem get_eq_none_iff {m : JsMap κ β} {k : κ} : m.get k = none ↔ m.has k = false := by
  rw [← Bool.not_eq_true, has_iff]
  constructor
  · rintro h ⟨v, hv⟩
    exact absurd (h.symm.trans hv) (by simp)
  · intro h
    cases hg : m.get k with
    | none => rfl
    | some v => exact absurd ⟨v, hg⟩ h

theorem entries_set_of_get_eq_none {m : JsMap κ β} {k : κ} (h : m.get k = none) (v : β) :
    (m.set k v).entries = m.entries ++ [(k, v)] := by
  rw [set, dif_neg (by rw [get_eq_none_iff.mp h]; simp)]

theorem mem_values_of_get {m : JsMap κ β} {k : κ} {v : β} (h : m.get k = some v) : v ∈ m.values := by
  obtain ⟨e, he, -, rfl⟩ := mem_of_get h
  exact List.mem_map_of_mem he

variable [PartialEquivBEq κ]

/-- At most one entry stands under a key. -/
theorem get_of_mem {m : JsMap κ β} {e : κ × β} (he : e ∈ m.entries) {k : κ} (hk : (e.1 == k) = true) :
    m.get k = some e.2 := by
  obtain ⟨entries, hd⟩ := m
  simp only [get] at *
  induction entries with
  | nil => simp at he
  | cons f rest ih =>
    rw [List.find?_cons]
    have hpair := List.pairwise_cons.mp hd
    rcases List.mem_cons.mp he with rfl | he
    · simp [hk]
    · have hf : (f.1 == k) = false := by
        rw [← Bool.not_eq_true]
        intro hf
        have hfe : (f.1 == e.1) = true := PartialEquivBEq.trans hf (PartialEquivBEq.symm hk)
        rw [hpair.1 e he] at hfe
        exact absurd hfe (by simp)
      simp only [hf]
      exact ih hpair.2 he

@[simp] theorem get_set (m : JsMap κ β) (k k' : κ) (v : β) :
    (m.set k v).get k' = if k == k' then some v else m.get k' := by
  by_cases hk : (k == k') = true
  · rw [if_pos hk]
    by_cases hm : m.has k = true
    · obtain ⟨e, he, hek⟩ := List.any_eq_true.mp hm
      have hmem : ((if e.1 == k then (e.1, v) else e) : κ × β) ∈ (m.set k v).entries := by
        rw [set, dif_pos hm]
        exact List.mem_map_of_mem (f := fun e : κ × β => if e.1 == k then (e.1, v) else e) he
      rw [if_pos hek] at hmem
      exact get_of_mem hmem (PartialEquivBEq.trans hek hk)
    · have hmem : (k, v) ∈ (m.set k v).entries := by
        rw [set, dif_neg hm]
        exact List.mem_append_right _ List.mem_cons_self
      exact get_of_mem hmem hk
  · rw [if_neg hk]
    have hsame : ∀ e : κ × β, (e.1 == k) = true → (e.1 == k') = false := by
      intro e he
      rw [← Bool.not_eq_true]
      exact fun he' => hk (PartialEquivBEq.trans (PartialEquivBEq.symm he) he')
    unfold set
    split
    · simp only [get]
      generalize m.entries = entries
      induction entries with
      | nil => rfl
      | cons e rest ih =>
        rw [List.map_cons, List.find?_cons, List.find?_cons]
        by_cases he : (e.1 == k) = true
        · simp only [he, if_true, hsame e he]
          exact ih
        · rw [if_neg he]
          cases e.1 == k' with
          | true => rfl
          | false => exact ih
    · simp only [get, List.find?_append]
      have hlast : ([(k, v)] : List (κ × β)).find? (fun e => e.1 == k') = none := by
        simpa using hk
      rw [hlast, Option.or_none]

@[simp] theorem get_filter (m : JsMap κ β) (keep : β → Bool) (k : κ) :
    (m.filter keep).get k = (m.get k).filter keep := by
  cases hg : m.get k with
  | none =>
    rw [get_eq_none_iff, has, List.any_eq_false] at hg
    rw [Option.filter_none, get_eq_none_iff, has, List.any_eq_false]
    intro e he
    exact hg e (List.mem_of_mem_filter he)
  | some v =>
    obtain ⟨e, he, hk, rfl⟩ := mem_of_get hg
    by_cases hkeep : keep e.2 = true
    · rw [Option.filter_some, if_pos hkeep]
      exact get_of_mem (m := m.filter keep) (List.mem_filter.mpr ⟨he, hkeep⟩) hk
    · rw [Option.filter_some, if_neg hkeep, get_eq_none_iff, has, List.any_eq_false]
      intro f hf hfk
      obtain ⟨hf, hfkeep⟩ := List.mem_filter.mp hf
      have hv := (get_of_mem hf hfk).symm.trans (get_of_mem he hk)
      rw [Option.some.inj hv] at hfkeep
      exact hkeep hfkeep

@[simp] theorem get_delete (m : JsMap κ β) (k k' : κ) :
    (m.delete k).get k' = if k == k' then none else m.get k' := by
  by_cases hk : (k == k') = true
  · rw [if_pos hk, get_eq_none_iff, has, List.any_eq_false]
    intro e he hek
    obtain ⟨-, hne⟩ := List.mem_filter.mp he
    have : (e.1 == k) = true := PartialEquivBEq.trans hek (PartialEquivBEq.symm hk)
    simp [this] at hne
  · rw [if_neg hk]
    have hkeep : ∀ e : κ × β, (e.1 == k') = true → (!(e.1 == k)) = true := by
      intro e he
      rw [Bool.not_eq_true', ← Bool.not_eq_true]
      exact fun hek => hk (PartialEquivBEq.trans (PartialEquivBEq.symm hek) he)
    cases hg : m.get k' with
    | none =>
      rw [get_eq_none_iff, has, List.any_eq_false] at hg ⊢
      exact fun e he => hg e (List.mem_of_mem_filter he)
    | some v =>
      obtain ⟨e, he, hek, rfl⟩ := mem_of_get hg
      exact get_of_mem (m := m.delete k) (List.mem_filter.mpr ⟨he, hkeep e hek⟩) hek

/-- Equal keys find the same value. -/
theorem get_congr (m : JsMap κ β) {k k' : κ} (h : (k == k') = true) : m.get k = m.get k' := by
  cases hg : m.get k with
  | some v =>
    obtain ⟨e, he, hk, rfl⟩ := mem_of_get hg
    exact (get_of_mem he (PartialEquivBEq.trans hk h)).symm
  | none =>
    cases hg' : m.get k' with
    | none => rfl
    | some v =>
      obtain ⟨e, he, hk, rfl⟩ := mem_of_get hg'
      rw [get_of_mem he (PartialEquivBEq.trans hk (PartialEquivBEq.symm h))] at hg
      exact hg.symm

/-- A value is found exactly under the keys that equal its entry's key. -/
theorem get_eq_some_iff {m : JsMap κ β} {k : κ} {v : β} :
    m.get k = some v ↔ ∃ e ∈ m.entries, (e.1 == k) = true ∧ e.2 = v := by
  constructor
  · exact mem_of_get
  · rintro ⟨e, he, hk, rfl⟩
    exact get_of_mem he hk

omit [PartialEquivBEq κ] in
@[simp] theorem get_restrict [LawfulBEq κ] (m : JsMap κ β) (keep : κ → Bool) (k : κ) :
    (m.restrict keep).get k = if keep k then m.get k else none := by
  simp only [get, restrict, List.find?_filter]
  by_cases hk : keep k = true
  · have hsame : (fun e : κ × β => decide (keep e.1 = true ∧ (e.1 == k) = true)) = fun e => e.1 == k := by
      funext e
      by_cases he : e.1 = k
      · simp [he, hk]
      · simp [he]
    rw [if_pos hk, hsame]
  · rw [if_neg hk, Option.map_eq_none_iff, List.find?_eq_none]
    rintro e - he
    obtain ⟨hkeep, hkey⟩ := of_decide_eq_true he
    exact hk (eq_of_beq hkey ▸ hkeep)

omit [PartialEquivBEq κ] in
theorem nodup_keys [LawfulBEq κ] (m : JsMap κ β) : (m.entries.map Prod.fst).Nodup := by
  rw [List.Nodup, List.pairwise_map]
  refine m.distinct.imp fun h heq => ?_
  rw [heq, BEq.refl] at h
  simp at h

omit [PartialEquivBEq κ] in
theorem nodup_entries [LawfulBEq κ] (m : JsMap κ β) : m.entries.Nodup :=
  (List.pairwise_map.mp m.nodup_keys).imp fun hne heq => hne (congrArg Prod.fst heq)

omit [PartialEquivBEq κ] in
theorem mem_entries_iff [LawfulBEq κ] {m : JsMap κ β} {k : κ} {v : β} : (k, v) ∈ m.entries ↔ m.get k = some v := by
  rw [get_eq_some_iff]
  constructor
  · exact fun h => ⟨(k, v), h, BEq.refl k, rfl⟩
  · rintro ⟨e, he, hk, rfl⟩
    rw [← eq_of_beq hk]
    exact he

omit [PartialEquivBEq κ] in
/-- Maps that find the same values hold them in some order. -/
theorem perm_of_get_eq [LawfulBEq κ] {m m' : JsMap κ β} (h : ∀ k, m.get k = m'.get k) : m.entries.Perm m'.entries := by
  refine (List.perm_ext_iff_of_nodup m.nodup_entries m'.nodup_entries).mpr ?_
  rintro ⟨k, v⟩
  rw [mem_entries_iff, mem_entries_iff, h]

end JsMap

/-! ## Registries -/

/-- A map whose values name their own key. -/
structure Registry (κ β : Type) [BEq κ] (key : β → κ) where
  map : JsMap κ β
  keyed : ∀ k v, map.get k = some v → (key v == k) = true

namespace Registry
variable {κ β : Type} [BEq κ] [PartialEquivBEq κ] {key : β → κ}

omit [PartialEquivBEq κ] in
theorem empty_keyed (k : κ) (v : β) (h : (JsMap.empty : JsMap κ β).get k = some v) : (key v == k) = true := by
  simp at h

def empty : Registry κ β key := ⟨JsMap.empty, empty_keyed⟩

def get (r : Registry κ β key) (k : κ) : Option β := r.map.get k
def has (r : Registry κ β key) (k : κ) : Bool := r.map.has k
def values (r : Registry κ β key) : List β := r.map.values

theorem put_keyed (r : Registry κ β key) (v : β) (k : κ) (w : β) (h : (r.map.set (key v) v).get k = some w) :
    (key w == k) = true := by
  rw [JsMap.get_set] at h
  split at h
  · rename_i hk
    rw [← Option.some.inj h]
    exact hk
  · exact r.keyed k w h

/-- `map.set(value.key, value)`. -/
def put (r : Registry κ β key) (v : β) : Registry κ β key := ⟨r.map.set (key v) v, r.put_keyed v⟩

omit [PartialEquivBEq κ] in
@[simp] theorem get_empty (k : κ) : (empty : Registry κ β key).get k = none := rfl

@[simp] theorem get_put (r : Registry κ β key) (v : β) (k : κ) :
    (r.put v).get k = if key v == k then some v else r.get k := JsMap.get_set ..

theorem get_congr (r : Registry κ β key) {k k' : κ} (h : (k == k') = true) : r.get k = r.get k' :=
  JsMap.get_congr r.map h

omit [PartialEquivBEq κ] in
theorem key_of_get {r : Registry κ β key} {k : κ} {v : β} (h : r.get k = some v) : (key v == k) = true := r.keyed k v h

theorem mem_values_iff [LawfulBEq κ] {r : Registry κ β key} {v : β} : v ∈ r.values ↔ r.get (key v) = some v := by
  constructor
  · intro hv
    obtain ⟨e, he, rfl⟩ := List.mem_map.mp hv
    have hget : r.get e.1 = some e.2 := JsMap.get_of_mem he (BEq.refl _)
    rw [eq_of_beq (key_of_get hget)]
    exact hget
  · exact JsMap.mem_values_of_get

/-- Writing several values leaves each key with the last value written under it. -/
theorem get_foldl_put [LawfulBEq κ] {vs : List β} {r : Registry κ β key} {k : κ} :
    (∃ v ∈ vs, key v = k ∧ (vs.foldl put r).get k = some v) ∨
      (∀ v ∈ vs, key v ≠ k) ∧ (vs.foldl put r).get k = r.get k := by
  induction vs generalizing r with
  | nil => exact Or.inr ⟨by simp, rfl⟩
  | cons v rest ih =>
    rw [List.foldl_cons]
    rcases @ih (r.put v) with ⟨w, hw, hk, hget⟩ | ⟨hnone, hget⟩
    · exact Or.inl ⟨w, List.mem_cons_of_mem v hw, hk, hget⟩
    · by_cases hk : key v = k
      · refine Or.inl ⟨v, List.mem_cons_self, hk, ?_⟩
        rw [hget, get_put, if_pos (beq_iff_eq.mpr hk)]
      · refine Or.inr ⟨List.forall_mem_cons.mpr ⟨hk, hnone⟩, ?_⟩
        rw [hget, get_put, if_neg (by simpa using hk)]

end Registry

/-! ## Sets -/

structure JsSet (α : Type) where
  items : List α
  nodup : items.Nodup

namespace JsSet
variable {α : Type} [DecidableEq α]

def empty : JsSet α := ⟨[], List.nodup_nil⟩

def has (s : JsSet α) (a : α) : Bool := s.items.contains a

/-- `set.add(a)`: an item keeps its place. -/
def add (s : JsSet α) (a : α) : JsSet α :=
  if h : a ∈ s.items then s
  else ⟨s.items ++ [a], by
    rw [List.nodup_append]
    refine ⟨s.nodup, by simp, ?_⟩
    rintro b hb c hc rfl
    exact h (List.mem_singleton.mp hc ▸ hb)⟩

/-- `new Set(items)`. -/
def ofList (items : List α) : JsSet α := items.foldl add empty

@[simp] theorem has_iff {s : JsSet α} {a : α} : s.has a = true ↔ a ∈ s.items := by simp [has]

@[simp] theorem mem_add {s : JsSet α} {a b : α} : b ∈ (s.add a).items ↔ b ∈ s.items ∨ b = a := by
  unfold add
  split
  · rename_i h
    constructor
    · exact Or.inl
    · rintro (hb | rfl)
      · exact hb
      · exact h
  · simp

theorem mem_foldl_add {items : List α} {s : JsSet α} {b : α} :
    b ∈ (items.foldl add s).items ↔ b ∈ s.items ∨ b ∈ items := by
  induction items generalizing s with
  | nil => simp
  | cons a rest ih => simp [ih, or_assoc]

@[simp] theorem mem_ofList {items : List α} {b : α} : b ∈ (ofList items).items ↔ b ∈ items := by
  simp [ofList, mem_foldl_add, empty]

theorem foldl_add_of_nodup {items : List α} {s : JsSet α} (hn : items.Nodup) (hd : ∀ a ∈ items, a ∉ s.items) :
    (items.foldl add s).items = s.items ++ items := by
  induction items generalizing s with
  | nil => simp
  | cons a rest ih =>
    have hadd : (s.add a).items = s.items ++ [a] := by rw [add, dif_neg (hd a List.mem_cons_self)]
    rw [List.foldl_cons, ih hn.of_cons, hadd, List.append_assoc, List.singleton_append]
    intro b hb
    rw [hadd]
    simp only [List.mem_append, List.mem_singleton, not_or]
    exact ⟨hd b (List.mem_cons_of_mem a hb), fun he => (List.nodup_cons.mp hn).1 (he ▸ hb)⟩

theorem ofList_of_nodup {items : List α} (hn : items.Nodup) : (ofList items).items = items := by
  rw [ofList, foldl_add_of_nodup hn (by simp [empty])]
  rfl

omit [DecidableEq α] in
/-- Sets of the same items hold them in some order. -/
theorem perm_of_mem_iff {s t : JsSet α} (h : ∀ a, a ∈ s.items ↔ a ∈ t.items) : s.items.Perm t.items :=
  (List.perm_ext_iff_of_nodup s.nodup t.nodup).mpr h

end JsSet

end Js
