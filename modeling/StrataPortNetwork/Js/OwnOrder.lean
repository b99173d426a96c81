import StrataPortNetwork.Js.JsonText
import Mathlib.Data.List.Sort

/-! # Own property order

`Object.fromEntries` yields fields in property order whatever the order of its
entries, and rebuilding such fields changes nothing. Entries listed by ascending key
give a field list that depends on the keys and the values alone.
-/
namespace Js

/-! ## Lookup after writes -/

namespace Json

theorem lookup_cons (f : JsString × Json) (rest : Fields) (k : JsString) :
    (f :: rest : Fields).lookup k = if k = f.1 then some f.2 else rest.lookup k := by
  rw [List.lookup_cons]
  by_cases h : k = f.1
  · rw [if_pos h, beq_iff_eq.mpr h]
  · rw [if_neg h, beq_eq_false_iff_ne.mpr h]

theorem lookup_insertNew {key : JsString} {fields : Fields} (h : key ∉ fields.map Prod.fst) (v : Json)
    (k : JsString) : (insertNew key v fields).lookup k = if k = key then some v else fields.lookup k := by
  induction fields with
  | nil => simp [insertNew, lookup_cons]
  | cons f rest ih =>
    simp only [List.map_cons, List.mem_cons, not_or] at h
    have ih := ih h.2
    have hmove : (f :: insertNew key v rest).lookup k =
        if k = key then some v else (f :: rest).lookup k := by
      simp only [lookup_cons, ih]
      by_cases hf : k = f.1
      · have hk : f.1 ≠ key := fun e => h.1 e.symm
        simp [hf, hk]
      · simp [hf]
    have hhere : ((key, v) :: f :: rest).lookup k =
        if k = key then some v else (f :: rest).lookup k := by
      rw [lookup_cons]
    unfold insertNew
    split
    · split
      · exact hhere
      · exact hmove
    · exact hhere
    · exact hmove

theorem lookup_replace (key : JsString) (v : Json) (fields : Fields) (h : key ∈ fields.map Prod.fst)
    (k : JsString) : (fields.map (fun f => if f.1 = key then (key, v) else f)).lookup k =
      if k = key then some v else fields.lookup k := by
  induction fields with
  | nil => simp at h
  | cons f rest ih =>
    rw [List.map_cons, lookup_cons, lookup_cons]
    by_cases hmem : key ∈ rest.map Prod.fst
    · rw [ih hmem]
      by_cases hf : f.1 = key
      · by_cases hk : k = key <;> simp [hf, hk]
      · by_cases hk : k = key
        · subst hk
          simp [hf, Ne.symm hf]
        · simp [hf, hk]
    · have hf : f.1 = key := by
        rcases List.mem_cons.mp h with he | he
        · exact he.symm
        · exact absurd he hmem
      have hrest : rest.map (fun f => if f.1 = key then (key, v) else f) = rest := by
        nth_rewrite 2 [← List.map_id rest]
        apply List.map_congr_left
        intro g hg
        have hne : g.1 ≠ key := by
          rintro rfl
          exact hmem (List.mem_map_of_mem hg)
        rw [if_neg hne, id]
      rw [hrest, if_pos hf, hf]
      by_cases hk : k = key <;> simp [hk]

@[simp] theorem lookup_setField (key : JsString) (v : Json) (fields : Fields) (k : JsString) :
    (setField key v fields).lookup k = if k = key then some v else fields.lookup k := by
  unfold setField
  split
  · exact lookup_replace key v fields ‹_› k
  · exact lookup_insertNew ‹_› v k

@[simp] theorem get_set (value : Json) (name name' : String) (v : Json) :
    (value.set name v).get name' = if name' = name then some v else value.get name' := by
  simp only [get, set, fields, lookup_setField, js_inj]

theorem get_set_congr {value value' v v' : Json} {name name' : String} (hv : v = v')
    (h : name' ≠ name → value.get name' = value'.get name') : (value.set name v).get name' = (value'.set name v').get name' := by
  rw [get_set, get_set, hv]
  split_ifs with hname
  · rfl
  · exact h hname

/-- Dropping a key that was new undoes its insertion. -/
theorem filter_insertNew {key : JsString} {fields : Fields} (h : key ∉ fields.map Prod.fst) (v : Json) :
    (insertNew key v fields).filter (fun f => f.1 ≠ key) = fields := by
  have hkeep : ∀ {rest : Fields}, key ∉ rest.map Prod.fst → rest.filter (fun f => f.1 ≠ key) = rest := by
    intro rest hrest
    refine List.filter_eq_self.mpr fun f hf => ?_
    simpa using fun he : f.1 = key => hrest (he ▸ List.mem_map_of_mem hf)
  have hall := hkeep h
  induction fields with
  | nil => simp [insertNew]
  | cons f rest ih =>
    have hrest : key ∉ rest.map Prod.fst := fun hk => h (List.mem_cons_of_mem _ hk)
    have hne : f.1 ≠ key := fun he => h (he ▸ List.mem_cons_self)
    have htail := ih hrest (hkeep hrest)
    rw [insertNew]
    split
    · split
      · rw [List.filter_cons_of_neg (by simp), hall]
      · rw [List.filter_cons_of_pos (by simpa using hne), htail]
    · rw [List.filter_cons_of_neg (by simp), hall]
    · rw [List.filter_cons_of_pos (by simpa using hne), htail]

theorem mem_keys_of_lookup {fields : Fields} {k : JsString} {v : Json} (h : fields.lookup k = some v) :
    k ∈ fields.map Prod.fst := by
  induction fields with
  | nil => simp at h
  | cons f rest ih =>
    rw [lookup_cons] at h
    split at h
    · rename_i hk
      rw [hk]
      exact List.mem_cons_self
    · exact List.mem_cons_of_mem _ (ih h)

theorem lookup_eq_some_of_mem {fields : Fields} (hn : (fields.map Prod.fst).Nodup)
    {f : JsString × Json} (hf : f ∈ fields) : fields.lookup f.1 = some f.2 := by
  induction fields with
  | nil => simp at hf
  | cons g rest ih =>
    rw [List.map_cons, List.nodup_cons] at hn
    rw [lookup_cons]
    rcases List.mem_cons.mp hf with rfl | hf
    · rw [if_pos rfl]
    · have hne : f.1 ≠ g.1 := fun he => hn.1 (he ▸ List.mem_map_of_mem hf)
      rw [if_neg hne]
      exact ih hn.2 hf

/-! ## Keys after writes -/

theorem perm_insertNew (key : JsString) (v : Json) (fields : Fields) :
    (insertNew key v fields).Perm ((key, v) :: fields) := by
  induction fields with
  | nil => exact List.Perm.refl _
  | cons f rest ih =>
    have hmove : (f :: insertNew key v rest).Perm ((key, v) :: f :: rest) :=
      (ih.cons f).trans (List.Perm.swap _ _ _)
    unfold insertNew
    split
    · split
      · exact List.Perm.refl _
      · exact hmove
    · exact List.Perm.refl _
    · exact hmove

theorem keys_replace (key : JsString) (v : Json) (fields : Fields) :
    (fields.map (fun f => if f.1 = key then (key, v) else f)).map Prod.fst = fields.map Prod.fst := by
  rw [List.map_map]
  apply List.map_congr_left
  intro f _
  by_cases hf : f.1 = key <;> simp [hf]

theorem mem_keys_setField (key : JsString) (v : Json) (fields : Fields) (k : JsString) :
    k ∈ (setField key v fields).map Prod.fst ↔ k = key ∨ k ∈ fields.map Prod.fst := by
  unfold setField
  split
  · rename_i h
    rw [keys_replace]
    constructor
    · exact Or.inr
    · rintro (rfl | hk)
      · exact h
      · exact hk
  · rw [((perm_insertNew key v fields).map Prod.fst).mem_iff, List.map_cons, List.mem_cons]

/-! ## Property order -/

/-- The place of one key before another in an object. -/
def Precedes (k k' : JsString) : Prop :=
  k ≠ k' ∧ match arrayIndex? k, arrayIndex? k' with
    | some n, some m => n < m
    | none, some _ => False
    | _, none => True

def OwnOrdered (fields : Fields) : Prop := (fields.map Prod.fst).Pairwise Precedes

theorem arrayIndex?_spec {k : JsString} {n : ℕ} (h : arrayIndex? k = some n) : k = natText n := by
  simp only [arrayIndex?] at h
  split at h
  · rename_i hk
    rw [← Option.some.inj h]
    exact hk.1
  · simp at h

theorem precedes_of_not_lt {k k' : JsString} {n m : ℕ} (hn : arrayIndex? k = some n)
    (hm : arrayIndex? k' = some m) (hne : k ≠ k') (h : ¬ n < m) : Precedes k' k := by
  refine ⟨hne.symm, ?_⟩
  simp only [hn, hm]
  have hnm : n ≠ m := by
    rintro rfl
    exact hne ((arrayIndex?_spec hn).trans (arrayIndex?_spec hm).symm)
  omega

theorem precedes_trans_index {k k' k'' : JsString} {n m : ℕ} (hn : arrayIndex? k = some n)
    (hm : arrayIndex? k' = some m) (hlt : n < m) (h : Precedes k' k'') : Precedes k k'' := by
  obtain ⟨hne, h⟩ := h
  have hk : k ≠ k'' := by
    rintro rfl
    simp only [hn, hm] at h
    omega
  refine ⟨hk, ?_⟩
  simp only [hn, hm] at h ⊢
  cases hl : arrayIndex? k'' with
  | none => trivial
  | some l =>
    simp only [hl] at h ⊢
    omega

theorem ownOrdered_insertNew {key : JsString} {fields : Fields} (hf : OwnOrdered fields)
    (h : key ∉ fields.map Prod.fst) (v : Json) : OwnOrdered (insertNew key v fields) := by
  induction fields with
  | nil => simp [insertNew, OwnOrdered]
  | cons f rest ih =>
    simp only [List.map_cons, List.mem_cons, not_or] at h
    have hpair := List.pairwise_cons.mp (show ((f :: rest).map Prod.fst).Pairwise Precedes from hf)
    have hmove : Precedes f.1 key → OwnOrdered (f :: insertNew key v rest) := by
      intro hp
      refine List.pairwise_cons.mpr ⟨?_, ih hpair.2 h.2⟩
      intro k hk
      rw [((perm_insertNew key v rest).map Prod.fst).mem_iff, List.map_cons, List.mem_cons] at hk
      rcases hk with rfl | hk
      · exact hp
      · exact hpair.1 k hk
    unfold insertNew
    cases hn : arrayIndex? key with
    | none =>
      refine hmove ⟨fun e => h.1 e.symm, ?_⟩
      rw [hn]
      cases arrayIndex? f.1 <;> trivial
    | some n =>
      cases hm : arrayIndex? f.1 with
      | none =>
        refine List.pairwise_cons.mpr ⟨?_, hf⟩
        intro k hk
        have hnone : arrayIndex? k = none := by
          rcases List.mem_cons.mp hk with rfl | hk
          · exact hm
          · have hp := (hpair.1 k hk).2
            cases hl : arrayIndex? k with
            | none => rfl
            | some l => simp [hm, hl] at hp
        have hne : key ≠ k := by
          rintro rfl
          rw [hn] at hnone
          exact absurd hnone (by simp)
        refine ⟨hne, ?_⟩
        rw [hn, hnone]
        trivial
      | some m =>
        split
        · rename_i a b ha hb
          rw [← Option.some.inj ha, ← Option.some.inj hb]
          split
          · rename_i hlt
            refine List.pairwise_cons.mpr ⟨?_, hf⟩
            intro k hk
            rcases List.mem_cons.mp hk with rfl | hk
            · refine ⟨h.1, ?_⟩
              simp only [hn, hm]
              exact hlt
            · exact precedes_trans_index hn hm hlt (hpair.1 k hk)
          · rename_i hlt
            exact hmove (precedes_of_not_lt hn hm h.1 hlt)
        · simp_all
        · simp_all

theorem ownOrdered_setField {fields : Fields} (hf : OwnOrdered fields) (key : JsString) (v : Json) :
    OwnOrdered (setField key v fields) := by
  unfold setField
  split
  · rw [OwnOrdered, keys_replace]
    exact hf
  · exact ownOrdered_insertNew hf ‹_› v

theorem ownOrdered_foldl (entries : Fields) {fields : Fields} (hf : OwnOrdered fields) :
    OwnOrdered (entries.foldl (fun fields f => setField f.1 f.2 fields) fields) := by
  induction entries generalizing fields with
  | nil => exact hf
  | cons f rest ih => exact ih (ownOrdered_setField hf f.1 f.2)

theorem ownOrdered_fromEntries (entries : Fields) : OwnOrdered (fromEntries entries) :=
  ownOrdered_foldl entries List.Pairwise.nil

theorem insertNew_of_precedes {key : JsString} {fields : Fields}
    (h : ∀ f ∈ fields, Precedes f.1 key) (v : Json) : insertNew key v fields = fields ++ [(key, v)] := by
  induction fields with
  | nil => rfl
  | cons f rest ih =>
    have hp := (h f List.mem_cons_self).2
    have ih := ih (fun g hg => h g (List.mem_cons_of_mem f hg))
    rw [insertNew, ih]
    cases hn : arrayIndex? key with
    | none => rfl
    | some n =>
      cases hm : arrayIndex? f.1 with
      | none => simp [hn, hm] at hp
      | some m =>
        simp only [hn, hm] at hp
        simp only [if_neg (Nat.lt_asymm hp)]
        rfl

theorem foldl_setField_of_ownOrdered (entries fields : Fields) (h : OwnOrdered (fields ++ entries)) :
    entries.foldl (fun fields f => setField f.1 f.2 fields) fields = fields ++ entries := by
  induction entries generalizing fields with
  | nil => simp
  | cons f rest ih =>
    have hpre : ∀ g ∈ fields, Precedes g.1 f.1 := by
      rw [OwnOrdered, List.map_append, List.pairwise_append] at h
      exact fun g hg => h.2.2 g.1 (List.mem_map_of_mem hg) f.1 (by simp)
    have hnew : f.1 ∉ fields.map Prod.fst := by
      intro hk
      obtain ⟨g, hg, he⟩ := List.mem_map.mp hk
      exact (hpre g hg).1 he
    have hset : setField f.1 f.2 fields = fields ++ [f] := by
      rw [setField, if_neg hnew, insertNew_of_precedes hpre]
    rw [List.foldl_cons, hset, ih]
    · simp
    · simpa using h

/-- Fields already in property order are rebuilt as they are. -/
theorem fromEntries_of_ownOrdered {fields : Fields} (h : OwnOrdered fields) :
    fromEntries fields = fields := foldl_setField_of_ownOrdered fields [] h

/-! ## Sorted keys -/

/-- The order of `Array.prototype.sort`: by UTF-16 code units. -/
def leUnits : JsString → JsString → Bool
  | [], _ => true
  | _ :: _, [] => false
  | a :: s, b :: t => if a = b then leUnits s t else a.toNat < b.toNat

theorem leUnits_total (s t : JsString) : leUnits s t = true ∨ leUnits t s = true := by
  induction s generalizing t with
  | nil => exact Or.inl rfl
  | cons a s ih =>
    cases t with
    | nil => exact Or.inr rfl
    | cons b t =>
      by_cases h : a = b
      · simpa [leUnits, h] using ih t
      · have hne : a.toNat ≠ b.toNat := fun e => h (UInt16.toNat_inj.mp e)
        simp only [leUnits, h, Ne.symm h, if_false, decide_eq_true_eq]
        omega

theorem leUnits_trans {s t u : JsString} (hst : leUnits s t = true) (htu : leUnits t u = true) :
    leUnits s u = true := by
  induction s generalizing t u with
  | nil => rfl
  | cons a s ih =>
    cases t with
    | nil => simp [leUnits] at hst
    | cons b t =>
      cases u with
      | nil => simp [leUnits] at htu
      | cons c u =>
        simp only [leUnits] at hst htu ⊢
        by_cases hab : a = b
        · subst hab
          by_cases hac : a = c
          · subst hac
            simp only [if_true] at hst htu ⊢
            exact ih hst htu
          · simpa only [hac, if_false] using htu
        · simp only [hab, if_false, decide_eq_true_eq] at hst
          by_cases hbc : b = c
          · subst hbc
            simpa only [hab, if_false, decide_eq_true_eq] using hst
          · simp only [hbc, if_false, decide_eq_true_eq] at htu
            have hac : a ≠ c := by
              rintro rfl
              omega
            simp only [hac, if_false, decide_eq_true_eq]
            omega

theorem leUnits_antisymm {s t : JsString} (hst : leUnits s t = true) (hts : leUnits t s = true) :
    s = t := by
  induction s generalizing t with
  | nil => cases t with
    | nil => rfl
    | cons b t => simp [leUnits] at hts
  | cons a s ih =>
    cases t with
    | nil => simp [leUnits] at hst
    | cons b t =>
      by_cases h : a = b
      · subst h
        simp only [leUnits, if_true] at hst hts
        rw [ih hst hts]
      · simp only [leUnits, h, Ne.symm h, if_false, decide_eq_true_eq] at hst hts
        omega

instance : Std.Total (fun s t : JsString => leUnits s t = true) := ⟨leUnits_total⟩
instance : IsTrans JsString (fun s t => leUnits s t = true) := ⟨fun _ _ _ => leUnits_trans⟩

/-- `keys.sort()`. -/
def sortKeys (keys : List JsString) : List JsString := keys.insertionSort (fun s t => leUnits s t = true)

@[simp] theorem mem_sortKeys {keys : List JsString} {k : JsString} : k ∈ sortKeys keys ↔ k ∈ keys :=
  List.mem_insertionSort _

theorem pairwise_sortKeys (keys : List JsString) :
    (sortKeys keys).Pairwise (fun s t => leUnits s t = true) := List.pairwise_insertionSort _ keys

/-- Sorting forgets the order keys come in. -/
theorem sortKeys_congr {keys keys' : List JsString} (h : keys.Perm keys') : sortKeys keys = sortKeys keys' := by
  refine List.Perm.eq_of_pairwise (fun s t _ _ => leUnits_antisymm) (pairwise_sortKeys keys) (pairwise_sortKeys keys') ?_
  exact (List.perm_insertionSort _ keys).trans (h.trans (List.perm_insertionSort _ keys').symm)

/-! ## Canonical fields -/

/-- `Object.keys(v).sort().map(k => [k, v[k]])`. -/
def sortedEntries (fields : Fields) : Fields :=
  (sortKeys (fields.map Prod.fst)).filterMap fun k => (fields.lookup k).map fun v => (k, v)

def canonicalFields (fields : Fields) : Fields := fromEntries (sortedEntries fields)

theorem lookup_foldl_setField (entries : Fields) (g : JsString → Option Json)
    (h : ∀ f ∈ entries, g f.1 = some f.2) (fields : Fields) (k : JsString) :
    (entries.foldl (fun fields f => setField f.1 f.2 fields) fields).lookup k =
      if k ∈ entries.map Prod.fst then g k else fields.lookup k := by
  induction entries generalizing fields with
  | nil => simp
  | cons f rest ih =>
    rw [List.foldl_cons, ih (fun g hg => h g (List.mem_cons_of_mem f hg)), lookup_setField]
    by_cases hk : k = f.1
    · subst hk
      simp [h f List.mem_cons_self]
    · simp only [List.map_cons, List.mem_cons, hk, false_or, if_false]

theorem lookup_isSome_of_mem_keys {fields : Fields} {k : JsString} (h : k ∈ fields.map Prod.fst) :
    ∃ v, fields.lookup k = some v := by
  induction fields with
  | nil => simp at h
  | cons f rest ih =>
    rw [lookup_cons]
    by_cases hk : k = f.1
    · exact ⟨f.2, by rw [if_pos hk]⟩
    · rw [if_neg hk]
      rcases List.mem_cons.mp h with he | he
      · exact absurd he hk
      · exact ih he

theorem mem_keys_sortedEntries {fields : Fields} {k : JsString} :
    k ∈ (sortedEntries fields).map Prod.fst ↔ k ∈ fields.map Prod.fst := by
  simp only [sortedEntries, List.mem_map, List.mem_filterMap, Option.map_eq_some_iff, mem_sortKeys]
  constructor
  · rintro ⟨f, ⟨k', hk', v, hv, rfl⟩, rfl⟩
    exact hk'
  · intro hk
    obtain ⟨v, hv⟩ := lookup_isSome_of_mem_keys (List.mem_map.mpr hk)
    exact ⟨(k, v), ⟨k, hk, v, hv, rfl⟩, rfl⟩

@[simp] theorem lookup_canonicalFields (fields : Fields) (k : JsString) :
    (canonicalFields fields).lookup k = fields.lookup k := by
  have hg : ∀ f ∈ sortedEntries fields, fields.lookup f.1 = some f.2 := by
    intro f hf
    simp only [sortedEntries, List.mem_filterMap, Option.map_eq_some_iff] at hf
    obtain ⟨k, -, v, hv, rfl⟩ := hf
    exact hv
  rw [canonicalFields, fromEntries, lookup_foldl_setField _ (fields.lookup ·) hg]
  simp only [mem_keys_sortedEntries]
  split
  · rfl
  · rename_i hk
    cases hl : fields.lookup k with
    | none => rfl
    | some v => exact absurd (mem_keys_of_lookup hl) hk

/-- Keys that are no array index stand in ascending order. -/
def SortedNames (fields : Fields) : Prop :=
  (fields.map Prod.fst).Pairwise fun k k' =>
    arrayIndex? k = none → arrayIndex? k' = none → leUnits k k' = true

theorem sortedNames_insertNew {key : JsString} {fields : Fields} (hs : SortedNames fields)
    (h : ∀ k ∈ fields.map Prod.fst, leUnits k key = true) (v : Json) :
    SortedNames (insertNew key v fields) := by
  cases hn : arrayIndex? key with
  | none =>
    have he : insertNew key v fields = fields ++ [(key, v)] := by
      clear hs h
      induction fields with
      | nil => rfl
      | cons f rest ih => simp only [insertNew, hn, ih, List.cons_append]
    rw [he, SortedNames, List.map_append, List.pairwise_append]
    refine ⟨hs, by simp, ?_⟩
    intro k hk k' hk' _ _
    rw [List.mem_singleton.mp hk']
    exact h k hk
  | some n =>
    clear h
    induction fields with
    | nil => simp [insertNew, SortedNames]
    | cons f rest ih =>
      have hpair := List.pairwise_cons.mp (show ((f :: rest).map Prod.fst).Pairwise _ from hs)
      have hhere : SortedNames ((key, v) :: f :: rest) :=
        List.pairwise_cons.mpr ⟨fun k _ hk => absurd (hn.symm.trans hk) (by simp), hs⟩
      have hmove : SortedNames (f :: insertNew key v rest) := by
        refine List.pairwise_cons.mpr ⟨?_, ih hpair.2⟩
        intro k hk hf hkn
        rw [((perm_insertNew key v rest).map Prod.fst).mem_iff, List.map_cons, List.mem_cons] at hk
        rcases hk with rfl | hk
        · exact absurd (hn.symm.trans hkn) (by simp)
        · exact hpair.1 k hk hf hkn
      unfold insertNew
      split
      · split
        · exact hhere
        · exact hmove
      · exact hhere
      · exact hmove

theorem sortedNames_foldl {entries : Fields} {fields : Fields} (hs : SortedNames fields)
    (he : (entries.map Prod.fst).Pairwise (fun k k' => leUnits k k' = true))
    (h : ∀ k ∈ fields.map Prod.fst, ∀ k' ∈ entries.map Prod.fst, leUnits k k' = true) :
    SortedNames (entries.foldl (fun fields f => setField f.1 f.2 fields) fields) := by
  induction entries generalizing fields with
  | nil => exact hs
  | cons f rest ih =>
    have hpair := List.pairwise_cons.mp (show ((f :: rest).map Prod.fst).Pairwise _ from he)
    apply ih _ hpair.2
    · intro k hk k' hk'
      rcases (mem_keys_setField _ _ _ _).mp hk with rfl | hk
      · exact hpair.1 k' hk'
      · exact h k hk k' (List.mem_cons_of_mem _ hk')
    · change SortedNames (setField f.1 f.2 fields)
      unfold setField
      split
      · rw [SortedNames, keys_replace]
        exact hs
      · exact sortedNames_insertNew hs (fun k hk => h k hk f.1 List.mem_cons_self) f.2

theorem keys_sortedEntries_pairwise (fields : Fields) :
    ((sortedEntries fields).map Prod.fst).Pairwise (fun k k' => leUnits k k' = true) := by
  have hsub : ((sortedEntries fields).map Prod.fst).Sublist (sortKeys (fields.map Prod.fst)) := by
    rw [sortedEntries, List.map_filterMap]
    have hid : (fun k => ((fields.lookup k).map fun v => (k, v)).map Prod.fst) =
        fun k => Option.guard (fun k => (fields.lookup k).isSome) k := by
      funext k
      cases h : fields.lookup k <;> simp [Option.guard, h]
    rw [hid, List.filterMap_eq_filter]
    exact List.filter_sublist
  exact (pairwise_sortKeys _).sublist hsub

theorem sortedNames_canonicalFields (fields : Fields) : SortedNames (canonicalFields fields) :=
  sortedNames_foldl List.Pairwise.nil (keys_sortedEntries_pairwise fields) (by simp)

/-- Field lists with the same keys in the same places and the same lookups are equal. -/
theorem fields_ext {fields fields' : Fields} (hk : fields.map Prod.fst = fields'.map Prod.fst)
    (hn : (fields.map Prod.fst).Nodup) (h : ∀ k, fields.lookup k = fields'.lookup k) :
    fields = fields' := by
  induction fields generalizing fields' with
  | nil => simpa using hk.symm
  | cons f rest ih =>
    cases fields' with
    | nil => simp at hk
    | cons f' rest' =>
      simp only [List.map_cons, List.cons.injEq] at hk
      have hn := List.nodup_cons.mp (show (f.1 :: rest.map Prod.fst).Nodup from hn)
      have hv : f.2 = f'.2 := by
        have hf := h f.1
        rw [lookup_cons, lookup_cons, if_pos rfl, if_pos hk.1] at hf
        exact Option.some.inj hf
      have hrest : rest = rest' := by
        refine ih hk.2 hn.2 (fun k => ?_)
        have hf := h k
        rw [lookup_cons, lookup_cons, hk.1] at hf
        by_cases hkf : k = f'.1
        · have hout : ∀ r : Fields, k ∉ r.map Prod.fst → r.lookup k = none := by
            intro r hr
            cases hl : r.lookup k with
            | none => rfl
            | some v => exact absurd (mem_keys_of_lookup hl) hr
          have hkr : k ∉ rest.map Prod.fst := by rw [hkf, ← hk.1]; exact hn.1
          rw [hout rest hkr, hout rest' (by rwa [← hk.2])]
        · rwa [if_neg hkf, if_neg hkf] at hf
      rw [hrest, Prod.ext hk.1 hv]

theorem OwnOrdered.nodup {fields : Fields} (h : OwnOrdered fields) : (fields.map Prod.fst).Nodup :=
  h.imp (fun hp => hp.1)

/-- Canonical fields depend on the lookups alone. -/
theorem canonicalFields_congr {fields fields' : Fields} (h : ∀ k, fields.lookup k = fields'.lookup k) :
    canonicalFields fields = canonicalFields fields' := by
  have ho := ownOrdered_fromEntries (sortedEntries fields)
  have ho' := ownOrdered_fromEntries (sortedEntries fields')
  have hl : ∀ k, (canonicalFields fields).lookup k = (canonicalFields fields').lookup k := by
    intro k
    rw [lookup_canonicalFields, lookup_canonicalFields, h]
  have hmem : ∀ fs gs : Fields, (∀ k, fs.lookup k = gs.lookup k) →
      ∀ k, k ∈ fs.map Prod.fst → k ∈ gs.map Prod.fst := by
    intro fs gs hfg k hk
    obtain ⟨v, hv⟩ := lookup_isSome_of_mem_keys hk
    exact mem_keys_of_lookup ((hfg k).symm.trans hv)
  have hperm : ((canonicalFields fields).map Prod.fst).Perm ((canonicalFields fields').map Prod.fst) :=
    (List.perm_ext_iff_of_nodup ho.nodup ho'.nodup).mpr
      fun k => ⟨hmem _ _ hl k, hmem _ _ (fun k => (hl k).symm) k⟩
  have hanti : ∀ k k', (Precedes k k' ∧ (arrayIndex? k = none → arrayIndex? k' = none → leUnits k k' = true)) →
      (Precedes k' k ∧ (arrayIndex? k' = none → arrayIndex? k = none → leUnits k' k = true)) → k = k' := by
    rintro k k' ⟨⟨-, hp⟩, hu⟩ ⟨⟨-, hp'⟩, hu'⟩
    cases hn : arrayIndex? k with
    | none => cases hm : arrayIndex? k' with
      | none => exact leUnits_antisymm (hu hn hm) (hu' hm hn)
      | some m => simp [hn, hm] at hp
    | some n => cases hm : arrayIndex? k' with
      | none => simp [hn, hm] at hp'
      | some m =>
        simp only [hn, hm] at hp hp'
        omega
  have hkeys := List.Perm.eq_of_pairwise (fun k k' _ _ => hanti k k')
    (List.Pairwise.and ho (sortedNames_canonicalFields fields))
    (List.Pairwise.and ho' (sortedNames_canonicalFields fields')) hperm
  exact fields_ext hkeys ho.nodup hl

@[simp] theorem canonicalFields_idem (fields : Fields) :
    canonicalFields (canonicalFields fields) = canonicalFields fields :=
  canonicalFields_congr (lookup_canonicalFields fields)

end Json

end Js
