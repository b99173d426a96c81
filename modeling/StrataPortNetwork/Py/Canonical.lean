import StrataPortNetwork.Py.Values
import StrataPortNetwork.Js.Check
import Mathlib.Data.List.Perm.Basic

/-! # What the canonical JSON of a dict depends on

The text of a dict forgets the order of its entries, and it determines the text of each
entry once the other entries are given.
-/
namespace Py
open Js (JsMap)

/-! ## Integers -/

theorem natText_injective : Function.Injective Js.natText := by
  intro m n h
  have hread : ∀ k, Js.readDigits (Js.natText k) 0 0 = (k, Js.digitCount k, []) := by
    intro k
    have hk := @Js.readDigits_natText k [] Js.digitEnd_nil 0 0
    simpa using hk
  have hm := hread m
  rw [h, hread n] at hm
  exact (Prod.mk.inj hm).1.symm

theorem unit_injective : Function.Injective fun u : UInt16 => point u.toNat := by
  intro u v h
  have hu := u.toNat_lt
  have hv := v.toNat_lt
  exact UInt16.toNat_inj.mp ((point_inj (by omega) (by omega)).mp h)

theorem decimal_injective : Function.Injective decimal := by
  intro i j h
  have hdigits : ∀ {k : ℕ} {t : Str}, (Js.natText k).map (fun u => point u.toNat) ≠ str "-" ++ t := by
    intro k t hk
    obtain ⟨d, rest, hhead, hd, -⟩ := Js.natText_head k
    rw [hhead, List.map_cons, Js.digit_toNat hd] at hk
    have hpoint : point (48 + d) = point 45 := (List.cons.inj hk).1
    have := (point_inj (by omega) (by omega)).mp hpoint
    omega
  have habs : (Js.natText i.natAbs).map (fun u => point u.toNat) = (Js.natText j.natAbs).map (fun u => point u.toNat) →
      i.natAbs = j.natAbs := fun hmap => natText_injective (unit_injective.list_map hmap)
  unfold decimal at h
  by_cases hi : i < 0
  · by_cases hj : j < 0
    · rw [if_pos hi, if_pos hj] at h
      have := habs (List.append_cancel_left h)
      omega
    · rw [if_pos hi, if_neg hj, List.nil_append] at h
      exact absurd h.symm hdigits
  · by_cases hj : j < 0
    · rw [if_neg hi, if_pos hj, List.nil_append] at h
      exact absurd h hdigits
    · rw [if_neg hi, if_neg hj, List.nil_append, List.nil_append] at h
      have := habs h
      omega

/-! ## Bytes -/

theorem encode_injective {s t : Str} {bytes : Js.Bytes} (hs : encode s = .ok bytes) (ht : encode t = .ok bytes) :
    s = t := by
  have hread : ∀ {u : Str}, encode u = .ok bytes → Js.decodePoints bytes = some (u.map Fin.val) := by
    intro u hu
    unfold encode at hu
    split at hu
    · exact absurd hu (by simp)
    rename_i hscalar
    rw [← Js.pure_eq_ok.mp hu, ← List.flatMap_map]
    refine Js.decodePoints_flatMap_encodePoint fun p hp => ?_
    obtain ⟨c, hc, rfl⟩ := List.mem_map.mp hp
    have hc' := mt (fun h => List.any_eq_true.mpr ⟨c, hc, h⟩) hscalar
    have hlt := c.isLt
    simp only [Bool.and_eq_true, decide_eq_true_eq] at hc'
    unfold Js.IsScalar
    omega
  exact Fin.val_injective.list_map (Option.some.inj ((hread hs).symm.trans (hread ht)))

/-- Values with the same canonical bytes have the same canonical text. -/
theorem canonicalText_of_canonicalJson {v v' : Value} {bytes : Js.Bytes} (h : canonicalJson v = .ok bytes)
    (h' : canonicalJson v' = .ok bytes) : ∃ text, canonicalText v = .ok text ∧ canonicalText v' = .ok text := by
  simp only [canonicalJson, Js.bind_eq_ok] at h h'
  obtain ⟨text, htext, hbytes⟩ := h
  obtain ⟨text', htext', hbytes'⟩ := h'
  exact ⟨text, htext, encode_injective hbytes hbytes' ▸ htext'⟩

/-! ## Entries -/

/-- An entry and its text. -/
def Printed (e : Str × Value) (t : Str × Str) : Prop :=
  ∃ text, canonicalText e.2 = .ok text ∧ t = (e.1, quote e.1 ++ str ":" ++ text)

theorem canonicalEntries_eq_ok {entries : Entries} {texts : List (Str × Str)} :
    canonicalEntries entries = .ok texts ↔ List.Forall₂ Printed entries texts := by
  induction entries generalizing texts with
  | nil =>
    rw [canonicalEntries, Js.pure_eq_ok, List.forall₂_nil_left_iff]
    exact eq_comm
  | cons e rest ih =>
    simp only [canonicalEntries, Js.bind_eq_ok, Js.pure_eq_ok]
    constructor
    · rintro ⟨text, htext, restTexts, hrest, rfl⟩
      exact .cons ⟨text, htext, rfl⟩ (ih.mp hrest)
    · intro h
      cases h with
      | cons hhead hrest =>
        obtain ⟨text, htext, rfl⟩ := hhead
        exact ⟨text, htext, _, ih.mpr hrest, rfl⟩

theorem keys_of_printed {entries : Entries} {texts : List (Str × Str)} (h : List.Forall₂ Printed entries texts) :
    texts.map Prod.fst = entries.map Prod.fst := by
  induction h with
  | nil => rfl
  | cons hhead _ ih =>
    obtain ⟨text, -, rfl⟩ := hhead
    rw [List.map_cons, List.map_cons, ih]

mutual

theorem canonicalText_error : ∀ {v : Value} {e : PyError}, canonicalText v = .error e → e = notSerializable
  | .none, _, h => by simp [canonicalText, pure, Except.pure] at h
  | .bool _, _, h => by simp [canonicalText, pure, Except.pure] at h
  | .int _, _, h => by simp [canonicalText, pure, Except.pure] at h
  | .float _, _, h => by simp [canonicalText, pure, Except.pure] at h
  | .str _, _, h => by simp [canonicalText, pure, Except.pure] at h
  | .list items, e, h => by
    rw [canonicalText] at h
    cases hitems : canonicalItems items with
    | error e' =>
      rw [hitems] at h
      rw [← Except.error.inj h]
      exact canonicalItems_error hitems
    | ok texts => simp [hitems, bind, Except.bind, pure, Except.pure] at h
  | .dict entries, e, h => by
    rw [canonicalText] at h
    cases hentries : canonicalEntries entries with
    | error e' =>
      rw [hentries] at h
      rw [← Except.error.inj h]
      exact canonicalEntries_error hentries
    | ok texts => simp [hentries, bind, Except.bind, pure, Except.pure] at h
  | .other, e, h => by
    rw [canonicalText] at h
    exact (Except.error.inj h).symm

theorem canonicalItems_error : ∀ {items : List Value} {e : PyError}, canonicalItems items = .error e → e = notSerializable
  | [], _, h => by simp [canonicalItems, pure, Except.pure] at h
  | v :: rest, e, h => by
    rw [canonicalItems] at h
    cases hv : canonicalText v with
    | error e' =>
      rw [hv] at h
      rw [← Except.error.inj h]
      exact canonicalText_error hv
    | ok text =>
      cases hrest : canonicalItems rest with
      | error e' =>
        rw [hv, hrest] at h
        rw [← Except.error.inj h]
        exact canonicalItems_error hrest
      | ok texts => simp [hv, hrest, bind, Except.bind, pure, Except.pure] at h

theorem canonicalEntries_error : ∀ {entries : Entries} {e : PyError},
    canonicalEntries entries = .error e → e = notSerializable
  | [], _, h => by simp [canonicalEntries, pure, Except.pure] at h
  | (key, v) :: rest, e, h => by
    rw [canonicalEntries] at h
    cases hv : canonicalText v with
    | error e' =>
      rw [hv] at h
      rw [← Except.error.inj h]
      exact canonicalText_error hv
    | ok text =>
      cases hrest : canonicalEntries rest with
      | error e' =>
        rw [hv, hrest] at h
        rw [← Except.error.inj h]
        exact canonicalEntries_error hrest
      | ok texts => simp [hv, hrest, bind, Except.bind, pure, Except.pure] at h

end

/-! ## The order of entries -/

/-- Sorting by distinct keys forgets the order the items come in. -/
theorem sortByKey_congr {α : Type} {items items' : List (Str × α)} (h : items.Perm items')
    (hn : (items.map Prod.fst).Nodup) : sortByKey items = sortByKey items' := by
  refine List.Perm.eq_of_pairwise ?_ (List.pairwise_insertionSort _ items) (List.pairwise_insertionSort _ items')
    ((List.perm_insertionSort _ items).trans (h.trans (List.perm_insertionSort _ items').symm))
  intro e e' he he' hle hle'
  have hmem := (List.perm_insertionSort _ items).mem_iff.mp he
  have hmem' := h.mem_iff.mpr ((List.perm_insertionSort _ items').mem_iff.mp he')
  exact List.inj_on_of_nodup_map hn hmem hmem' (le_antisymm hle hle')

/-- The text of a dict does not depend on the order of its entries. -/
theorem canonicalText_dict_congr {entries entries' : Entries} (h : entries.Perm entries')
    (hn : (entries.map Prod.fst).Nodup) : canonicalText (.dict entries) = canonicalText (.dict entries') := by
  have htexts : ∀ {p q : Entries} {texts}, p.Perm q → canonicalEntries p = .ok texts →
      ∃ texts', canonicalEntries q = .ok texts' ∧ texts'.Perm texts := by
    intro p q texts hpq hp
    obtain ⟨texts', hq, hperm⟩ := List.perm_comp_forall₂ hpq.symm (canonicalEntries_eq_ok.mp hp)
    exact ⟨texts', canonicalEntries_eq_ok.mpr hq, hperm⟩
  rw [canonicalText, canonicalText]
  cases hp : canonicalEntries entries with
  | ok texts =>
    obtain ⟨texts', hq, hperm⟩ := htexts h hp
    have hkeys := keys_of_printed (canonicalEntries_eq_ok.mp hp)
    rw [hq]
    simp only [bind, Except.bind]
    rw [sortByKey_congr hperm.symm (hkeys ▸ hn)]
  | error e =>
    cases hq : canonicalEntries entries' with
    | ok texts' =>
      obtain ⟨texts, hp', -⟩ := htexts h.symm hq
      simp [hp] at hp'
    | error e' => rw [canonicalEntries_error hp, canonicalEntries_error hq]

/-! ## One entry -/

theorem join_split (before after : List Str) : ∃ p q, ∀ s, join (before ++ s :: after) = p ++ s ++ q := by
  induction before with
  | nil =>
    cases after with
    | nil => exact ⟨[], [], fun s => by simp [join]⟩
    | cons t rest => exact ⟨[], str "," ++ join (t :: rest), fun s => by simp [join]⟩
  | cons t rest ih =>
    obtain ⟨p, q, h⟩ := ih
    refine ⟨t ++ str "," ++ p, q, fun s => ?_⟩
    have hcons : join (t :: (rest ++ s :: after)) = t ++ str "," ++ join (rest ++ s :: after) := by
      cases hrest : rest ++ s :: after with
      | nil => simp at hrest
      | cons u us => rfl
    rw [List.cons_append, hcons, h]
    simp [List.append_assoc]

/-- Changing the text under one key changes one item of the sorted texts. -/
theorem sortByKey_split {before after : List (Str × Str)} {key : Str}
    (hn : ((before ++ (key, []) :: after).map Prod.fst).Nodup) :
    ∃ before' after' : List Str, ∀ text,
      (sortByKey (before ++ (key, text) :: after)).map Prod.snd = before' ++ text :: after' := by
  have hmem : (key, []) ∈ sortByKey (before ++ (key, []) :: after) :=
    (List.perm_insertionSort _ _).mem_iff.mpr (by simp)
  obtain ⟨left, right, hsplit⟩ := List.append_of_mem hmem
  refine ⟨left.map Prod.snd, right.map Prod.snd, fun text => ?_⟩
  -- The sorted list with the other text is the sorted list with the text replaced.
  let f := fun e : Str × Str => if e.1 = key then (key, text) else e
  have hother : ∀ items : List (Str × Str), key ∉ items.map Prod.fst → items.map f = items := by
    intro items hitems
    refine (List.map_congr_left fun e he => ?_).trans (List.map_id items)
    have hne : e.1 ≠ key := fun hkey => hitems (hkey ▸ List.mem_map_of_mem he)
    simp only [f, if_neg hne, id]
  have hsides : ∀ {l r : List (Str × Str)}, ((l ++ (key, []) :: r).map Prod.fst).Nodup →
      (l ++ (key, []) :: r).map f = l ++ (key, text) :: r := by
    intro l r hlr
    rw [List.map_append, List.map_cons, List.nodup_append] at hlr
    have hl : key ∉ l.map Prod.fst := fun hk => hlr.2.2 key hk key List.mem_cons_self rfl
    have hr : key ∉ r.map Prod.fst := (List.nodup_cons.mp hlr.2.1).1
    rw [List.map_append, List.map_cons, hother l hl, hother r hr]
    simp only [f, if_true]
  have hkeys : ((left ++ (key, []) :: right).map Prod.fst).Nodup := by
    rw [← hsplit]
    exact ((List.perm_insertionSort _ _).map Prod.fst).nodup_iff.mpr hn
  have hsorted : sortByKey ((before ++ (key, []) :: after).map f) = (sortByKey (before ++ (key, []) :: after)).map f := by
    refine (List.map_insertionSort _ _ _ _ fun e _ e' _ => ?_).symm
    have hfst : ∀ e : Str × Str, (f e).1 = e.1 := by
      intro e
      simp only [f]
      split
      · exact Eq.symm ‹_›
      · rfl
    rw [hfst, hfst]
  rw [← hsides hn, hsorted, hsplit, hsides hkeys]
  simp

/-- A value under a key may be replaced by one with the same text. -/
theorem canonicalText_dict_entry (before after : Entries) {key : Str} {v v' : Value}
    (h : canonicalText v = canonicalText v') :
    canonicalText (.dict (before ++ (key, v) :: after)) = canonicalText (.dict (before ++ (key, v') :: after)) := by
  have hentries : canonicalEntries (before ++ (key, v) :: after) = canonicalEntries (before ++ (key, v') :: after) := by
    induction before with
    | nil => simp only [List.nil_append, canonicalEntries, h]
    | cons e rest ih => simp only [List.cons_append, canonicalEntries, ih]
  simp only [canonicalText, hentries]

theorem canonicalEntries_split {before after : Entries} {key : Str} {v : Value} {texts : List (Str × Str)}
    (h : canonicalEntries (before ++ (key, v) :: after) = .ok texts) :
    ∃ left text right, canonicalEntries before = .ok left ∧ canonicalText v = .ok text ∧
      canonicalEntries after = .ok right ∧ texts = left ++ (key, quote key ++ str ":" ++ text) :: right := by
  induction before generalizing texts with
  | nil =>
    simp only [List.nil_append, canonicalEntries, Js.bind_eq_ok, Js.pure_eq_ok] at h
    obtain ⟨text, htext, right, hright, rfl⟩ := h
    exact ⟨[], text, right, rfl, htext, hright, rfl⟩
  | cons e rest ih =>
    simp only [List.cons_append, canonicalEntries, Js.bind_eq_ok, Js.pure_eq_ok] at h
    obtain ⟨head, hhead, tail, htail, rfl⟩ := h
    obtain ⟨left, text, right, hleft, htext, hright, rfl⟩ := ih htail
    refine ⟨(e.1, quote e.1 ++ str ":" ++ head) :: left, text, right, ?_, htext, hright, rfl⟩
    simp only [canonicalEntries, Js.bind_eq_ok, Js.pure_eq_ok]
    exact ⟨head, hhead, left, hleft, rfl⟩

/-- Two dicts that differ under one key have the same text only if the values there have. -/
theorem canonicalText_entry {before after : Entries} {key : Str} {v v' : Value} {text : Str}
    (hn : ((before ++ (key, v) :: after).map Prod.fst).Nodup)
    (h : canonicalText (.dict (before ++ (key, v) :: after)) = .ok text)
    (h' : canonicalText (.dict (before ++ (key, v') :: after)) = .ok text) : canonicalText v = canonicalText v' := by
  simp only [canonicalText, Js.bind_eq_ok, Js.pure_eq_ok] at h h'
  obtain ⟨texts, htexts, hjoin⟩ := h
  obtain ⟨texts', htexts', hjoin'⟩ := h'
  obtain ⟨left, t, right, hleft, ht, hright, rfl⟩ := canonicalEntries_split htexts
  obtain ⟨left', t', right', hleft', ht', hright', rfl⟩ := canonicalEntries_split htexts'
  cases Except.ok.inj (hleft.symm.trans hleft')
  cases Except.ok.inj (hright.symm.trans hright')
  have hkeys : ((left ++ (key, []) :: right).map Prod.fst).Nodup := by
    have hleftKeys := keys_of_printed (canonicalEntries_eq_ok.mp hleft)
    have hrightKeys := keys_of_printed (canonicalEntries_eq_ok.mp hright)
    rw [List.map_append, List.map_cons] at hn ⊢
    rw [hleftKeys, hrightKeys]
    exact hn
  obtain ⟨before', after', hsplit⟩ := sortByKey_split hkeys
  obtain ⟨p, q, hsides⟩ := join_split before' after'
  have heq := hjoin.trans hjoin'.symm
  rw [hsplit, hsplit, hsides, hsides] at heq
  have htext : quote key ++ str ":" ++ t = quote key ++ str ":" ++ t' :=
    List.append_cancel_left (List.append_cancel_right (List.append_cancel_left (List.append_cancel_right heq)))
  rw [ht, ht', List.append_cancel_left htext]

end Py
