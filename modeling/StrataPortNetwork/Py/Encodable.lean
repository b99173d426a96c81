import StrataPortNetwork.Py.Json

/-! # Values whose canonical JSON has UTF-8 bytes

A text without lone surrogates has UTF-8 bytes, and so has the canonical JSON of a JSON
value all of whose texts are of this kind.
-/
namespace Py
open Js (JsMap)

/-- No lone surrogate. -/
def Scalar (text : Str) : Prop := ∀ c ∈ text, c.val < 0xD800 ∨ 0xDFFF < c.val

theorem encode_ok_iff {text : Str} : (∃ bytes, encode text = .ok bytes) ↔ Scalar text := by
  have hany : text.any (fun c => decide (0xD800 ≤ c.val) && decide (c.val ≤ 0xDFFF)) = false ↔ Scalar text := by
    simp only [List.any_eq_false, Bool.and_eq_true, decide_eq_true_eq, not_and_or, not_le, Scalar]
  unfold encode
  split
  · rename_i hsome
    rw [← hany, hsome]
    simp
  · rename_i hnone
    rw [Bool.not_eq_true] at hnone
    exact iff_of_true ⟨_, rfl⟩ (hany.mp hnone)

theorem Scalar.append {s t : Str} (hs : Scalar s) (ht : Scalar t) : Scalar (s ++ t) :=
  fun c hc => (List.mem_append.mp hc).elim (hs c) (ht c)

theorem scalar_str (s : String) : Scalar (str s) := by
  intro c hc
  obtain ⟨d, -, rfl⟩ := List.mem_map.mp hc
  have hlt := char_toNat_lt d
  have hval : (point d.toNat).val = d.toNat := by rw [point, Fin.val_ofNat, Nat.mod_eq_of_lt hlt]
  rw [hval]
  rcases d.valid with h | ⟨h, -⟩
  · exact .inl h
  · exact .inr h

theorem scalar_points {s : Str} (h : ∀ c ∈ s, c.val < 128) : Scalar s := fun c hc => .inl (by have := h c hc; omega)

theorem scalar_join {texts : List Str} (h : ∀ t ∈ texts, Scalar t) : Scalar (join texts) := by
  induction texts with
  | nil => simp [join, Scalar]
  | cons t rest ih =>
    cases rest with
    | nil => exact h t (by simp)
    | cons u more =>
      exact ((h t (by simp)).append (scalar_str ",")).append (ih fun v hv => h v (List.mem_cons_of_mem _ hv))

theorem scalar_escape {c : CodePoint} (h : c.val < 0xD800 ∨ 0xDFFF < c.val) : Scalar (escape c) := by
  have hhex : ∀ d < 16, (hexDigit d).val < 128 := by decide
  unfold escape
  split_ifs
  iterate 7 exact scalar_str _
  · refine (scalar_str _).append (scalar_points fun d hd => ?_)
    rcases List.mem_cons.mp hd with rfl | hd
    · exact hhex _ (by omega)
    · rw [List.mem_singleton.mp hd]
      exact hhex _ (by omega)
  · intro d hd
    rw [List.mem_singleton.mp hd]
    exact h

theorem scalar_quote {s : Str} (h : Scalar s) : Scalar (quote s) := by
  refine ((scalar_str _).append fun c hc => ?_).append (scalar_str _)
  obtain ⟨d, hd, hc⟩ := List.mem_flatMap.mp hc
  exact scalar_escape (h d hd) c hc

theorem scalar_decimal (i : ℤ) : Scalar (decimal i) := by
  refine scalar_points fun c hc => ?_
  have hintegral := integral_decimal i c hc
  simp only [integral, digit, Bool.or_eq_true, Bool.and_eq_true, decide_eq_true_eq] at hintegral
  rcases hintegral with h | rfl
  · omega
  · decide

/-! ## Values -/

namespace Value

mutual

/-- All texts of the value are without lone surrogates. -/
def Scalar : Value → Prop
  | .float repr => Py.Scalar repr
  | .str s => Py.Scalar s
  | .list items => ScalarItems items
  | .dict entries => ScalarEntries entries
  | _ => True

def ScalarItems : List Value → Prop
  | [] => True
  | v :: rest => v.Scalar ∧ ScalarItems rest

def ScalarEntries : Entries → Prop
  | [] => True
  | (key, v) :: rest => Py.Scalar key ∧ v.Scalar ∧ ScalarEntries rest

end

theorem scalarItems_iff {items : List Value} : ScalarItems items ↔ ∀ v ∈ items, v.Scalar := by
  induction items with
  | nil => simp [ScalarItems]
  | cons v rest ih => simp [ScalarItems, ih]

theorem scalarEntries_iff {entries : Entries} :
    ScalarEntries entries ↔ ∀ e ∈ entries, Py.Scalar e.1 ∧ e.2.Scalar := by
  induction entries with
  | nil => simp [ScalarEntries]
  | cons e rest ih => simp [ScalarEntries, ih, and_assoc]

@[simp] theorem scalar_ofOption {text : Option Str} : (ofOption text).Scalar ↔ ∀ t ∈ text, Py.Scalar t := by
  cases text <;> simp [ofOption, Scalar]

end Value

mutual

theorem scalar_canonicalText : ∀ {v : Value} {text : Str}, v.Scalar → canonicalText v = .ok text → Scalar text
  | .none, _, _, h => Js.pure_eq_ok.mp h ▸ scalar_str _
  | .bool b, _, _, h => Js.pure_eq_ok.mp h ▸ scalar_str _
  | .int i, _, _, h => Js.pure_eq_ok.mp h ▸ scalar_decimal i
  | .float _, _, hv, h => Js.pure_eq_ok.mp h ▸ hv
  | .str _, _, hv, h => Js.pure_eq_ok.mp h ▸ scalar_quote hv
  | .list items, text, hv, h => by
    simp only [canonicalText, Js.bind_eq_ok, Js.pure_eq_ok] at h
    obtain ⟨texts, htexts, rfl⟩ := h
    exact ((scalar_str _).append (scalar_join (scalar_canonicalItems hv htexts))).append (scalar_str _)
  | .dict entries, text, hv, h => by
    simp only [canonicalText, Js.bind_eq_ok, Js.pure_eq_ok] at h
    obtain ⟨texts, htexts, rfl⟩ := h
    refine ((scalar_str _).append (scalar_join fun t ht => ?_)).append (scalar_str _)
    obtain ⟨e, he, rfl⟩ := List.mem_map.mp ht
    exact scalar_canonicalEntries hv htexts e ((perm_sortByKey texts).mem_iff.mp he)

theorem scalar_canonicalItems : ∀ {items : List Value} {texts : List Str}, Value.ScalarItems items →
    canonicalItems items = .ok texts → ∀ t ∈ texts, Scalar t
  | [], _, _, h => by
    rw [canonicalItems, Js.pure_eq_ok] at h
    simp [← h]
  | v :: rest, _, hv, h => by
    simp only [canonicalItems, Js.bind_eq_ok, Js.pure_eq_ok] at h
    obtain ⟨text, htext, texts, htexts, rfl⟩ := h
    exact List.forall_mem_cons.mpr ⟨scalar_canonicalText hv.1 htext, scalar_canonicalItems hv.2 htexts⟩

theorem scalar_canonicalEntries : ∀ {entries : Entries} {texts : List (Str × Str)}, Value.ScalarEntries entries →
    canonicalEntries entries = .ok texts → ∀ e ∈ texts, Scalar e.2
  | [], _, _, h => by
    rw [canonicalEntries, Js.pure_eq_ok] at h
    simp [← h]
  | (key, v) :: rest, _, hv, h => by
    simp only [canonicalEntries, Js.bind_eq_ok, Js.pure_eq_ok] at h
    obtain ⟨text, htext, texts, htexts, rfl⟩ := h
    refine List.forall_mem_cons.mpr ⟨?_, scalar_canonicalEntries hv.2.2 htexts⟩
    exact ((scalar_quote hv.1).append (scalar_str _)).append (scalar_canonicalText hv.2.1 htext)

end

theorem Scalar.of_append_left {s t : Str} (h : Scalar (s ++ t)) : Scalar s := fun c hc => h c (List.mem_append_left _ hc)

theorem Scalar.of_append_right {s t : Str} (h : Scalar (s ++ t)) : Scalar t := fun c hc => h c (List.mem_append_right _ hc)

theorem Scalar.of_join {texts : List Str} (h : Scalar (join texts)) : ∀ t ∈ texts, Scalar t := by
  intro t ht
  obtain ⟨before, after, rfl⟩ := List.append_of_mem ht
  obtain ⟨p, q, hjoin⟩ := join_split before after
  rw [hjoin] at h
  exact h.of_append_left.of_append_right

/-- A lone surrogate stays as it is in a string literal. -/
theorem Scalar.of_quote {s : Str} (h : Scalar (quote s)) : Scalar s := by
  intro c hc
  by_contra hnot
  rw [not_or, not_lt, not_lt] at hnot
  have hescape : escape c = [c] := by
    unfold escape
    split_ifs <;> first | omega | rfl
  have hmem : c ∈ s.flatMap escape := List.mem_flatMap.mpr ⟨c, hc, by rw [hescape]; exact List.mem_singleton_self c⟩
  have := h c (List.mem_append_left _ (List.mem_append_right _ hmem))
  omega

mutual

/-- The canonical text of a value has lone surrogates where its texts have them. -/
theorem scalar_of_canonicalText : ∀ {v : Value} {text : Str}, canonicalText v = .ok text → Scalar text → v.Scalar
  | .none, _, _, _ => trivial
  | .bool _, _, _, _ => trivial
  | .int _, _, _, _ => trivial
  | .float _, _, h, ht => Js.pure_eq_ok.mp h ▸ ht
  | .str _, _, h, ht => Scalar.of_quote (Js.pure_eq_ok.mp h ▸ ht)
  | .list items, _, h, ht => by
    simp only [canonicalText, Js.bind_eq_ok, Js.pure_eq_ok] at h
    obtain ⟨texts, htexts, rfl⟩ := h
    exact scalarItems_of_canonicalItems htexts ht.of_append_left.of_append_right.of_join
  | .dict entries, _, h, ht => by
    simp only [canonicalText, Js.bind_eq_ok, Js.pure_eq_ok] at h
    obtain ⟨texts, htexts, rfl⟩ := h
    refine scalarEntries_of_canonicalEntries htexts fun e he => ?_
    exact ht.of_append_left.of_append_right.of_join e.2
      (List.mem_map.mpr ⟨e, (perm_sortByKey texts).mem_iff.mpr he, rfl⟩)
  | .other, _, _, _ => trivial

theorem scalarItems_of_canonicalItems : ∀ {items : List Value} {texts : List Str}, canonicalItems items = .ok texts →
    (∀ t ∈ texts, Scalar t) → Value.ScalarItems items
  | [], _, _, _ => trivial
  | v :: rest, _, h, ht => by
    simp only [canonicalItems, Js.bind_eq_ok, Js.pure_eq_ok] at h
    obtain ⟨text, htext, texts, htexts, rfl⟩ := h
    rw [List.forall_mem_cons] at ht
    exact ⟨scalar_of_canonicalText htext ht.1, scalarItems_of_canonicalItems htexts ht.2⟩

theorem scalarEntries_of_canonicalEntries : ∀ {entries : Entries} {texts : List (Str × Str)},
    canonicalEntries entries = .ok texts → (∀ e ∈ texts, Scalar e.2) → Value.ScalarEntries entries
  | [], _, _, _ => trivial
  | (key, v) :: rest, _, h, ht => by
    simp only [canonicalEntries, Js.bind_eq_ok, Js.pure_eq_ok] at h
    obtain ⟨text, htext, texts, htexts, rfl⟩ := h
    rw [List.forall_mem_cons] at ht
    exact ⟨ht.1.of_append_left.of_append_left.of_quote, scalar_of_canonicalText htext ht.1.of_append_right,
      scalarEntries_of_canonicalEntries htexts ht.2⟩

end

/-- A JSON value of such texts has a digest. -/
theorem digest_ok {sha256 : Js.Bytes → Str} {v : Value} (hjson : v.isJson = true) (hscalar : v.Scalar) :
    ∃ hash, digest sha256 v = .ok hash := by
  have htext := canonicalText_eq_spell hjson
  obtain ⟨bytes, hbytes⟩ := encode_ok_iff.mpr (scalar_canonicalText hscalar htext)
  refine ⟨sha256 bytes, ?_⟩
  simp only [digest, canonicalJson, htext, bind, Except.bind, hbytes]
  rfl

theorem digest_ok_iff (sha256 : Js.Bytes → Str) {v : Value} (hjson : v.isJson = true) :
    (∃ hash, digest sha256 v = .ok hash) ↔ v.Scalar := by
  refine ⟨?_, digest_ok hjson⟩
  rintro ⟨hash, h⟩
  simp only [digest, canonicalJson, Js.bind_eq_ok] at h
  obtain ⟨bytes, ⟨text, htext, hbytes⟩, -⟩ := h
  exact scalar_of_canonicalText htext (encode_ok_iff.mp ⟨bytes, hbytes⟩)

end Py
