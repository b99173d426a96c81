import StrataPortNetwork.Js.JsonText
import StrataPortNetwork.Js.OwnOrder

/-! # Joined fields, their bytes and records in transit

`fields.join("|")` and its UTF-8 bytes. Fields without a bar are determined by the joined
bytes, and a string without lone surrogates and U+FFFD is the only one with its bytes. A
record with distinct names has the same fields after it is printed and parsed.
-/
namespace Js

/-! ## Bars -/

def bar : UInt16 := 124
def barByte : UInt8 := 124

/-- `fields.join("|")`. -/
def joinBar (fields : List JsString) : JsString := [bar].intercalate fields

theorem codePoints_append_ascii (s : JsString) {u : UInt16} (hu : u.toNat < 128) (t : JsString) :
    codePoints (s ++ u :: t) = codePoints s ++ u.toNat :: codePoints t := by
  have hlow : isLowSurrogate u = false := by
    simp only [isLowSurrogate, Bool.and_eq_false_iff, decide_eq_false_iff_not]
    omega
  have hhigh : isHighSurrogate u = false := by
    simp only [isHighSurrogate, Bool.and_eq_false_iff, decide_eq_false_iff_not]
    omega
  have hcons : codePoints (u :: t) = u.toNat :: codePoints t := by
    cases t <;> simp [codePoints, loneUnit, hhigh, hlow]
  fun_induction codePoints s with
  | case1 => exact hcons
  | case2 v => simp [codePoints, hlow, hcons]
  | case3 v w rest h ih => simp [codePoints, h, ih]
  | case4 v w rest h ih => simpa [codePoints, h] using ih

theorem utf8Encode_append_ascii (s : JsString) {u : UInt16} (hu : u.toNat < 128) (t : JsString) :
    utf8Encode (s ++ u :: t) = utf8Encode s ++ UInt8.ofNat u.toNat :: utf8Encode t := by
  rw [utf8Encode, codePoints_append_ascii s hu, List.flatMap_append, List.flatMap_cons, encodePoint, if_pos (by omega)]
  rfl

theorem utf8Encode_joinBar (fields : List JsString) :
    utf8Encode (joinBar fields) = [barByte].intercalate (fields.map utf8Encode) := by
  induction fields with
  | nil => rfl
  | cons s rest ih =>
    cases rest with
    | nil => simp [joinBar]
    | cons t rest =>
      rw [joinBar, List.intercalate_cons_cons, List.append_assoc, List.singleton_append,
        utf8Encode_append_ascii s (by decide), ← joinBar, ih]
      simp [List.intercalate_cons_cons]
      rfl

theorem mem_encodePoint_ascii {p : ℕ} {b : UInt8} (hb : b.toNat < 128) (h : b ∈ encodePoint p) : p = b.toNat := by
  have hbyte : ∀ {n : ℕ}, n < 256 → 128 ≤ n → b ≠ UInt8.ofNat n := by
    rintro n hlt hle rfl
    rw [UInt8.toNat_ofNat_of_lt' hlt] at hb
    omega
  unfold encodePoint at h
  split at h
  · rw [List.mem_singleton] at h
    rw [h, UInt8.toNat_ofNat_of_lt' (by simp only [UInt8.size]; omega)]
  · split at h
    · simp only [List.mem_cons, List.not_mem_nil, or_false] at h
      rcases h with h | h
      · exact absurd h (hbyte (by omega) (by omega))
      · exact absurd h (hbyte (by omega) (by omega))
    · split at h
      · simp only [List.mem_cons, List.not_mem_nil, or_false] at h
        rcases h with h | h | h
        · exact absurd h (hbyte (by omega) (by omega))
        · exact absurd h (hbyte (by omega) (by omega))
        · exact absurd h (hbyte (by omega) (by omega))
      · simp only [List.mem_cons, List.not_mem_nil, or_false] at h
        rcases h with h | h | h | h
        · exact absurd h (hbyte (by omega) (by omega))
        · exact absurd h (hbyte (by omega) (by omega))
        · exact absurd h (hbyte (by omega) (by omega))
        · exact absurd h (hbyte (by omega) (by omega))

theorem mem_codePoints_ascii {s : JsString} {p : ℕ} (hp : p < 128) (h : p ∈ codePoints s) : UInt16.ofNat p ∈ s := by
  have hlone : ∀ u : UInt16, p = loneUnit u → UInt16.ofNat p = u := by
    intro u hu
    unfold loneUnit at hu
    split at hu
    · omega
    · rw [hu, UInt16.ofNat_toNat]
  fun_induction codePoints s with
  | case1 => simp at h
  | case2 u =>
    rw [List.mem_singleton] at h
    rw [hlone u h]
    exact List.mem_cons_self
  | case3 u v rest hpair ih =>
    rcases List.mem_cons.mp h with h | h
    · unfold joinSurrogates at h
      omega
    · exact List.mem_cons_of_mem u (List.mem_cons_of_mem v (ih h))
  | case4 u v rest hpair ih =>
    rcases List.mem_cons.mp h with h | h
    · rw [hlone u h]
      exact List.mem_cons_self
    · exact List.mem_cons_of_mem u (ih h)

/-- The bytes of a string without bars have no bar. -/
theorem bar_not_mem_utf8Encode {s : JsString} (h : bar ∉ s) : barByte ∉ utf8Encode s := by
  intro hmem
  obtain ⟨p, hp, hbyte⟩ := List.mem_flatMap.mp hmem
  have hpoint : p = 124 := mem_encodePoint_ascii (b := barByte) (by decide) hbyte
  subst hpoint
  exact h (mem_codePoints_ascii (by decide) hp)

section
variable {α : Type} [DecidableEq α] {x : α}

theorem count_intercalate {parts : List (List α)} (h : parts ≠ []) :
    ([x].intercalate parts).count x + 1 = parts.length + (parts.map (List.count x)).sum := by
  induction parts with
  | nil => exact absurd rfl h
  | cons part rest ih =>
    cases rest with
    | nil => simp [Nat.add_comm]
    | cons next rest =>
      have hrest := ih (by simp)
      simp only [List.intercalate_cons_cons, List.count_append, List.count_singleton_self, List.length_cons, List.map_cons,
        List.sum_cons] at hrest ⊢
      omega

theorem sum_count_eq_zero {parts : List (List α)} :
    (parts.map (List.count x)).sum = 0 ↔ ∀ part ∈ parts, x ∉ part := by
  simp [List.sum_eq_zero_iff_forall_eq_nat, List.count_eq_zero]

/-- Parts without the separator are determined by what they join to, and by their number. -/
theorem intercalate_inj {parts parts' : List (List α)} (hfree : ∀ part ∈ parts, x ∉ part)
    (hlength : parts.length ≤ parts'.length) (hne : parts ≠ [])
    (h : [x].intercalate parts = [x].intercalate parts') : parts = parts' := by
  have hne' : parts' ≠ [] := by
    rintro rfl
    exact hne (List.length_eq_zero_iff.mp (Nat.le_zero.mp hlength))
  have hcount := count_intercalate (x := x) hne
  rw [h, sum_count_eq_zero.mpr hfree] at hcount
  have hcount' := count_intercalate (x := x) hne'
  have hfree' : ∀ part ∈ parts', x ∉ part := sum_count_eq_zero.mp (by omega)
  rw [← List.splitOn_intercalate x hfree hne, h, List.splitOn_intercalate x hfree' hne']

end

/-- Fields without bars have the bytes of no other fields, unless of fewer. -/
theorem joinBar_bytes_inj {fields fields' : List JsString} (hfree : ∀ s ∈ fields, bar ∉ s)
    (hlength : fields.length ≤ fields'.length) (hne : fields ≠ [])
    (h : utf8Encode (joinBar fields) = utf8Encode (joinBar fields')) :
    fields.map utf8Encode = fields'.map utf8Encode := by
  rw [utf8Encode_joinBar, utf8Encode_joinBar] at h
  refine intercalate_inj ?_ (by simpa using hlength) (by simpa using hne) h
  intro part hpart
  obtain ⟨s, hs, rfl⟩ := List.mem_map.mp hpart
  exact bar_not_mem_utf8Encode (hfree s hs)

/-! ## Strings with bytes of their own -/

/-- No lone surrogates and no U+FFFD, which stands for them in the bytes. -/
def Unambiguous (s : JsString) : Prop := WellFormed s ∧ (0xFFFD : UInt16) ∉ s

theorem wellFormed_of_codePoints {s : JsString} (h : 0xFFFD ∉ codePoints s) : WellFormed s := by
  have hlone : ∀ u : UInt16, 0xFFFD ≠ loneUnit u → WellFormed [u] := by
    intro u hu
    have hsurrogate : (isHighSurrogate u || isLowSurrogate u) = false := by
      rw [← Bool.not_eq_true]
      intro hs
      exact hu (by rw [loneUnit, if_pos hs])
    have hpoints : codePoints [u] = [u.toNat] := by
      rw [codePoints, loneUnit, if_neg (by simp [hsurrogate])]
    have hlt := u.toNat_lt
    rw [WellFormed, hpoints, List.flatMap_singleton, pointUnits, if_pos (by omega), UInt16.ofNat_toNat]
  fun_induction codePoints s with
  | case1 => exact wellFormed_nil
  | case2 u => exact hlone u (by simpa using h)
  | case3 u v rest hpair ih =>
    rw [List.mem_cons, not_or] at h
    rw [Bool.and_eq_true] at hpair
    exact (wellFormed_pair hpair.1 hpair.2).append (ih h.2)
  | case4 u v rest hpair ih =>
    rw [List.mem_cons, not_or] at h
    exact (hlone u h.1).append (ih h.2)

/-- An unambiguous string is the only one with its bytes. -/
theorem Unambiguous.eq_of_bytes {s t : JsString} (hs : Unambiguous s) (h : utf8Encode t = utf8Encode s) : t = s := by
  have hpoints : codePoints t = codePoints s := by
    have hdecode := congrArg decodePoints h
    rw [utf8Encode, utf8Encode, decodePoints_flatMap_encodePoint (codePoints_scalar t),
      decodePoints_flatMap_encodePoint (codePoints_scalar s)] at hdecode
    exact Option.some.inj hdecode
  have hfree : 0xFFFD ∉ codePoints t := by
    rw [hpoints]
    intro hmem
    have hunits : (0xFFFD : UInt16) ∈ (codePoints s).flatMap pointUnits :=
      List.mem_flatMap.mpr ⟨0xFFFD, hmem, by decide⟩
    rw [hs.1] at hunits
    exact hs.2 hunits
  exact utf8Encode_injOn (wellFormed_of_codePoints hfree) hs.1 h

/-! ## Lengths -/

theorem utf8Encode_length_le (s : JsString) : (utf8Encode s).length ≤ 3 * s.length := by
  have hlone : ∀ u : UInt16, (encodePoint (loneUnit u)).length ≤ 3 := by
    intro u
    have hlt : loneUnit u ≤ 65535 := by
      have := u.toNat_lt
      unfold loneUnit
      split <;> omega
    unfold encodePoint
    split
    · simp
    · split
      · simp
      · simp
  have hpoint : ∀ p, (encodePoint p).length ≤ 4 := by
    intro p
    unfold encodePoint
    split
    · simp
    · split
      · simp
      · split <;> simp
  rw [utf8Encode]
  fun_induction codePoints s with
  | case1 => simp
  | case2 u =>
    have := hlone u
    simpa using this
  | case3 u v rest hpair ih =>
    have := hpoint (joinSurrogates u v)
    simp only [List.flatMap_cons, List.length_append, List.length_cons] at ih ⊢
    omega
  | case4 u v rest hpair ih =>
    have := hlone u
    simp only [List.flatMap_cons, List.length_append, List.length_cons] at ih ⊢
    omega

theorem quote_length_le (s : JsString) : (quote s).length ≤ 6 * s.length + 2 := by
  have hunit : ∀ u, (escapeUnit u).length ≤ 6 := by
    intro u
    rcases escapeUnit_cases u with ⟨c, -, h⟩ | h | ⟨-, h⟩ <;> rw [h]
    · exact Nat.le_of_ble_eq_true rfl
    · exact le_refl 6
    · exact Nat.le_of_ble_eq_true rfl
  have hunits : (escapeUnits s).length ≤ 6 * s.length := by
    fun_induction escapeUnits s with
    | case1 => simp
    | case2 u =>
      have := hunit u
      simpa using this
    | case3 u v rest h ih =>
      simp only [List.length_cons] at ih ⊢
      omega
    | case4 u v rest h ih =>
      have := hunit u
      simp only [List.length_append, List.length_cons] at ih ⊢
      omega
  simp only [quote, List.length_cons, List.length_append, List.length_nil]
  omega

/-- A safe integer prints as at most 22 characters. -/
theorem toText_length_le {i : ℤ} (h : i.natAbs ≤ 9007199254740991) : (JsNumber.int i).toText.length ≤ 22 := by
  have hdigits : digitCount i.natAbs ≤ 21 := by
    unfold digitCount
    rcases Nat.eq_zero_or_pos i.natAbs with hz | hpos
    · simp [hz]
    · have := (Nat.log_lt_iff_lt_pow (by omega) (by omega)).mpr (show i.natAbs < 10 ^ 21 by omega)
      omega
  have hsign : (if i < 0 then [(45 : UInt16)] else []).length ≤ 1 := by
    split <;> simp
  have hsmall : i.natAbs < 10 ^ 21 := by omega
  rw [JsNumber.toText, unsignedText, if_pos hsmall, natText, List.length_append, length_padText]
  omega

/-! ## Numbers -/

theorem toText_injective : Function.Injective JsNumber.toText := by
  intro x y h
  have hend : NumberEnd [] := by simp [NumberEnd]
  have hx := readNumber_toText x hend
  have hy := readNumber_toText y hend
  rw [h, hy] at hx
  exact (congrArg Prod.fst (Option.some.inj hx)).symm

theorem bar_not_mem_padText (k n : ℕ) : bar ∉ padText k n := by
  intro h
  exact absurd (padText_ascii k n bar h) (by decide)

/-- The text of an integer has no bar. -/
theorem bar_not_mem_int (i : ℤ) : bar ∉ (JsNumber.int i).toText := by
  have hsign : ∀ {p : Prop} [Decidable p] {c d : UInt16}, bar ≠ c → bar ≠ d → bar ≠ (if p then c else d) := by
    intro p _ c d hc hd
    split <;> assumption
  rw [JsNumber.toText, List.mem_append, not_or]
  refine ⟨by split <;> decide, ?_⟩
  unfold unsignedText
  split
  · exact bar_not_mem_padText _ _
  · simp only [sciText, List.mem_append, List.mem_cons, not_or]
    refine ⟨⟨bar_not_mem_padText _ _, ?_⟩, by decide, hsign (by decide) (by decide), bar_not_mem_padText _ _⟩
    split
    · simp
    · rw [List.mem_cons, not_or]
      exact ⟨by decide, bar_not_mem_padText _ _⟩

/-! ## Records -/

namespace Json

@[simp] theorem bool_beq_self (b : Bool) : (Json.bool b == Json.bool b) = true := by
  cases b <;> rfl

@[simp] theorem int_beq_self (i : ℤ) : (Json.int i == Json.int i) = true := by
  change strictEq (.int i) (.int i) = true
  simp [int, strictEq]

theorem lookup_rebuildFields (fields : Fields) (k : JsString) :
    (rebuildFields fields).lookup k = (fields.lookup k).map rebuild := by
  induction fields with
  | nil => rfl
  | cons f rest ih =>
    rw [rebuildFields, lookup_cons, lookup_cons, ih]
    split <;> rfl

theorem keys_rebuildFields (fields : Fields) : (rebuildFields fields).map Prod.fst = fields.map Prod.fst := by
  induction fields with
  | nil => rfl
  | cons f rest ih => rw [rebuildFields, List.map_cons, ih, List.map_cons]

/-- A record with distinct names has the same fields after it is printed and parsed. -/
theorem get_rebuild_record {fields : List (String × Json)} (hnodup : (fields.map Prod.fst).Nodup) (name : String) :
    (record fields).rebuild.get name = (fields.lookup name).map rebuild := by
  have hkeys : ((rebuildFields (fields.map fun f => (js f.1, f.2))).map Prod.fst).Nodup := by
    rw [keys_rebuildFields, List.map_map]
    have hmap : (Prod.fst ∘ fun f : String × Json => (js f.1, f.2)) = js ∘ Prod.fst := rfl
    rw [hmap, ← List.map_map]
    exact hnodup.map js_injective
  have hread : (record fields).rebuild.get name =
      (fromEntries (rebuildFields (fields.map fun f => (js f.1, f.2)))).lookup (js name) := rfl
  have hrecord : (fields.map fun f => (js f.1, f.2) : Fields).lookup (js name) = fields.lookup name := get_record fields name
  rw [hread, fromEntries, lookup_foldl_setField _ (fun k => List.lookup k _) fun f => lookup_eq_some_of_mem hkeys]
  split
  · rw [lookup_rebuildFields, hrecord]
  · rename_i hk
    rw [keys_rebuildFields] at hk
    rw [← hrecord]
    cases hl : (fields.map fun f => (js f.1, f.2) : Fields).lookup (js name) with
    | none => rfl
    | some v => exact absurd (mem_keys_of_lookup hl) hk

end Json

end Js
