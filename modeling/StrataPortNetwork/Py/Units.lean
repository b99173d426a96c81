import StrataPortNetwork.Py.Encodable
import StrataPortNetwork.Js.Wire

/-! # JavaScript strings read by Python

A JSON document carries a string of code units to a string of code points: surrogate pairs
are joined and lone surrogates stay, so nothing is lost. The bytes are the same exactly where
there are no lone surrogates.
-/
namespace Py
open Js (JsString JsNumber isHighSurrogate isLowSurrogate joinSurrogates)

/-- The string of a document's string. -/
def ofUnits : JsString → Str
  | [] => []
  | [u] => [point u.toNat]
  | u :: v :: rest =>
    if isHighSurrogate u && isLowSurrogate v then point (joinSurrogates u v) :: ofUnits rest
    else point u.toNat :: ofUnits (v :: rest)

namespace Value

mutual

/-- `json.loads` of a printed value. A float is spelled as the document spells it. -/
def ofJson : Js.Json → Value
  | .null => .none
  | .bool b => .bool b
  | .num (.int i) => .int i
  | .num (.frac m e hm he) => .float (ofUnits (JsNumber.frac m e hm he).toText)
  | .str s => .str (ofUnits s)
  | .arr items => .list (ofItems items)
  | .obj fields => .dict (ofFields fields)

def ofItems : List Js.Json → List Value
  | [] => []
  | v :: rest => ofJson v :: ofItems rest

def ofFields : Js.Fields → Entries
  | [] => []
  | f :: rest => (ofUnits f.1, ofJson f.2) :: ofFields rest

end

theorem ofFields_eq_map (fields : Js.Fields) : ofFields fields = fields.map fun f => (ofUnits f.1, ofJson f.2) := by
  induction fields with
  | nil => rfl
  | cons f rest ih => rw [ofFields, ih, List.map_cons]

end Value

/-! ## Units and points -/

theorem point_val_of_lt {n : ℕ} (h : n < 0x110000) : (point n).val = n := by
  rw [point, Fin.val_ofNat, Nat.mod_eq_of_lt h]

theorem unit_lt (u : UInt16) : u.toNat < 0x110000 := Nat.lt_trans u.toNat_lt (by decide)

theorem join_lt {u v : UInt16} (hu : isHighSurrogate u = true) (hv : isLowSurrogate v = true) :
    joinSurrogates u v < 0x110000 := by
  rcases Js.joinSurrogates_scalar hu hv with h | ⟨-, h⟩
  · exact Nat.lt_trans h (by decide)
  · exact h

/-- A unit that is no surrogate splits the string. -/
theorem ofUnits_append (s : JsString) {u : UInt16} (hu : isHighSurrogate u = false) (hl : isLowSurrogate u = false)
    (t : JsString) : ofUnits (s ++ u :: t) = ofUnits s ++ point u.toNat :: ofUnits t := by
  have hcons : ofUnits (u :: t) = point u.toNat :: ofUnits t := by
    cases t <;> simp [ofUnits, hu]
  fun_induction ofUnits s with
  | case1 => exact hcons
  | case2 v => simp [ofUnits, hl, hcons]
  | case3 v w rest h ih => simp [ofUnits, h, ih]
  | case4 v w rest h ih => simpa [ofUnits, h] using ih

theorem ofUnits_ascii {s : JsString} (h : Js.Ascii s) : ofUnits s = s.map fun u => point u.toNat := by
  induction s with
  | nil => rfl
  | cons u rest ih =>
    have hu := h u List.mem_cons_self
    have hrest := ih fun v hv => h v (List.mem_cons_of_mem u hv)
    cases rest with
    | nil => rfl
    | cons v rest =>
      have hhigh : isHighSurrogate u = false := by
        simp only [isHighSurrogate, Bool.and_eq_false_iff, decide_eq_false_iff_not]
        omega
      rw [ofUnits, hhigh, Bool.false_and, if_neg Bool.false_ne_true, hrest, List.map_cons, List.map_cons, List.map_cons]

/-- The units of a point. -/
def unitsOf (c : CodePoint) : JsString := Js.pointUnits c.val

theorem unitsOf_unit (u : UInt16) : unitsOf (point u.toNat) = [u] := by
  rw [unitsOf, point_val_of_lt (unit_lt u), Js.pointUnits, if_pos u.toNat_lt, UInt16.ofNat_toNat]

theorem unitsOf_pair {u v : UInt16} (hu : isHighSurrogate u = true) (hv : isLowSurrogate v = true) :
    unitsOf (point (joinSurrogates u v)) = [u, v] := by
  have hlt := join_lt hu hv
  simp only [isHighSurrogate, isLowSurrogate, Bool.and_eq_true, decide_eq_true_eq] at hu hv
  have hsplit : 0xD800 + (joinSurrogates u v - 0x10000) / 0x400 = u.toNat ∧
      0xDC00 + (joinSurrogates u v - 0x10000) % 0x400 = v.toNat := by
    unfold joinSurrogates
    omega
  have hbig : ¬ joinSurrogates u v < 0x10000 := by
    unfold joinSurrogates
    omega
  rw [unitsOf, point_val_of_lt hlt, Js.pointUnits, if_neg hbig, hsplit.1, hsplit.2, UInt16.ofNat_toNat, UInt16.ofNat_toNat]

/-- Nothing of a string is lost. -/
theorem flatMap_unitsOf_ofUnits (s : JsString) : (ofUnits s).flatMap unitsOf = s := by
  fun_induction ofUnits s with
  | case1 => rfl
  | case2 u => simp [unitsOf_unit]
  | case3 u v rest h ih =>
    rw [Bool.and_eq_true] at h
    rw [List.flatMap_cons, unitsOf_pair h.1 h.2, ih]
    rfl
  | case4 u v rest h ih =>
    rw [List.flatMap_cons, unitsOf_unit, ih]
    rfl

theorem ofUnits_injective : Function.Injective ofUnits := by
  intro s t h
  rw [← flatMap_unitsOf_ofUnits s, h, flatMap_unitsOf_ofUnits]

/-! ## Bytes -/

theorem map_val_ofUnits {s : JsString} (h : Scalar (ofUnits s)) : (ofUnits s).map Fin.val = Js.codePoints s := by
  have hlone : ∀ u : UInt16, (point u.toNat).val < 0xD800 ∨ 0xDFFF < (point u.toNat).val →
      (point u.toNat).val = Js.loneUnit u := by
    intro u hu
    rw [point_val_of_lt (unit_lt u)] at hu ⊢
    rw [Js.loneUnit, if_neg]
    simp only [isHighSurrogate, isLowSurrogate, Bool.or_eq_true, Bool.and_eq_true, decide_eq_true_eq]
    omega
  fun_induction ofUnits s with
  | case1 => rfl
  | case2 u => rw [List.map_singleton, Js.codePoints, hlone u (h _ List.mem_cons_self)]
  | case3 u v rest hpair ih =>
    have hb := Bool.and_eq_true_iff.mp hpair
    rw [List.map_cons, Js.codePoints, if_pos hpair, point_val_of_lt (join_lt hb.1 hb.2),
      ih fun c hc => h c (List.mem_cons_of_mem _ hc)]
  | case4 u v rest hpair ih =>
    rw [List.map_cons, Js.codePoints, if_neg hpair, hlone u (h _ List.mem_cons_self),
      ih fun c hc => h c (List.mem_cons_of_mem _ hc)]

theorem ofUnits_pointUnits_append {p : ℕ} (hp : Js.IsScalar p) (rest : JsString) :
    ofUnits (Js.pointUnits p ++ rest) = point p :: ofUnits rest := by
  unfold Js.IsScalar at hp
  unfold Js.pointUnits
  split
  · rename_i hlt
    have hn : (UInt16.ofNat p).toNat = p := UInt16.toNat_ofNat_of_lt' hlt
    have hh : isHighSurrogate (UInt16.ofNat p) = false := by
      simp only [isHighSurrogate, hn, Bool.and_eq_false_iff, decide_eq_false_iff_not]
      omega
    have hl : isLowSurrogate (UInt16.ofNat p) = false := by
      simp only [isLowSurrogate, hn, Bool.and_eq_false_iff, decide_eq_false_iff_not]
      omega
    have hsplit := ofUnits_append [] hh hl rest
    rw [hn] at hsplit
    exact hsplit
  · rename_i hge
    have hu : (UInt16.ofNat (0xD800 + (p - 0x10000) / 0x400)).toNat = 0xD800 + (p - 0x10000) / 0x400 :=
      UInt16.toNat_ofNat_of_lt' (by simp only [UInt16.size]; omega)
    have hv : (UInt16.ofNat (0xDC00 + (p - 0x10000) % 0x400)).toNat = 0xDC00 + (p - 0x10000) % 0x400 :=
      UInt16.toNat_ofNat_of_lt' (by simp only [UInt16.size]; omega)
    generalize UInt16.ofNat (0xD800 + (p - 0x10000) / 0x400) = u at hu ⊢
    generalize UInt16.ofNat (0xDC00 + (p - 0x10000) % 0x400) = v at hv ⊢
    have hhigh : isHighSurrogate u = true := by
      simp only [isHighSurrogate, hu, Bool.and_eq_true, decide_eq_true_eq]
      omega
    have hlow : isLowSurrogate v = true := by
      simp only [isLowSurrogate, hv, Bool.and_eq_true, decide_eq_true_eq]
      omega
    have hjoin : joinSurrogates u v = p := by
      unfold joinSurrogates
      omega
    rw [List.cons_append, List.cons_append, List.nil_append, ofUnits, hhigh, hlow, if_pos (by rfl), hjoin]

/-- A string without lone surrogates is one without them in Python. -/
theorem scalar_ofUnits_iff {s : JsString} : Scalar (ofUnits s) ↔ Js.WellFormed s := by
  constructor
  · intro h
    have hunits := flatMap_unitsOf_ofUnits s
    rw [Js.WellFormed, ← map_val_ofUnits h, List.flatMap_map]
    exact hunits
  · intro h
    have hpoints : ∀ ps : List ℕ, (∀ p ∈ ps, Js.IsScalar p) → Scalar (ofUnits (ps.flatMap Js.pointUnits)) := by
      intro ps hps
      induction ps with
      | nil => simp [ofUnits, Scalar]
      | cons p rest ih =>
        have hp := hps p List.mem_cons_self
        rw [List.flatMap_cons, ofUnits_pointUnits_append hp]
        refine List.forall_mem_cons.mpr ⟨?_, ih fun q hq => hps q (List.mem_cons_of_mem p hq)⟩
        unfold Js.IsScalar at hp
        rw [point_val_of_lt (by omega)]
        omega
    rw [← show _ = s from h]
    exact hpoints _ (Js.codePoints_scalar s)

/-- Python has the UTF-8 bytes of JavaScript, where it has any. -/
theorem encode_ofUnits {s : JsString} {bytes : Js.Bytes} :
    encode (ofUnits s) = .ok bytes ↔ Js.WellFormed s ∧ bytes = Js.utf8Encode s := by
  have hbytes : Scalar (ofUnits s) → encode (ofUnits s) = .ok (Js.utf8Encode s) := by
    intro h
    obtain ⟨bytes, hb⟩ := encode_ok_iff.mpr h
    have heq : encode (ofUnits s) = .ok ((ofUnits s).flatMap fun c => Js.encodePoint c.val) := by
      unfold encode at hb ⊢
      split at hb
      · cases hb
      · rename_i hnone
        rw [if_neg hnone]
        rfl
    rw [heq, Js.utf8Encode, ← map_val_ofUnits h, List.flatMap_map]
  constructor
  · intro h
    have hscalar := encode_ok_iff.mp ⟨bytes, h⟩
    rw [hbytes hscalar] at h
    exact ⟨scalar_ofUnits_iff.mp hscalar, (Except.ok.inj h).symm⟩
  · rintro ⟨h, rfl⟩
    exact hbytes (scalar_ofUnits_iff.mpr h)

/-- A source literal is the same text in both languages. -/
theorem ofUnits_js (s : String) : ofUnits (Js.js s) = str s := by
  have hpoints : ∀ cs : List Char, ofUnits ((cs.map Char.toNat).flatMap Js.pointUnits) = cs.map fun c => point c.toNat := by
    intro cs
    induction cs with
    | nil => rfl
    | cons c rest ih => rw [List.map_cons, List.flatMap_cons, ofUnits_pointUnits_append (Js.isScalar_char c), ih, List.map_cons]
  rw [Js.js_eq_flatMap, hpoints, str]

theorem ofUnits_joinBar (fields : List JsString) :
    ofUnits (Js.joinBar fields) = [point 124].intercalate (fields.map ofUnits) := by
  induction fields with
  | nil => rfl
  | cons s rest ih =>
    cases rest with
    | nil => simp [Js.joinBar]
    | cons t rest =>
      rw [Js.joinBar, List.intercalate_cons_cons, List.append_assoc, List.singleton_append,
        ofUnits_append s (by decide) (by decide), ← Js.joinBar, ih]
      simp [List.intercalate_cons_cons]
      rfl

/-- Below 10^21 both languages print an integer in decimal. -/
theorem decimal_eq_ofUnits {i : ℤ} (h : i.natAbs < 10 ^ 21) : decimal i = ofUnits (JsNumber.int i).toText := by
  rw [ofUnits_ascii (Js.ascii_toText _), JsNumber.toText, Js.unsignedText, if_pos h, List.map_append, decimal]
  congr 1
  split <;> rfl

/-! ## Lengths and parts -/

theorem unitsOf_ne_nil (c : CodePoint) : unitsOf c ≠ [] := by
  rw [unitsOf, Js.pointUnits]
  split <;> simp

/-- Python counts no more points than JavaScript counts units. -/
theorem length_ofUnits_le (s : JsString) : (ofUnits s).length ≤ s.length := by
  have hpoints : ∀ cs : Str, cs.length ≤ (cs.flatMap unitsOf).length := by
    intro cs
    induction cs with
    | nil => simp
    | cons c rest ih =>
      have := List.length_pos_iff.mpr (unitsOf_ne_nil c)
      rw [List.flatMap_cons, List.length_append, List.length_cons]
      omega
  have h := hpoints (ofUnits s)
  rwa [flatMap_unitsOf_ofUnits] at h

theorem ofUnits_ne_nil {s : JsString} (h : s ≠ []) : ofUnits s ≠ [] := by
  intro hnil
  have hunits := flatMap_unitsOf_ofUnits s
  rw [hnil] at hunits
  exact h hunits.symm

/-- A point below 2^16 is a unit of the string. -/
theorem unit_mem_of_mem {s : JsString} {c : CodePoint} (hc : c ∈ ofUnits s) (hlt : c.val < 0x10000) :
    UInt16.ofNat c.val ∈ s := by
  have hunits : UInt16.ofNat c.val ∈ unitsOf c := by
    rw [unitsOf, Js.pointUnits, if_pos hlt]
    exact List.mem_singleton_self _
  rw [← flatMap_unitsOf_ofUnits s]
  exact List.mem_flatMap.mpr ⟨c, hc, hunits⟩

theorem scalar_intercalate {separator : CodePoint} (hs : Scalar [separator]) {parts : List Str} :
    Scalar ([separator].intercalate parts) ↔ ∀ part ∈ parts, Scalar part := by
  induction parts with
  | nil => simp [Scalar]
  | cons part rest ih =>
    cases rest with
    | nil => simp
    | cons next rest =>
      rw [List.intercalate_cons_cons, List.forall_mem_cons, ← ih]
      simp only [Scalar, List.forall_mem_append]
      exact ⟨fun h => ⟨h.1.1, h.2⟩, fun h => ⟨⟨h.1, hs⟩, h.2⟩⟩

/-- Joined fields have no lone surrogates exactly when none of the fields has. -/
theorem wellFormed_joinBar_iff {fields : List JsString} :
    Js.WellFormed (Js.joinBar fields) ↔ ∀ s ∈ fields, Js.WellFormed s := by
  have hbar : Scalar [point 124] := by
    intro c hc
    rw [List.mem_singleton.mp hc, point_val_of_lt (by decide)]
    omega
  rw [← scalar_ofUnits_iff, ofUnits_joinBar, scalar_intercalate hbar, List.forall_mem_map]
  exact forall_congr' fun s => imp_congr_right fun _ => scalar_ofUnits_iff

/-! ## Records -/

theorem ofJson_record (fields : List (String × Js.Json)) :
    Value.ofJson (.record fields) = .record (fields.map fun f => (f.1, .ofJson f.2)) := by
  rw [Js.Json.record, Value.ofJson, Value.ofFields_eq_map, Value.record, List.map_map, List.map_map]
  congr 1
  exact List.map_congr_left fun f _ => by rw [Function.comp_apply, Function.comp_apply, ofUnits_js]

theorem get_record (fields : List (String × Value)) (name : String) :
    (Value.record fields).get name = fields.lookup name := by
  rw [Value.record, Value.get]
  induction fields with
  | nil => rfl
  | cons f rest ih =>
    rw [List.map_cons, List.lookup_cons, List.lookup_cons, ih]
    have hsame : (str name == str f.1) = (name == f.1) := by
      rw [Bool.eq_iff_iff, beq_iff_eq, beq_iff_eq, str_inj]
    rw [hsame]

theorem get_ofJson_record (fields : List (String × Js.Json)) (name : String) :
    (Value.ofJson (.record fields)).get name = (fields.lookup name).map Value.ofJson := by
  rw [ofJson_record, get_record]
  induction fields with
  | nil => rfl
  | cons f rest ih =>
    rw [List.map_cons, List.lookup_cons, List.lookup_cons, ih]
    split <;> rfl

end Py
