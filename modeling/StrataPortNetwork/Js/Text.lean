import Mathlib.Data.List.Basic
import Mathlib.Tactic.Ring

/-! # Strings as UTF-16 code units and their UTF-8 bytes

A string is the list of its code units, lone surrogates included. Encoding to
UTF-8 goes through code points, replaces a lone surrogate by U+FFFD and is inverted
by the strict decoder on every well-formed string.
-/
namespace Js

abbrev JsString := List UInt16
abbrev Bytes := List UInt8

instance : LawfulBEq JsString := inferInstance
instance : PartialEquivBEq JsString := inferInstance

def isHighSurrogate (u : UInt16) : Bool := 0xD800 ≤ u.toNat && u.toNat ≤ 0xDBFF
def isLowSurrogate (u : UInt16) : Bool := 0xDC00 ≤ u.toNat && u.toNat ≤ 0xDFFF

/-- A Unicode scalar value: a code point that is no surrogate. -/
def IsScalar (p : ℕ) : Prop := p < 0xD800 ∨ (0xE000 ≤ p ∧ p < 0x110000)

instance (p : ℕ) : Decidable (IsScalar p) := inferInstanceAs (Decidable (_ ∨ _))

/-- The code units of one code point. -/
def pointUnits (p : ℕ) : JsString :=
  if p < 0x10000 then [UInt16.ofNat p]
  else [UInt16.ofNat (0xD800 + (p - 0x10000) / 0x400), UInt16.ofNat (0xDC00 + (p - 0x10000) % 0x400)]

def joinSurrogates (h l : UInt16) : ℕ := 0x10000 + (h.toNat - 0xD800) * 0x400 + (l.toNat - 0xDC00)

/-- The code point of a unit that is no half of a pair. -/
def loneUnit (u : UInt16) : ℕ := if isHighSurrogate u || isLowSurrogate u then 0xFFFD else u.toNat

/-- The code points of a string, U+FFFD standing for a lone surrogate. -/
def codePoints : JsString → List ℕ
  | [] => []
  | [u] => [loneUnit u]
  | u :: v :: rest =>
    if isHighSurrogate u && isLowSurrogate v then joinSurrogates u v :: codePoints rest
    else loneUnit u :: codePoints (v :: rest)

/-- The UTF-8 bytes of one code point. -/
def encodePoint (p : ℕ) : Bytes :=
  if p ≤ 127 then [UInt8.ofNat p]
  else if p ≤ 2047 then [UInt8.ofNat (p / 64 % 32 + 192), UInt8.ofNat (p % 64 + 128)]
  else if p ≤ 65535 then
    [UInt8.ofNat (p / 4096 % 16 + 224), UInt8.ofNat (p / 64 % 64 + 128), UInt8.ofNat (p % 64 + 128)]
  else
    [UInt8.ofNat (p / 262144 % 8 + 240), UInt8.ofNat (p / 4096 % 64 + 128),
      UInt8.ofNat (p / 64 % 64 + 128), UInt8.ofNat (p % 64 + 128)]

/-- `Buffer.from(string)`. -/
def utf8Encode (s : JsString) : Bytes := (codePoints s).flatMap encodePoint

def isTail (b : UInt8) : Bool := 128 ≤ b.toNat && b.toNat ≤ 191

/-- Prepend a decoded point unless it is out of range, a surrogate or overlong. -/
def consPoint (least p : ℕ) (rest : Option (List ℕ)) : Option (List ℕ) :=
  if least ≤ p ∧ IsScalar p then rest.map (p :: ·) else none

/-- The strict UTF-8 decoder; `none` where the bytes are not UTF-8. -/
def decodePoints : Bytes → Option (List ℕ)
  | [] => some []
  | b :: rest =>
    if b.toNat ≤ 127 then consPoint 0 b.toNat (decodePoints rest)
    else if b.toNat < 192 then none
    else match rest with
      | [] => none
      | b₁ :: rest =>
        if isTail b₁ = false then none
        else if b.toNat < 224 then
          consPoint 128 ((b.toNat - 192) * 64 + (b₁.toNat - 128)) (decodePoints rest)
        else match rest with
          | [] => none
          | b₂ :: rest =>
            if isTail b₂ = false then none
            else if b.toNat < 240 then
              consPoint 2048 ((b.toNat - 224) * 4096 + (b₁.toNat - 128) * 64 + (b₂.toNat - 128))
                (decodePoints rest)
            else match rest with
              | [] => none
              | b₃ :: rest =>
                if isTail b₃ = false then none
                else consPoint 65536
                  ((b.toNat - 240) * 262144 + (b₁.toNat - 128) * 4096 + (b₂.toNat - 128) * 64 +
                    (b₃.toNat - 128)) (decodePoints rest)

def utf8Decode (bs : Bytes) : Option JsString :=
  (decodePoints bs).map (fun ps => ps.flatMap pointUnits)

/-- A string without lone surrogates. -/
def WellFormed (s : JsString) : Prop := (codePoints s).flatMap pointUnits = s

/-! ## Round trips -/

theorem loneUnit_scalar (u : UInt16) : IsScalar (loneUnit u) := by
  have hu := u.toNat_lt
  unfold loneUnit isHighSurrogate isLowSurrogate IsScalar
  split
  · omega
  · rename_i h
    simp only [Bool.or_eq_true, Bool.and_eq_true, decide_eq_true_eq] at h
    omega

theorem joinSurrogates_scalar {u v : UInt16} (hu : isHighSurrogate u = true)
    (hv : isLowSurrogate v = true) : IsScalar (joinSurrogates u v) := by
  simp only [isHighSurrogate, isLowSurrogate, Bool.and_eq_true, decide_eq_true_eq] at hu hv
  unfold IsScalar joinSurrogates
  omega

theorem codePoints_scalar (s : JsString) : ∀ p ∈ codePoints s, IsScalar p := by
  fun_induction codePoints s with
  | case1 => simp
  | case2 u => simpa using loneUnit_scalar u
  | case3 u v rest h ih =>
    intro p hp
    rw [Bool.and_eq_true] at h
    have hj := joinSurrogates_scalar h.1 h.2
    rcases List.mem_cons.mp hp with hp | hp
    · rw [hp]
      exact hj
    · exact ih p hp
  | case4 u v rest h ih =>
    intro p hp
    rcases List.mem_cons.mp hp with rfl | hp
    · exact loneUnit_scalar u
    · exact ih p hp

/-- A scalar value is recovered from its units, whatever follows them. -/
theorem codePoints_pointUnits_append {p : ℕ} (hp : IsScalar p) (rest : JsString) :
    codePoints (pointUnits p ++ rest) = p :: codePoints rest := by
  unfold IsScalar at hp
  unfold pointUnits
  split
  · rename_i hlt
    have hn : (UInt16.ofNat p).toNat = p := UInt16.toNat_ofNat_of_lt' hlt
    have hh : isHighSurrogate (UInt16.ofNat p) = false := by
      simp only [isHighSurrogate, hn, Bool.and_eq_false_iff, decide_eq_false_iff_not]
      omega
    have hl : isLowSurrogate (UInt16.ofNat p) = false := by
      simp only [isLowSurrogate, hn, Bool.and_eq_false_iff, decide_eq_false_iff_not]
      omega
    cases rest with
    | nil => simp [codePoints, loneUnit, hh, hl, hn]
    | cons v rest => simp [codePoints, loneUnit, hh, hl, hn]
  · rename_i hge
    have hu : (UInt16.ofNat (0xD800 + (p - 0x10000) / 0x400)).toNat =
        0xD800 + (p - 0x10000) / 0x400 := UInt16.toNat_ofNat_of_lt' (by simp only [UInt16.size]; omega)
    have hv : (UInt16.ofNat (0xDC00 + (p - 0x10000) % 0x400)).toNat =
        0xDC00 + (p - 0x10000) % 0x400 := UInt16.toNat_ofNat_of_lt' (by simp only [UInt16.size]; omega)
    generalize UInt16.ofNat (0xD800 + (p - 0x10000) / 0x400) = u at hu ⊢
    generalize UInt16.ofNat (0xDC00 + (p - 0x10000) % 0x400) = v at hv ⊢
    have hh : isHighSurrogate u = true := by
      simp only [isHighSurrogate, hu, Bool.and_eq_true, decide_eq_true_eq]
      omega
    have hl : isLowSurrogate v = true := by
      simp only [isLowSurrogate, hv, Bool.and_eq_true, decide_eq_true_eq]
      omega
    have hj : joinSurrogates u v = p := by
      unfold joinSurrogates
      omega
    simp [codePoints, hh, hl, hj]

theorem codePoints_flatMap_pointUnits {ps : List ℕ} (h : ∀ p ∈ ps, IsScalar p) :
    codePoints (ps.flatMap pointUnits) = ps := by
  induction ps with
  | nil => rfl
  | cons p ps ih =>
    have hrest := ih (fun q hq => h q (List.mem_cons_of_mem p hq))
    rw [List.flatMap_cons, codePoints_pointUnits_append (h p List.mem_cons_self), hrest]

theorem isTail_ofNat {n : ℕ} (h : n < 64) : isTail (UInt8.ofNat (n + 128)) = true := by
  have hn : (UInt8.ofNat (n + 128)).toNat = n + 128 :=
    UInt8.toNat_ofNat_of_lt' (by simp only [UInt8.size]; omega)
  simp only [isTail, hn, Bool.and_eq_true, decide_eq_true_eq]
  omega

/-- The decoder reads back exactly one encoded scalar value. -/
theorem decodePoints_encodePoint_append {p : ℕ} (hp : IsScalar p) (rest : Bytes) :
    decodePoints (encodePoint p ++ rest) = (decodePoints rest).map (p :: ·) := by
  have hcons : ∀ {least q : ℕ}, q = p → least ≤ p →
      consPoint least q (decodePoints rest) = (decodePoints rest).map (p :: ·) := by
    intro least q hq hl
    subst hq
    rw [consPoint, if_pos ⟨hl, hp⟩]
  have hbyte : ∀ {n : ℕ}, n < 256 → (UInt8.ofNat n).toNat = n := fun h => UInt8.toNat_ofNat_of_lt' h
  have htail : ∀ {n : ℕ}, n < 64 → isTail (UInt8.ofNat (n + 128)) = true := isTail_ofNat
  have hmax : p < 0x110000 := by unfold IsScalar at hp; omega
  unfold encodePoint
  split
  · have h₀ := hbyte (n := p) (by omega)
    rw [List.singleton_append, decodePoints.eq_def]
    simp only [h₀]
    rw [if_pos (by omega)]
    exact hcons rfl (by omega)
  · split
    · have h₀ := hbyte (n := p / 64 % 32 + 192) (by omega)
      have h₁ := hbyte (n := p % 64 + 128) (by omega)
      rw [decodePoints.eq_def]
      simp only [List.cons_append, List.nil_append, h₀, h₁, htail (n := p % 64) (by omega)]
      rw [if_neg (by omega), if_neg (by omega), if_neg (by simp), if_pos (by omega)]
      exact hcons (by omega) (by omega)
    · split
      · have h₀ := hbyte (n := p / 4096 % 16 + 224) (by omega)
        have h₁ := hbyte (n := p / 64 % 64 + 128) (by omega)
        have h₂ := hbyte (n := p % 64 + 128) (by omega)
        rw [decodePoints.eq_def]
        simp only [List.cons_append, List.nil_append, h₀, h₁, h₂,
          htail (n := p % 64) (by omega), htail (n := p / 64 % 64) (by omega)]
        rw [if_neg (by omega), if_neg (by omega), if_neg (by simp), if_neg (by omega),
          if_neg (by simp), if_pos (by omega)]
        exact hcons (by omega) (by omega)
      · have h₀ := hbyte (n := p / 262144 % 8 + 240) (by omega)
        have h₁ := hbyte (n := p / 4096 % 64 + 128) (by omega)
        have h₂ := hbyte (n := p / 64 % 64 + 128) (by omega)
        have h₃ := hbyte (n := p % 64 + 128) (by omega)
        rw [decodePoints.eq_def]
        simp only [List.cons_append, List.nil_append, h₀, h₁, h₂, h₃,
          htail (n := p % 64) (by omega), htail (n := p / 64 % 64) (by omega),
          htail (n := p / 4096 % 64) (by omega)]
        rw [if_neg (by omega), if_neg (by omega), if_neg (by simp), if_neg (by omega),
          if_neg (by simp), if_neg (by omega), if_neg (by simp)]
        exact hcons (by omega) (by omega)

theorem decodePoints_flatMap_encodePoint {ps : List ℕ} (h : ∀ p ∈ ps, IsScalar p) :
    decodePoints (ps.flatMap encodePoint) = some ps := by
  induction ps with
  | nil => rfl
  | cons p ps ih =>
    have hrest := ih (fun q hq => h q (List.mem_cons_of_mem p hq))
    rw [List.flatMap_cons, decodePoints_encodePoint_append (h p List.mem_cons_self), hrest,
      Option.map_some]

/-- A well-formed string survives the trip through its UTF-8 bytes. -/
theorem utf8Decode_utf8Encode {s : JsString} (hs : WellFormed s) :
    utf8Decode (utf8Encode s) = some s := by
  rw [utf8Decode, utf8Encode, decodePoints_flatMap_encodePoint (codePoints_scalar s), Option.map_some]
  exact congrArg some hs

theorem utf8Encode_injOn {s t : JsString} (hs : WellFormed s) (ht : WellFormed t)
    (h : utf8Encode s = utf8Encode t) : s = t :=
  Option.some.inj ((utf8Decode_utf8Encode hs).symm.trans ((congrArg utf8Decode h).trans
    (utf8Decode_utf8Encode ht)))

/-! ## Well-formed strings -/

@[simp] theorem wellFormed_nil : WellFormed [] := rfl

theorem WellFormed.append {s t : JsString} (hs : WellFormed s) (ht : WellFormed t) :
    WellFormed (s ++ t) := by
  have hps : ∀ p ∈ codePoints s ++ codePoints t, IsScalar p := by
    intro p hp
    rcases List.mem_append.mp hp with h | h
    · exact codePoints_scalar s p h
    · exact codePoints_scalar t p h
  have he : (codePoints s ++ codePoints t).flatMap pointUnits = s ++ t := by
    rw [List.flatMap_append, hs, ht]
  have hc := codePoints_flatMap_pointUnits hps
  rw [he] at hc
  rw [WellFormed, hc, he]

theorem wellFormed_pointUnits {p : ℕ} (hp : IsScalar p) : WellFormed (pointUnits p) := by
  have h := codePoints_pointUnits_append hp []
  rw [List.append_nil] at h
  rw [WellFormed, h]
  simp [codePoints]

def Ascii (s : JsString) : Prop := ∀ u ∈ s, u.toNat < 128

instance (s : JsString) : Decidable (Ascii s) := List.decidableBAll _ s

/-- Plain ASCII text is well formed. -/
theorem wellFormed_of_ascii {s : JsString} (h : Ascii s) : WellFormed s := by
  induction s with
  | nil => exact wellFormed_nil
  | cons u s ih =>
    have hu := h u List.mem_cons_self
    have hp : pointUnits u.toNat = [u] := by
      rw [pointUnits, if_pos (by omega), UInt16.ofNat_toNat]
    have hw := wellFormed_pointUnits (p := u.toNat) (Or.inl (by omega))
    rw [hp] at hw
    exact hw.append (ih (fun v hv => h v (List.mem_cons_of_mem u hv)))

/-! ## String literals -/

/-- The value of a string literal of the source. -/
def js (s : String) : JsString := (utf8Decode s.toByteArray.data.toList).getD []

theorem isScalar_char (c : Char) : IsScalar c.toNat := by
  have h := c.valid
  simp only [UInt32.isValidChar, Nat.isValidChar] at h
  change c.toNat < 0xD800 ∨ 0xDFFF < c.toNat ∧ c.toNat < 0x110000 at h
  unfold IsScalar
  omega

theorem js_eq_flatMap (s : String) :
    js s = (s.toList.map Char.toNat).flatMap pointUnits := by
  have hb : s.toByteArray.data.toList = (s.toList.map Char.toNat).flatMap encodePoint := by
    rw [← String.utf8Encode_toList, List.utf8Encode, List.flatMap_map]
    simp only [List.data_toByteArray, List.toList_toArray]
    rfl
  have hs : ∀ p ∈ s.toList.map Char.toNat, IsScalar p := by
    intro p hp
    obtain ⟨c, -, rfl⟩ := List.mem_map.mp hp
    exact isScalar_char c
  rw [js, hb, utf8Decode, decodePoints_flatMap_encodePoint hs]
  rfl

theorem js_injective : Function.Injective js := by
  intro s t h
  have hscalar : ∀ (r : String), ∀ p ∈ r.toList.map Char.toNat, IsScalar p := by
    intro r p hp
    obtain ⟨c, -, rfl⟩ := List.mem_map.mp hp
    exact isScalar_char c
  rw [js_eq_flatMap, js_eq_flatMap] at h
  have hp := congrArg codePoints h
  rw [codePoints_flatMap_pointUnits (hscalar s), codePoints_flatMap_pointUnits (hscalar t)] at hp
  exact String.toList_injective ((List.map_injective_iff.mpr (fun a b hab => Char.toNat_inj.mp hab)) hp)

@[simp] theorem js_inj {s t : String} : js s = js t ↔ s = t := js_injective.eq_iff

end Js
