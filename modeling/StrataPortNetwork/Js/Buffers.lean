import StrataPortNetwork.Js.Base64Url
import StrataPortNetwork.Js.KeyOrder
import StrataPortNetwork.Js.Wire

/-! # Texts of buffers

`bufferText` is `buffer.toString("utf8")`, which puts U+FFFD for what is not UTF-8. A bound on the
bytes of a printed value adds up over its parts, and base64 for URLs stays in its alphabet.
-/
namespace Js

/-! ## Lenient decoding -/

/-- A sequence that has begun: its units so far, the tails to come, and the range of the next one. -/
structure Pending where
  point : ℕ
  needed : ℕ
  least : ℕ
  most : ℕ

/-- What a byte begins: a point by itself, or a sequence. -/
def leadByte (b : UInt8) : List ℕ × Option Pending :=
  let n := b.toNat
  if n < 128 then ([n], none)
  else if 194 ≤ n ∧ n ≤ 223 then ([], some ⟨n - 192, 1, 128, 191⟩)
  else if 224 ≤ n ∧ n ≤ 239 then
    ([], some ⟨n - 224, 2, if n = 224 then 160 else 128, if n = 237 then 159 else 191⟩)
  else if 240 ≤ n ∧ n ≤ 244 then
    ([], some ⟨n - 240, 3, if n = 240 then 144 else 128, if n = 244 then 143 else 191⟩)
  else ([0xFFFD], none)

/-- The points of a buffer; a byte that does not go on with a sequence ends it and begins anew. -/
def bufferPoints : Option Pending → Bytes → List ℕ
  | none, [] => []
  | some _, [] => [0xFFFD]
  | none, b :: rest => (leadByte b).1 ++ bufferPoints (leadByte b).2 rest
  | some p, b :: rest =>
    if p.least ≤ b.toNat ∧ b.toNat ≤ p.most then
      let point := p.point * 64 + (b.toNat - 128)
      if p.needed = 1 then point :: bufferPoints none rest
      else bufferPoints (some ⟨point, p.needed - 1, 128, 191⟩) rest
    else 0xFFFD :: ((leadByte b).1 ++ bufferPoints (leadByte b).2 rest)

/-- `buffer.toString("utf8")`. -/
def bufferText (bytes : Bytes) : JsString := (bufferPoints none bytes).flatMap pointUnits

theorem bufferPoints_lead {b : UInt8} {p : Pending} (h : leadByte b = ([], some p)) (rest : Bytes) :
    bufferPoints none (b :: rest) = bufferPoints (some p) rest := by
  rw [bufferPoints, h, List.nil_append]

section
variable {point n least most : ℕ} (hn : n < 64) (hleast : least ≤ n + 128) (hmost : n + 128 ≤ most) (rest : Bytes)
include hn hleast hmost

theorem bufferPoints_last : bufferPoints (some ⟨point, 1, least, most⟩) (UInt8.ofNat (n + 128) :: rest) =
    (point * 64 + n) :: bufferPoints none rest := by
  have hbyte : (UInt8.ofNat (n + 128)).toNat = n + 128 := UInt8.toNat_ofNat_of_lt' (by simp only [UInt8.size]; omega)
  rw [bufferPoints, hbyte, if_pos ⟨hleast, hmost⟩, if_pos rfl, Nat.add_sub_cancel]

theorem bufferPoints_more (k : ℕ) : bufferPoints (some ⟨point, k + 2, least, most⟩) (UInt8.ofNat (n + 128) :: rest) =
    bufferPoints (some ⟨point * 64 + n, k + 1, 128, 191⟩) rest := by
  have hbyte : (UInt8.ofNat (n + 128)).toNat = n + 128 := UInt8.toNat_ofNat_of_lt' (by simp only [UInt8.size]; omega)
  rw [bufferPoints, hbyte, if_pos ⟨hleast, hmost⟩, if_neg (show ¬ k + 2 = 1 by omega), Nat.add_sub_cancel]
  rfl

end

theorem bufferPoints_encodePoint {p : ℕ} (hp : IsScalar p) (rest : Bytes) :
    bufferPoints none (encodePoint p ++ rest) = p :: bufferPoints none rest := by
  have hbyte : ∀ {n : ℕ}, n < 256 → (UInt8.ofNat n).toNat = n := fun h => UInt8.toNat_ofNat_of_lt' h
  have hlow : p % 64 < 64 ∧ 128 ≤ p % 64 + 128 ∧ p % 64 + 128 ≤ 191 := by omega
  have hmiddle : p / 64 % 64 < 64 ∧ 128 ≤ p / 64 % 64 + 128 ∧ p / 64 % 64 + 128 ≤ 191 := by omega
  unfold IsScalar at hp
  unfold encodePoint
  split
  · have hlead : leadByte (UInt8.ofNat p) = ([p], none) := by
      simp only [leadByte, hbyte (show p < 256 by omega)]
      rw [if_pos (by omega)]
    rw [List.singleton_append, bufferPoints, hlead]
    rfl
  · split
    · have hlead : leadByte (UInt8.ofNat (p / 64 % 32 + 192)) = ([], some ⟨p / 64, 1, 128, 191⟩) := by
        simp only [leadByte, hbyte (show p / 64 % 32 + 192 < 256 by omega), Nat.add_sub_cancel]
        rw [if_neg (by omega), if_pos (by omega), Nat.mod_eq_of_lt (show p / 64 < 32 by omega)]
      have hpoint : p / 64 * 64 + p % 64 = p := by omega
      rw [List.cons_append, bufferPoints_lead hlead, List.singleton_append, bufferPoints_last hlow.1 hlow.2.1 hlow.2.2, hpoint]
    · split
      · obtain ⟨least, most, hlead, hleast, hmost⟩ : ∃ least most,
            leadByte (UInt8.ofNat (p / 4096 % 16 + 224)) = ([], some ⟨p / 4096, 2, least, most⟩) ∧
            least ≤ p / 64 % 64 + 128 ∧ p / 64 % 64 + 128 ≤ most := by
          simp only [leadByte, hbyte (show p / 4096 % 16 + 224 < 256 by omega), Nat.add_sub_cancel]
          rw [if_neg (by omega), if_neg (by omega), if_pos (by omega), Nat.mod_eq_of_lt (show p / 4096 < 16 by omega)]
          refine ⟨_, _, rfl, ?_, ?_⟩
          · split <;> omega
          · split <;> omega
        have hpoint : (p / 4096 * 64 + p / 64 % 64) * 64 + p % 64 = p := by omega
        rw [List.cons_append, bufferPoints_lead hlead, List.cons_append, bufferPoints_more hmiddle.1 hleast hmost,
          List.singleton_append, bufferPoints_last hlow.1 hlow.2.1 hlow.2.2, hpoint]
      · obtain ⟨least, most, hlead, hleast, hmost⟩ : ∃ least most,
            leadByte (UInt8.ofNat (p / 262144 % 8 + 240)) = ([], some ⟨p / 262144, 3, least, most⟩) ∧
            least ≤ p / 4096 % 64 + 128 ∧ p / 4096 % 64 + 128 ≤ most := by
          simp only [leadByte, hbyte (show p / 262144 % 8 + 240 < 256 by omega), Nat.add_sub_cancel]
          rw [if_neg (by omega), if_neg (by omega), if_neg (by omega), if_pos (by omega),
            Nat.mod_eq_of_lt (show p / 262144 < 8 by omega)]
          refine ⟨_, _, rfl, ?_, ?_⟩
          · split <;> omega
          · split <;> omega
        have hpoint : ((p / 262144 * 64 + p / 4096 % 64) * 64 + p / 64 % 64) * 64 + p % 64 = p := by omega
        rw [List.cons_append, bufferPoints_lead hlead, List.cons_append,
          bufferPoints_more (show p / 4096 % 64 < 64 by omega) hleast hmost, List.cons_append,
          bufferPoints_more hmiddle.1 hmiddle.2.1 hmiddle.2.2, List.singleton_append,
          bufferPoints_last hlow.1 hlow.2.1 hlow.2.2, hpoint]

/-- Decoding inverts encoding of a well-formed text, whatever comes after it. -/
theorem bufferText_append {s : JsString} (hs : WellFormed s) (rest : Bytes) :
    bufferText (utf8Encode s ++ rest) = s ++ bufferText rest := by
  have hpoints : ∀ ps : List ℕ, (∀ p ∈ ps, IsScalar p) → bufferPoints none (ps.flatMap encodePoint ++ rest) = ps ++ bufferPoints none rest := by
    intro ps
    induction ps with
    | nil => exact fun _ => rfl
    | cons p ps ih =>
      intro h
      rw [List.flatMap_cons, List.append_assoc, bufferPoints_encodePoint (h p List.mem_cons_self),
        ih fun q hq => h q (List.mem_cons_of_mem p hq), List.cons_append]
  rw [bufferText, utf8Encode, hpoints _ (codePoints_scalar s), List.flatMap_append, hs, bufferText]

theorem bufferText_utf8Encode {s : JsString} (hs : WellFormed s) : bufferText (utf8Encode s) = s := by
  have h := bufferText_append hs []
  rwa [List.append_nil, show bufferText [] = [] from rfl, List.append_nil] at h

/-! ## Sizes -/

theorem utf8Encode_append {s t : JsString} (hs : WellFormed s) (ht : WellFormed t) :
    utf8Encode (s ++ t) = utf8Encode s ++ utf8Encode t := by
  have hscalar : ∀ p ∈ codePoints s ++ codePoints t, IsScalar p := by
    intro p hp
    rcases List.mem_append.mp hp with hp | hp
    · exact codePoints_scalar s p hp
    · exact codePoints_scalar t p hp
  have hpoints : codePoints (s ++ t) = codePoints s ++ codePoints t := by
    have h := codePoints_flatMap_pointUnits hscalar
    rwa [List.flatMap_append, hs, ht] at h
  rw [utf8Encode, hpoints, List.flatMap_append, utf8Encode, utf8Encode]

/-- The bytes of a string in JSON. -/
def quotedBytes (s : JsString) : ℕ := (utf8Encode (quote s)).length

theorem length_utf8Encode_quote (s : JsString) {t : JsString} (ht : WellFormed t) :
    (utf8Encode (quote s ++ t)).length = quotedBytes s + (utf8Encode t).length := by
  rw [utf8Encode_append (wellFormed_quote s) ht, List.length_append, quotedBytes]

theorem length_utf8Encode_ascii {a : JsString} (ha : Ascii a) {t : JsString} (ht : WellFormed t) :
    (utf8Encode (a ++ t)).length = a.length + (utf8Encode t).length := by
  have hlength : (utf8Encode a).length = a.length := by
    induction a with
    | nil => rfl
    | cons u rest ih =>
      have hu := ha u List.mem_cons_self
      have hrest : Ascii rest := fun v hv => ha v (List.mem_cons_of_mem u hv)
      have hunit : utf8Encode [u] = [UInt8.ofNat u.toNat] := by
        have hlone : loneUnit u = u.toNat := by
          rw [loneUnit, if_neg]
          simp only [isHighSurrogate, isLowSurrogate, Bool.or_eq_true, Bool.and_eq_true, decide_eq_true_eq]
          omega
        rw [utf8Encode, codePoints, hlone, List.flatMap_singleton, encodePoint, if_pos (by omega)]
      have hwell : WellFormed [u] := wellFormed_of_ascii fun v hv => List.mem_singleton.mp hv ▸ hu
      rw [← List.singleton_append, utf8Encode_append hwell (wellFormed_of_ascii hrest), List.length_append, hunit, ih hrest,
        List.length_append, List.length_singleton, List.length_singleton]
  rw [utf8Encode_append (wellFormed_of_ascii ha) ht, List.length_append, hlength]

/-- The most bytes that a unit takes. -/
def unitBytes (u : UInt16) : ℕ := if u.toNat < 128 then 1 else 3

/-- A bound on the bytes of a text that adds up over its parts. -/
def weight (s : JsString) : ℕ := (s.map unitBytes).sum

@[simp] theorem weight_nil : weight [] = 0 := rfl

@[simp] theorem weight_cons (u : UInt16) (s : JsString) : weight (u :: s) = unitBytes u + weight s := by
  rw [weight, List.map_cons, List.sum_cons, weight]

@[simp] theorem weight_append (s t : JsString) : weight (s ++ t) = weight s + weight t := by
  rw [weight, List.map_append, List.sum_append, weight, weight]

theorem utf8Encode_length_le_weight (s : JsString) : (utf8Encode s).length ≤ weight s := by
  have hpoint : ∀ p, (encodePoint p).length ≤ 4 := by
    intro p
    unfold encodePoint
    split
    · simp
    · split
      · simp
      · split <;> simp
  have hlone : ∀ u : UInt16, (encodePoint (loneUnit u)).length ≤ unitBytes u := by
    intro u
    have hu := u.toNat_lt
    have hplain : loneUnit u = 0xFFFD ∧ ¬ u.toNat < 128 ∨ loneUnit u = u.toNat := by
      unfold loneUnit
      split
      · rename_i hsurrogate
        simp only [isHighSurrogate, isLowSurrogate, Bool.or_eq_true, Bool.and_eq_true, decide_eq_true_eq] at hsurrogate
        exact .inl ⟨rfl, by omega⟩
      · exact .inr rfl
    rcases hplain with ⟨hfffd, hbig⟩ | hunit
    · rw [hfffd, unitBytes, if_neg hbig]
      decide
    · rw [hunit]
      by_cases hsmall : u.toNat < 128
      · rw [unitBytes, if_pos hsmall, encodePoint, if_pos (by omega)]
        exact le_rfl
      · rw [unitBytes, if_neg hsmall, encodePoint, if_neg (by omega)]
        split
        · simp
        · rw [if_pos (by omega)]
          exact le_rfl
  have hsurrogate : ∀ u : UInt16, isHighSurrogate u = true ∨ isLowSurrogate u = true → unitBytes u = 3 := by
    intro u hu
    simp only [isHighSurrogate, isLowSurrogate, Bool.and_eq_true, decide_eq_true_eq] at hu
    exact if_neg (by omega)
  rw [utf8Encode]
  fun_induction codePoints s with
  | case1 => simp
  | case2 u =>
    have := hlone u
    simpa using this
  | case3 u v rest hpair ih =>
    obtain ⟨hu, hv⟩ := (Bool.and_eq_true _ _).mp hpair
    have := hpoint (joinSurrogates u v)
    simp only [List.flatMap_cons, List.length_append, weight_cons, hsurrogate u (.inl hu), hsurrogate v (.inr hv)] at ih ⊢
    omega
  | case4 u v rest hpair ih =>
    have := hlone u
    simp only [List.flatMap_cons, List.length_append, weight_cons] at ih ⊢
    omega

theorem weight_of_ascii {s : JsString} (h : Ascii s) : weight s = s.length := by
  induction s with
  | nil => rfl
  | cons u s ih =>
    rw [weight_cons, ih fun v hv => h v (List.mem_cons_of_mem u hv), unitBytes, if_pos (h u List.mem_cons_self), List.length_cons,
      Nat.add_comm]

theorem unitBytes_le (u : UInt16) : unitBytes u ≤ 3 := by
  unfold unitBytes
  split <;> omega

theorem weight_escapeUnit_le (u : UInt16) : weight (escapeUnit u) ≤ 6 := by
  have hescape : weight (unicodeEscape u) = 6 := by
    have hdigit : ∀ d : ℕ, d < 16 → unitBytes (hexDigit d) = 1 := fun d hd => if_pos (ascii_hexDigit d hd)
    have hu := u.toNat_lt
    simp only [unicodeEscape, weight_cons, weight_nil, hdigit _ (show u.toNat / 4096 < 16 by omega),
      hdigit _ (show u.toNat / 256 % 16 < 16 by omega), hdigit _ (show u.toNat / 16 % 16 < 16 by omega),
      hdigit _ (show u.toNat % 16 < 16 by omega)]
    rfl
  rcases escapeUnit_cases u with ⟨c, -, h⟩ | h | ⟨-, h⟩
  · rw [h, weight_cons, weight_cons, weight_nil]
    have := unitBytes_le 92
    have := unitBytes_le c
    omega
  · rw [h, hescape]
  · rw [h, weight_cons, weight_nil]
    have := unitBytes_le u
    omega

/-- No unit of a string takes more bytes than an escape. -/
theorem weight_quote_le (s : JsString) : weight (quote s) ≤ 6 * s.length + 2 := by
  have hunits : weight (escapeUnits s) ≤ 6 * s.length := by
    fun_induction escapeUnits s with
    | case1 => simp
    | case2 u => exact (weight_escapeUnit_le u).trans (by simp)
    | case3 u v rest h ih =>
      have hu := unitBytes_le u
      have hv := unitBytes_le v
      simp only [weight_cons, List.length_cons] at ih ⊢
      omega
    | case4 u v rest h ih =>
      have hu := weight_escapeUnit_le u
      simp only [weight_append, List.length_cons] at ih ⊢
      omega
  have hquote : unitBytes 34 = 1 := rfl
  simp only [quote, weight_cons, weight_append, weight_nil, hquote]
  omega

theorem escapeUnit_plain {u : UInt16} (h : 32 ≤ u.toNat ∧ u.toNat < 128 ∧ u.toNat ≠ 34 ∧ u.toNat ≠ 92) : escapeUnit u = [u] := by
  have hsurrogate : ¬ (isHighSurrogate u = true ∨ isLowSurrogate u = true) := by
    simp only [isHighSurrogate, isLowSurrogate, Bool.and_eq_true, decide_eq_true_eq]
    omega
  rw [escapeUnit, if_neg h.2.2.1, if_neg h.2.2.2, if_neg (by omega), if_neg hsurrogate]

theorem escapeUnits_plain {s : JsString} (h : ∀ u ∈ s, 32 ≤ u.toNat ∧ u.toNat < 128 ∧ u.toNat ≠ 34 ∧ u.toNat ≠ 92) :
    escapeUnits s = s := by
  fun_induction escapeUnits s with
  | case1 => rfl
  | case2 u => exact escapeUnit_plain (h u List.mem_cons_self)
  | case3 u v rest hpair ih =>
    rw [ih fun w hw => h w (List.mem_cons_of_mem _ (List.mem_cons_of_mem _ hw))]
  | case4 u v rest hpair ih =>
    rw [ih fun w hw => h w (List.mem_cons_of_mem _ hw), escapeUnit_plain (h u List.mem_cons_self), List.singleton_append]

/-- A string without escapes takes a byte for each unit. -/
theorem weight_quote_plain {s : JsString} (h : ∀ u ∈ s, 32 ≤ u.toNat ∧ u.toNat < 128 ∧ u.toNat ≠ 34 ∧ u.toNat ≠ 92) :
    weight (quote s) = s.length + 2 := by
  have hplain := escapeUnits_plain h
  have hascii : weight s = s.length := weight_of_ascii fun u hu => (h u hu).2.1
  have hquote : unitBytes 34 = 1 := rfl
  simp only [quote, hplain, weight_cons, weight_append, weight_nil, hquote, hascii]
  omega

theorem weight_obj_le (fields : Fields) :
    weight (stringify (.obj fields)) ≤ 2 + (fields.map fun f => weight (fieldText f) + 1).sum := by
  have hintercalate : ∀ parts : List JsString, weight ([44].intercalate parts) ≤ (parts.map fun part => weight part + 1).sum := by
    intro parts
    cases parts with
    | nil => simp
    | cons part rest =>
      rw [intercalate_cons, weight_append, List.map_cons, List.sum_cons]
      have hrest : weight (rest.flatMap (44 :: ·)) = (rest.map fun part => weight part + 1).sum := by
        have hcomma : unitBytes 44 = 1 := rfl
        induction rest with
        | nil => rfl
        | cons next rest ih =>
          rw [List.flatMap_cons, weight_append, ih, weight_cons, hcomma, List.map_cons, List.sum_cons]
          omega
      omega
  have hbraces : unitBytes 123 = 1 ∧ unitBytes 125 = 1 := ⟨rfl, rfl⟩
  have hparts := hintercalate (fields.map fieldText)
  rw [List.map_map] at hparts
  rw [stringify_obj, weight_cons, weight_append, weight_cons, weight_nil, hbraces.1, hbraces.2]
  change _ ≤ 2 + (fields.map ((fun part => weight part + 1) ∘ fieldText)).sum
  omega

theorem weight_fieldText_str {k s : JsString} {n : ℕ} (hk : k.length ≤ 17) (hs : s.length ≤ n) :
    weight (fieldText (k, .str s)) + 1 ≤ 108 + 6 * n := by
  have hkey := weight_quote_le k
  have htext := weight_quote_le s
  have hcolon : unitBytes 58 = 1 := rfl
  simp only [fieldText, stringify, weight_append, weight_cons, hcolon]
  omega

theorem weight_fieldText_int {k : JsString} {i : ℤ} (hk : k.length ≤ 17) (h : i.natAbs ≤ 9007199254740991) :
    weight (fieldText (k, .int i)) + 1 ≤ 128 := by
  have hkey := weight_quote_le k
  have hnumber := toText_length_le h
  have hweight : weight (JsNumber.int i).toText = (JsNumber.int i).toText.length := weight_of_ascii (ascii_toText _)
  have hcolon : unitBytes 58 = 1 := rfl
  simp only [fieldText, Json.int, stringify, weight_append, weight_cons, hcolon, hweight]
  omega

theorem weight_fieldText_plain {k s : JsString} (hk : k.length ≤ 17)
    (h : ∀ u ∈ s, 32 ≤ u.toNat ∧ u.toNat < 128 ∧ u.toNat ≠ 34 ∧ u.toNat ≠ 92) :
    weight (fieldText (k, .str s)) + 1 ≤ 110 + s.length := by
  have hkey := weight_quote_le k
  have hcolon : unitBytes 58 = 1 := rfl
  simp only [fieldText, stringify, weight_append, weight_cons, hcolon, weight_quote_plain h]
  omega

theorem sum_le_of_forall₂ {α : Type} {f : α → ℕ} {items : List α} {bounds : List ℕ}
    (h : List.Forall₂ (fun a bound => f a ≤ bound) items bounds) : (items.map f).sum ≤ bounds.sum := by
  induction h with
  | nil => exact le_rfl
  | cons hle _ ih =>
    rw [List.map_cons, List.sum_cons, List.sum_cons]
    exact Nat.add_le_add hle ih

/-! ## The alphabet of base64 for URLs -/

def isUrlChar (c : UInt16) : Bool :=
  let n := c.toNat
  (65 ≤ n && n ≤ 90) || (97 ≤ n && n ≤ 122) || (48 ≤ n && n ≤ 57) || n == 45 || n == 95

theorem isUrlChar_of_sextet {n : ℕ} (h : n < 64) : isUrlChar (urlChar (sextetChar n)) = true := by
  interval_cases n <;> decide

theorem mem_base64Encode {bytes : Bytes} {c : UInt16} (h : c ∈ base64Encode bytes) : c = 61 ∨ ∃ n < 64, c = sextetChar n := by
  fun_induction base64Encode bytes with
  | case1 => simp at h
  | case2 a =>
    have ha := a.toNat_lt
    simp only [List.mem_cons, List.not_mem_nil, or_false] at h
    rcases h with rfl | rfl | rfl | rfl
    · exact .inr ⟨_, by omega, rfl⟩
    · exact .inr ⟨_, by omega, rfl⟩
    · exact .inl rfl
    · exact .inl rfl
  | case3 a b =>
    have ha := a.toNat_lt
    have hb := b.toNat_lt
    simp only [List.mem_cons, List.not_mem_nil, or_false] at h
    rcases h with rfl | rfl | rfl | rfl
    · exact .inr ⟨_, by omega, rfl⟩
    · exact .inr ⟨_, by omega, rfl⟩
    · exact .inr ⟨_, by omega, rfl⟩
    · exact .inl rfl
  | case4 a b c' rest ih =>
    have ha := a.toNat_lt
    have hb := b.toNat_lt
    have hc := c'.toNat_lt
    simp only [List.mem_cons] at h
    rcases h with rfl | rfl | rfl | rfl | h
    · exact .inr ⟨_, by omega, rfl⟩
    · exact .inr ⟨_, by omega, rfl⟩
    · exact .inr ⟨_, by omega, rfl⟩
    · exact .inr ⟨_, by omega, rfl⟩
    · exact ih h

theorem isUrlChar_of_mem {bytes : Bytes} {c : UInt16} (h : c ∈ base64UrlEncode bytes) : isUrlChar c = true := by
  obtain ⟨d, hd, rfl⟩ := List.mem_map.mp h
  rcases mem_base64Encode ((List.takeWhile_sublist _).subset hd) with rfl | ⟨n, hn, rfl⟩
  · exact absurd (List.mem_takeWhile_imp hd) (by decide)
  · exact isUrlChar_of_sextet hn

theorem ascii_base64UrlEncode (bytes : Bytes) : Ascii (base64UrlEncode bytes) := by
  intro u hu
  have hchar := isUrlChar_of_mem hu
  simp only [isUrlChar, Bool.or_eq_true, Bool.and_eq_true, decide_eq_true_eq, beq_iff_eq] at hchar
  omega

theorem base64UrlEncode_length_le (bytes : Bytes) : (base64UrlEncode bytes).length ≤ (bytes.length + 2) / 3 * 4 := by
  rw [base64UrlEncode, List.length_map, ← base64Encode_length]
  exact (List.takeWhile_sublist _).length_le

end Js
