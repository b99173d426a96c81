import StrataPortNetwork.Js.Text
import Mathlib.Tactic.IntervalCases

/-! # Base64

`base64Encode` is `buffer.toString('base64')` and `base64Decode` the forgiving
`Buffer.from(text, 'base64')`, which takes the URL alphabet as well, skips foreign
characters and stops at the padding.
-/
namespace Js

/-- The character of a six-bit group. -/
def sextetChar (n : ℕ) : UInt16 :=
  if n < 26 then UInt16.ofNat (65 + n) else if n < 52 then UInt16.ofNat (71 + n)
  else if n < 62 then UInt16.ofNat (n - 4) else if n = 62 then 43 else 47

def sextet? (c : UInt16) : Option ℕ :=
  let n := c.toNat
  if 65 ≤ n ∧ n ≤ 90 then some (n - 65) else if 97 ≤ n ∧ n ≤ 122 then some (n - 71)
  else if 48 ≤ n ∧ n ≤ 57 then some (n + 4) else if n = 43 ∨ n = 45 then some 62
  else if n = 47 ∨ n = 95 then some 63 else none

def base64Encode : Bytes → JsString
  | [] => []
  | [a] => [sextetChar (a.toNat / 4), sextetChar (a.toNat % 4 * 16), 61, 61]
  | [a, b] => [sextetChar (a.toNat / 4), sextetChar (a.toNat % 4 * 16 + b.toNat / 16),
      sextetChar (b.toNat % 16 * 4), 61]
  | a :: b :: c :: rest =>
    sextetChar (a.toNat / 4) :: sextetChar (a.toNat % 4 * 16 + b.toNat / 16) ::
      sextetChar (b.toNat % 16 * 4 + c.toNat / 64) :: sextetChar (c.toNat % 64) :: base64Encode rest

def decodeSextets : List ℕ → Bytes
  | a :: b :: c :: d :: rest => UInt8.ofNat (a * 4 + b / 16) :: UInt8.ofNat (b % 16 * 16 + c / 4) ::
      UInt8.ofNat (c % 4 * 64 + d) :: decodeSextets rest
  | [a, b, c] => [UInt8.ofNat (a * 4 + b / 16), UInt8.ofNat (b % 16 * 16 + c / 4)]
  | [a, b] => [UInt8.ofNat (a * 4 + b / 16)]
  | _ => []

def base64Decode (s : JsString) : Bytes :=
  decodeSextets ((s.takeWhile (fun c => !(c == 61))).filterMap sextet?)

theorem sextetChar_spec {n : ℕ} (h : n < 64) :
    sextet? (sextetChar n) = some n ∧ (sextetChar n == 61) = false := by
  interval_cases n <;> exact ⟨by decide, by decide⟩

theorem base64Decode_cons {n : ℕ} (h : n < 64) (s : JsString) :
    ((sextetChar n :: s).takeWhile (fun c => !(c == 61))).filterMap sextet? =
      n :: (s.takeWhile (fun c => !(c == 61))).filterMap sextet? := by
  obtain ⟨hv, hp⟩ := sextetChar_spec h
  rw [List.takeWhile_cons_of_pos (by rw [hp]; rfl), List.filterMap_cons_some hv]

/-- Decoding inverts encoding. -/
theorem base64Decode_encode (bytes : Bytes) : base64Decode (base64Encode bytes) = bytes := by
  have hback : ∀ {x : UInt8} {n : ℕ}, n = x.toNat → UInt8.ofNat n = x := by
    rintro x n rfl
    exact UInt8.ofNat_toNat
  fun_induction base64Encode bytes with
  | case1 => rfl
  | case2 a =>
    have ha := a.toNat_lt
    rw [base64Decode, base64Decode_cons (by omega), base64Decode_cons (by omega)]
    simp only [List.takeWhile, beq_self_eq_true, Bool.not_true, List.filterMap_nil, decodeSextets]
    rw [hback (x := a) (by omega)]
  | case3 a b =>
    have ha := a.toNat_lt
    have hb := b.toNat_lt
    rw [base64Decode, base64Decode_cons (by omega), base64Decode_cons (by omega),
      base64Decode_cons (by omega)]
    simp only [List.takeWhile, beq_self_eq_true, Bool.not_true, List.filterMap_nil, decodeSextets]
    rw [hback (x := a) (by omega), hback (x := b) (by omega)]
  | case4 a b c rest ih =>
    have ha := a.toNat_lt
    have hb := b.toNat_lt
    have hc := c.toNat_lt
    rw [base64Decode, base64Decode_cons (by omega), base64Decode_cons (by omega),
      base64Decode_cons (by omega), base64Decode_cons (by omega), decodeSextets]
    rw [base64Decode] at ih
    rw [ih, hback (x := a) (by omega), hback (x := b) (by omega), hback (x := c) (by omega)]

theorem base64Encode_injective : Function.Injective base64Encode :=
  Function.LeftInverse.injective base64Decode_encode

theorem base64Encode_length (bytes : Bytes) :
    (base64Encode bytes).length = (bytes.length + 2) / 3 * 4 := by
  fun_induction base64Encode bytes with
  | case1 => rfl
  | case2 a => simp
  | case3 a b => simp
  | case4 a b c rest ih =>
    simp only [List.length_cons, ih]
    omega

end Js
