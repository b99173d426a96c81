import StrataPortNetwork.Js.Base64
import Mathlib.Data.List.TakeWhile

/-! # Base64 for URLs

`base64UrlEncode` is `buffer.toString("base64url")`: the URL alphabet and no padding. The
forgiving decoder reads both alphabets.
-/
namespace Js

def urlChar (c : UInt16) : UInt16 := if c = 43 then 45 else if c = 47 then 95 else c

/-- `buffer.toString("base64url")`. -/
def base64UrlEncode (bytes : Bytes) : JsString := ((base64Encode bytes).takeWhile fun c => !(c == 61)).map urlChar

theorem urlChar_spec (c : UInt16) : sextet? (urlChar c) = sextet? c ∧ (c ≠ 61 → urlChar c ≠ 61) := by
  unfold urlChar
  split
  · rename_i hc
    subst hc
    decide
  · split
    · rename_i hc
      subst hc
      decide
    · exact ⟨rfl, id⟩

theorem base64Decode_map_urlChar {s : JsString} (h : ∀ c ∈ s, c ≠ 61) : base64Decode (s.map urlChar) = base64Decode s := by
  have htake : ∀ t : JsString, (∀ c ∈ t, c ≠ 61) → t.takeWhile (fun c => !(c == 61)) = t := by
    intro t ht
    rw [List.takeWhile_eq_self_iff]
    intro c hc
    simpa using ht c hc
  have hmap : ∀ c ∈ s.map urlChar, c ≠ 61 := by
    intro c hc
    obtain ⟨d, hd, rfl⟩ := List.mem_map.mp hc
    exact (urlChar_spec d).2 (h d hd)
  rw [base64Decode, base64Decode, htake _ hmap, htake _ h, List.filterMap_map]
  congr 2
  funext c
  exact (urlChar_spec c).1

/-- Decoding inverts encoding. -/
theorem base64Decode_urlEncode (bytes : Bytes) : base64Decode (base64UrlEncode bytes) = bytes := by
  have hfree : ∀ c ∈ (base64Encode bytes).takeWhile (fun c => !(c == 61)), c ≠ 61 := by
    intro c hc
    simpa using List.mem_takeWhile_imp hc
  rw [base64UrlEncode, base64Decode_map_urlChar hfree]
  conv_rhs => rw [← base64Decode_encode bytes]
  rw [base64Decode, base64Decode, List.takeWhile_idem]

end Js
