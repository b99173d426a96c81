import StrataPortNetwork.Js.Number
import Mathlib.Tactic.Positivity
import Mathlib.Algebra.Order.Field.Rat

/-! # The values of decimals

A decimal in lowest terms is determined by its value.
-/
namespace Js.JsNumber

theorem ne_of_not_dvd {m i : ℤ} {e : ℕ} (hm : ¬ (10 : ℤ) ∣ m) (he : e ≠ 0) : (m / 10 ^ e : ℚ) ≠ i := by
  intro h
  rw [div_eq_iff (by positivity)] at h
  have hint : m = i * 10 ^ e := by exact_mod_cast h
  exact hm (hint ▸ Dvd.dvd.mul_left (dvd_pow_self 10 he) i)

theorem eq_of_scaled_eq {m m' : ℤ} {e e' : ℕ} (hm' : ¬ (10 : ℤ) ∣ m') (hle : e ≤ e')
    (h : (m / 10 ^ e : ℚ) = m' / 10 ^ e') : m = m' ∧ e = e' := by
  obtain ⟨k, rfl⟩ := Nat.exists_eq_add_of_le hle
  rw [div_eq_div_iff (by positivity) (by positivity), pow_add] at h
  have hscaled : (10 ^ e : ℚ) * (m * 10 ^ k) = 10 ^ e * m' :=
    calc (10 ^ e : ℚ) * (m * 10 ^ k) = m * (10 ^ e * 10 ^ k) := by ring
      _ = m' * 10 ^ e := h
      _ = 10 ^ e * m' := by ring
  have hint : m * 10 ^ k = m' := by exact_mod_cast mul_left_cancel₀ (by positivity) hscaled
  cases k with
  | zero => exact ⟨by simpa using hint, rfl⟩
  | succ k => exact absurd (hint ▸ Dvd.dvd.mul_left (dvd_pow_self 10 k.succ_ne_zero) m) hm'

theorem toRat_injective : Function.Injective toRat := by
  intro x y h
  cases x with
  | int i =>
    cases y with
    | int j => exact congrArg int (Int.cast_injective h)
    | frac m e hm he => exact absurd h.symm (ne_of_not_dvd hm he)
  | frac m e hm he =>
    cases y with
    | int j => exact absurd h (ne_of_not_dvd hm he)
    | frac m' e' hm' he' =>
      rcases le_total e e' with hle | hle
      · obtain ⟨rfl, rfl⟩ := eq_of_scaled_eq hm' hle h
        rfl
      · obtain ⟨rfl, rfl⟩ := eq_of_scaled_eq hm hle h.symm
        rfl

theorem toRat_reduce (m : ℤ) (e : ℕ) : (reduce m e).toRat = m / 10 ^ e := by
  induction e generalizing m with
  | zero => simp [reduce, toRat]
  | succ e ih =>
    rw [reduce]
    split
    · rename_i h
      obtain ⟨k, rfl⟩ := h
      rw [ih, Int.mul_ediv_cancel_left k (by decide), pow_succ]
      push_cast
      rw [mul_comm (10 : ℚ) k, mul_div_mul_right _ _ (by norm_num)]
    · rfl

end Js.JsNumber
