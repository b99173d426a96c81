import StrataPortNetwork.Js.Regex

/-! # Which patterns the text of a number matches

The text of a number starts with a digit or a minus, has at most one point, and is no run of
more than 21 digits: longer integers have an exponent.
-/
namespace Js

theorem natText_digits (n : ℕ) : ∀ u ∈ natText n, isDigit u = true := padText_ascii _ _

theorem count_eq_zero_of_digits {u : UInt16} (hu : isDigit u = false) {text : JsString} (h : ∀ v ∈ text, isDigit v = true) :
    text.count u = 0 := by
  refine List.count_eq_zero.mpr fun hmem => ?_
  rw [h u hmem] at hu
  cases hu

/-- An exponent has a sign, and at most one point before it. -/
theorem sciText_marks (s : ℕ) (x : ℤ) : (43 ∈ sciText s x ∨ 45 ∈ sciText s x) ∧ (sciText s x).count 46 ≤ 1 := by
  have hpoint : isDigit 46 = false := by decide
  have hhead := count_eq_zero_of_digits hpoint (padText_ascii 1 (s / 10 ^ (digitCount s - 1)))
  have htail := count_eq_zero_of_digits hpoint (padText_ascii (digitCount s - 1) s)
  have hexponent := count_eq_zero_of_digits hpoint (natText_digits x.natAbs)
  unfold sciText
  constructor
  · by_cases hx : x < 0 <;> simp [hx]
  · split <;> split <;> simp [hhead, htail, hexponent]

/-- The text of a number is a short run of digits, or has a sign or a point. -/
theorem toText_shape (x : JsNumber) :
    x.toText.count 46 ≤ 1 ∧ (43 ∈ x.toText ∨ 45 ∈ x.toText ∨ 46 ∈ x.toText ∨ x.toText.length ≤ 21) := by
  have hpoint : isDigit 46 = false := by decide
  have hsign : ∀ negative : Bool, ((if negative then [45] else [] : JsString)).count 46 = 0 := by decide
  cases x with
  | int i =>
    have hunsigned : (unsignedText i.natAbs).count 46 ≤ 1 ∧
        (43 ∈ unsignedText i.natAbs ∨ 45 ∈ unsignedText i.natAbs ∨ (unsignedText i.natAbs).length ≤ 21) := by
      unfold unsignedText
      split
      · rename_i hsmall
        refine ⟨(count_eq_zero_of_digits hpoint (natText_digits _)).trans_le zero_le_one, .inr (.inr ?_)⟩
        rw [natText, length_padText, digitCount]
        rcases Nat.eq_zero_or_pos i.natAbs with hzero | hpos
        · simp [hzero]
        · exact Nat.log_lt_of_lt_pow hpos.ne' hsmall
      · obtain ⟨hmark, hcount⟩ := sciText_marks (stripZeros (digitCount i.natAbs) i.natAbs).1 ((digitCount i.natAbs - 1 : ℕ) : ℤ)
        exact ⟨hcount, hmark.imp id .inl⟩
    rw [JsNumber.toText]
    constructor
    · rw [List.count_append]
      have := hunsigned.1
      by_cases hi : i < 0 <;> simpa [hi] using this
    · by_cases hi : i < 0
      · simp [hi]
      · rcases hunsigned.2 with h | h | h <;> simp [hi, h]
  | frac m e _ _ =>
    have hunsigned : (fracText m.natAbs e).count 46 ≤ 1 ∧
        (43 ∈ fracText m.natAbs e ∨ 45 ∈ fracText m.natAbs e ∨ 46 ∈ fracText m.natAbs e) := by
      unfold fracText
      split
      · have hhead := count_eq_zero_of_digits hpoint (natText_digits (m.natAbs / 10 ^ e))
        have htail := count_eq_zero_of_digits hpoint (padText_ascii e m.natAbs)
        simp [hhead, htail]
      · obtain ⟨hmark, hcount⟩ := sciText_marks m.natAbs ((digitCount m.natAbs : ℤ) - e - 1)
        exact ⟨hcount, hmark.imp id .inl⟩
    rw [JsNumber.toText]
    constructor
    · rw [List.count_append]
      have := hunsigned.1
      by_cases hm : m < 0 <;> simpa [hm] using this
    · by_cases hm : m < 0
      · simp [hm]
      · rcases hunsigned.2 with h | h | h <;> simp [hm, h]

theorem toText_starts (x : JsNumber) : ∃ u rest, x.toText = u :: rest ∧ u.toNat < 58 := by
  have hdigit : ∀ {d : ℕ}, d < 10 → (digit d).toNat < 58 := by
    intro d hd
    rw [digit_toNat hd]
    omega
  cases x with
  | int i =>
    obtain ⟨d, t, ht, hd⟩ := unsignedText_head i.natAbs
    rw [JsNumber.toText, ht]
    split
    · exact ⟨45, _, rfl, by decide⟩
    · exact ⟨digit d, t, rfl, hdigit hd⟩
  | frac m e _ _ =>
    obtain ⟨d, t, ht, hd⟩ := fracText_head m.natAbs e
    rw [JsNumber.toText, ht]
    split
    · exact ⟨45, _, rfl, by decide⟩
    · exact ⟨digit d, t, rfl, hdigit hd⟩

/-- A pattern that starts with a letter. -/
theorem not_accepts_of_letter {cls : CharClass} (hcls : ∀ r ∈ cls, 58 ≤ r.1) (rest : Regex) (x : JsNumber) :
    (Regex.seq (.run cls 1 1) rest).accepts x.toText = false := by
  rw [← Bool.not_eq_true, Regex.accepts_iff, Regex.matches_seq]
  rintro ⟨first, tail, htext, hfirst, -⟩
  obtain ⟨hall, hleast, -⟩ := Regex.matches_run.mp hfirst
  obtain ⟨u, text, hhead, hu⟩ := toText_starts x
  rw [hhead] at htext
  cases first with
  | nil => exact absurd hleast (by simp)
  | cons v _ =>
    obtain ⟨rfl, -⟩ := List.cons.inj htext
    obtain ⟨r, hr, hrange⟩ := List.any_eq_true.mp (hall u List.mem_cons_self)
    have hlow := hcls r hr
    simp only [Bool.and_eq_true, decide_eq_true_eq] at hrange
    omega

/-- A run of more than 21 units, none of them a sign or a point. -/
theorem not_accepts_of_long {cls : CharClass} {n m : ℕ} (hn : 21 < n) (hcls : cls.has 43 = false ∧ cls.has 45 = false ∧ cls.has 46 = false)
    (x : JsNumber) : (Regex.run cls n m).accepts x.toText = false := by
  rw [← Bool.not_eq_true, Regex.accepts_iff, Regex.matches_run]
  rintro ⟨hall, hleast, -⟩
  have hnot : ∀ u, cls.has u = false → u ∉ x.toText := by
    intro u hu hmem
    rw [hall u hmem] at hu
    cases hu
  rcases (toText_shape x).2 with h | h | h | h
  · exact hnot 43 hcls.1 h
  · exact hnot 45 hcls.2.1 h
  · exact hnot 46 hcls.2.2 h
  · omega

/-- A pattern with two points. -/
theorem not_accepts_of_points (a b c : Regex) (x : JsNumber) :
    (Regex.seq a (.seq (.text ".") (.seq b (.seq (.text ".") c)))).accepts x.toText = false := by
  rw [← Bool.not_eq_true, Regex.accepts_iff]
  simp only [Regex.matches_seq, Regex.text, Regex.matches_lit]
  rintro ⟨t, _, htext, -, _, _, rfl, rfl, u, _, rfl, -, _, v, rfl, rfl, -⟩
  have hcount := (toText_shape x).1
  have hpoint : (js ".").count 46 = 1 := by decide
  rw [htext] at hcount
  simp only [List.count_append, hpoint] at hcount
  omega

end Js
