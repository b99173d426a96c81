import StrataPortNetwork.Js.Text
import Mathlib.Data.Nat.Log
import Mathlib.Data.Rat.Defs
import Mathlib.Tactic.Ring

/-! # Decimal numbers, their text and the reader of that text

A finite number is identified with its shortest decimal: an integer, or a mantissa
with no trailing zero over a positive power of ten. `toText` follows the layout rules
of `Number::toString`; `readNumber` reads the JSON number grammar and gives every
printed number back.
-/
namespace Js

inductive JsNumber
  | int (i : ℤ)
  | frac (m : ℤ) (e : ℕ) (mantissa : ¬ (10 : ℤ) ∣ m) (scaled : e ≠ 0)
  deriving DecidableEq

namespace JsNumber

def toRat : JsNumber → ℚ
  | int i => i
  | frac m e _ _ => m / 10 ^ e

/-- `Number.isSafeInteger`, with the integer it finds. -/
def safeInteger? : JsNumber → Option ℤ
  | int i => if i.natAbs ≤ 9007199254740991 then some i else none
  | frac _ _ _ _ => none

end JsNumber

/-! ## Digits -/

def digit (d : ℕ) : UInt16 := UInt16.ofNat (48 + d)
def isDigit (c : UInt16) : Bool := 48 ≤ c.toNat && c.toNat ≤ 57

/-- The last `k` decimal digits of `n`, leading zeros included. -/
def padText : ℕ → ℕ → JsString
  | 0, _ => []
  | k + 1, n => padText k (n / 10) ++ [digit (n % 10)]

def digitCount (n : ℕ) : ℕ := Nat.log 10 n + 1
def natText (n : ℕ) : JsString := padText (digitCount n) n

def readDigits : JsString → ℕ → ℕ → ℕ × ℕ × JsString
  | [], acc, k => (acc, k, [])
  | c :: rest, acc, k =>
    if isDigit c then readDigits rest (acc * 10 + (c.toNat - 48)) (k + 1) else (acc, k, c :: rest)

theorem digit_toNat {d : ℕ} (h : d < 10) : (digit d).toNat = 48 + d :=
  UInt16.toNat_ofNat_of_lt' (by simp only [UInt16.size]; omega)

theorem isDigit_digit {d : ℕ} (h : d < 10) : isDigit (digit d) = true := by
  simp only [isDigit, digit_toNat h, Bool.and_eq_true, decide_eq_true_eq]
  omega

/-- Text at which a run of digits ends. -/
def DigitEnd (rest : JsString) : Prop := ∀ c ∈ rest.head?, isDigit c = false

@[simp] theorem digitEnd_nil : DigitEnd [] := by simp [DigitEnd]
@[simp] theorem digitEnd_cons (c : UInt16) (rest : JsString) :
    DigitEnd (c :: rest) ↔ isDigit c = false := by simp [DigitEnd]

theorem readDigits_of_digitEnd {rest : JsString} (h : DigitEnd rest) (acc k : ℕ) :
    readDigits rest acc k = (acc, k, rest) := by
  cases rest with
  | nil => rfl
  | cons c rest =>
    have hc := (digitEnd_cons c rest).mp h
    rw [readDigits, if_neg (by simp [hc])]

theorem readDigits_padText (k n : ℕ) (rest : JsString) (acc c : ℕ) :
    readDigits (padText k n ++ rest) acc c = readDigits rest (acc * 10 ^ k + n % 10 ^ k) (c + k) := by
  induction k generalizing n rest with
  | zero => simp [padText, Nat.mod_one]
  | succ k ih =>
    have hd : n % 10 < 10 := Nat.mod_lt n (by omega)
    have hval : (acc * 10 ^ k + n / 10 % 10 ^ k) * 10 + (48 + n % 10 - 48) =
        acc * 10 ^ (k + 1) + n % 10 ^ (k + 1) := by
      have hm : n % 10 ^ (k + 1) = n % 10 + 10 * (n / 10 % 10 ^ k) := by
        rw [pow_succ, Nat.mul_comm, Nat.mod_mul]
      rw [hm, pow_succ]
      ring_nf
      omega
    rw [padText, List.append_assoc, ih, List.singleton_append, readDigits, if_pos (isDigit_digit hd),
      digit_toNat hd, hval, Nat.add_assoc]

theorem padText_succ (k n : ℕ) : padText (k + 1) n = digit (n / 10 ^ k % 10) :: padText k n := by
  induction k generalizing n with
  | zero => simp [padText]
  | succ k ih =>
    rw [padText, ih, padText, List.cons_append, Nat.div_div_eq_div_mul, ← pow_succ']

theorem length_padText (k n : ℕ) : (padText k n).length = k := by
  induction k generalizing n with
  | zero => rfl
  | succ k ih => rw [padText, List.length_append, ih, List.length_singleton]

theorem padText_ascii (k n : ℕ) : ∀ u ∈ padText k n, isDigit u = true := by
  induction k generalizing n with
  | zero => simp [padText]
  | succ k ih =>
    intro u hu
    rcases List.mem_append.mp hu with hu | hu
    · exact ih _ u hu
    · rw [List.mem_singleton.mp hu]
      exact isDigit_digit (Nat.mod_lt n (by omega))

theorem lt_pow_digitCount (n : ℕ) : n < 10 ^ digitCount n := Nat.lt_pow_succ_log_self (by omega) n

/-- A printed natural starts with a digit that is zero only for zero itself. -/
theorem natText_head (n : ℕ) : ∃ d t, natText n = digit d :: t ∧ d < 10 ∧ (d = 0 → n = 0 ∧ t = []) := by
  refine ⟨n / 10 ^ Nat.log 10 n % 10, padText (Nat.log 10 n) n, padText_succ _ _,
    Nat.mod_lt _ (by omega), ?_⟩
  intro h
  by_cases hn : n = 0
  · subst hn
    exact ⟨rfl, by simp [padText]⟩
  · exfalso
    have hle : 10 ^ Nat.log 10 n ≤ n := Nat.pow_log_le_self 10 hn
    have hlt : n < 10 ^ Nat.log 10 n * 10 := by
      rw [← pow_succ]
      exact lt_pow_digitCount n
    have hpos : 0 < 10 ^ Nat.log 10 n := Nat.pow_pos (by omega)
    have h1 : 0 < n / 10 ^ Nat.log 10 n := Nat.div_pos hle hpos
    have h2 : n / 10 ^ Nat.log 10 n < 10 := Nat.div_lt_of_lt_mul hlt
    omega

theorem readDigits_natText {n : ℕ} {rest : JsString} (h : DigitEnd rest) (acc c : ℕ) :
    readDigits (natText n ++ rest) acc c = (acc * 10 ^ digitCount n + n, c + digitCount n, rest) := by
  rw [natText, readDigits_padText, Nat.mod_eq_of_lt (lt_pow_digitCount n), readDigits_of_digitEnd h]

/-! ## Printing -/

/-- A natural without its trailing zeros, and how many there were. -/
def stripZeros : ℕ → ℕ → ℕ × ℕ
  | 0, n => (n, 0)
  | fuel + 1, n =>
    if n % 10 = 0 then ((stripZeros fuel (n / 10)).1, (stripZeros fuel (n / 10)).2 + 1) else (n, 0)

theorem stripZeros_eq (fuel n : ℕ) : (stripZeros fuel n).1 * 10 ^ (stripZeros fuel n).2 = n := by
  induction fuel generalizing n with
  | zero => simp [stripZeros]
  | succ fuel ih =>
    unfold stripZeros
    split
    · have h := ih (n / 10)
      simp only [pow_succ]
      rw [← Nat.mul_assoc, h]
      omega
    · simp

/-- Exponent layout: `d.ddde±x` for the digits of `s` with decimal exponent `x`. -/
def sciText (s : ℕ) (x : ℤ) : JsString :=
  padText 1 (s / 10 ^ (digitCount s - 1)) ++
    (if digitCount s = 1 then [] else 46 :: padText (digitCount s - 1) s) ++
    101 :: (if x < 0 then 45 else 43) :: natText x.natAbs

/-- The text of a nonnegative integer. -/
def unsignedText (n : ℕ) : JsString :=
  if n < 10 ^ 21 then natText n
  else sciText (stripZeros (digitCount n) n).1 (digitCount n - 1 : ℕ)

/-- The text of `s / 10 ^ e` for `s` without trailing zeros. -/
def fracText (s e : ℕ) : JsString :=
  if -6 < (digitCount s : ℤ) - e ∧ (digitCount s : ℤ) - e ≤ 21 then
    natText (s / 10 ^ e) ++ 46 :: padText e s
  else sciText s ((digitCount s : ℤ) - e - 1)

/-- `Number::toString` on finite numbers. -/
def JsNumber.toText : JsNumber → JsString
  | .int i => (if i < 0 then [45] else []) ++ unsignedText i.natAbs
  | .frac m e _ _ => (if m < 0 then [45] else []) ++ fracText m.natAbs e

/-! ## Reading -/

/-- `m / 10 ^ e` in lowest decimal terms. -/
def JsNumber.reduce (m : ℤ) : ℕ → JsNumber
  | 0 => .int m
  | e + 1 => if h : (10 : ℤ) ∣ m then reduce (m / 10) e else .frac m (e + 1) h (Nat.succ_ne_zero e)

def JsNumber.ofScientific (neg : Bool) (m : ℕ) (x : ℤ) : JsNumber :=
  let signed : ℤ := if neg then -m else m
  if 0 ≤ x then .int (signed * 10 ^ x.toNat) else .reduce signed x.natAbs

/-- An optional fraction after the integer part `m`: the digits read and how many
of them are fractional. -/
def readFraction (m : ℕ) (s : JsString) : Option (ℕ × ℕ × JsString) :=
  match s with
  | [] => some (m, 0, [])
  | c :: rest =>
    if c = 46 then
      if (readDigits rest m 0).2.1 = 0 then none else some (readDigits rest m 0)
    else some (m, 0, c :: rest)

def readMantissa (s : JsString) : Option (ℕ × ℕ × JsString) :=
  match s with
  | [] => none
  | c :: rest =>
    if c = 48 then readFraction 0 rest
    else if isDigit c then readFraction (readDigits (c :: rest) 0 0).1 (readDigits (c :: rest) 0 0).2.2
    else none

def readExponentDigits (neg : Bool) (s : JsString) : Option (ℤ × JsString) :=
  if (readDigits s 0 0).2.1 = 0 then none
  else some (if neg then -((readDigits s 0 0).1 : ℤ) else (readDigits s 0 0).1, (readDigits s 0 0).2.2)

def readExponent (s : JsString) : Option (ℤ × JsString) :=
  match s with
  | [] => some (0, [])
  | c :: rest =>
    if c = 101 ∨ c = 69 then match rest with
      | [] => none
      | sign :: digits =>
        if sign = 45 then readExponentDigits true digits
        else if sign = 43 then readExponentDigits false digits
        else readExponentDigits false (sign :: digits)
    else some (0, c :: rest)

def readUnsigned (neg : Bool) (s : JsString) : Option (JsNumber × JsString) :=
  (readMantissa s).bind fun mantissa =>
    (readExponent mantissa.2.2).map fun exponent =>
      (JsNumber.ofScientific neg mantissa.1 (exponent.1 - mantissa.2.1), exponent.2)

/-- The JSON number at the head of a text. -/
def readNumber (s : JsString) : Option (JsNumber × JsString) :=
  match s with
  | [] => none
  | c :: rest => if c = 45 then readUnsigned true rest else readUnsigned false (c :: rest)

/-! ## Every printed number is read back -/

/-- Text at which a number ends. -/
def NumberEnd (rest : JsString) : Prop :=
  ∀ c ∈ rest.head?, isDigit c = false ∧ c ≠ 46 ∧ c ≠ 101 ∧ c ≠ 69

theorem NumberEnd.digitEnd {rest : JsString} (h : NumberEnd rest) : DigitEnd rest :=
  fun c hc => (h c hc).1

theorem readFraction_of_numberEnd {rest : JsString} (h : ∀ c ∈ rest.head?, c ≠ 46) (m : ℕ) :
    readFraction m rest = some (m, 0, rest) := by
  cases rest with
  | nil => rfl
  | cons c rest =>
    have hc := h c rfl
    rw [readFraction, if_neg hc]

theorem readFraction_point {rest : JsString} (h : DigitEnd rest) (m r k : ℕ) :
    readFraction m (46 :: (padText (k + 1) r ++ rest)) =
      some (m * 10 ^ (k + 1) + r % 10 ^ (k + 1), k + 1, rest) := by
  have hd : readDigits (padText (k + 1) r ++ rest) m 0 =
      (m * 10 ^ (k + 1) + r % 10 ^ (k + 1), k + 1, rest) := by
    rw [readDigits_padText, readDigits_of_digitEnd h, Nat.zero_add]
  rw [readFraction, if_pos rfl, hd]
  simp
theorem readMantissa_natText {rest : JsString} (h : DigitEnd rest) (n : ℕ) :
    readMantissa (natText n ++ rest) = readFraction n rest := by
  obtain ⟨d, t, ht, hd, hzero⟩ := natText_head n
  have hread := readDigits_natText (n := n) h 0 0
  simp only [Nat.zero_mul, Nat.zero_add] at hread
  rw [ht, List.cons_append] at hread ⊢
  rw [readMantissa]
  by_cases h0 : d = 0
  · obtain ⟨hn, ht'⟩ := hzero h0
    subst h0 hn ht'
    rw [if_pos (by decide), List.nil_append]
  · have hne : digit d ≠ 48 := by
      intro he
      have hv := congrArg UInt16.toNat he
      rw [digit_toNat hd] at hv
      have : (48 : UInt16).toNat = 48 := rfl
      omega
    rw [if_neg hne, if_pos (isDigit_digit hd), hread]

theorem digitCount_of_lt {n : ℕ} (h : n < 10) : digitCount n = 1 := by
  rw [digitCount, Nat.log_of_lt h]

theorem natText_of_lt {n : ℕ} (h : n < 10) : natText n = padText 1 n := by
  rw [natText, digitCount_of_lt h]

theorem digitCount_mul_pow {s : ℕ} (hs : s ≠ 0) (z : ℕ) :
    digitCount (s * 10 ^ z) = digitCount s + z := by
  induction z with
  | zero => simp
  | succ z ih =>
    have hne : s * 10 ^ z ≠ 0 := Nat.mul_ne_zero hs (by simp)
    rw [pow_succ, ← Nat.mul_assoc, digitCount, Nat.log_mul_base (by omega) hne]
    rw [digitCount] at ih
    omega

theorem isDigit_exponent : isDigit 101 = false := by decide

/-- The digits of an exponent layout read as the whole mantissa. -/
theorem readMantissa_sci (s : ℕ) (rest : JsString) :
    readMantissa (padText 1 (s / 10 ^ (digitCount s - 1)) ++
        (if digitCount s = 1 then [] else 46 :: padText (digitCount s - 1) s) ++ 101 :: rest) =
      some (s, digitCount s - 1, 101 :: rest) := by
  have hend : DigitEnd (101 :: rest) := (digitEnd_cons _ _).mpr isDigit_exponent
  have hlead : s / 10 ^ (digitCount s - 1) < 10 := by
    apply Nat.div_lt_of_lt_mul
    rw [← pow_succ, digitCount, Nat.add_sub_cancel]
    exact lt_pow_digitCount s
  rw [← natText_of_lt hlead, List.append_assoc]
  split
  · rename_i h1
    rw [List.nil_append, readMantissa_natText hend,
      readFraction_of_numberEnd (by simp), h1]
    simp
  · rename_i h1
    obtain ⟨k, hk⟩ : ∃ k, digitCount s - 1 = k + 1 :=
      ⟨digitCount s - 2, by have : 1 ≤ digitCount s := Nat.le_add_left 1 _; omega⟩
    rw [List.cons_append, readMantissa_natText (by simp only [digitEnd_cons]; decide), hk,
      readFraction_point hend, Nat.div_add_mod' s (10 ^ (k + 1))]

theorem readExponentDigits_natText {rest : JsString} (h : DigitEnd rest) (neg : Bool) (n : ℕ) :
    readExponentDigits neg (natText n ++ rest) = some (if neg then -(n : ℤ) else n, rest) := by
  have hread := readDigits_natText (n := n) h 0 0
  simp only [Nat.zero_mul, Nat.zero_add] at hread
  have hcount : digitCount n ≠ 0 := Nat.succ_ne_zero _
  rw [readExponentDigits, hread]
  simp only [hcount, if_false]

theorem readExponent_sci {rest : JsString} (h : DigitEnd rest) (x : ℤ) :
    readExponent (101 :: (if x < 0 then 45 else 43) :: (natText x.natAbs ++ rest)) = some (x, rest) := by
  rw [readExponent.eq_def]
  simp only [true_or, if_true]
  by_cases hx : x < 0
  · have hv : -((x.natAbs : ℕ) : ℤ) = x := by omega
    simp only [if_pos hx, if_true, readExponentDigits_natText h, hv]
  · have hv : ((x.natAbs : ℕ) : ℤ) = x := by omega
    have hsign : ¬ (43 : UInt16) = 45 := by decide
    simp only [if_neg hx, hsign, if_false, if_true, readExponentDigits_natText h, hv,
      Bool.false_eq_true]

theorem readExponent_of_numberEnd {rest : JsString} (h : NumberEnd rest) :
    readExponent rest = some (0, rest) := by
  cases rest with
  | nil => rfl
  | cons c rest =>
    obtain ⟨-, -, he, hE⟩ := h c rfl
    rw [readExponent.eq_def]
    simp only [he, hE, or_self, if_false]

theorem readUnsigned_sciText {rest : JsString} (h : NumberEnd rest) (neg : Bool) (s : ℕ) (x : ℤ) :
    readUnsigned neg (sciText s x ++ rest) =
      some (JsNumber.ofScientific neg s (x - (digitCount s - 1 : ℕ)), rest) := by
  have hm := readMantissa_sci s ((if x < 0 then 45 else 43) :: (natText x.natAbs ++ rest))
  have he : sciText s x ++ rest = padText 1 (s / 10 ^ (digitCount s - 1)) ++
      (if digitCount s = 1 then [] else 46 :: padText (digitCount s - 1) s) ++
      101 :: ((if x < 0 then 45 else 43) :: (natText x.natAbs ++ rest)) := by
    simp only [sciText, List.append_assoc, List.cons_append]
  rw [readUnsigned, he, hm, Option.bind_some, readExponent_sci h.digitEnd, Option.map_some]

theorem JsNumber.reduce_eq_frac {m : ℤ} {e : ℕ} (hm : ¬ (10 : ℤ) ∣ m) (he : e ≠ 0) :
    JsNumber.reduce m e = .frac m e hm he := by
  cases e with
  | zero => exact absurd rfl he
  | succ e => rw [JsNumber.reduce, dif_neg hm]

/-- The sign a reader has seen, applied to a magnitude. -/
def signed (neg : Bool) (n : ℕ) : ℤ := if neg then -n else n

theorem readUnsigned_unsignedText {rest : JsString} (h : NumberEnd rest) (neg : Bool) (n : ℕ) :
    readUnsigned neg (unsignedText n ++ rest) = some (.int (signed neg n), rest) := by
  have hdot : ∀ c ∈ rest.head?, c ≠ 46 := fun c hc => (h c hc).2.1
  unfold unsignedText
  split
  · rw [readUnsigned, readMantissa_natText h.digitEnd, readFraction_of_numberEnd hdot, Option.bind_some,
      readExponent_of_numberEnd h, Option.map_some]
    simp [JsNumber.ofScientific, signed]
  · rename_i hbig
    have hs := stripZeros_eq (digitCount n) n
    generalize stripZeros (digitCount n) n = sz at hs
    obtain ⟨s, z⟩ := sz
    simp only at hs ⊢
    have hs0 : s ≠ 0 := by
      rintro rfl
      simp only [Nat.zero_mul] at hs
      subst hs
      exact hbig (Nat.pow_pos (by omega))
    have hz : ((digitCount n - 1 : ℕ) : ℤ) - (digitCount s - 1 : ℕ) = z := by
      have hc := digitCount_mul_pow hs0 z
      have h1 : 1 ≤ digitCount s := Nat.le_add_left 1 _
      rw [hs] at hc
      omega
    rw [readUnsigned_sciText h, hz, ← hs]
    simp only [JsNumber.ofScientific, signed, Int.natCast_nonneg, if_true, Int.toNat_natCast]
    cases neg <;> simp

theorem readUnsigned_fracText {rest : JsString} (h : NumberEnd rest) (neg : Bool) {s e : ℕ}
    (hs : ¬ (10 : ℤ) ∣ signed neg s) (he : e ≠ 0) :
    readUnsigned neg (fracText s e ++ rest) = some (.frac (signed neg s) e hs he, rest) := by
  have hneg : ¬ (0 : ℤ) ≤ -(e : ℤ) := by omega
  have hof : JsNumber.ofScientific neg s (-(e : ℤ)) = .frac (signed neg s) e hs he := by
    rw [JsNumber.ofScientific, if_neg hneg, Int.natAbs_neg, Int.natAbs_natCast]
    exact JsNumber.reduce_eq_frac hs he
  unfold fracText
  split
  · obtain ⟨k, rfl⟩ : ∃ k, e = k + 1 := ⟨e - 1, by omega⟩
    rw [readUnsigned, List.append_assoc, List.cons_append,
      readMantissa_natText (by simp only [digitEnd_cons]; decide), readFraction_point h.digitEnd,
      Option.bind_some, readExponent_of_numberEnd h, Option.map_some,
      Nat.div_add_mod' s (10 ^ (k + 1))]
    simp only [Int.zero_sub]
    rw [hof]
  · have hx : (digitCount s : ℤ) - e - 1 - (digitCount s - 1 : ℕ) = -(e : ℤ) := by
      have h1 : 1 ≤ digitCount s := Nat.le_add_left 1 _
      omega
    rw [readUnsigned_sciText h, hx, hof]

theorem unsignedText_head (n : ℕ) : ∃ d t, unsignedText n = digit d :: t ∧ d < 10 := by
  unfold unsignedText sciText
  split
  · obtain ⟨d, t, ht, hd, -⟩ := natText_head n
    exact ⟨d, t, ht, hd⟩
  · exact ⟨_, _, by rw [padText_succ]; rfl, Nat.mod_lt _ (by omega)⟩

theorem fracText_head (s e : ℕ) : ∃ d t, fracText s e = digit d :: t ∧ d < 10 := by
  unfold fracText sciText
  split
  · obtain ⟨d, t, ht, hd, -⟩ := natText_head (s / 10 ^ e)
    exact ⟨d, _, by rw [ht]; rfl, hd⟩
  · exact ⟨_, _, by rw [padText_succ]; rfl, Nat.mod_lt _ (by omega)⟩

theorem digit_ne_minus {d : ℕ} (h : d < 10) : digit d ≠ 45 := by
  intro he
  have hv := congrArg UInt16.toNat he
  rw [digit_toNat h] at hv
  have : (45 : UInt16).toNat = 45 := rfl
  omega

theorem readNumber_signed (rest : JsString) {body : JsString} (h : ∃ d t, body = digit d :: t ∧ d < 10) (neg : Bool) :
    readNumber ((if neg then [45] else []) ++ body ++ rest) = readUnsigned neg (body ++ rest) := by
  obtain ⟨d, t, rfl, hd⟩ := h
  cases neg with
  | true => rfl
  | false =>
    simp only [Bool.false_eq_true, if_false, List.nil_append, List.cons_append]
    rw [readNumber, if_neg (digit_ne_minus hd)]

/-- The reader inverts the printer wherever a number may end. -/
theorem readNumber_toText (x : JsNumber) {rest : JsString} (h : NumberEnd rest) :
    readNumber (x.toText ++ rest) = some (x, rest) := by
  have hsign : ∀ i : ℤ, signed (decide (i < 0)) i.natAbs = i := by
    intro i
    by_cases hi : i < 0
    · simp only [signed, hi, decide_true, if_true]
      omega
    · simp only [signed, hi, decide_false, Bool.false_eq_true, if_false]
      omega
  cases x with
  | int i =>
    have hr := readNumber_signed rest (unsignedText_head i.natAbs) (decide (i < 0))
    rw [readUnsigned_unsignedText h, hsign] at hr
    simpa only [JsNumber.toText, decide_eq_true_eq] using hr
  | frac m e hm he =>
    have hm' : ¬ (10 : ℤ) ∣ signed (decide (m < 0)) m.natAbs := by rwa [hsign]
    have hr := readNumber_signed rest (fracText_head m.natAbs e) (decide (m < 0))
    rw [readUnsigned_fracText h _ hm' he] at hr
    simpa only [JsNumber.toText, decide_eq_true_eq, hsign] using hr

end Js
