import StrataPortNetwork.Js.Number
import Mathlib.Tactic.Linarith

/-! # ISO dates

`toISOString` writes a time value with all of its fields. `dateParse` reads the texts that it
writes, and leaves what `Date.parse` makes of other texts open.
-/
namespace Js

/-! ## The calendar -/

/-- A day of a year that begins on 1 March. -/
structure MarchDate where
  year : ℤ
  dayOfYear : ℤ

/-- The 400 years of an era fall into centuries, which fall into groups of four years; the last year of the last group, and
of every other group but the last of the other centuries, is a day longer. -/
def marchDate (days : ℤ) : MarchDate :=
  let dayOfEra := (days + 719468) % 146097
  let century := min (dayOfEra / 36524) 3
  let dayOfCentury := dayOfEra - 36524 * century
  let dayOfGroup := dayOfCentury % 1461
  let yearOfGroup := min (dayOfGroup / 365) 3
  ⟨(days + 719468) / 146097 * 400 + 100 * century + 4 * (dayOfCentury / 1461) + yearOfGroup, dayOfGroup - 365 * yearOfGroup⟩

/-- Days since 1970-01-01. -/
def MarchDate.days (date : MarchDate) : ℤ :=
  let yearOfEra := date.year % 400
  date.year / 400 * 146097 + (yearOfEra * 365 + yearOfEra / 4 - yearOfEra / 100 + date.dayOfYear) - 719468

/-- A date in the Gregorian calendar. -/
structure CivilDate where
  year : ℤ
  month : ℕ
  day : ℕ

def MarchDate.civil (date : MarchDate) : CivilDate :=
  let shifted := (5 * date.dayOfYear + 2) / 153
  let month := if shifted < 10 then shifted + 3 else shifted - 9
  ⟨date.year + (if month ≤ 2 then 1 else 0), month.toNat, (date.dayOfYear - (153 * shifted + 2) / 5 + 1).toNat⟩

def CivilDate.march (date : CivilDate) : MarchDate :=
  let shifted : ℤ := if date.month ≤ 2 then date.month + 9 else date.month - 3
  ⟨if date.month ≤ 2 then date.year - 1 else date.year, (153 * shifted + 2) / 5 + date.day - 1⟩

theorem marchDate_dayOfYear (days : ℤ) : 0 ≤ (marchDate days).dayOfYear ∧ (marchDate days).dayOfYear ≤ 365 := by
  simp only [marchDate]
  omega

theorem days_marchDate (days : ℤ) : (marchDate days).days = days := by
  simp only [marchDate, MarchDate.days]
  generalize hera : (days + 719468) / 146097 = era
  generalize hdayOfEra : (days + 719468) % 146097 = dayOfEra
  generalize hcentury : min (dayOfEra / 36524) 3 = century
  generalize hgroup : (dayOfEra - 36524 * century) / 1461 = group
  generalize hdayOfGroup : (dayOfEra - 36524 * century) % 1461 = dayOfGroup
  generalize hyear : min (dayOfGroup / 365) 3 = year
  have hcentury_le : 0 ≤ century ∧ century ≤ 3 := by omega
  have hgroup_le : 0 ≤ group ∧ group ≤ 24 := by omega
  have hyear_le : 0 ≤ year ∧ year ≤ 3 := by omega
  have hquotient : (era * 400 + 100 * century + 4 * group + year) / 400 = era := by omega
  have hyearOfEra : (era * 400 + 100 * century + 4 * group + year) % 400 = 100 * century + 4 * group + year := by omega
  have hleap : (100 * century + 4 * group + year) / 4 = 25 * century + group := by omega
  have hsecular : (100 * century + 4 * group + year) / 100 = century := by omega
  rw [hquotient, hyearOfEra, hleap, hsecular]
  omega

theorem civil_fields {date : MarchDate} (h : 0 ≤ date.dayOfYear) (h' : date.dayOfYear ≤ 365) :
    date.civil.month ≤ 12 ∧ date.civil.day ≤ 31 := by
  simp only [MarchDate.civil]
  omega

theorem march_civil {date : MarchDate} (h : 0 ≤ date.dayOfYear) (h' : date.dayOfYear ≤ 365) : date.civil.march = date := by
  obtain ⟨year, dayOfYear⟩ := date
  simp only at h h'
  simp only [MarchDate.civil, CivilDate.march, MarchDate.mk.injEq]
  generalize hshifted : (5 * dayOfYear + 2) / 153 = shifted
  have hmonths : 0 ≤ shifted ∧ shifted ≤ 11 := by omega
  by_cases hlate : shifted < 10
  · have hmonth : ¬ (shifted + 3).toNat ≤ 2 := by omega
    have hback : (((shifted + 3).toNat : ℕ) : ℤ) - 3 = shifted := by omega
    simp only [if_pos hlate, if_neg hmonth, hback]
    omega
  · have hmonth : (shifted - 9).toNat ≤ 2 := by omega
    have hback : (((shifted - 9).toNat : ℕ) : ℤ) + 9 = shifted := by omega
    simp only [if_neg hlate, if_pos hmonth, hback]
    omega

def CivilDate.ofDays (days : ℤ) : CivilDate := (marchDate days).civil
def CivilDate.days (date : CivilDate) : ℤ := date.march.days

theorem days_ofDays (days : ℤ) : (CivilDate.ofDays days).days = days := by
  obtain ⟨hfirst, hlast⟩ := marchDate_dayOfYear days
  rw [CivilDate.ofDays, CivilDate.days, march_civil hfirst hlast, days_marchDate]

theorem ofDays_fields (days : ℤ) : (CivilDate.ofDays days).month ≤ 12 ∧ (CivilDate.ofDays days).day ≤ 31 :=
  civil_fields (marchDate_dayOfYear days).1 (marchDate_dayOfYear days).2

theorem ofDays_year {days : ℤ} (h : days.natAbs ≤ 100000000) : (CivilDate.ofDays days).year.natAbs < 1000000 := by
  simp only [CivilDate.ofDays, MarchDate.civil, marchDate]
  omega

/-! ## Texts -/

/-- The last time value of a `Date`, in milliseconds. -/
def maxTime : ℕ := 8640000000000000

def yearText (year : ℤ) : JsString :=
  if 0 ≤ year ∧ year ≤ 9999 then padText 4 year.natAbs
  else (if year < 0 then 45 else 43) :: padText 6 year.natAbs

def timeText (ms : ℕ) : JsString :=
  padText 2 (ms / 3600000) ++ 58 :: (padText 2 (ms / 60000 % 60) ++ 58 :: (padText 2 (ms / 1000 % 60) ++ 46 :: padText 3 (ms % 1000)))

/-- `new Date(t).toISOString()`; `none` is its RangeError. -/
def toISOString (t : ℤ) : Option JsString :=
  if t.natAbs ≤ maxTime then
    let date := CivilDate.ofDays (t / 86400000)
    some (yearText date.year ++ 45 :: (padText 2 date.month ++ 45 :: (padText 2 date.day ++ 84 ::
      (timeText (t % 86400000).toNat ++ [90]))))
  else none

/-- The number in the first `k` units, which are digits. -/
def readPadded (k : ℕ) (s : JsString) : Option (ℕ × JsString) :=
  let (n, count, _) := readDigits (s.take k) 0 0
  if count = k then some (n, s.drop k) else none

def readUnit (u : UInt16) : JsString → Option JsString
  | c :: rest => if c = u then some rest else none
  | [] => none

def readYear : JsString → Option (ℤ × JsString)
  | 43 :: rest => (readPadded 6 rest).map fun p => (p.1, p.2)
  | 45 :: rest => (readPadded 6 rest).map fun p => (-p.1, p.2)
  | s => (readPadded 4 s).map fun p => (p.1, p.2)

/-- The time value whose `toISOString` a text may be. -/
def readIso (s : JsString) : Option ℤ := do
  let (year, s) ← readYear s
  let s ← readUnit 45 s
  let (month, s) ← readPadded 2 s
  let s ← readUnit 45 s
  let (day, s) ← readPadded 2 s
  let s ← readUnit 84 s
  let (hours, s) ← readPadded 2 s
  let s ← readUnit 58 s
  let (minutes, s) ← readPadded 2 s
  let s ← readUnit 58 s
  let (seconds, s) ← readPadded 2 s
  let s ← readUnit 46 s
  let (ms, _) ← readPadded 3 s
  some (CivilDate.days ⟨year, month, day⟩ * 86400000 + hours * 3600000 + minutes * 60000 + seconds * 1000 + ms)

/-- `Date.parse(text)`, where `other` reads the texts that `toISOString` does not write. -/
def dateParse (other : JsString → Option ℤ) (s : JsString) : Option ℤ :=
  match readIso s with
  | some t => if toISOString t = some s then some t else other s
  | none => other s

theorem readPadded_padText {k n : ℕ} (h : n < 10 ^ k) (rest : JsString) : readPadded k (padText k n ++ rest) = some (n, rest) := by
  have htake : (padText k n ++ rest).take k = padText k n ++ [] := by
    rw [List.take_left' (length_padText k n), List.append_nil]
  have hdigits : readDigits (padText k n ++ []) 0 0 = (n, k, []) := by
    rw [readDigits_padText, readDigits_of_digitEnd digitEnd_nil, Nat.mod_eq_of_lt h, Nat.zero_mul, Nat.zero_add, Nat.zero_add]
  rw [readPadded, htake, hdigits, List.drop_left' (length_padText k n)]
  simp

@[simp] theorem readUnit_cons (u : UInt16) (rest : JsString) : readUnit u (u :: rest) = some rest := if_pos rfl

theorem readYear_digits {c : UInt16} (hc : 48 ≤ c.toNat) (rest : JsString) :
    readYear (c :: rest) = (readPadded 4 (c :: rest)).map fun p => ((p.1 : ℤ), p.2) := by
  unfold readYear
  split
  · rename_i heq
    rw [(List.cons.inj heq).1] at hc
    exact absurd hc (by decide)
  · rename_i heq
    rw [(List.cons.inj heq).1] at hc
    exact absurd hc (by decide)
  · rfl

theorem readYear_yearText {year : ℤ} (h : year.natAbs < 1000000) (rest : JsString) :
    readYear (yearText year ++ rest) = some (year, rest) := by
  unfold yearText
  split
  · rename_i hyear
    have hdigit : year.natAbs / 10 ^ 3 % 10 < 10 := Nat.mod_lt _ (by omega)
    have hpadded := readPadded_padText (k := 4) (show year.natAbs < 10 ^ 4 by omega) rest
    rw [padText_succ, List.cons_append] at hpadded ⊢
    rw [readYear_digits (by rw [digit_toNat hdigit]; omega), hpadded]
    simp only [Option.map_some, Int.natAbs_of_nonneg hyear.1]
  · have hpadded := readPadded_padText (k := 6) (show year.natAbs < 10 ^ 6 by omega) rest
    by_cases hneg : year < 0
    · rw [if_pos hneg, List.cons_append]
      change (readPadded 6 (padText 6 year.natAbs ++ rest)).map _ = _
      rw [hpadded, Option.map_some, Int.ofNat_natAbs_of_nonpos hneg.le, Int.neg_neg]
    · rw [if_neg hneg, List.cons_append]
      change (readPadded 6 (padText 6 year.natAbs ++ rest)).map _ = _
      rw [hpadded, Option.map_some, Int.natAbs_of_nonneg (by omega)]

theorem readIso_toISOString {t : ℤ} {s : JsString} (h : toISOString t = some s) : readIso s = some t := by
  obtain ⟨ht, rfl⟩ : t.natAbs ≤ maxTime ∧ _ = s := by simpa [toISOString] using h
  unfold maxTime at ht
  obtain ⟨hmonth, hday⟩ := ofDays_fields (t / 86400000)
  have hyear : (CivilDate.ofDays (t / 86400000)).year.natAbs < 1000000 := ofDays_year (by omega)
  have hdays := days_ofDays (t / 86400000)
  generalize CivilDate.ofDays (t / 86400000) = date at hmonth hday hyear hdays
  have hms : (t % 86400000).toNat < 86400000 := by omega
  have htime : t = t / 86400000 * 86400000 + (t % 86400000).toNat := by omega
  generalize (t % 86400000).toNat = ms at hms htime
  simp only [timeText, List.append_assoc, List.cons_append]
  refine Option.bind_eq_some_iff.mpr ⟨_, readYear_yearText hyear _, ?_⟩
  refine Option.bind_eq_some_iff.mpr ⟨_, readUnit_cons _ _, ?_⟩
  refine Option.bind_eq_some_iff.mpr ⟨_, readPadded_padText (show date.month < 10 ^ 2 by omega) _, ?_⟩
  refine Option.bind_eq_some_iff.mpr ⟨_, readUnit_cons _ _, ?_⟩
  refine Option.bind_eq_some_iff.mpr ⟨_, readPadded_padText (show date.day < 10 ^ 2 by omega) _, ?_⟩
  refine Option.bind_eq_some_iff.mpr ⟨_, readUnit_cons _ _, ?_⟩
  refine Option.bind_eq_some_iff.mpr ⟨_, readPadded_padText (show ms / 3600000 < 10 ^ 2 by omega) _, ?_⟩
  refine Option.bind_eq_some_iff.mpr ⟨_, readUnit_cons _ _, ?_⟩
  refine Option.bind_eq_some_iff.mpr ⟨_, readPadded_padText (show ms / 60000 % 60 < 10 ^ 2 by omega) _, ?_⟩
  refine Option.bind_eq_some_iff.mpr ⟨_, readUnit_cons _ _, ?_⟩
  refine Option.bind_eq_some_iff.mpr ⟨_, readPadded_padText (show ms / 1000 % 60 < 10 ^ 2 by omega) _, ?_⟩
  refine Option.bind_eq_some_iff.mpr ⟨_, readUnit_cons _ _, ?_⟩
  refine Option.bind_eq_some_iff.mpr ⟨_, readPadded_padText (show ms % 1000 < 10 ^ 3 by omega) _, congrArg some ?_⟩
  change date.days * 86400000 + _ + _ + _ + _ = t
  rw [hdays]
  omega

/-- `Date.parse` inverts `toISOString`. -/
theorem dateParse_toISOString (other : JsString → Option ℤ) {t : ℤ} {s : JsString} (h : toISOString t = some s) :
    dateParse other s = some t := by
  rw [dateParse, readIso_toISOString h]
  exact if_pos h

example : toISOString 951827696789 = some (js "2000-02-29T12:34:56.789Z") := by decide +kernel

theorem toISOString_length {t : ℤ} {s : JsString} (h : toISOString t = some s) : 24 ≤ s.length ∧ s.length ≤ 27 := by
  obtain ⟨-, rfl⟩ : t.natAbs ≤ maxTime ∧ _ = s := by simpa [toISOString] using h
  have hyear : 4 ≤ (yearText (CivilDate.ofDays (t / 86400000)).year).length ∧
      (yearText (CivilDate.ofDays (t / 86400000)).year).length ≤ 7 := by
    unfold yearText
    split
    · simp [length_padText]
    · simp [length_padText]
  simp only [timeText, List.length_append, List.length_cons, length_padText, List.length_nil]
  omega

theorem toISOString_isSome {t : ℤ} : (toISOString t).isSome ↔ t.natAbs ≤ maxTime := by
  unfold toISOString
  split <;> simp_all

end Js
