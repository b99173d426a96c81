import StrataPortNetwork.Py.Text

/-! # Numeric hosts

A browser takes a host whose last part is a number for an IPv4 address: one to four numbers, each
decimal, octal or hexadecimal, the last of which fills the bytes that are left.
-/
namespace Web
open Py (CodePoint Str point split number isDigitIn isDigitIn_val val_point)

/-! ## The reader -/

def dot : CodePoint := point 46

def readNumber (radix : ℕ) (digits : Str) : Option ℕ :=
  if digits.all (isDigitIn radix) then some (number radix digits) else none

/-- The IPv4 number parser: `0x` before hexadecimal digits and `0` before octal ones. -/
def ipv4Number : Str → Option ℕ
  | [] => none
  | [c] => readNumber 10 [c]
  | c :: x :: digits =>
    if c = point 48 then
      if x = point 120 ∨ x = point 88 then readNumber 16 digits else readNumber 8 (x :: digits)
    else readNumber 10 (c :: x :: digits)

/-- The parts of a host, without an empty last one. -/
def hostParts (text : Str) : List Str :=
  let parts := split dot text
  if parts.getLast? = some [] ∧ 1 < parts.length then parts.dropLast else parts

def isAllDigits (part : Str) : Bool := part ≠ [] && part.all (isDigitIn 10)

/-- The ends-in-a-number checker. -/
def endsInNumber (text : Str) : Bool :=
  (hostParts text).getLast?.any fun part => isAllDigits part || (ipv4Number part).isSome

/-- The address of numbers that each stand for one byte, and a last one for the bytes left. -/
def address : List ℕ → ℕ → ℕ
  | [], _ => 0
  | [n], _ => n
  | n :: rest, k => n * 256 ^ k + address rest (k - 1)

/-- Numbers in their ranges: a byte each, and the last one up to the bytes that are left. -/
def inRange : List ℕ → ℕ → Bool
  | [], _ => false
  | [n], k => n < 256 ^ (k + 1)
  | n :: rest, k => n ≤ 255 && inRange rest (k - 1)

/-- The IPv4 parser. -/
def ipv4Parse (text : Str) : Option ℕ :=
  let parts := hostParts text
  if 4 < parts.length then none
  else (parts.mapM ipv4Number).bind fun numbers => if inRange numbers 3 then some (address numbers 3) else none

/-! ## The grammar -/

/-- A number as it is written in a host. -/
inductive Numeral
  | decimal (digits : Str) (nonempty : digits ≠ []) (all : digits.all (isDigitIn 10) = true)
      (leading : digits.head? = some (point 48) → digits.length = 1)
  | octal (digits : Str) (nonempty : digits ≠ []) (all : digits.all (isDigitIn 8) = true)
  | hexadecimal (capital : Bool) (digits : Str) (all : digits.all (isDigitIn 16) = true)

namespace Numeral

def text : Numeral → Str
  | decimal digits _ _ _ => digits
  | octal digits _ _ => point 48 :: digits
  | hexadecimal capital digits _ => point 48 :: (if capital then point 88 else point 120) :: digits

def value : Numeral → ℕ
  | decimal digits _ _ _ => number 10 digits
  | octal digits _ _ => number 8 digits
  | hexadecimal _ digits _ => number 16 digits

end Numeral

/-- The text spells an IPv4 address in one to four numbers, a full stop after them or not. -/
def Spells (text : Str) (a : ℕ) : Prop := ∃ numerals : List Numeral, numerals ≠ [] ∧ numerals.length ≤ 4 ∧
  (text = [dot].intercalate (numerals.map Numeral.text) ∨ text = [dot].intercalate (numerals.map Numeral.text) ++ [dot]) ∧
  inRange (numerals.map Numeral.value) 3 = true ∧ a = address (numerals.map Numeral.value) 3

/-! ## The reader follows the grammar -/

theorem readNumber_eq_some {radix n : ℕ} {digits : Str} : readNumber radix digits = some n ↔
    digits.all (isDigitIn radix) = true ∧ number radix digits = n := by
  rw [readNumber]
  split <;> simp_all

theorem isDigitIn_ne {radix : ℕ} {c : CodePoint} (h : isDigitIn radix c = true) : c ≠ dot := by
  rintro rfl
  have := isDigitIn_val h
  rw [dot, val_point (by decide)] at this
  omega

theorem octal_ne_x {c : CodePoint} (h : isDigitIn 8 c = true) : ¬ (c = point 120 ∨ c = point 88) := by
  have hval := isDigitIn_val h
  rintro (rfl | rfl)
  · rw [val_point (by decide)] at hval
    omega
  · rw [val_point (by decide)] at hval
    omega

/-- The number parser reads the numerals, each as its value. -/
theorem ipv4Number_eq_some {text : Str} {n : ℕ} :
    ipv4Number text = some n ↔ ∃ numeral : Numeral, numeral.text = text ∧ numeral.value = n := by
  constructor
  · intro h
    unfold ipv4Number at h
    split at h
    · cases h
    · rename_i c
      obtain ⟨hall, rfl⟩ := readNumber_eq_some.mp h
      exact ⟨.decimal [c] (List.cons_ne_nil _ _) hall fun _ => rfl, rfl, rfl⟩
    · rename_i c x digits
      split at h
      · rename_i hzero
        split at h
        · rename_i hx
          obtain ⟨hall, rfl⟩ := readNumber_eq_some.mp h
          refine ⟨.hexadecimal (decide (x = point 88)) digits hall, ?_, rfl⟩
          rw [Numeral.text, hzero]
          by_cases hcapital : x = point 88
          · rw [hcapital]
            rfl
          · rw [hx.resolve_right hcapital]
            rfl
        · obtain ⟨hall, rfl⟩ := readNumber_eq_some.mp h
          exact ⟨.octal (x :: digits) (List.cons_ne_nil _ _) hall, by rw [Numeral.text, hzero], rfl⟩
      · rename_i hzero
        obtain ⟨hall, rfl⟩ := readNumber_eq_some.mp h
        exact ⟨.decimal (c :: x :: digits) (List.cons_ne_nil _ _) hall fun hhead => absurd (Option.some.inj hhead) hzero, rfl, rfl⟩
  · rintro ⟨numeral, rfl, rfl⟩
    cases numeral with
    | decimal digits hne hall hleading =>
      rw [Numeral.text, Numeral.value]
      match digits, hne with
      | [c], _ => exact readNumber_eq_some.mpr ⟨hall, rfl⟩
      | c :: x :: rest, _ =>
        have hzero : c ≠ point 48 := fun heq => absurd (hleading (congrArg some heq)) (by simp)
        rw [ipv4Number, if_neg hzero]
        exact readNumber_eq_some.mpr ⟨hall, rfl⟩
    | octal digits hne hall =>
      rw [Numeral.text, Numeral.value]
      obtain ⟨x, rest, rfl⟩ := List.exists_cons_of_ne_nil hne
      have hx := octal_ne_x (List.all_eq_true.mp hall x List.mem_cons_self)
      rw [ipv4Number, if_pos rfl, if_neg hx]
      exact readNumber_eq_some.mpr ⟨hall, rfl⟩
    | hexadecimal capital digits hall =>
      rw [Numeral.text, Numeral.value, ipv4Number, if_pos rfl, if_pos (by cases capital <;> simp)]
      exact readNumber_eq_some.mpr ⟨hall, rfl⟩

theorem Numeral.text_ne_nil (numeral : Numeral) : numeral.text ≠ [] := by
  cases numeral with
  | decimal digits hne _ _ => exact hne
  | octal digits _ _ => exact List.cons_ne_nil _ _
  | hexadecimal capital digits _ => exact List.cons_ne_nil _ _

theorem Numeral.dot_not_mem (numeral : Numeral) : dot ∉ numeral.text := by
  have hdigits : ∀ {radix : ℕ} {digits : Str}, digits.all (isDigitIn radix) = true → dot ∉ digits :=
    fun hall hmem => isDigitIn_ne (List.all_eq_true.mp hall dot hmem) rfl
  cases numeral with
  | decimal digits _ hall _ => exact hdigits hall
  | octal digits _ hall =>
    rw [text, List.mem_cons, not_or]
    exact ⟨by decide, hdigits hall⟩
  | hexadecimal capital digits hall =>
    rw [text, List.mem_cons, List.mem_cons, not_or, not_or]
    exact ⟨by decide, by cases capital <;> decide, hdigits hall⟩

theorem mapM_ipv4Number {parts : List Str} {numbers : List ℕ} : parts.mapM ipv4Number = some numbers ↔
    ∃ numerals : List Numeral, numerals.map Numeral.text = parts ∧ numerals.map Numeral.value = numbers := by
  induction parts generalizing numbers with
  | nil =>
    constructor
    · intro h
      exact ⟨[], rfl, Option.some.inj h⟩
    · rintro ⟨numerals, htexts, rfl⟩
      rw [List.map_eq_nil_iff.mp htexts]
      rfl
  | cons part rest ih =>
    rw [List.mapM_cons]
    constructor
    · intro h
      obtain ⟨n, hn, h⟩ := Option.bind_eq_some_iff.mp h
      obtain ⟨ns, hns, h⟩ := Option.bind_eq_some_iff.mp h
      obtain ⟨numeral, rfl, rfl⟩ := ipv4Number_eq_some.mp hn
      obtain ⟨numerals, rfl, rfl⟩ := ih.mp hns
      exact ⟨numeral :: numerals, rfl, Option.some.inj h⟩
    · rintro ⟨numerals, htexts, rfl⟩
      obtain ⟨numeral, rest', rfl, rfl, hrest⟩ := List.map_eq_cons_iff.mp htexts
      rw [ipv4Number_eq_some.mpr ⟨numeral, rfl, rfl⟩, ih.mpr ⟨rest', hrest, rfl⟩]
      rfl

theorem intercalate_concat {parts : List Str} (h : parts ≠ []) :
    [dot].intercalate (parts ++ [[]]) = [dot].intercalate parts ++ [dot] := by
  induction parts with
  | nil => exact absurd rfl h
  | cons part rest ih =>
    cases rest with
    | nil => simp
    | cons next rest =>
      have := ih (List.cons_ne_nil _ _)
      rw [List.cons_append, List.intercalate_cons_of_ne_nil (by simp), this, List.intercalate_cons_of_ne_nil (List.cons_ne_nil _ _)]
      simp

/-- A host is its parts joined, with a full stop after them or not. -/
theorem hostParts_join (text : Str) : text = [dot].intercalate (hostParts text) ∨ text = [dot].intercalate (hostParts text) ++ [dot] := by
  have htext := Py.intercalate_split dot text
  rw [hostParts]
  split
  · rename_i h
    right
    have hconcat := List.dropLast_append_getLast? [] (Option.mem_def.mpr h.1)
    have hne : (split dot text).dropLast ≠ [] := by
      intro hnil
      have hlength := congrArg List.length hconcat
      rw [hnil] at hlength
      have := h.2
      simp only [List.nil_append, List.length_cons, List.length_nil] at hlength
      omega
    rw [← intercalate_concat hne, hconcat, htext]
  · exact .inl htext.symm

theorem hostParts_spelled {numerals : List Numeral} (hne : numerals ≠ []) {text : Str}
    (h : text = [dot].intercalate (numerals.map Numeral.text) ∨ text = [dot].intercalate (numerals.map Numeral.text) ++ [dot]) :
    hostParts text = numerals.map Numeral.text := by
  have hmap : numerals.map Numeral.text ≠ [] := by simpa using hne
  have hdots : ∀ part ∈ numerals.map Numeral.text, dot ∉ part := List.forall_mem_map.mpr fun numeral _ => numeral.dot_not_mem
  rcases h with rfl | rfl
  · rw [hostParts, Py.split_intercalate hmap hdots, if_neg]
    rintro ⟨hlast, -⟩
    obtain ⟨numeral, -, htext⟩ := List.mem_map.mp (List.mem_of_mem_getLast? (Option.mem_def.mpr hlast))
    exact numeral.text_ne_nil htext
  · have hsplit : split dot ([dot].intercalate (numerals.map Numeral.text) ++ [dot]) = numerals.map Numeral.text ++ [[]] := by
      rw [← intercalate_concat hmap]
      refine Py.split_intercalate (by simp) fun part hpart => ?_
      rcases List.mem_append.mp hpart with hpart | hpart
      · exact hdots part hpart
      · rw [List.mem_singleton.mp hpart]
        exact List.not_mem_nil
    have hlength : 0 < numerals.length := List.length_pos_iff.mpr hne
    rw [hostParts, hsplit, if_pos ⟨List.getLast?_concat, by simpa using hlength⟩, List.dropLast_concat]

/-- The parser gives exactly the addresses that a text spells. -/
theorem ipv4Parse_eq_some {text : Str} {a : ℕ} : ipv4Parse text = some a ↔ Spells text a := by
  constructor
  · intro h
    rw [ipv4Parse] at h
    split at h
    · cases h
    · rename_i hlength
      obtain ⟨numbers, hnumbers, h⟩ := Option.bind_eq_some_iff.mp h
      obtain ⟨numerals, htexts, rfl⟩ := mapM_ipv4Number.mp hnumbers
      split at h
      · rename_i hrange
        refine ⟨numerals, ?_, ?_, htexts ▸ hostParts_join text, hrange, (Option.some.inj h).symm⟩
        · rintro rfl
          cases hrange
        · rw [← htexts, List.length_map] at hlength
          omega
      · cases h
  · rintro ⟨numerals, hne, hlength, htext, hrange, rfl⟩
    rw [ipv4Parse, hostParts_spelled hne htext, if_neg (by simpa using hlength), mapM_ipv4Number.mpr ⟨numerals, rfl, rfl⟩,
      Option.bind_some, if_pos hrange]

theorem Spells.endsInNumber {text : Str} {a : ℕ} (h : Spells text a) : endsInNumber text = true := by
  obtain ⟨numerals, hne, -, htext, -⟩ := h
  rw [Web.endsInNumber, hostParts_spelled hne htext, List.getLast?_map, List.getLast?_eq_some_getLast hne, Option.map_some,
    Option.any_some, ipv4Number_eq_some.mpr ⟨_, rfl, rfl⟩]
  exact Bool.or_true _

theorem Spells.unique {text : Str} {a b : ℕ} (h : Spells text a) (h' : Spells text b) : a = b :=
  Option.some.inj ((ipv4Parse_eq_some.mpr h).symm.trans (ipv4Parse_eq_some.mpr h'))

end Web
