import StrataPortNetwork.Py.Values
import Mathlib.Data.List.DropRight

/-! # Parts of strings

The string methods that take a text apart at one code point.
-/
namespace Py
variable {separator : CodePoint} {text : Str}

/-- `text.partition(separator)`, without the separator: what is before it, and what is after it
if there is one. -/
def partition (separator : CodePoint) : Str → Str × Option Str
  | [] => ([], none)
  | c :: rest =>
    if c = separator then ([], some rest)
    else
      let (before, after) := partition separator rest
      (c :: before, after)

/-- `text.rpartition(separator)`: what is before the last separator, if there is one, and what is
after it. -/
def rpartition (separator : CodePoint) (text : Str) : Option Str × Str :=
  match partition separator text.reverse with
  | (after, before) => (before.map List.reverse, after.reverse)

/-- `text.rstrip(c)` for one code point. -/
def rstrip (c : CodePoint) (text : Str) : Str := text.rdropWhile (· = c)

/-- `text.endswith(suffix)`. -/
def endsWith (suffix text : Str) : Bool := suffix.isSuffixOf text

/-! ## Digits -/

/-- The value of a hexadecimal digit. -/
def digitValue? (c : CodePoint) : Option ℕ :=
  if 48 ≤ c.val ∧ c.val ≤ 57 then some (c.val - 48)
  else if 97 ≤ c.val ∧ c.val ≤ 102 then some (c.val - 87)
  else if 65 ≤ c.val ∧ c.val ≤ 70 then some (c.val - 55)
  else none

def isDigitIn (radix : ℕ) (c : CodePoint) : Bool := (digitValue? c).any (· < radix)

/-- The number that digits denote; no digits denote zero. -/
def number (radix : ℕ) (digits : Str) : ℕ := digits.foldl (fun n c => n * radix + (digitValue? c).getD 0) 0

/-- `text.isascii() and text.isdigit()`. -/
def isDigits (text : Str) : Bool := text ≠ [] && text.all (isDigitIn 10)

/-- `text.lower()` of an ASCII text. -/
def asciiLower (text : Str) : Str := text.map fun c => if 65 ≤ c.val ∧ c.val ≤ 90 then point (c.val + 32) else c

theorem isDigitIn_val {radix : ℕ} {c : CodePoint} (h : isDigitIn radix c = true) :
    (48 ≤ c.val ∧ c.val < 48 + radix ∧ c.val ≤ 57) ∨ (97 ≤ c.val ∧ c.val < 87 + radix) ∨ (65 ≤ c.val ∧ c.val < 55 + radix) := by
  rw [isDigitIn, digitValue?] at h
  split at h
  · have := of_decide_eq_true h
    omega
  · split at h
    · have := of_decide_eq_true h
      omega
    · split at h
      · have := of_decide_eq_true h
        omega
      · cases h

theorem val_point {n : ℕ} (h : n < 128) : (point n).val = n := Nat.mod_eq_of_lt (h.trans (by decide))

/-! ## Splitting -/

theorem split_ne_nil (separator : CodePoint) (text : Str) : split separator text ≠ [] := by
  cases text with
  | nil => exact List.cons_ne_nil _ _
  | cons c rest =>
    rw [split]
    split
    · exact List.cons_ne_nil _ _
    · split <;> exact List.cons_ne_nil _ _

theorem split_cons_of_ne {c : CodePoint} (h : c ≠ separator) (rest : Str) :
    ∃ part parts, split separator rest = part :: parts ∧ split separator (c :: rest) = (c :: part) :: parts := by
  obtain ⟨part, parts, hrest⟩ := List.exists_cons_of_ne_nil (split_ne_nil separator rest)
  refine ⟨part, parts, hrest, ?_⟩
  rw [split, if_neg h, hrest]

theorem split_cons_self (rest : Str) : split separator (separator :: rest) = [] :: split separator rest := by
  rw [split, if_pos rfl]

theorem intercalate_cons_cons (c : CodePoint) (part : Str) (parts : List Str) :
    [separator].intercalate ((c :: part) :: parts) = c :: [separator].intercalate (part :: parts) := by
  cases parts <;> simp

/-- A text is its parts joined. -/
theorem intercalate_split (separator : CodePoint) (text : Str) : [separator].intercalate (split separator text) = text := by
  induction text with
  | nil => simp [split]
  | cons c rest ih =>
    by_cases hc : c = separator
    · subst hc
      rw [split_cons_self, List.intercalate_cons_of_ne_nil (split_ne_nil c rest), ih]
      rfl
    · obtain ⟨part, parts, hrest, hcons⟩ := split_cons_of_ne hc rest
      rw [hcons, intercalate_cons_cons, ← hrest, ih]

theorem not_mem_of_mem_split {part : Str} (h : part ∈ split separator text) : separator ∉ part := by
  induction text generalizing part with
  | nil =>
    rw [split, List.mem_singleton] at h
    rw [h]
    exact List.not_mem_nil
  | cons c rest ih =>
    by_cases hc : c = separator
    · subst hc
      rw [split_cons_self] at h
      rcases List.mem_cons.mp h with rfl | h
      · exact List.not_mem_nil
      · exact ih h
    · obtain ⟨first, parts, hrest, hcons⟩ := split_cons_of_ne hc rest
      rw [hcons] at h
      rcases List.mem_cons.mp h with rfl | h
      · rw [List.mem_cons, not_or]
        exact ⟨fun heq => hc heq.symm, ih (hrest ▸ List.mem_cons_self)⟩
      · exact ih (hrest ▸ List.mem_cons_of_mem first h)

theorem mem_intercalate {parts : List Str} {part : Str} (h : part ∈ parts) {c : CodePoint} (hc : c ∈ part) :
    c ∈ [separator].intercalate parts := by
  induction parts with
  | nil => cases h
  | cons first rest ih =>
    by_cases hne : rest = []
    · subst hne
      rw [List.intercalate_singleton]
      exact List.mem_singleton.mp h ▸ hc
    · rw [List.intercalate_cons_of_ne_nil hne, List.mem_append, List.mem_append]
      rcases List.mem_cons.mp h with rfl | h
      · exact .inl (.inl hc)
      · exact .inr (ih h)

theorem mem_of_mem_split {part : Str} (h : part ∈ split separator text) {c : CodePoint} (hc : c ∈ part) : c ∈ text := by
  rw [← intercalate_split separator text]
  exact mem_intercalate h hc

theorem split_of_not_mem {part : Str} (h : separator ∉ part) : split separator part = [part] := by
  induction part with
  | nil => rfl
  | cons c rest ih =>
    rw [List.mem_cons, not_or] at h
    rw [split, if_neg (fun heq => h.1 heq.symm), ih h.2]

theorem split_append {part : Str} (h : separator ∉ part) (rest : Str) :
    split separator (part ++ separator :: rest) = part :: split separator rest := by
  induction part with
  | nil => exact split_cons_self rest
  | cons c part ih =>
    rw [List.mem_cons, not_or] at h
    rw [List.cons_append, split, if_neg (fun heq => h.1 heq.symm), ih h.2]

/-- Joined parts without the separator are split again. -/
theorem split_intercalate {parts : List Str} (hne : parts ≠ []) (h : ∀ part ∈ parts, separator ∉ part) :
    split separator ([separator].intercalate parts) = parts := by
  induction parts with
  | nil => exact absurd rfl hne
  | cons part rest ih =>
    have hpart := h part List.mem_cons_self
    by_cases hrest : rest = []
    · subst hrest
      rw [List.intercalate_singleton, split_of_not_mem hpart]
    · rw [List.intercalate_cons_of_ne_nil hrest, List.append_assoc, List.singleton_append, split_append hpart,
        ih hrest fun q hq => h q (List.mem_cons_of_mem part hq)]

/-! ## Partitions -/

theorem partition_of_not_mem (h : separator ∉ text) : partition separator text = (text, none) := by
  induction text with
  | nil => rfl
  | cons c rest ih =>
    rw [List.mem_cons, not_or] at h
    rw [partition, if_neg (fun heq => h.1 heq.symm), ih h.2]

theorem partition_append {before : Str} (h : separator ∉ before) (after : Str) :
    partition separator (before ++ separator :: after) = (before, some after) := by
  induction before with
  | nil => rw [List.nil_append, partition, if_pos rfl]
  | cons c rest ih =>
    rw [List.mem_cons, not_or] at h
    rw [List.cons_append, partition, if_neg (fun heq => h.1 heq.symm), ih h.2]

/-- What a partition says of the text. -/
theorem partition_spec (separator : CodePoint) (text : Str) :
    (separator ∉ text ∧ partition separator text = (text, none)) ∨
      ∃ before after, separator ∉ before ∧ text = before ++ separator :: after ∧
        partition separator text = (before, some after) := by
  by_cases h : separator ∈ text
  · obtain ⟨before, after, rfl, hbefore⟩ := List.eq_append_cons_of_mem h
    exact .inr ⟨before, after, hbefore, rfl, partition_append hbefore after⟩
  · exact .inl ⟨h, partition_of_not_mem h⟩

theorem rpartition_of_not_mem (h : separator ∉ text) : rpartition separator text = (none, text) := by
  rw [rpartition, partition_of_not_mem (by simpa using h)]
  simp

theorem rpartition_append {after : Str} (h : separator ∉ after) (before : Str) :
    rpartition separator (before ++ separator :: after) = (some before, after) := by
  have hreverse : (before ++ separator :: after).reverse = after.reverse ++ separator :: before.reverse := by simp
  rw [rpartition, hreverse, partition_append (by simpa using h)]
  simp

/-- What a partition from the right says of the text. -/
theorem rpartition_spec (separator : CodePoint) (text : Str) :
    (separator ∉ text ∧ rpartition separator text = (none, text)) ∨
      ∃ before after, separator ∉ after ∧ text = before ++ separator :: after ∧
        rpartition separator text = (some before, after) := by
  rcases partition_spec separator text.reverse with ⟨h, -⟩ | ⟨after, before, hafter, htext, -⟩
  · have hnot : separator ∉ text := by simpa using h
    exact .inl ⟨hnot, rpartition_of_not_mem hnot⟩
  · have htext' : text = before.reverse ++ separator :: after.reverse := by
      rw [← List.reverse_reverse text, htext]
      simp
    have hnot : separator ∉ after.reverse := by simpa using hafter
    exact .inr ⟨_, _, hnot, htext', htext' ▸ rpartition_append hnot _⟩

/-- Stripping from the right leaves what ends in something else. -/
theorem rdropWhile_append_last {p : CodePoint → Bool} {l : Str} {c : CodePoint} (hlast : l.getLast? = some c) (hc : p c = false)
    (rest : Str) : (l ++ rest).rdropWhile p = l ++ rest.rdropWhile p := by
  induction rest using List.reverseRecOn with
  | nil =>
    rw [List.append_nil, List.rdropWhile_nil, List.append_nil, List.rdropWhile_eq_self_iff]
    intro hne
    rw [List.getLast?_eq_some_getLast hne, Option.some.injEq] at hlast
    rw [hlast, hc]
    exact Bool.false_ne_true
  | append_singleton rest d ih =>
    rw [← List.append_assoc, List.rdropWhile_concat, List.rdropWhile_concat]
    split
    · exact ih
    · exact List.append_assoc _ _ _

end Py
