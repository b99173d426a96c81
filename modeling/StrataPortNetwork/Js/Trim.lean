import StrataPortNetwork.Js.Number
import Mathlib.Data.List.DropRight

/-! # Trimming

What `trim` removes, and that a trimmed string has nothing left to remove.
-/
namespace Js

/-- White space and line terminators, which `trim` removes. -/
def isWhiteSpace (u : UInt16) : Bool :=
  [9, 10, 11, 12, 13, 32, 160, 0x1680, 0x2028, 0x2029, 0x202F, 0x205F, 0x3000, 0xFEFF].contains u.toNat ||
    (0x2000 ≤ u.toNat && u.toNat ≤ 0x200A)

def trimStart (s : JsString) : JsString := s.dropWhile isWhiteSpace

def trimEnd (s : JsString) : JsString := (s.reverse.dropWhile isWhiteSpace).reverse

/-- `value.trim()`. -/
def trim (s : JsString) : JsString := trimEnd (trimStart s)

theorem trim_eq (s : JsString) : trim s = (s.dropWhile isWhiteSpace).rdropWhile isWhiteSpace := rfl

theorem length_trim_le (s : JsString) : (trim s).length ≤ s.length :=
  (List.rdropWhile_prefix _ _).length_le.trans (List.length_dropWhile_le _ _)

theorem trim_trim (s : JsString) : trim (trim s) = trim s := by
  have hstart : (trim s).dropWhile isWhiteSpace = trim s := by
    rw [List.dropWhile_eq_self_iff]
    intro hlength
    have hbegins : trim s <+: s.dropWhile isWhiteSpace := List.rdropWhile_prefix _ _
    have hhead := List.dropWhile_eq_self_iff.mp (List.dropWhile_idempotent isWhiteSpace s) (hlength.trans_le hbegins.length_le)
    rwa [← hbegins.getElem hlength] at hhead
  rw [trim_eq, hstart, trim_eq, List.rdropWhile_idempotent]

/-- A string of other characters than white space stays as it is. -/
theorem trim_of_solid {s : JsString} (h : ∀ u ∈ s, isWhiteSpace u = false) : trim s = s := by
  have hstart : s.dropWhile isWhiteSpace = s := List.dropWhile_eq_self_iff.mpr fun hlength => by
    rw [h _ (List.getElem_mem hlength)]
    exact Bool.false_ne_true
  rw [trim_eq, hstart, List.rdropWhile_eq_self_iff]
  intro hne
  rw [h _ (List.getLast_mem hne)]
  exact Bool.false_ne_true

end Js
