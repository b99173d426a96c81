import StrataPortNetwork.Js.OwnOrder
import StrataPortNetwork.Js.JsonText
import StrataPortNetwork.Js.Decimals
import StrataPortNetwork.Js.Trim

/-! # Values as operands

The operators `<`, `<=`, `>` and `+` turn arrays and objects into strings. Two strings are compared
by their units and one joins what it is added to; anything else counts as a number, which may be
none. Numbers are exact.
-/
namespace Js

/-! ## Numbers -/

/-- The numbers that an operand counts as. -/
inductive Numeric
  | nan
  | finite (q : ℚ)
  | infinite (negative : Bool)
  deriving DecidableEq

namespace Numeric

/-- `<`, which no NaN is in. -/
def lt : Numeric → Numeric → Bool
  | .finite p, .finite q => p < q
  | .finite _, .infinite negative => !negative
  | .infinite negative, .finite _ => negative
  | .infinite negative, .infinite negative' => negative && !negative'
  | _, _ => false

/-- `<=`, which no NaN is in. -/
def le : Numeric → Numeric → Bool
  | .finite p, .finite q => p ≤ q
  | .finite _, .infinite negative => !negative
  | .infinite negative, .finite _ => negative
  | .infinite negative, .infinite negative' => negative || !negative'
  | _, _ => false

end Numeric

/-! ## Numbers of strings -/

/-- The base that a letter after a zero stands for. -/
def baseOf? (u : UInt16) : Option ℕ :=
  if u = 120 ∨ u = 88 then some 16 else if u = 111 ∨ u = 79 then some 8 else if u = 98 ∨ u = 66 then some 2 else none

/-- Digits of a base, of which there is one at least. -/
def readBase (base : ℕ) (digits : JsString) : Numeric :=
  let value := digits.foldl (fun n u => n.bind fun n => (hexValue? u).bind fun d =>
    if d < base then some (n * base + d) else none) (some 0)
  if digits = [] then .nan else (value.map fun n : ℕ => Numeric.finite n).getD .nan

/-- `Infinity`, or decimal digits with a point and an exponent. -/
def readDecimal (negative : Bool) (s : JsString) : Numeric :=
  if s = js "Infinity" then .infinite negative
  else
    let whole := readDigits s 0 0
    let fraction := match whole.2.2 with
      | [] => (whole.1, 0, [])
      | c :: rest => if c = 46 then readDigits rest whole.1 0 else (whole.1, 0, c :: rest)
    if whole.2.1 + fraction.2.1 = 0 then .nan
    else match readExponent fraction.2.2 with
      | some (exponent, []) => .finite (JsNumber.ofScientific negative fraction.1 (exponent - fraction.2.1)).toRat
      | _ => .nan

/-- `Number(text)`. -/
def stringToNumber (text : JsString) : Numeric :=
  match trim text with
  | [] => .finite 0
  | [u] => readDecimal false [u]
  | u :: v :: rest =>
    match if u = 48 then baseOf? v else none with
    | some base => readBase base rest
    | none =>
      if u = 43 then readDecimal false (v :: rest)
      else if u = 45 then readDecimal true (v :: rest)
      else readDecimal false (u :: v :: rest)

/-! ## Operands -/

inductive Primitive
  | null
  | bool (b : Bool)
  | num (x : JsNumber)
  | str (s : JsString)

/-- `ToPrimitive(value)`; `none` is the TypeError of an object whose own `toString` shadows the inherited method. -/
def toPrimitive? : Json → Option Primitive
  | .null => some .null
  | .bool b => some (.bool b)
  | .num x => some (.num x)
  | .str s => some (.str s)
  | v => v.toStr?.map .str

def Primitive.toNumber : Primitive → Numeric
  | .null => .finite 0
  | .bool b => .finite (if b then 1 else 0)
  | .num x => .finite x.toRat
  | .str s => stringToNumber s

/-- The number that a value counts as; `undefined` counts as none. -/
def numberOf? : Option Json → Option Numeric
  | none => some .nan
  | some v => (toPrimitive? v).map Primitive.toNumber

/-- `a <= b`; `none` is a TypeError. -/
def lessOrEqual? (a b : Option Json) : Option Bool :=
  match a, b with
  | some a, some b => (toPrimitive? a).bind fun p => (toPrimitive? b).map fun q =>
      match p, q with
      | .str s, .str t => Json.leUnits s t
      | _, _ => p.toNumber.le q.toNumber
  | _, _ => (numberOf? a).bind fun x => (numberOf? b).map fun y => x.le y

/-- `a < threshold`. -/
def isBelow? (a : Option Json) (threshold : ℚ) : Option Bool := (numberOf? a).map fun x => x.lt (.finite threshold)

/-- `a > threshold`. -/
def isAbove? (a : Option Json) (threshold : ℚ) : Option Bool := (numberOf? a).map fun x => (Numeric.finite threshold).lt x

/-- A value is a number. -/
def isNumber (v : Option Json) : Prop := ∃ x, v = some (.num x)

@[simp] theorem lessOrEqual?_num (x y : JsNumber) :
    lessOrEqual? (some (.num x)) (some (.num y)) = some (decide (x.toRat ≤ y.toRat)) := rfl

@[simp] theorem isBelow?_num (x : JsNumber) (threshold : ℚ) :
    isBelow? (some (.num x)) threshold = some (decide (x.toRat < threshold)) := rfl

@[simp] theorem isAbove?_num (x : JsNumber) (threshold : ℚ) :
    isAbove? (some (.num x)) threshold = some (decide (threshold < x.toRat)) := rfl

example : stringToNumber (js " 0x1F ") = .finite 31 ∧ stringToNumber (js "-.5e1") = .finite (-5) ∧
    stringToNumber (js "1_000") = .nan ∧ stringToNumber [] = .finite 0 := by decide +kernel

end Js
