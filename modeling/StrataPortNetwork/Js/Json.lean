import StrataPortNetwork.Js.Number

/-! # JSON values as JavaScript handles them

An object is the list of its own fields in property order. `undefined` is the `none`
of `Option Json`; `==` is strict equality, under which two arrays or objects are never
the same, since every modelled value is a fresh clone.
-/
namespace Js

inductive Json
  | null
  | bool (b : Bool)
  | num (x : JsNumber)
  | str (s : JsString)
  | arr (items : List Json)
  | obj (fields : List (JsString × Json))

abbrev Fields := List (JsString × Json)

namespace Json

/-- Induction over a value with the hypotheses for the members of arrays and objects. -/
@[elab_as_elim]
theorem inductionOn {motive : Json → Prop} (v : Json) (null : motive .null)
    (bool : ∀ b, motive (.bool b)) (num : ∀ x, motive (.num x)) (str : ∀ s, motive (.str s))
    (arr : ∀ items, (∀ v ∈ items, motive v) → motive (.arr items))
    (obj : ∀ fields : Fields, (∀ f ∈ fields, motive f.2) → motive (.obj fields)) : motive v := by
  refine Json.rec (motive_1 := motive) (motive_2 := fun items => ∀ v ∈ items, motive v)
    (motive_3 := fun fields => ∀ f ∈ fields, motive f.2) (motive_4 := fun f => motive f.2)
    null bool num str arr obj ?_ ?_ ?_ ?_ ?_ v
  · simp
  · intro head tail hhead htail v hv
    rcases List.mem_cons.mp hv with rfl | hv
    · exact hhead
    · exact htail v hv
  · simp
  · intro head tail hhead htail f hf
    rcases List.mem_cons.mp hf with rfl | hf
    · exact hhead
    · exact htail f hf
  · intro _ v hv
    exact hv

def text (s : String) : Json := .str (js s)
def int (i : ℤ) : Json := .num (.int i)
def record (fields : List (String × Json)) : Json := .obj (fields.map fun f => (js f.1, f.2))

/-- Strict equality (`===`). -/
def strictEq : Json → Json → Bool
  | .null, .null => true
  | .bool a, .bool b => a == b
  | .num x, .num y => x = y
  | .str s, .str t => s == t
  | _, _ => false

instance : BEq Json := ⟨strictEq⟩

theorem beq_symm (v w : Json) (h : (v == w) = true) : (w == v) = true := by
  change strictEq v w = true at h
  change strictEq w v = true
  cases v <;> cases w <;> simp_all [strictEq]

theorem beq_trans (u v w : Json) (h : (u == v) = true) (h' : (v == w) = true) :
    (u == w) = true := by
  change strictEq u v = true at h
  change strictEq v w = true at h'
  change strictEq u w = true
  cases u <;> cases v <;> cases w <;> simp_all [strictEq]

instance : PartialEquivBEq Json := ⟨fun {_ _} => beq_symm _ _, fun {_ _ _} => beq_trans _ _ _⟩

/-- Strictly equal values are the same value. -/
theorem eq_of_beq {v w : Json} (h : (v == w) = true) : v = w := by
  change strictEq v w = true at h
  cases v <;> cases w <;> simp_all [strictEq]

@[simp] theorem str_beq_str (s t : JsString) : ((Json.str s == Json.str t) = true) ↔ s = t := by
  change strictEq (.str s) (.str t) = true ↔ s = t
  simp [strictEq]

/-- Comparison with a string is plain equality. -/
theorem beq_str_iff {v : Json} {s : JsString} : ((v == Json.str s) = true) ↔ v = .str s := by
  constructor
  · exact eq_of_beq
  · rintro rfl
    simp

@[simp] theorem some_beq_str_iff {v : Option Json} {s : JsString} :
    ((v == some (.str s)) = true) ↔ v = some (.str s) := by
  cases v with
  | none => exact ⟨fun h => absurd h Bool.false_ne_true, fun h => absurd h (by simp)⟩
  | some v => exact beq_str_iff.trans ⟨congrArg some, Option.some.inj⟩

@[simp] theorem some_beq_int_iff {v : Option Json} {i : ℤ} : ((v == some (Json.int i)) = true) ↔ v = some (.int i) := by
  constructor
  · cases v with
    | none => intro h; exact absurd h Bool.false_ne_true
    | some v => exact fun h => congrArg some (eq_of_beq h)
  · rintro rfl
    change strictEq (.int i) (.int i) = true
    simp [int, strictEq]

theorem opt_eq_of_beq {v w : Option Json} (h : (v == w) = true) : v = w := by
  cases v <;> cases w
  · rfl
  · exact absurd h (by simp)
  · exact absurd h (by simp)
  · exact congrArg some (eq_of_beq (by simpa using h))

/-! ## Field access -/

def fields : Json → Fields
  | .obj fields => fields
  | _ => []

/-- A property of an object; `none` is `undefined`. -/
def get (v : Json) (name : String) : Option Json := v.fields.lookup (js name)

def keys (v : Json) : List JsString := v.fields.map Prod.fst

def isRecord : Json → Bool
  | .obj _ => true
  | _ => false

def isNull : Json → Bool
  | .null => true
  | _ => false

def truthy : Json → Bool
  | .null => false
  | .bool b => b
  | .num x => x ≠ .int 0
  | .str s => !s.isEmpty
  | _ => true

def isBool : Json → Bool
  | .bool _ => true
  | _ => false

/-- No two members are the same under `===`, as `new Set(items).size` counts them. -/
def allDistinct (items : List Json) : Bool := items.Pairwise fun v w => (v == w) = false

def str? : Json → Option JsString
  | .str s => some s
  | _ => none

def items? : Json → Option (List Json)
  | .arr items => some items
  | _ => none

/-- `Number.isSafeInteger`, with the integer it finds. -/
def safeInteger? : Json → Option ℤ
  | .num x => x.safeInteger?
  | _ => none

@[simp] theorem bind_str?_eq_some {v : Option Json} {s : JsString} :
    v.bind str? = some s ↔ v = some (.str s) := by
  rcases v with _ | (_ | _ | _ | _ | _ | _) <;> simp [str?]

@[simp] theorem get_record (fields : List (String × Json)) (name : String) :
    (record fields).get name = fields.lookup name := by
  induction fields with
  | nil => rfl
  | cons f rest ih =>
    change List.lookup (js name) ((js f.1, f.2) :: rest.map fun f => (js f.1, f.2)) = _
    rw [List.lookup_cons, List.lookup_cons]
    by_cases h : name = f.1
    · simp [h]
    · have hjs : (js name == js f.1) = false := by simpa using h
      have hname : (name == f.1) = false := by simpa using h
      rw [hjs, hname]
      exact ih

/-! ## Own property order -/

/-- The array index a key spells, if it spells one canonically. -/
def arrayIndex? (key : JsString) : Option ℕ :=
  let n := (readDigits key 0 0).1
  if key = natText n ∧ n < 4294967295 then some n else none

/-- Place a new key: array indices ascend in front, other keys come last. -/
def insertNew (key : JsString) (v : Json) : Fields → Fields
  | [] => [(key, v)]
  | f :: rest =>
    match arrayIndex? key, arrayIndex? f.1 with
    | some n, some m => if n < m then (key, v) :: f :: rest else f :: insertNew key v rest
    | some _, none => (key, v) :: f :: rest
    | none, _ => f :: insertNew key v rest

/-- `object[key] = value`: an existing key keeps its place. -/
def setField (key : JsString) (v : Json) (fields : Fields) : Fields :=
  if key ∈ fields.map Prod.fst then fields.map (fun f => if f.1 = key then (key, v) else f)
  else insertNew key v fields

/-- `Object.fromEntries`. -/
def fromEntries (entries : Fields) : Fields :=
  entries.foldl (fun fields f => setField f.1 f.2 fields) []

/-- `{...value, name: v}`. -/
def set (value : Json) (name : String) (v : Json) : Json := .obj (setField (js name) v value.fields)

/-! ## Coercion to a string -/

mutual

/-- `String(value)`; `none` is the TypeError of an object whose own `toString` field
shadows the inherited method. -/
def toStr? : Json → Option JsString
  | .null => some (js "null")
  | .bool true => some (js "true")
  | .bool false => some (js "false")
  | .num x => some x.toText
  | .str s => some s
  | .arr items => joinItems? items
  | .obj fields => if js "toString" ∈ fields.map Prod.fst then none else some (js "[object Object]")

/-- `items.join(",")`, null items printing as nothing. -/
def joinItems? : List Json → Option JsString
  | [] => some []
  | v :: rest =>
    (if v.isNull then some [] else toStr? v).bind fun s =>
      match rest with
      | [] => some s
      | _ => (joinItems? rest).map fun t => s ++ 44 :: t

end

end Json

end Js
