import StrataPortNetwork.Js.Number
import StrataPortNetwork.Js.Map
import Mathlib.Data.List.Sort
import Mathlib.Data.List.Lex

/-! # Python values and their canonical JSON

Strings are lists of code points, lone surrogates included, and a dict is the list of its
entries in insertion order. A float is given by its `repr`. `canonicalJson` prints with
sorted keys; `sorted` is the value that such a text spells.
-/
namespace Py
open Js (Bytes encodePoint)

abbrev CodePoint := Fin 0x110000
abbrev Str := List CodePoint

instance : LawfulBEq Str := inferInstance

def point (n : ℕ) : CodePoint := Fin.ofNat 0x110000 n
def str (s : String) : Str := s.toList.map fun c => point c.toNat

theorem point_inj {m n : ℕ} (hm : m < 0x110000) (hn : n < 0x110000) : point m = point n ↔ m = n := by
  rw [point, point, Fin.ext_iff, Fin.val_ofNat, Fin.val_ofNat, Nat.mod_eq_of_lt hm, Nat.mod_eq_of_lt hn]

theorem char_toNat_lt (c : Char) : c.toNat < 0x110000 := by
  rcases c.valid with h | ⟨-, h⟩
  · exact Nat.lt_trans h (by decide)
  · exact h

theorem str_injective : Function.Injective str := by
  intro s t h
  refine String.toList_inj.mp (List.map_injective_iff.mpr ?_ h)
  intro c d hcd
  exact Char.toNat_inj.mp ((point_inj (char_toNat_lt c) (char_toNat_lt d)).mp hcd)

@[simp] theorem str_inj {s t : String} : str s = str t ↔ s = t := str_injective.eq_iff

/-- `text.split(separator)` for a separator of one code point. -/
def split (separator : CodePoint) : Str → List Str
  | [] => [[]]
  | c :: rest =>
    if c = separator then [] :: split separator rest
    else match split separator rest with
      | [] => [[c]]
      | part :: parts => (c :: part) :: parts

/-! ## Exceptions -/

inductive ErrorClass
  | permissionError
  | timeoutError
  | lookupError
  | runtimeError
  | valueError
  | typeError
  | unicodeEncodeError
  | attributeError
  | keyError
  | overflowError
  | programmingError
  | integrityError
  | operationalError
  | transportUnavailable
  | other (name : Str)
  deriving DecidableEq

/-- `type(error).__name__`. -/
def ErrorClass.name : ErrorClass → Str
  | .permissionError => str "PermissionError"
  | .timeoutError => str "TimeoutError"
  | .lookupError => str "LookupError"
  | .runtimeError => str "RuntimeError"
  | .valueError => str "ValueError"
  | .typeError => str "TypeError"
  | .unicodeEncodeError => str "UnicodeEncodeError"
  | .attributeError => str "AttributeError"
  | .keyError => str "KeyError"
  | .overflowError => str "OverflowError"
  | .programmingError => str "ProgrammingError"
  | .integrityError => str "IntegrityError"
  | .operationalError => str "OperationalError"
  | .transportUnavailable => str "TransportUnavailable"
  | .other name => name

structure PyError where
  cls : ErrorClass
  message : Str
  deriving DecidableEq

abbrev Outcome := Except PyError

/-! ## Values -/

/-- `other` is an object that `json.dumps` refuses. -/
inductive Value
  | none
  | bool (b : Bool)
  | int (i : ℤ)
  | float (repr : Str)
  | str (s : Str)
  | list (items : List Value)
  | dict (entries : List (Str × Value))
  | other

abbrev Entries := List (Str × Value)

/-- A dict at the top of a field, its keys distinct. -/
abbrev Dict := Js.JsMap Str Value

namespace Value

def text (s : String) : Value := .str (Py.str s)
def record (entries : List (String × Value)) : Value := .dict (entries.map fun e => (Py.str e.1, e.2))
def ofOption (s : Option Str) : Value := s.elim .none .str
def strings (items : List Str) : Value := .list (items.map .str)
def ofDict (d : Dict) : Value := .dict d.entries

/-- The entries of a dict. -/
def items : Value → Entries
  | .dict entries => entries
  | _ => []

/-- `value.get(key)` of a dict. -/
def get (v : Value) (key : String) : Option Value :=
  match v with
  | .dict entries => entries.lookup (Py.str key)
  | _ => Option.none

end Value

/-- `{**a, **b}` and dict literals: a later entry replaces the value under its key. -/
def dictOf (entries : Entries) : Dict := entries.foldl (fun d e => d.set e.1 e.2) Js.JsMap.empty

/-! ## Canonical JSON -/

def hexDigit (d : ℕ) : CodePoint := point (if d < 10 then 48 + d else 87 + d)

/-- One code point inside a string literal, `ensure_ascii` off. -/
def escape (c : CodePoint) : Str :=
  if c.val = 34 then str "\\\"" else if c.val = 92 then str "\\\\"
  else if c.val = 8 then str "\\b" else if c.val = 12 then str "\\f" else if c.val = 10 then str "\\n"
  else if c.val = 13 then str "\\r" else if c.val = 9 then str "\\t"
  else if c.val < 32 then str "\\u00" ++ [hexDigit (c.val / 16), hexDigit (c.val % 16)]
  else [c]

/-- `str(i)`. -/
def decimal (i : ℤ) : Str :=
  (if i < 0 then str "-" else []) ++ (Js.natText i.natAbs).map fun u => point u.toNat

def quote (s : Str) : Str := str "\"" ++ s.flatMap escape ++ str "\""

/-- `",".join(parts)`. -/
def join : List Str → Str
  | [] => []
  | [s] => s
  | s :: rest => s ++ str "," ++ join rest

/-- Items with keys in the order of their keys. -/
def sortByKey {α : Type} (items : List (Str × α)) : List (Str × α) := items.insertionSort fun e e' => e.1 ≤ e'.1

/-- The error of a value that `json.dumps` refuses. -/
def notSerializable : PyError := ⟨.typeError, str "Object is not JSON serializable"⟩

mutual

/-- `json.dumps(value, sort_keys=True, separators=(",", ":"), ensure_ascii=False)`. -/
def canonicalText : Value → Outcome Str
  | .none => pure (str "null")
  | .bool b => pure (str (if b then "true" else "false"))
  | .int i => pure (decimal i)
  | .float repr => pure repr
  | .str s => pure (quote s)
  | .list items => do
    let texts ← canonicalItems items
    pure (str "[" ++ join texts ++ str "]")
  | .dict entries => do
    let texts ← canonicalEntries entries
    pure (str "\x7b" ++ join ((sortByKey texts).map Prod.snd) ++ str "\x7d")
  | .other => throw notSerializable

def canonicalItems : List Value → Outcome (List Str)
  | [] => pure []
  | v :: rest => do
    let text ← canonicalText v
    let texts ← canonicalItems rest
    pure (text :: texts)

/-- Each key with the text of its entry. -/
def canonicalEntries : Entries → Outcome (List (Str × Str))
  | [] => pure []
  | (key, v) :: rest => do
    let text ← canonicalText v
    let texts ← canonicalEntries rest
    pure ((key, quote key ++ str ":" ++ text) :: texts)

end

/-- `text.encode()`: lone surrogates have no UTF-8 bytes. -/
def encode (text : Str) : Outcome Bytes :=
  if text.any (fun c => 0xD800 ≤ c.val && c.val ≤ 0xDFFF) then
    throw ⟨.unicodeEncodeError, str "surrogates not allowed"⟩
  else pure (text.flatMap fun c => encodePoint c.val)

def canonicalJson (v : Value) : Outcome Bytes := do
  let text ← canonicalText v
  encode text

/-- `hashlib.sha256(canonical_json(value)).hexdigest()`, for a hash function on bytes. -/
def digest (sha256 : Bytes → Str) (v : Value) : Outcome Str := do
  let bytes ← canonicalJson v
  pure (sha256 bytes)

end Py
