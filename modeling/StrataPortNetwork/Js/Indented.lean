import StrataPortNetwork.Js.JsonText
import StrataPortNetwork.Js.OwnOrder

/-! # Indented JSON text

`indented` is `JSON.stringify(value, null, 2)`: one line for each item and field, two spaces
for each level. White space carries nothing, so the reader gives back every printed value.
-/
namespace Js

/-- A line break and the spaces of a level. -/
def newline (depth : ℕ) : JsString := 10 :: List.replicate (2 * depth) 32

mutual

/-- `JSON.stringify(value, null, 2)` at a level. -/
def indentedAt (depth : ℕ) : Json → JsString
  | .arr (v :: rest) => 91 :: (newline (depth + 1) ++ (indentedAt (depth + 1) v ++ indentedItems depth rest))
  | .obj (f :: rest) =>
    123 :: (newline (depth + 1) ++ (quote f.1 ++ 58 :: 32 :: (indentedAt (depth + 1) f.2 ++ indentedFields depth rest)))
  | v => stringify v

/-- The items after the first one and the closing bracket. -/
def indentedItems (depth : ℕ) : List Json → JsString
  | [] => newline depth ++ [93]
  | v :: rest => 44 :: (newline (depth + 1) ++ (indentedAt (depth + 1) v ++ indentedItems depth rest))

def indentedFields (depth : ℕ) : Fields → JsString
  | [] => newline depth ++ [125]
  | f :: rest =>
    44 :: (newline (depth + 1) ++ (quote f.1 ++ 58 :: 32 :: (indentedAt (depth + 1) f.2 ++ indentedFields depth rest)))

end

def indented (v : Json) : JsString := indentedAt 0 v

/-! ## White space -/

theorem isSpace_newline (depth : ℕ) : ∀ c ∈ newline depth, isSpace c = true := by
  intro c hc
  rcases List.mem_cons.mp hc with rfl | hc
  · rfl
  · rw [(List.mem_replicate.mp hc).2]
    rfl

theorem skipSpace_append {space : JsString} (h : ∀ c ∈ space, isSpace c = true) (s : JsString) :
    skipSpace (space ++ s) = skipSpace s := by
  rw [skipSpace, List.dropWhile_append_of_pos h, skipSpace]

theorem expect_append {space : JsString} (h : ∀ c ∈ space, isSpace c = true) (c : UInt16) (s : JsString) :
    expect c (space ++ s) = expect c s := by
  rw [expect, skipSpace_append h, expect]

theorem readValue_append {space : JsString} (h : ∀ c ∈ space, isSpace c = true) (fuel : ℕ) (s : JsString) :
    readValue fuel (space ++ s) = readValue fuel s := by
  cases fuel with
  | zero => rw [readValue, readValue]
  | succ fuel => rw [readValue, readValue, skipSpace_append h]

theorem readField_append {space : JsString} (h : ∀ c ∈ space, isSpace c = true) (fuel : ℕ) (s : JsString) :
    readField fuel (space ++ s) = readField fuel s := by
  cases fuel with
  | zero => rw [readField, readField]
  | succ fuel => rw [readField, readField, expect_append h]

theorem readValue_space (fuel : ℕ) (s : JsString) : readValue fuel (32 :: s) = readValue fuel s :=
  readValue_append (List.forall_mem_singleton.mpr rfl) fuel s

/-- A printed value does not start with the bracket that closes an empty array or object. -/
theorem expect_indented {c : UInt16} (hc : c = 93 ∨ c = 125) (depth : ℕ) (v : Json) (rest : JsString) :
    expect c (indentedAt depth v ++ rest) = none := by
  have hopen : ∀ {d : UInt16} (t : JsString), isSpace d = false → d ≠ 93 → d ≠ 125 → expect c (d :: t ++ rest) = none := by
    intro d t hs h93 h125
    rcases hc with rfl | rfl
    · exact expect_ne hs h93 _
    · exact expect_ne hs h125 _
  cases v with
  | arr items => cases items with
    | nil => exact expect_stringify hc _ _
    | cons v items =>
      rw [indentedAt]
      exact hopen _ (by decide) (by decide) (by decide)
  | obj fields => cases fields with
    | nil => exact expect_stringify hc _ _
    | cons f fields =>
      rw [indentedAt]
      exact hopen _ (by decide) (by decide) (by decide)
  | null | bool _ | num _ | str _ =>
    simp only [indentedAt]
    exact expect_stringify hc _ _

theorem numberEnd_indentedItems (depth : ℕ) (items : List Json) (rest : JsString) :
    NumberEnd (indentedItems depth items ++ rest) := by
  cases items <;> simp [indentedItems, newline, NumberEnd] <;> decide

theorem numberEnd_indentedFields (depth : ℕ) (fields : Fields) (rest : JsString) :
    NumberEnd (indentedFields depth fields ++ rest) := by
  cases fields <;> simp [indentedFields, newline, NumberEnd] <;> decide

/-! ## Every printed value is read back -/

mutual

theorem readValue_indented : ∀ (v : Json) (depth fuel : ℕ) (rest : JsString), (indentedAt depth v).length ≤ fuel →
    NumberEnd rest → readValue fuel (indentedAt depth v ++ rest) = some (v, rest)
  | .null, depth, fuel, rest, hf, hr | .bool _, depth, fuel, rest, hf, hr | .num _, depth, fuel, rest, hf, hr
  | .str _, depth, fuel, rest, hf, hr | .arr [], depth, fuel, rest, hf, hr | .obj [], depth, fuel, rest, hf, hr => by
    simp only [indentedAt] at hf ⊢
    exact readValue_stringify _ fuel rest hf hr
  | .arr (v :: items), depth, 0, rest, hf, _ => by simp [indentedAt] at hf
  | .arr (v :: items), depth, fuel + 1, rest, hf, hr => by
    simp only [indentedAt, List.length_cons, List.length_append] at hf
    have hv := readValue_indented v (depth + 1) fuel (indentedItems depth items ++ rest) (by omega)
      (numberEnd_indentedItems _ _ _)
    have hi := readItems_indented items depth fuel rest (by omega)
    have h34 : ¬ (91 : UInt16) = 34 := by decide
    rw [indentedAt, readValue, List.cons_append, List.append_assoc, List.append_assoc, skipSpace_cons (by decide)]
    simp only [h34, if_false, if_true, expect_append (isSpace_newline _), readValue_append (isSpace_newline _),
      expect_indented (Or.inl rfl), hv, hi, Option.bind_some, Option.map_some]
  | .obj (f :: fields), depth, 0, rest, hf, _ => by simp [indentedAt] at hf
  | .obj (f :: fields), depth, fuel + 1, rest, hf, hr => by
    simp only [indentedAt, List.length_cons, List.length_append] at hf
    have hv := readField_indented f depth fuel (indentedFields depth fields ++ rest) (by omega)
      (numberEnd_indentedFields _ _ _)
    have hi := readFields_indented fields depth fuel rest (by omega)
    have h34 : ¬ (123 : UInt16) = 34 := by decide
    have h91 : ¬ (123 : UInt16) = 91 := by decide
    have hq : ∀ t, expect 125 (quote f.1 ++ t) = none := fun t => expect_ne (by decide) (by decide) _
    rw [indentedAt, readValue, List.cons_append, List.append_assoc, List.append_assoc, List.cons_append, List.cons_append,
      List.append_assoc, skipSpace_cons (by decide)]
    simp only [h34, h91, if_false, if_true, expect_append (isSpace_newline _), readField_append (isSpace_newline _), hq, hv, hi,
      Option.bind_some, Option.map_some]

theorem readItems_indented : ∀ (items : List Json) (depth fuel : ℕ) (rest : JsString),
    (indentedItems depth items).length ≤ fuel → readItems fuel (indentedItems depth items ++ rest) = some (items, rest)
  | items, depth, 0, rest, hf => by cases items <;> simp [indentedItems, newline] at hf
  | [], depth, fuel + 1, rest, _ => by
    rw [indentedItems, readItems, List.append_assoc, expect_append (isSpace_newline _), List.cons_append, List.nil_append,
      expect_cons (by decide)]
  | v :: items, depth, fuel + 1, rest, hf => by
    simp only [indentedItems, List.length_cons, List.length_append] at hf
    have hv := readValue_indented v (depth + 1) fuel (indentedItems depth items ++ rest) (by omega)
      (numberEnd_indentedItems _ _ _)
    have hi := readItems_indented items depth fuel rest (by omega)
    rw [indentedItems, readItems, List.cons_append, List.append_assoc, List.append_assoc, expect_ne (by decide) (by decide),
      expect_cons (by decide)]
    simp only [readValue_append (isSpace_newline _), hv, hi, Option.bind_some, Option.map_some]

theorem readField_indented : ∀ (f : JsString × Json) (depth fuel : ℕ) (rest : JsString),
    (quote f.1).length + (indentedAt (depth + 1) f.2).length ≤ fuel → NumberEnd rest →
    readField fuel (quote f.1 ++ 58 :: 32 :: (indentedAt (depth + 1) f.2 ++ rest)) = some (f, rest)
  | f, depth, 0, rest, hf, _ => by simp [quote] at hf
  | (k, v), depth, fuel + 1, rest, hf, hr => by
    simp only [quote, List.length_cons, List.length_append] at hf
    have hv := readValue_indented v (depth + 1) fuel rest (by omega) hr
    rw [readField, quote, List.cons_append, List.append_assoc, expect_cons (by decide), Option.bind_some,
      readString_quote, Option.bind_some, expect_cons (by decide), Option.bind_some, readValue_space, hv, Option.map_some]

theorem readFields_indented : ∀ (fields : Fields) (depth fuel : ℕ) (rest : JsString),
    (indentedFields depth fields).length ≤ fuel → readFields fuel (indentedFields depth fields ++ rest) = some (fields, rest)
  | fields, depth, 0, rest, hf => by cases fields <;> simp [indentedFields, newline] at hf
  | [], depth, fuel + 1, rest, _ => by
    rw [indentedFields, readFields, List.append_assoc, expect_append (isSpace_newline _), List.cons_append, List.nil_append,
      expect_cons (by decide)]
  | f :: fields, depth, fuel + 1, rest, hf => by
    simp only [indentedFields, List.length_cons, List.length_append] at hf
    have hv := readField_indented f depth fuel (indentedFields depth fields ++ rest) (by omega)
      (numberEnd_indentedFields _ _ _)
    have hi := readFields_indented fields depth fuel rest (by omega)
    rw [indentedFields, readFields, List.cons_append, List.append_assoc, List.append_assoc, List.cons_append, List.cons_append,
      List.append_assoc, expect_ne (by decide) (by decide), expect_cons (by decide)]
    simp only [readField_append (isSpace_newline _), hv, hi, Option.bind_some, Option.map_some]

end

/-- Reading an indented value, with white space after it, rebuilds it. -/
theorem parse_indented (v : Json) {space : JsString} (h : ∀ c ∈ space, isSpace c = true) :
    parse (indented v ++ space) = some v.rebuild := by
  have hend : NumberEnd space := by
    intro c hc
    have hspace := h c (List.mem_of_mem_head? hc)
    simp only [isSpace, Bool.or_eq_true, decide_eq_true_eq] at hspace
    refine ⟨?_, ?_, ?_, ?_⟩
    · simp only [isDigit, Bool.and_eq_false_iff, decide_eq_false_iff_not]
      omega
    all_goals
      rintro rfl
      revert hspace
      decide
  have hlength : (indentedAt 0 v).length ≤ (indentedAt 0 v ++ space).length + 1 := by
    rw [List.length_append]
    omega
  have hskip : skipSpace space = [] := by
    have := skipSpace_append h []
    rwa [List.append_nil] at this
  rw [parse, readText, indented, readValue_indented v 0 _ space hlength hend, Option.bind_some, hskip, if_pos rfl,
    Option.map_some]

/-! ## Indented text is well formed -/

theorem wellFormed_newline (depth : ℕ) : WellFormed (newline depth) := by
  apply wellFormed_of_ascii
  intro c hc
  rcases List.mem_cons.mp hc with rfl | hc
  · decide
  · rw [(List.mem_replicate.mp hc).2]
    decide

mutual

theorem wellFormed_indented : ∀ (v : Json) (depth : ℕ), WellFormed (indentedAt depth v)
  | .null, depth | .bool _, depth | .num _, depth | .str _, depth | .arr [], depth | .obj [], depth => by
    simp only [indentedAt]
    exact wellFormed_stringify _
  | .arr (v :: items), depth =>
    ((wellFormed_newline _).append ((wellFormed_indented v _).append (wellFormed_indentedItems items _))).cons (by decide)
  | .obj ((k, v) :: fields), depth => ((wellFormed_newline _).append ((wellFormed_quote k).append
      ((((wellFormed_indented v _).append (wellFormed_indentedFields fields _)).cons (by decide)).cons (by decide)))).cons
      (by decide)

theorem wellFormed_indentedItems : ∀ (items : List Json) (depth : ℕ), WellFormed (indentedItems depth items)
  | [], depth => (wellFormed_newline _).append (wellFormed_of_ascii (by decide))
  | v :: items, depth =>
    ((wellFormed_newline _).append ((wellFormed_indented v _).append (wellFormed_indentedItems items _))).cons (by decide)

theorem wellFormed_indentedFields : ∀ (fields : Fields) (depth : ℕ), WellFormed (indentedFields depth fields)
  | [], depth => (wellFormed_newline _).append (wellFormed_of_ascii (by decide))
  | (k, v) :: fields, depth => ((wellFormed_newline _).append ((wellFormed_quote k).append
      ((((wellFormed_indented v _).append (wellFormed_indentedFields fields _)).cons (by decide)).cons (by decide)))).cons
      (by decide)

end

example : indented (.record [("a", .arr [.int 1, .null]), ("b", .arr [])]) =
    js "\x7b\n  \"a\": [\n    1,\n    null\n  ],\n  \"b\": []\n\x7d" := by decide

end Js
