import StrataPortNetwork.Js.Json

/-! # JSON text

`stringify` prints a value field by field in property order; `parse` reads the whole
JSON grammar and rebuilds objects in property order. The reader gives back every
printed value, so printing is injective on all values.
-/
namespace Js

/-! ## Strings -/

def hexDigit (d : ℕ) : UInt16 := if d < 10 then UInt16.ofNat (48 + d) else UInt16.ofNat (87 + d)

def hexValue? (c : UInt16) : Option ℕ :=
  if 48 ≤ c.toNat ∧ c.toNat ≤ 57 then some (c.toNat - 48)
  else if 97 ≤ c.toNat ∧ c.toNat ≤ 102 then some (c.toNat - 87)
  else if 65 ≤ c.toNat ∧ c.toNat ≤ 70 then some (c.toNat - 55)
  else none

/-- `\uXXXX`. -/
def unicodeEscape (u : UInt16) : JsString :=
  [92, 117, hexDigit (u.toNat / 4096), hexDigit (u.toNat / 256 % 16), hexDigit (u.toNat / 16 % 16),
    hexDigit (u.toNat % 16)]

/-- A unit that is no half of a pair, inside a printed string. -/
def escapeUnit (u : UInt16) : JsString :=
  if u.toNat = 34 then [92, 34] else if u.toNat = 92 then [92, 92]
  else if u.toNat < 32 then
    if u = 8 then [92, 98] else if u = 9 then [92, 116] else if u = 10 then [92, 110]
    else if u = 12 then [92, 102] else if u = 13 then [92, 114] else unicodeEscape u
  else if isHighSurrogate u ∨ isLowSurrogate u then unicodeEscape u
  else [u]

def escapeUnits : JsString → JsString
  | [] => []
  | [u] => escapeUnit u
  | u :: v :: rest =>
    if isHighSurrogate u && isLowSurrogate v then u :: v :: escapeUnits rest
    else escapeUnit u ++ escapeUnits (v :: rest)

def quote (s : JsString) : JsString := 34 :: (escapeUnits s ++ [34])

/-- The unit a one-letter escape stands for. -/
def simpleEscape? (c : UInt16) : Option UInt16 :=
  if c = 34 ∨ c = 92 ∨ c = 47 then some c
  else if c = 98 then some 8 else if c = 116 then some 9 else if c = 110 then some 10
  else if c = 102 then some 12 else if c = 114 then some 13 else none

def hex4? (a b c d : UInt16) : Option UInt16 :=
  (hexValue? a).bind fun a => (hexValue? b).bind fun b => (hexValue? c).bind fun c =>
    (hexValue? d).map fun d => UInt16.ofNat (((a * 16 + b) * 16 + c) * 16 + d)

def consUnit (u : UInt16) (p : JsString × JsString) : JsString × JsString := (u :: p.1, p.2)

/-- A string literal after its opening quote, and the text after its closing one. -/
def readString : JsString → Option (JsString × JsString)
  | [] => none
  | u :: rest =>
    if u = 34 then some ([], rest)
    else if u = 92 then
      match rest with
      | [] => none
      | c :: rest =>
        if c = 117 then
          match rest with
          | a :: b :: c :: d :: rest =>
            (hex4? a b c d).bind fun u => (readString rest).map (consUnit u)
          | _ => none
        else (simpleEscape? c).bind fun u => (readString rest).map (consUnit u)
    else if u.toNat < 32 then none
    else (readString rest).map (consUnit u)

theorem hexValue?_hexDigit {d : ℕ} (h : d < 16) : hexValue? (hexDigit d) = some d := by
  unfold hexDigit
  split
  · rename_i hd
    have hn : (UInt16.ofNat (48 + d)).toNat = 48 + d :=
      UInt16.toNat_ofNat_of_lt' (by simp only [UInt16.size]; omega)
    rw [hexValue?, hn, if_pos (by omega), Nat.add_sub_cancel_left]
  · rename_i hd
    have hn : (UInt16.ofNat (87 + d)).toNat = 87 + d :=
      UInt16.toNat_ofNat_of_lt' (by simp only [UInt16.size]; omega)
    rw [hexValue?, hn, if_neg (by omega), if_pos (by omega), Nat.add_sub_cancel_left]

theorem readString_unicodeEscape (u : UInt16) (rest : JsString) :
    readString (unicodeEscape u ++ rest) = (readString rest).map (consUnit u) := by
  have hu := u.toNat_lt
  have hval : ((u.toNat / 4096 * 16 + u.toNat / 256 % 16) * 16 + u.toNat / 16 % 16) * 16 + u.toNat % 16 =
      u.toNat := by omega
  have hhex : hex4? (hexDigit (u.toNat / 4096)) (hexDigit (u.toNat / 256 % 16))
      (hexDigit (u.toNat / 16 % 16)) (hexDigit (u.toNat % 16)) = some u := by
    rw [hex4?, hexValue?_hexDigit (by omega), hexValue?_hexDigit (by omega),
      hexValue?_hexDigit (by omega), hexValue?_hexDigit (by omega)]
    simp only [Option.bind_some, Option.map_some, hval, UInt16.ofNat_toNat]
  have h34 : ¬ (92 : UInt16) = 34 := by decide
  simp only [unicodeEscape, List.cons_append, List.nil_append]
  rw [readString.eq_def]
  simp only [h34, if_false, if_true, hhex, Option.bind_some]

theorem readString_plain {u : UInt16} (h34 : u ≠ 34) (h92 : u ≠ 92) (h32 : ¬ u.toNat < 32)
    (rest : JsString) : readString (u :: rest) = (readString rest).map (consUnit u) := by
  rw [readString.eq_def]
  simp only [h34, h92, h32, if_false]

theorem readString_simpleEscape {c u : UInt16} (hc : c ≠ 117) (h : simpleEscape? c = some u)
    (rest : JsString) : readString (92 :: c :: rest) = (readString rest).map (consUnit u) := by
  have h34 : ¬ (92 : UInt16) = 34 := by decide
  rw [readString.eq_def]
  simp only [h34, hc, if_false, if_true, h, Option.bind_some]

theorem readString_escapeUnit (u : UInt16) (rest : JsString) :
    readString (escapeUnit u ++ rest) = (readString rest).map (consUnit u) := by
  by_cases h34 : u = 34
  · subst h34
    exact readString_simpleEscape (by decide) (by decide) rest
  by_cases h92 : u = 92
  · subst h92
    exact readString_simpleEscape (by decide) (by decide) rest
  by_cases h8 : u = 8
  · subst h8
    exact readString_simpleEscape (by decide) (by decide) rest
  by_cases h9 : u = 9
  · subst h9
    exact readString_simpleEscape (by decide) (by decide) rest
  by_cases h10 : u = 10
  · subst h10
    exact readString_simpleEscape (by decide) (by decide) rest
  by_cases h12 : u = 12
  · subst h12
    exact readString_simpleEscape (by decide) (by decide) rest
  by_cases h13 : u = 13
  · subst h13
    exact readString_simpleEscape (by decide) (by decide) rest
  have hn34 : ¬ u.toNat = 34 := fun h => h34 (UInt16.toNat_inj.mp h)
  have hn92 : ¬ u.toNat = 92 := fun h => h92 (UInt16.toNat_inj.mp h)
  simp only [escapeUnit, hn34, hn92, h8, h9, h10, h12, h13, if_false]
  split
  · exact readString_unicodeEscape u rest
  · rename_i h32
    split
    · exact readString_unicodeEscape u rest
    · exact readString_plain h34 h92 h32 rest

theorem readString_escapeUnits (s rest : JsString) :
    readString (escapeUnits s ++ 34 :: rest) = some (s, rest) := by
  fun_induction escapeUnits s with
  | case1 =>
    rw [List.nil_append, readString.eq_def]
    simp only [if_true]
  | case2 u =>
    rw [readString_escapeUnit, readString.eq_def]
    simp only [if_true, Option.map_some, consUnit]
  | case3 u v t h ih =>
    have hs : 0xD800 ≤ u.toNat ∧ 0xD800 ≤ v.toNat := by
      simp only [isHighSurrogate, isLowSurrogate, Bool.and_eq_true, decide_eq_true_eq] at h
      omega
    have hplain : ∀ w : UInt16, 0xD800 ≤ w.toNat → w ≠ 34 ∧ w ≠ 92 ∧ ¬ w.toNat < 32 := by
      intro w hw
      refine ⟨?_, ?_, by omega⟩
      · rintro rfl
        exact absurd hw (by decide)
      · rintro rfl
        exact absurd hw (by decide)
    obtain ⟨hu34, hu92, hu32⟩ := hplain u hs.1
    obtain ⟨hv34, hv92, hv32⟩ := hplain v hs.2
    rw [List.cons_append, List.cons_append, readString_plain hu34 hu92 hu32,
      readString_plain hv34 hv92 hv32, ih]
    rfl
  | case4 u v t h ih =>
    rw [List.append_assoc, readString_escapeUnit, ih]
    rfl

/-! ## Values -/

mutual

/-- `JSON.stringify(value)`. -/
def stringify : Json → JsString
  | .null => js "null"
  | .bool true => js "true"
  | .bool false => js "false"
  | .num x => x.toText
  | .str s => quote s
  | .arr [] => [91, 93]
  | .arr (v :: rest) => 91 :: (stringify v ++ stringifyItems rest)
  | .obj [] => [123, 125]
  | .obj (f :: rest) => 123 :: (quote f.1 ++ 58 :: (stringify f.2 ++ stringifyFields rest))

/-- The items after the first one and the closing bracket. -/
def stringifyItems : List Json → JsString
  | [] => [93]
  | v :: rest => 44 :: (stringify v ++ stringifyItems rest)

def stringifyFields : Fields → JsString
  | [] => [125]
  | f :: rest => 44 :: (quote f.1 ++ 58 :: (stringify f.2 ++ stringifyFields rest))

end

def isSpace (c : UInt16) : Bool := c.toNat = 32 || c.toNat = 9 || c.toNat = 10 || c.toNat = 13

def skipSpace (s : JsString) : JsString := s.dropWhile isSpace

/-- The text after `c`, white space before it skipped. -/
def expect (c : UInt16) (s : JsString) : Option JsString :=
  match skipSpace s with
  | [] => none
  | d :: rest => if d = c then some rest else none

def readLiteral (name : String) (v : Json) (s : JsString) : Option (Json × JsString) :=
  if (js name).isPrefixOf s then some (v, s.drop (js name).length) else none

mutual

/-- One value and the text after it, with `fuel` bounding the nesting and the items. -/
def readValue : ℕ → JsString → Option (Json × JsString)
  | 0, _ => none
  | fuel + 1, s =>
    match skipSpace s with
    | [] => none
    | c :: rest =>
      if c = 34 then (readString rest).map fun p => (.str p.1, p.2)
      else if c = 91 then
        match expect 93 rest with
        | some rest => some (.arr [], rest)
        | none => (readValue fuel rest).bind fun p =>
            (readItems fuel p.2).map fun q => (.arr (p.1 :: q.1), q.2)
      else if c = 123 then
        match expect 125 rest with
        | some rest => some (.obj [], rest)
        | none => (readField fuel rest).bind fun p =>
            (readFields fuel p.2).map fun q => (.obj (p.1 :: q.1), q.2)
      else if c = 110 then readLiteral "null" .null (c :: rest)
      else if c = 116 then readLiteral "true" (.bool true) (c :: rest)
      else if c = 102 then readLiteral "false" (.bool false) (c :: rest)
      else (readNumber (c :: rest)).map fun p => (.num p.1, p.2)

/-- The items after the first one, up to the closing bracket. -/
def readItems : ℕ → JsString → Option (List Json × JsString)
  | 0, _ => none
  | fuel + 1, s =>
    match expect 93 s with
    | some rest => some ([], rest)
    | none => (expect 44 s).bind fun rest =>
        (readValue fuel rest).bind fun p =>
          (readItems fuel p.2).map fun q => (p.1 :: q.1, q.2)

def readField : ℕ → JsString → Option ((JsString × Json) × JsString)
  | 0, _ => none
  | fuel + 1, s =>
    (expect 34 s).bind fun rest => (readString rest).bind fun k =>
      (expect 58 k.2).bind fun rest =>
        (readValue fuel rest).map fun p => ((k.1, p.1), p.2)

def readFields : ℕ → JsString → Option (Fields × JsString)
  | 0, _ => none
  | fuel + 1, s =>
    match expect 125 s with
    | some rest => some ([], rest)
    | none => (expect 44 s).bind fun rest =>
        (readField fuel rest).bind fun p =>
          (readFields fuel p.2).map fun q => (p.1 :: q.1, q.2)

end

mutual

/-- The value with every object rebuilt in property order, the last of two equal keys
winning. -/
def Json.rebuild : Json → Json
  | .arr items => .arr (Json.rebuildItems items)
  | .obj fields => .obj (Json.fromEntries (Json.rebuildFields fields))
  | v => v

def Json.rebuildItems : List Json → List Json
  | [] => []
  | v :: rest => v.rebuild :: Json.rebuildItems rest

def Json.rebuildFields : Fields → Fields
  | [] => []
  | f :: rest => (f.1, f.2.rebuild) :: Json.rebuildFields rest

end

/-- The value a text spells, its objects still as written. -/
def readText (s : JsString) : Option Json :=
  (readValue (s.length + 1) s).bind fun p => if skipSpace p.2 = [] then some p.1 else none

/-- `JSON.parse(text)`; `none` is the SyntaxError. -/
def parse (s : JsString) : Option Json := (readText s).map Json.rebuild

/-! ## Every printed value is read back -/

theorem ne_of_toNat_ne {c d : UInt16} (h : c.toNat ≠ d.toNat) : c ≠ d := fun he => h (by rw [he])

/-- A printed number starts with a digit or the minus sign. -/
theorem toText_head (x : JsNumber) : ∃ c t, x.toText = c :: t ∧ 45 ≤ c.toNat ∧ c.toNat ≤ 57 := by
  have hsigned : ∀ {p : Prop} [Decidable p] {body : JsString}, (∃ d t, body = digit d :: t ∧ d < 10) →
      ∃ c t, (if p then [45] else []) ++ body = c :: t ∧ 45 ≤ c.toNat ∧ c.toNat ≤ 57 := by
    rintro p _ body ⟨d, t, rfl, hd⟩
    by_cases hp : p
    · exact ⟨45, digit d :: t, by simp [hp], by decide, by decide⟩
    · refine ⟨digit d, t, by simp [hp], ?_, ?_⟩
      · rw [digit_toNat hd]
        omega
      · rw [digit_toNat hd]
        omega
  cases x with
  | int i => exact hsigned (unsignedText_head _)
  | frac m e _ _ => exact hsigned (fracText_head _ _)

/-- The first unit of a printed value is not white space and closes nothing. -/
theorem stringify_head (v : Json) :
    ∃ c t, stringify v = c :: t ∧ isSpace c = false ∧ c ≠ 93 ∧ c ≠ 125 := by
  have hlit : ∀ {c : UInt16} {t : JsString}, 34 ≤ c.toNat → c.toNat ≠ 93 → c.toNat ≠ 125 →
      ∃ c' t', c :: t = c' :: t' ∧ isSpace c' = false ∧ c' ≠ 93 ∧ c' ≠ 125 := by
    intro c t hc h93 h125
    refine ⟨c, t, rfl, ?_, ne_of_toNat_ne h93, ne_of_toNat_ne h125⟩
    simp only [isSpace, Bool.or_eq_false_iff, decide_eq_false_iff_not]
    omega
  cases v with
  | null =>
    rw [stringify, show js "null" = [110, 117, 108, 108] by decide]
    exact hlit (by decide) (by decide) (by decide)
  | bool b => cases b with
    | true =>
      rw [stringify, show js "true" = [116, 114, 117, 101] by decide]
      exact hlit (by decide) (by decide) (by decide)
    | false =>
      rw [stringify, show js "false" = [102, 97, 108, 115, 101] by decide]
      exact hlit (by decide) (by decide) (by decide)
  | num x =>
    obtain ⟨c, t, ht, h45, h57⟩ := toText_head x
    rw [stringify, ht]
    exact hlit (by omega) (by omega) (by omega)
  | str s => exact hlit (c := 34) (by decide) (by decide) (by decide)
  | arr items => cases items with
    | nil => exact hlit (c := 91) (by decide) (by decide) (by decide)
    | cons v rest => exact hlit (c := 91) (by decide) (by decide) (by decide)
  | obj fields => cases fields with
    | nil => exact hlit (c := 123) (by decide) (by decide) (by decide)
    | cons f rest => exact hlit (c := 123) (by decide) (by decide) (by decide)

theorem skipSpace_cons {c : UInt16} (h : isSpace c = false) (rest : JsString) :
    skipSpace (c :: rest) = c :: rest := by
  rw [skipSpace, List.dropWhile_cons_of_neg (by simp [h])]

theorem expect_cons {c : UInt16} (h : isSpace c = false) (rest : JsString) :
    expect c (c :: rest) = some rest := by
  simp [expect, skipSpace_cons h]

theorem expect_ne {c d : UInt16} (hd : isSpace d = false) (h : d ≠ c) (rest : JsString) :
    expect c (d :: rest) = none := by
  simp [expect, skipSpace_cons hd, h]

/-- A value does not start with the bracket that closes an empty array or object. -/
theorem expect_stringify {c : UInt16} (hc : c = 93 ∨ c = 125) (v : Json) (rest : JsString) :
    expect c (stringify v ++ rest) = none := by
  obtain ⟨d, t, ht, hs, h93, h125⟩ := stringify_head v
  rw [ht, List.cons_append]
  rcases hc with rfl | rfl
  · exact expect_ne hs h93 _
  · exact expect_ne hs h125 _

theorem readLiteral_append {name : String} {v : Json} (rest : JsString) :
    readLiteral name v (js name ++ rest) = some (v, rest) := by
  rw [readLiteral, if_pos (by simp), List.drop_left]

theorem numberEnd_items (items : List Json) (rest : JsString) :
    NumberEnd (stringifyItems items ++ rest) := by
  cases items <;> simp [stringifyItems, NumberEnd] <;> decide

theorem numberEnd_fields (fields : Fields) (rest : JsString) :
    NumberEnd (stringifyFields fields ++ rest) := by
  cases fields <;> simp [stringifyFields, NumberEnd] <;> decide

theorem readString_quote (s rest : JsString) :
    readString (escapeUnits s ++ ([34] ++ rest)) = some (s, rest) := readString_escapeUnits s rest

mutual

theorem readValue_stringify : ∀ (v : Json) (fuel : ℕ) (rest : JsString),
    (stringify v).length ≤ fuel → NumberEnd rest → readValue fuel (stringify v ++ rest) = some (v, rest)
  | v, 0, rest, hf, _ => by
    obtain ⟨c, t, ht, -⟩ := stringify_head v
    rw [ht] at hf
    simp at hf
  | .null, fuel + 1, rest, _, _ => by
    have hl := @readLiteral_append "null" .null rest
    rw [show js "null" = [110, 117, 108, 108] by decide] at hl
    rw [stringify, readValue, show js "null" = [110, 117, 108, 108] by decide, List.cons_append,
      skipSpace_cons (by decide)]
    simpa using hl
  | .bool true, fuel + 1, rest, _, _ => by
    have hl := @readLiteral_append "true" (.bool true) rest
    rw [show js "true" = [116, 114, 117, 101] by decide] at hl
    rw [stringify, readValue, show js "true" = [116, 114, 117, 101] by decide, List.cons_append,
      skipSpace_cons (by decide)]
    simpa using hl
  | .bool false, fuel + 1, rest, _, _ => by
    have hl := @readLiteral_append "false" (.bool false) rest
    rw [show js "false" = [102, 97, 108, 115, 101] by decide] at hl
    rw [stringify, readValue, show js "false" = [102, 97, 108, 115, 101] by decide, List.cons_append,
      skipSpace_cons (by decide)]
    simpa using hl
  | .num x, fuel + 1, rest, _, hr => by
    obtain ⟨c, t, ht, h45, h57⟩ := toText_head x
    have hn := readNumber_toText x hr
    have hs : isSpace c = false := by
      simp only [isSpace, Bool.or_eq_false_iff, decide_eq_false_iff_not]
      omega
    have hne : ∀ d : UInt16, d.toNat < 45 ∨ 57 < d.toNat → ¬ c = d := by
      intro d hd he
      rw [he] at h45 h57
      omega
    rw [stringify, readValue, ht, List.cons_append, skipSpace_cons hs]
    rw [ht, List.cons_append] at hn
    simp only [hne 34 (by decide), hne 91 (by decide), hne 123 (by decide), hne 110 (by decide),
      hne 116 (by decide), hne 102 (by decide), if_false, hn, Option.map_some]
  | .str s, fuel + 1, rest, _, _ => by
    rw [stringify, readValue, quote, List.cons_append, List.append_assoc, skipSpace_cons (by decide)]
    simp only [if_true, readString_quote, Option.map_some]
  | .arr [], fuel + 1, rest, _, _ => by
    have h34 : ¬ (91 : UInt16) = 34 := by decide
    rw [stringify, readValue, List.cons_append, skipSpace_cons (by decide)]
    simp only [h34, if_false, if_true, List.cons_append, List.nil_append]
    rw [expect_cons (by decide)]
  | .arr (v :: items), fuel + 1, rest, hf, hr => by
    simp only [stringify, List.length_cons, List.length_append] at hf
    have hv := readValue_stringify v fuel (stringifyItems items ++ rest) (by omega) (numberEnd_items _ _)
    have hi := readItems_stringify items fuel rest (by omega)
    have h34 : ¬ (91 : UInt16) = 34 := by decide
    rw [stringify, readValue, List.cons_append, List.append_assoc, skipSpace_cons (by decide)]
    simp only [h34, if_false, if_true, expect_stringify (Or.inl rfl), hv, hi, Option.bind_some,
      Option.map_some]
  | .obj [], fuel + 1, rest, _, _ => by
    have h34 : ¬ (123 : UInt16) = 34 := by decide
    have h91 : ¬ (123 : UInt16) = 91 := by decide
    rw [stringify, readValue, List.cons_append, skipSpace_cons (by decide)]
    simp only [h34, h91, if_false, if_true, List.cons_append, List.nil_append]
    rw [expect_cons (by decide)]
  | .obj (f :: fields), fuel + 1, rest, hf, hr => by
    simp only [stringify, List.length_cons, List.length_append] at hf
    have hv := readField_stringify f fuel (stringifyFields fields ++ rest) (by omega) (numberEnd_fields _ _)
    have hi := readFields_stringify fields fuel rest (by omega)
    have h34 : ¬ (123 : UInt16) = 34 := by decide
    have h91 : ¬ (123 : UInt16) = 91 := by decide
    have hq : expect 125 (quote f.1 ++ (58 :: (stringify f.2 ++ (stringifyFields fields ++ rest)))) = none :=
      expect_ne (by decide) (by decide) _
    rw [stringify, readValue, List.cons_append, List.append_assoc, List.cons_append, List.append_assoc,
      skipSpace_cons (by decide)]
    simp only [h34, h91, if_false, if_true, hq, hv, hi, Option.bind_some, Option.map_some]

theorem readItems_stringify : ∀ (items : List Json) (fuel : ℕ) (rest : JsString),
    (stringifyItems items).length ≤ fuel → readItems fuel (stringifyItems items ++ rest) = some (items, rest)
  | items, 0, rest, hf => by cases items <;> simp [stringifyItems] at hf
  | [], fuel + 1, rest, _ => by
    rw [stringifyItems, readItems, List.cons_append, List.nil_append, expect_cons (by decide)]
  | v :: items, fuel + 1, rest, hf => by
    simp only [stringifyItems, List.length_cons, List.length_append] at hf
    have hv := readValue_stringify v fuel (stringifyItems items ++ rest) (by omega) (numberEnd_items _ _)
    have hi := readItems_stringify items fuel rest (by omega)
    rw [stringifyItems, readItems, List.cons_append, List.append_assoc, expect_ne (by decide) (by decide),
      expect_cons (by decide)]
    simp only [hv, hi, Option.bind_some, Option.map_some]

theorem readField_stringify : ∀ (f : JsString × Json) (fuel : ℕ) (rest : JsString),
    (quote f.1).length + (stringify f.2).length ≤ fuel → NumberEnd rest →
    readField fuel (quote f.1 ++ 58 :: (stringify f.2 ++ rest)) = some (f, rest)
  | f, 0, rest, hf, _ => by simp [quote] at hf
  | (k, v), fuel + 1, rest, hf, hr => by
    simp only [quote, List.length_cons, List.length_append] at hf
    have hv := readValue_stringify v fuel rest (by omega) hr
    rw [readField, quote, List.cons_append, List.append_assoc, expect_cons (by decide), Option.bind_some,
      readString_quote, Option.bind_some, expect_cons (by decide), Option.bind_some, hv, Option.map_some]

theorem readFields_stringify : ∀ (fields : Fields) (fuel : ℕ) (rest : JsString),
    (stringifyFields fields).length ≤ fuel →
    readFields fuel (stringifyFields fields ++ rest) = some (fields, rest)
  | fields, 0, rest, hf => by cases fields <;> simp [stringifyFields] at hf
  | [], fuel + 1, rest, _ => by
    rw [stringifyFields, readFields, List.cons_append, List.nil_append, expect_cons (by decide)]
  | f :: fields, fuel + 1, rest, hf => by
    simp only [stringifyFields, List.length_cons, List.length_append] at hf
    have hv := readField_stringify f fuel (stringifyFields fields ++ rest) (by omega) (numberEnd_fields _ _)
    have hi := readFields_stringify fields fuel rest (by omega)
    rw [stringifyFields, readFields, List.cons_append, List.append_assoc, List.cons_append,
      List.append_assoc, expect_ne (by decide) (by decide), expect_cons (by decide)]
    simp only [hv, hi, Option.bind_some, Option.map_some]

end

theorem readText_stringify (v : Json) : readText (stringify v) = some v := by
  have h := readValue_stringify v ((stringify v).length + 1) [] (Nat.le_succ _) (by simp [NumberEnd])
  rw [List.append_nil] at h
  rw [readText, h, Option.bind_some, skipSpace]
  simp

/-- Different values print differently, field order included. -/
theorem stringify_injective : Function.Injective stringify := by
  intro v w h
  have hv := readText_stringify v
  rw [h, readText_stringify] at hv
  exact (Option.some.inj hv).symm

/-- Reading a printed value rebuilds it. -/
theorem parse_stringify (v : Json) : parse (stringify v) = some v.rebuild := by
  rw [parse, readText_stringify, Option.map_some]

/-! ## Printed text is well formed -/

theorem Ascii.append {s t : JsString} (hs : Ascii s) (ht : Ascii t) : Ascii (s ++ t) := by
  intro u hu
  rcases List.mem_append.mp hu with hu | hu
  · exact hs u hu
  · exact ht u hu

theorem ascii_padText (k n : ℕ) : Ascii (padText k n) := by
  intro u hu
  have h := padText_ascii k n u hu
  simp only [isDigit, Bool.and_eq_true, decide_eq_true_eq] at h
  omega

theorem ascii_sciText (s : ℕ) (x : ℤ) : Ascii (sciText s x) := by
  have hfrac : Ascii (if digitCount s = 1 then [] else 46 :: padText (digitCount s - 1) s) := by
    split
    · simp [Ascii]
    · exact Ascii.append (s := [46]) (by simp [Ascii]) (ascii_padText _ _)
  have hsign : Ascii [101, if x < 0 then 45 else 43] := by
    intro u hu
    split at hu <;> (simp only [List.mem_cons, List.not_mem_nil, or_false] at hu;
                     rcases hu with rfl | rfl <;> decide)
  exact ((ascii_padText _ _).append hfrac).append (hsign.append (ascii_padText _ _))

theorem ascii_toText (x : JsNumber) : Ascii x.toText := by
  have hsign : ∀ {p : Prop} [Decidable p], Ascii (if p then [45] else []) := by
    intro p _ u hu
    split at hu
    · rw [List.mem_singleton.mp hu]
      decide
    · simp at hu
  cases x with
  | int i =>
    refine hsign.append ?_
    unfold unsignedText
    split
    · exact ascii_padText _ _
    · exact ascii_sciText _ _
  | frac m e _ _ =>
    refine hsign.append ?_
    unfold fracText
    split
    · exact (ascii_padText _ _).append (Ascii.append (s := [46]) (by simp [Ascii]) (ascii_padText _ _))
    · exact ascii_sciText _ _

theorem ascii_hexDigit (d : ℕ) (h : d < 16) : (hexDigit d).toNat < 128 := by
  have hv := hexValue?_hexDigit h
  simp only [hexValue?] at hv
  split at hv
  · omega
  · split at hv
    · omega
    · split at hv
      · omega
      · simp at hv

theorem wellFormed_unicodeEscape (u : UInt16) : WellFormed (unicodeEscape u) := by
  have hu := u.toNat_lt
  apply wellFormed_of_ascii
  intro w hw
  simp only [unicodeEscape, List.mem_cons, List.not_mem_nil, or_false] at hw
  rcases hw with rfl | rfl | rfl | rfl | rfl | rfl
  · decide
  · decide
  all_goals exact ascii_hexDigit _ (by omega)

/-- A unit is printed with a backslash before a letter, as its number, or as it is. -/
theorem escapeUnit_cases (u : UInt16) : (∃ c : UInt16, c.toNat < 128 ∧ escapeUnit u = [92, c]) ∨
    escapeUnit u = unicodeEscape u ∨
    (¬ (isHighSurrogate u = true ∨ isLowSurrogate u = true) ∧ escapeUnit u = [u]) := by
  rw [escapeUnit]
  by_cases h1 : u.toNat = 34
  · exact Or.inl ⟨34, by decide, if_pos h1⟩
  rw [if_neg h1]
  by_cases h2 : u.toNat = 92
  · exact Or.inl ⟨92, by decide, if_pos h2⟩
  rw [if_neg h2]
  by_cases hcontrol : u.toNat < 32
  · rw [if_pos hcontrol]
    split_ifs
    · exact Or.inl ⟨98, by decide, rfl⟩
    · exact Or.inl ⟨116, by decide, rfl⟩
    · exact Or.inl ⟨110, by decide, rfl⟩
    · exact Or.inl ⟨102, by decide, rfl⟩
    · exact Or.inl ⟨114, by decide, rfl⟩
    · exact Or.inr (Or.inl rfl)
  · rw [if_neg hcontrol]
    split_ifs with hsurrogate
    · exact Or.inr (Or.inl rfl)
    · exact Or.inr (Or.inr ⟨hsurrogate, rfl⟩)

theorem wellFormed_escapeUnit (u : UInt16) : WellFormed (escapeUnit u) := by
  rcases escapeUnit_cases u with ⟨c, hc, h⟩ | h | ⟨hplain, h⟩
  · rw [h]
    exact wellFormed_of_ascii (by simpa [Ascii] using hc)
  · rw [h]
    exact wellFormed_unicodeEscape u
  · have hu := u.toNat_lt
    simp only [not_or, isHighSurrogate, isLowSurrogate, Bool.and_eq_true, decide_eq_true_eq] at hplain
    have hp : pointUnits u.toNat = [u] := by rw [pointUnits, if_pos hu, UInt16.ofNat_toNat]
    have hw := wellFormed_pointUnits (p := u.toNat) (by unfold IsScalar; omega)
    rwa [h, ← hp]

theorem wellFormed_pair {u v : UInt16} (hu : isHighSurrogate u = true) (hv : isLowSurrogate v = true) :
    WellFormed [u, v] := by
  have hj := joinSurrogates_scalar hu hv
  simp only [isHighSurrogate, isLowSurrogate, Bool.and_eq_true, decide_eq_true_eq] at hu hv
  have hp : pointUnits (joinSurrogates u v) = [u, v] := by
    have hge : ¬ joinSurrogates u v < 0x10000 := by unfold joinSurrogates; omega
    have h₁ : 0xD800 + (joinSurrogates u v - 0x10000) / 0x400 = u.toNat := by
      unfold joinSurrogates; omega
    have h₂ : 0xDC00 + (joinSurrogates u v - 0x10000) % 0x400 = v.toNat := by
      unfold joinSurrogates; omega
    rw [pointUnits, if_neg hge, h₁, h₂, UInt16.ofNat_toNat, UInt16.ofNat_toNat]
  rw [← hp]
  exact wellFormed_pointUnits hj

theorem wellFormed_escapeUnits (s : JsString) : WellFormed (escapeUnits s) := by
  fun_induction escapeUnits s with
  | case1 => exact wellFormed_nil
  | case2 u => exact wellFormed_escapeUnit u
  | case3 u v rest h ih =>
    rw [Bool.and_eq_true] at h
    exact (wellFormed_pair h.1 h.2).append ih
  | case4 u v rest h ih => exact (wellFormed_escapeUnit u).append ih

theorem WellFormed.cons {c : UInt16} (hc : c.toNat < 128) {s : JsString} (hs : WellFormed s) :
    WellFormed (c :: s) :=
  (wellFormed_of_ascii (s := [c]) (by simpa [Ascii] using hc)).append hs

theorem wellFormed_quote (s : JsString) : WellFormed (quote s) :=
  ((wellFormed_escapeUnits s).append (wellFormed_of_ascii (by decide))).cons (by decide)

mutual

theorem wellFormed_stringify : ∀ v : Json, WellFormed (stringify v)
  | .null => wellFormed_of_ascii (by decide)
  | .bool true => wellFormed_of_ascii (by decide)
  | .bool false => wellFormed_of_ascii (by decide)
  | .num x => wellFormed_of_ascii (ascii_toText x)
  | .str s => wellFormed_quote s
  | .arr [] => wellFormed_of_ascii (by decide)
  | .arr (v :: items) =>
    ((wellFormed_stringify v).append (wellFormed_items items)).cons (by decide)
  | .obj [] => wellFormed_of_ascii (by decide)
  | .obj ((k, v) :: fields) =>
    ((wellFormed_quote k).append (((wellFormed_stringify v).append
      (wellFormed_fields fields)).cons (by decide))).cons (by decide)

theorem wellFormed_items : ∀ items : List Json, WellFormed (stringifyItems items)
  | [] => wellFormed_of_ascii (by decide)
  | v :: items => ((wellFormed_stringify v).append (wellFormed_items items)).cons (by decide)

theorem wellFormed_fields : ∀ fields : Fields, WellFormed (stringifyFields fields)
  | [] => wellFormed_of_ascii (by decide)
  | (k, v) :: fields => ((wellFormed_quote k).append (((wellFormed_stringify v).append
      (wellFormed_fields fields)).cons (by decide))).cons (by decide)

end

/-- The UTF-8 bytes of the text determine the value. -/
theorem utf8_stringify_injective : Function.Injective (fun v => utf8Encode (stringify v)) :=
  fun v w h => stringify_injective
    (utf8Encode_injOn (wellFormed_stringify v) (wellFormed_stringify w) h)

end Js
