import StrataPortNetwork.Py.Json

/-! # The canonical text determines the value

A text that starts with the text of a JSON value, followed by what can follow a value,
determines the value and the rest. Two values with the same canonical JSON are therefore
equal up to the order of the entries of their dicts.
-/
namespace Py

/-! ## Tokens -/

/-- What can follow a value: nothing, or a delimiter. -/
def Ends (rest : Str) : Prop := ∀ c ∈ rest.head?, delimiter c = true

theorem ends_nil : Ends [] := by simp [Ends]

theorem ends_cons {c : CodePoint} {rest : Str} (h : delimiter c = true) : Ends (c :: rest) := by simpa [Ends] using h

def Token (text : Str) : Prop := ∀ c ∈ text, delimiter c = false

theorem token_append {a b s t : Str} (ha : Token a) (hb : Token b) (hs : Ends s) (ht : Ends t)
    (h : a ++ s = b ++ t) : a = b ∧ s = t := by
  induction a generalizing b with
  | nil =>
    cases b with
    | nil => exact ⟨rfl, h⟩
    | cons c rest =>
      rw [List.nil_append] at h
      have hc := hs c (by simp [h])
      rw [hb c List.mem_cons_self] at hc
      exact absurd hc (by simp)
  | cons c rest ih =>
    cases b with
    | nil =>
      rw [List.nil_append] at h
      have hc := ht c (by simp [← h])
      rw [ha c List.mem_cons_self] at hc
      exact absurd hc (by simp)
    | cons d rest' =>
      obtain ⟨rfl, htail⟩ := List.cons.inj h
      obtain ⟨rfl, rfl⟩ := ih (fun c hc => ha c (List.mem_cons_of_mem _ hc))
        (fun c hc => hb c (List.mem_cons_of_mem _ hc)) htail
      exact ⟨rfl, rfl⟩

/-! ## Strings -/

def hexValue (c : CodePoint) : ℕ := if c.val < 97 then c.val - 48 else c.val - 87

theorem hexValue_hexDigit : ∀ d < 16, hexValue (hexDigit d) = d := by decide

/-- The first code point of a string literal, with what follows it. -/
def unescape : Str → Option (CodePoint × Str)
  | [] => none
  | c :: rest =>
    if c.val = 92 then
      match rest with
      | [] => none
      | d :: rest =>
        if d.val = 98 then some (point 8, rest) else if d.val = 102 then some (point 12, rest)
        else if d.val = 110 then some (point 10, rest) else if d.val = 114 then some (point 13, rest)
        else if d.val = 116 then some (point 9, rest)
        else if d.val = 117 then
          match rest with
          | _ :: _ :: high :: low :: rest => some (point (16 * hexValue high + hexValue low), rest)
          | _ => none
        else some (d, rest)
    else some (c, rest)

theorem point_val (c : CodePoint) : point c.val = c := by
  rw [Fin.ext_iff, point, Fin.val_ofNat, Nat.mod_eq_of_lt c.isLt]

theorem eq_point {c : CodePoint} {n : ℕ} (h : c.val = n) : c = point n := by rw [← h, point_val]

theorem unescape_escape (c : CodePoint) (rest : Str) : unescape (escape c ++ rest) = some (c, rest) := by
  unfold escape
  split_ifs with h34 h92 h8 h12 h10 h13 h9 h32
  · rw [eq_point h34]; rfl
  · rw [eq_point h92]; rfl
  · rw [eq_point h8]; rfl
  · rw [eq_point h12]; rfl
  · rw [eq_point h10]; rfl
  · rw [eq_point h13]; rfl
  · rw [eq_point h9]; rfl
  · have hpoint : point (16 * hexValue (hexDigit (c.val / 16)) + hexValue (hexDigit (c.val % 16))) = c := by
      rw [hexValue_hexDigit _ (by omega), hexValue_hexDigit _ (by omega), Nat.div_add_mod, point_val]
    exact congrArg (fun d => some (d, rest)) hpoint
  · simp [unescape, h92]

theorem escape_append {c d : CodePoint} {s t : Str} (h : escape c ++ s = escape d ++ t) : c = d ∧ s = t := by
  have hread := congrArg unescape h
  rw [unescape_escape, unescape_escape] at hread
  exact Prod.mk.inj (Option.some.inj hread)

/-- No code point is written with the closing quote first. -/
theorem escape_ne_quote (c : CodePoint) (s t : Str) : escape c ++ s ≠ point 34 :: t := by
  have hhead : ∃ d rest, escape c = d :: rest ∧ d ≠ point 34 := by
    unfold escape
    split_ifs with h34
    · exact ⟨point 92, [point 34], rfl, by decide⟩
    · exact ⟨point 92, [point 92], rfl, by decide⟩
    · exact ⟨point 92, [point 98], rfl, by decide⟩
    · exact ⟨point 92, [point 102], rfl, by decide⟩
    · exact ⟨point 92, [point 110], rfl, by decide⟩
    · exact ⟨point 92, [point 114], rfl, by decide⟩
    · exact ⟨point 92, [point 116], rfl, by decide⟩
    · exact ⟨point 92, _, rfl, by decide⟩
    · exact ⟨c, [], rfl, fun hc => h34 (congrArg Fin.val hc)⟩
  obtain ⟨d, rest, hd, hne⟩ := hhead
  rw [hd, List.cons_append]
  exact fun h => hne (List.cons.inj h).1

theorem quote_eq (s rest : Str) : quote s ++ rest = point 34 :: (s.flatMap escape ++ point 34 :: rest) := by
  rw [quote, List.append_assoc, List.append_assoc]
  rfl

theorem quote_append {a b s t : Str} (h : quote a ++ s = quote b ++ t) : a = b ∧ s = t := by
  rw [quote_eq, quote_eq] at h
  replace h := (List.cons.inj h).2
  induction a generalizing b with
  | nil =>
    cases b with
    | nil => exact ⟨rfl, (List.cons.inj h).2⟩
    | cons d rest =>
      rw [List.flatMap_cons, List.append_assoc] at h
      exact absurd h.symm (escape_ne_quote d _ _)
  | cons c rest ih =>
    cases b with
    | nil =>
      rw [List.flatMap_cons, List.append_assoc] at h
      exact absurd h (escape_ne_quote c _ _)
    | cons d rest' =>
      rw [List.flatMap_cons, List.flatMap_cons, List.append_assoc, List.append_assoc] at h
      obtain ⟨rfl, htail⟩ := escape_append h
      obtain ⟨rfl, rfl⟩ := ih htail
      exact ⟨rfl, rfl⟩

/-! ## Numbers and names -/

theorem decimal_ne_nil (i : ℤ) : decimal i ≠ [] := by
  obtain ⟨d, rest, hhead, -, -⟩ := Js.natText_head i.natAbs
  simp [decimal, hhead]

theorem integral_not_delimiter {c : CodePoint} (h : integral c = true) : delimiter c = false := by
  have hval : (48 ≤ c.val ∧ c.val ≤ 57) ∨ c.val = 45 := by
    simp only [integral, digit, Bool.or_eq_true, Bool.and_eq_true, decide_eq_true_eq] at h
    exact h.imp_right fun h => congrArg Fin.val h
  have hne : ∀ n : ℕ, n < 0x110000 → c.val ≠ n → decide (c = point n) = false := by
    intro n hn hc
    refine decide_eq_false fun h => hc ?_
    rw [h, point, Fin.val_ofNat, Nat.mod_eq_of_lt hn]
  rw [delimiter, hne 44 (by omega) (by omega), hne 93 (by omega) (by omega), hne 125 (by omega) (by omega)]
  rfl

namespace Value

/-- How the text of a value starts. -/
def shape : Value → ℕ
  | .none => 0
  | .bool true => 1
  | .bool false => 2
  | .int _ => 3
  | .float _ => 3
  | .str _ => 4
  | .list _ => 5
  | .dict _ => 6
  | .other => 7

/-- The shape of the value that a text starts with. -/
def shapeAt (text : Str) : ℕ :=
  match text with
  | [] => 7
  | c :: _ => if c = point 110 then 0 else if c = point 116 then 1 else if c = point 102 then 2
    else if c = point 34 then 4 else if c = point 91 then 5 else if c = point 123 then 6 else 3

theorem shapeAt_number {c : CodePoint} {rest : Str}
    (h : integral c = true ∨ c = point 73 ∨ c = point 78) : shapeAt (c :: rest) = 3 := by
  have hval : (48 ≤ c.val ∧ c.val ≤ 57) ∨ c.val = 45 ∨ c.val = 73 ∨ c.val = 78 := by
    simp only [integral, digit, Bool.or_eq_true, Bool.and_eq_true, decide_eq_true_eq, or_assoc] at h
    exact h.imp_right fun h => h.imp (congrArg Fin.val) fun h => h.imp (congrArg Fin.val) (congrArg Fin.val)
  have hne : ∀ n : ℕ, n < 0x110000 → c.val ≠ n → c ≠ point n := by
    intro n hn hc h
    rw [h, point, Fin.val_ofNat, Nat.mod_eq_of_lt hn] at hc
    exact hc rfl
  simp only [shapeAt, if_neg (hne 110 (by omega) (by omega)), if_neg (hne 116 (by omega) (by omega)),
    if_neg (hne 102 (by omega) (by omega)), if_neg (hne 34 (by omega) (by omega)),
    if_neg (hne 91 (by omega) (by omega)), if_neg (hne 123 (by omega) (by omega))]

theorem shapeAt_spell {v : Value} (h : v.isJson = true) (rest : Str) : shapeAt (v.spell ++ rest) = v.shape := by
  cases v with
  | none => rfl
  | bool b => cases b <;> rfl
  | int i =>
    cases hdecimal : decimal i with
    | nil => exact absurd hdecimal (decimal_ne_nil i)
    | cons c text =>
      rw [spell, hdecimal]
      exact shapeAt_number (.inl (integral_decimal i c (by simp [hdecimal])))
  | float repr =>
    cases repr with
    | nil => simp [isJson, isFloatText] at h
    | cons c text =>
      simp only [isJson, isFloatText, List.head?_cons, Option.any_some, Bool.and_eq_true, Bool.or_eq_true,
        decide_eq_true_eq, or_assoc] at h
      exact shapeAt_number h.1.1
  | str s => rfl
  | list items => rfl
  | dict entries => rfl
  | other => simp [isJson] at h

/-! ## Values -/

/-- The texts after the first item, each behind a comma, and the closing bracket. -/
def tails (close : CodePoint) : List Str → Str
  | [] => [close]
  | text :: rest => point 44 :: text ++ tails close rest

theorem join_cons (close : CodePoint) (text : Str) (rest : List Str) :
    join (text :: rest) ++ [close] = text ++ tails close rest := by
  induction rest generalizing text with
  | nil => rfl
  | cons next rest ih =>
    rw [join, List.append_assoc, ih, tails, List.append_assoc]
    · rfl
    · simp

theorem ends_tails {close : CodePoint} (hclose : delimiter close = true) (texts : List Str) (rest : Str) :
    Ends (tails close texts ++ rest) := by
  cases texts with
  | nil => exact ends_cons hclose
  | cons text more => exact ends_cons rfl

/-- The spelling of a number or a name is a token. -/
theorem token_spell {v : Value} (h : v.isJson = true) (hshape : v.shape ≤ 3) : Token v.spell := by
  have hname : ∀ name : Str, name.all (fun c => !delimiter c) = true → Token name :=
    fun name hall c hc => Bool.not_eq_true' _ ▸ List.all_eq_true.mp hall c hc
  cases v with
  | none => exact hname _ rfl
  | bool b => cases b <;> exact hname _ rfl
  | int i => exact fun c hc => integral_not_delimiter (integral_decimal i c hc)
  | float repr =>
    simp only [isJson, isFloatText, Bool.and_eq_true, List.all_eq_true, Bool.not_eq_true'] at h
    exact h.1.2
  | str s => simp [shape] at hshape
  | list items => simp [shape] at hshape
  | dict entries => simp [shape] at hshape
  | other => simp [isJson] at h

theorem decimal_ne_float {i : ℤ} {repr : Str} (h : (Value.float repr).isJson = true) : decimal i ≠ repr := by
  rintro rfl
  simp only [isJson, isFloatText, Bool.and_eq_true, List.any_eq_true, Bool.not_eq_true'] at h
  obtain ⟨-, c, hc, hnot⟩ := h
  rw [integral_decimal i c hc] at hnot
  exact absurd hnot (by simp)

/-- Numbers and names of the same spelling are the same. -/
theorem scalar_eq {v w : Value} (hv : v.isJson = true) (hw : w.isJson = true) (hshape : v.shape = w.shape)
    (hscalar : v.shape ≤ 3) (h : v.spell = w.spell) : v = w := by
  cases v with
  | none => cases w with
    | none => rfl
    | bool b => cases b <;> simp [shape] at hshape
    | _ => simp [shape] at hshape
  | bool b => cases w with
    | bool b' => cases b <;> cases b' <;> first | rfl | simp [shape] at hshape
    | _ => cases b <;> simp [shape] at hshape
  | int i => cases w with
    | bool b => cases b <;> simp [shape] at hshape
    | int j => rw [decimal_injective h]
    | float repr => exact absurd h (decimal_ne_float hw)
    | _ => simp [shape] at hshape
  | float repr => cases w with
    | bool b => cases b <;> simp [shape] at hshape
    | int j => exact absurd h.symm (decimal_ne_float hv)
    | float repr' => exact congrArg Value.float h
    | _ => simp [shape] at hshape
  | _ => simp [shape] at hscalar

theorem shape_eq {v w : Value} {s t : Str} (hv : v.isJson = true) (hw : w.isJson = true)
    (h : v.spell ++ s = w.spell ++ t) : v.shape = w.shape := by
  rw [← shapeAt_spell hv s, h, shapeAt_spell hw t]

theorem scalar_append {v w : Value} {s t : Str} (hv : v.isJson = true) (hw : w.isJson = true) (hs : Ends s)
    (ht : Ends t) (hscalar : v.shape ≤ 3) (h : v.spell ++ s = w.spell ++ t) : v = w ∧ s = t := by
  have hshape := shape_eq hv hw h
  obtain ⟨hspell, hrest⟩ := token_append (token_spell hv hscalar) (token_spell hw (hshape ▸ hscalar)) hs ht h
  exact ⟨scalar_eq hv hw hshape hscalar hspell, hrest⟩

/-- No value starts with a delimiter. -/
theorem spell_ne_delimiter {v : Value} (h : v.isJson = true) {c : CodePoint} (hc : delimiter c = true) (s t : Str) :
    v.spell ++ s ≠ c :: t := by
  intro heq
  by_cases hscalar : v.shape ≤ 3
  · cases hspell : v.spell with
    | nil =>
      have hshape := shapeAt_spell h []
      rw [hspell] at hshape
      simp only [List.append_nil, shapeAt] at hshape
      omega
    | cons d rest =>
      rw [hspell, List.cons_append] at heq
      have hd := token_spell h hscalar d (by simp [hspell])
      rw [(List.cons.inj heq).1, hc] at hd
      exact absurd hd (by simp)
  · have hhead : ∃ d rest, v.spell ++ s = d :: rest ∧ delimiter d = false := by
      cases v with
      | str a => exact ⟨point 34, _, quote_eq a s, rfl⟩
      | list items => exact ⟨point 91, _, rfl, rfl⟩
      | dict entries => exact ⟨point 123, _, rfl, rfl⟩
      | other => simp [isJson] at h
      | bool b => cases b <;> simp [shape] at hscalar
      | _ => simp [shape] at hscalar
    obtain ⟨d, rest, hd, hdelimiter⟩ := hhead
    rw [hd] at heq
    rw [(List.cons.inj heq).1, hc] at hdelimiter
    exact absurd hdelimiter (by simp)

theorem spell_list (items : List Value) (s : Str) :
    (Value.list items).spell ++ s = point 91 :: (join (spellItems items) ++ [point 93] ++ s) := by
  rw [spell]
  rfl

theorem spell_dict (entries : Entries) (s : Str) :
    (Value.dict entries).spell ++ s = point 123 :: (join ((spellEntries entries).map Prod.snd) ++ [point 125] ++ s) := by
  rw [spell]
  rfl

theorem entry_append {key key' : Str} {v w : Value} {s t : Str}
    (h : quote key ++ Py.str ":" ++ v.spell ++ s = quote key' ++ Py.str ":" ++ w.spell ++ t) :
    key = key' ∧ v.spell ++ s = w.spell ++ t := by
  have hsplit : ∀ (k : Str) (u : Value) (rest : Str),
      quote k ++ Py.str ":" ++ u.spell ++ rest = quote k ++ (point 58 :: (u.spell ++ rest)) := by
    intro k u rest
    rw [List.append_assoc, List.append_assoc]
    rfl
  rw [hsplit, hsplit] at h
  obtain ⟨hkey, hvalue⟩ := quote_append h
  exact ⟨hkey, (List.cons.inj hvalue).2⟩

theorem entry_ne_delimiter (key : Str) (v : Value) (s t : Str) :
    quote key ++ Py.str ":" ++ v.spell ++ s ≠ point 125 :: t := by
  rw [List.append_assoc, List.append_assoc, quote_eq]
  exact fun h => absurd (List.cons.inj h).1 (by decide)

mutual

/-- A text determines the value it starts with and what follows it. -/
theorem spell_append : ∀ {v w : Value} {s t : Str}, v.isJson = true → w.isJson = true → Ends s → Ends t →
    v.spell ++ s = w.spell ++ t → v = w ∧ s = t
  | .none, _, _, _, hv, hw, hs, ht, h => scalar_append hv hw hs ht (by decide) h
  | .bool b, _, _, _, hv, hw, hs, ht, h => scalar_append hv hw hs ht (by cases b <;> decide) h
  | .int _, _, _, _, hv, hw, hs, ht, h => scalar_append hv hw hs ht le_rfl h
  | .float _, _, _, _, hv, hw, hs, ht, h => scalar_append hv hw hs ht le_rfl h
  | .str a, w, s, t, hv, hw, _, _, h => by
    have hshape := shape_eq hv hw h
    cases w with
    | str b =>
      obtain ⟨rfl, hrest⟩ := quote_append h
      exact ⟨rfl, hrest⟩
    | bool b => cases b <;> simp [shape] at hshape
    | _ => simp [shape] at hshape
  | .list items, w, s, t, hv, hw, hs, ht, h => by
    have hshape := shape_eq hv hw h
    cases w with
    | list items' =>
      rw [spell_list, spell_list] at h
      obtain ⟨rfl, hrest⟩ := items_append hv hw (List.cons.inj h).2
      exact ⟨rfl, hrest⟩
    | bool b => cases b <;> simp [shape] at hshape
    | _ => simp [shape] at hshape
  | .dict entries, w, s, t, hv, hw, hs, ht, h => by
    have hshape := shape_eq hv hw h
    cases w with
    | dict entries' =>
      rw [isJson, Bool.and_eq_true] at hv hw
      rw [spell_dict, spell_dict] at h
      obtain ⟨rfl, hrest⟩ := entries_append hv.2 hw.2 (List.cons.inj h).2
      exact ⟨rfl, hrest⟩
    | bool b => cases b <;> simp [shape] at hshape
    | _ => simp [shape] at hshape
  | .other, _, _, _, hv, _, _, _, _ => by simp [isJson] at hv

theorem items_append : ∀ {items items' : List Value} {s t : Str}, itemsJson items = true → itemsJson items' = true →
    join (spellItems items) ++ [point 93] ++ s = join (spellItems items') ++ [point 93] ++ t → items = items' ∧ s = t
  | [], [], _, _, _, _, h => ⟨rfl, (List.cons.inj h).2⟩
  | [], w :: rest', s, t, _, hw, h => by
    rw [itemsJson, Bool.and_eq_true] at hw
    rw [spellItems, spellItems, join_cons, List.append_assoc w.spell] at h
    exact absurd h.symm (spell_ne_delimiter hw.1 rfl _ _)
  | v :: rest, [], s, t, hv, _, h => by
    rw [itemsJson, Bool.and_eq_true] at hv
    rw [spellItems, spellItems, join_cons, List.append_assoc v.spell] at h
    exact absurd h (spell_ne_delimiter hv.1 rfl _ _)
  | v :: rest, w :: rest', s, t, hv, hw, h => by
    rw [itemsJson, Bool.and_eq_true] at hv hw
    rw [spellItems, spellItems, join_cons, join_cons, List.append_assoc, List.append_assoc] at h
    obtain ⟨rfl, h'⟩ := spell_append hv.1 hw.1 (ends_tails rfl _ _) (ends_tails rfl _ _) h
    obtain ⟨rfl, hrest⟩ := itemTails_append hv.2 hw.2 h'
    exact ⟨rfl, hrest⟩

theorem itemTails_append : ∀ {items items' : List Value} {s t : Str}, itemsJson items = true →
    itemsJson items' = true →
    tails (point 93) (spellItems items) ++ s = tails (point 93) (spellItems items') ++ t → items = items' ∧ s = t
  | [], [], _, _, _, _, h => ⟨rfl, (List.cons.inj h).2⟩
  | [], _ :: _, _, _, _, _, h => absurd (List.cons.inj h).1 (by decide)
  | _ :: _, [], _, _, _, _, h => absurd (List.cons.inj h).1 (by decide)
  | v :: rest, w :: rest', s, t, hv, hw, h => by
    rw [itemsJson, Bool.and_eq_true] at hv hw
    rw [spellItems, spellItems, tails, tails, List.cons_append, List.cons_append, List.append_assoc,
      List.append_assoc] at h
    obtain ⟨rfl, h'⟩ := spell_append hv.1 hw.1 (ends_tails rfl _ _) (ends_tails rfl _ _) (List.cons.inj h).2
    obtain ⟨rfl, hrest⟩ := itemTails_append hv.2 hw.2 h'
    exact ⟨rfl, hrest⟩

theorem entries_append : ∀ {entries entries' : Entries} {s t : Str}, entriesJson entries = true →
    entriesJson entries' = true → join ((spellEntries entries).map Prod.snd) ++ [point 125] ++ s =
      join ((spellEntries entries').map Prod.snd) ++ [point 125] ++ t → entries = entries' ∧ s = t
  | [], [], _, _, _, _, h => ⟨rfl, (List.cons.inj h).2⟩
  | [], (key', w) :: rest', s, t, _, _, h => by
    rw [spellEntries, spellEntries, List.map_cons, join_cons, List.append_assoc (quote key' ++ _ ++ _)] at h
    exact absurd h.symm (entry_ne_delimiter key' w _ _)
  | (key, v) :: rest, [], s, t, _, _, h => by
    rw [spellEntries, spellEntries, List.map_cons, join_cons, List.append_assoc (quote key ++ _ ++ _)] at h
    exact absurd h (entry_ne_delimiter key v _ _)
  | (key, v) :: rest, (key', w) :: rest', s, t, hv, hw, h => by
    rw [entriesJson, Bool.and_eq_true] at hv hw
    rw [spellEntries, spellEntries, List.map_cons, List.map_cons, join_cons, join_cons,
      List.append_assoc (quote key ++ _ ++ _), List.append_assoc (quote key' ++ _ ++ _)] at h
    obtain ⟨rfl, hvalue⟩ := entry_append h
    obtain ⟨rfl, h'⟩ := spell_append hv.1 hw.1 (ends_tails rfl _ _) (ends_tails rfl _ _) hvalue
    obtain ⟨rfl, hrest⟩ := entryTails_append hv.2 hw.2 h'
    exact ⟨rfl, hrest⟩

theorem entryTails_append : ∀ {entries entries' : Entries} {s t : Str}, entriesJson entries = true →
    entriesJson entries' = true → tails (point 125) ((spellEntries entries).map Prod.snd) ++ s =
      tails (point 125) ((spellEntries entries').map Prod.snd) ++ t → entries = entries' ∧ s = t
  | [], [], _, _, _, _, h => ⟨rfl, (List.cons.inj h).2⟩
  | [], _ :: _, _, _, _, _, h => absurd (List.cons.inj h).1 (by decide)
  | _ :: _, [], _, _, _, _, h => absurd (List.cons.inj h).1 (by decide)
  | (key, v) :: rest, (key', w) :: rest', s, t, hv, hw, h => by
    rw [entriesJson, Bool.and_eq_true] at hv hw
    simp only [spellEntries, List.map_cons, tails, List.cons_append] at h
    rw [List.append_assoc (quote key ++ _ ++ _), List.append_assoc (quote key' ++ _ ++ _)] at h
    obtain ⟨rfl, hvalue⟩ := entry_append (List.cons.inj h).2
    obtain ⟨rfl, h'⟩ := spell_append hv.1 hw.1 (ends_tails rfl _ _) (ends_tails rfl _ _) hvalue
    obtain ⟨rfl, hrest⟩ := entryTails_append hv.2 hw.2 h'
    exact ⟨rfl, hrest⟩

end

end Value

open Value in
/-- Values with the same canonical JSON are equal up to the order of entries. -/
theorem sorted_eq_of_canonicalText {v w : Value} (hv : v.isJson = true) (hw : w.isJson = true)
    (h : canonicalText v = canonicalText w) : v.sorted = w.sorted := by
  rw [canonicalText_eq_spell hv, canonicalText_eq_spell hw] at h
  exact (spell_append (isJson_sorted hv) (isJson_sorted hw) ends_nil ends_nil
    (congrArg (· ++ []) (Except.ok.inj h))).1

end Py
