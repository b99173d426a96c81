import StrataPortNetwork.Py.Canonical

/-! # JSON values and their sorted form

`isJson` tells the values that `json.loads` can return, and `sorted` puts the entries of
every dict in the order of their keys: two such values are equal in Python exactly when
their sorted forms are. The canonical text of a value spells its sorted form.
-/
namespace Py

/-! ## Values that a text can spell -/

/-- What ends a number or a name in a text. -/
def delimiter (c : CodePoint) : Bool := c = point 44 || c = point 93 || c = point 125

def digit (c : CodePoint) : Bool := 48 ≤ c.val && c.val ≤ 57

/-- The characters of an integer. -/
def integral (c : CodePoint) : Bool := digit c || c = point 45

theorem digits_padText (k n : ℕ) : ∀ u ∈ Js.padText k n, ∃ d < 10, u = Js.digit d := by
  induction k generalizing n with
  | zero => simp [Js.padText]
  | succ k ih =>
    intro u hu
    rcases List.mem_append.mp hu with hu | hu
    · exact ih _ u hu
    · exact ⟨n % 10, Nat.mod_lt _ (by omega), List.mem_singleton.mp hu⟩

theorem integral_decimal (i : ℤ) : ∀ c ∈ decimal i, integral c = true := by
  have hdigit : ∀ d < 10, integral (point (48 + d)) = true := by decide
  intro c hc
  rcases List.mem_append.mp hc with hc | hc
  · split at hc
    · rw [show str "-" = [point 45] from rfl, List.mem_singleton] at hc
      rw [hc]
      decide
    · exact absurd hc List.not_mem_nil
  · obtain ⟨u, hu, rfl⟩ := List.mem_map.mp hc
    obtain ⟨d, hd, rfl⟩ := digits_padText _ _ u hu
    rw [Js.digit_toNat hd]
    exact hdigit d hd

/-- The text of a float: a number that is not written as an integer, an infinity or NaN. -/
def isFloatText (text : Str) : Bool :=
  text.head?.any (fun c => integral c || c = point 73 || c = point 78) && text.all (fun c => !delimiter c) &&
    text.any (fun c => !integral c)

namespace Value

mutual

def isJson : Value → Bool
  | .none => true
  | .bool _ => true
  | .int _ => true
  | .float repr => isFloatText repr
  | .str _ => true
  | .list items => itemsJson items
  | .dict entries => decide (entries.map Prod.fst).Nodup && entriesJson entries
  | .other => false

def itemsJson : List Value → Bool
  | [] => true
  | v :: rest => isJson v && itemsJson rest

def entriesJson : Entries → Bool
  | [] => true
  | (_, v) :: rest => isJson v && entriesJson rest

end

theorem itemsJson_iff {items : List Value} : itemsJson items = true ↔ ∀ v ∈ items, v.isJson = true := by
  induction items with
  | nil => simp [itemsJson]
  | cons v rest ih => simp [itemsJson, ih]

theorem entriesJson_iff {entries : Entries} : entriesJson entries = true ↔ ∀ e ∈ entries, e.2.isJson = true := by
  induction entries with
  | nil => simp [entriesJson]
  | cons e rest ih => simp [entriesJson, ih]

@[simp] theorem isJson_strings (items : List Str) : (strings items).isJson = true := by
  rw [strings, isJson, itemsJson_iff]
  simp [isJson]

@[simp] theorem isJson_ofOption (text : Option Str) : (ofOption text).isJson = true := by cases text <;> rfl

theorem isJson_ofDict {d : Dict} (h : ∀ e ∈ d.entries, e.2.isJson = true) : (ofDict d).isJson = true := by
  rw [ofDict, isJson, Bool.and_eq_true, decide_eq_true_iff, entriesJson_iff]
  exact ⟨d.nodup_keys, h⟩

/-! ## The sorted form -/

mutual

def sorted : Value → Value
  | .none => .none
  | .bool b => .bool b
  | .int i => .int i
  | .float repr => .float repr
  | .str s => .str s
  | .list items => .list (sortedItems items)
  | .dict entries => .dict (sortByKey (sortedEntries entries))
  | .other => .other

def sortedItems : List Value → List Value
  | [] => []
  | v :: rest => sorted v :: sortedItems rest

def sortedEntries : Entries → Entries
  | [] => []
  | (key, v) :: rest => (key, sorted v) :: sortedEntries rest

end

theorem sortedEntries_eq_map (entries : Entries) : sortedEntries entries = entries.map fun e => (e.1, e.2.sorted) := by
  induction entries with
  | nil => rfl
  | cons e rest ih => rw [sortedEntries, ih, List.map_cons]

end Value

/-! ## Sorting by keys -/

section SortByKey
variable {α β : Type}

theorem perm_sortByKey (items : List (Str × α)) : (sortByKey items).Perm items := List.perm_insertionSort _ items

theorem keys_sortByKey_nodup {items : List (Str × α)} (h : (items.map Prod.fst).Nodup) :
    ((sortByKey items).map Prod.fst).Nodup := ((perm_sortByKey items).map Prod.fst).nodup_iff.mpr h

/-- Sorting commutes with a map that keeps the keys. -/
theorem sortByKey_map {f : Str × α → Str × β} (hf : ∀ e, (f e).1 = e.1) (items : List (Str × α)) :
    sortByKey (items.map f) = (sortByKey items).map f := by
  refine (List.map_insertionSort _ _ _ _ fun e _ e' _ => ?_).symm
  rw [hf, hf]

theorem sortByKey_idem (items : List (Str × α)) : sortByKey (sortByKey items) = sortByKey items :=
  List.Pairwise.insertionSort_eq (List.pairwise_insertionSort _ items)

end SortByKey

namespace Value

theorem sortedEntries_sortByKey (entries : Entries) :
    sortedEntries (sortByKey entries) = sortByKey (sortedEntries entries) := by
  rw [sortedEntries_eq_map, sortedEntries_eq_map]
  exact (sortByKey_map (by simp) _).symm

mutual

theorem isJson_sorted : ∀ {v : Value}, v.isJson = true → v.sorted.isJson = true
  | .none, h => h
  | .bool _, h => h
  | .int _, h => h
  | .float _, h => h
  | .str _, h => h
  | .list _, h => itemsJson_sorted h
  | .dict entries, h => by
    rw [isJson, Bool.and_eq_true, decide_eq_true_iff] at h
    have hsorted := entriesJson_iff.mp (entriesJson_sorted h.2)
    rw [sorted, isJson, Bool.and_eq_true, decide_eq_true_iff]
    refine ⟨keys_sortByKey_nodup ?_, entriesJson_iff.mpr fun e he => hsorted e ((perm_sortByKey _).mem_iff.mp he)⟩
    rw [sortedEntries_eq_map, List.map_map]
    exact h.1
  | .other, h => h

theorem itemsJson_sorted : ∀ {items : List Value}, itemsJson items = true → itemsJson (sortedItems items) = true
  | [], h => h
  | v :: rest, h => by
    rw [itemsJson, Bool.and_eq_true] at h
    rw [sortedItems, itemsJson, isJson_sorted h.1, itemsJson_sorted h.2, Bool.and_self]

theorem entriesJson_sorted : ∀ {entries : Entries}, entriesJson entries = true → entriesJson (sortedEntries entries) = true
  | [], h => h
  | (key, v) :: rest, h => by
    rw [entriesJson, Bool.and_eq_true] at h
    rw [sortedEntries, entriesJson, isJson_sorted h.1, entriesJson_sorted h.2, Bool.and_self]

end

mutual

@[simp] theorem sorted_sorted : ∀ v : Value, v.sorted.sorted = v.sorted
  | .none => rfl
  | .bool _ => rfl
  | .int _ => rfl
  | .float _ => rfl
  | .str _ => rfl
  | .list items => by rw [sorted, sorted, sortedItems_sortedItems]
  | .dict entries => by
    have hentries := sortedEntries_sortedEntries entries
    rw [sorted, sorted, sortedEntries_sortByKey, hentries, sortByKey_idem]
  | .other => rfl

theorem sortedItems_sortedItems : ∀ items : List Value, sortedItems (sortedItems items) = sortedItems items
  | [] => rfl
  | v :: rest => by rw [sortedItems, sortedItems, sorted_sorted v, sortedItems_sortedItems rest]

theorem sortedEntries_sortedEntries : ∀ entries : Entries, sortedEntries (sortedEntries entries) = sortedEntries entries
  | [] => rfl
  | (key, v) :: rest => by rw [sortedEntries, sortedEntries, sorted_sorted v, sortedEntries_sortedEntries rest]

end

/-! ## Spelling -/

mutual

/-- The text of a value, its entries in the order they have. -/
def spell : Value → Str
  | .none => Py.str "null"
  | .bool b => Py.str (if b then "true" else "false")
  | .int i => decimal i
  | .float repr => repr
  | .str s => quote s
  | .list items => Py.str "[" ++ join (spellItems items) ++ Py.str "]"
  | .dict entries => Py.str "\x7b" ++ join ((spellEntries entries).map Prod.snd) ++ Py.str "\x7d"
  | .other => []

def spellItems : List Value → List Str
  | [] => []
  | v :: rest => spell v :: spellItems rest

def spellEntries : Entries → List (Str × Str)
  | [] => []
  | (key, v) :: rest => (key, quote key ++ Py.str ":" ++ spell v) :: spellEntries rest

end

theorem spellEntries_eq_map (entries : Entries) :
    spellEntries entries = entries.map fun e => (e.1, quote e.1 ++ Py.str ":" ++ e.2.spell) := by
  induction entries with
  | nil => rfl
  | cons e rest ih => rw [spellEntries, ih, List.map_cons]

end Value

open Value

mutual

/-- The canonical text of a JSON value spells its sorted form. -/
theorem canonicalText_eq_spell : ∀ {v : Value}, v.isJson = true → canonicalText v = .ok v.sorted.spell
  | .none, _ => rfl
  | .bool _, _ => rfl
  | .int _, _ => rfl
  | .float _, _ => rfl
  | .str _, _ => rfl
  | .list items, h => by
    rw [isJson] at h
    rw [canonicalText, canonicalItems_eq_spell h, sorted, spell]
    rfl
  | .dict entries, h => by
    rw [isJson, Bool.and_eq_true] at h
    rw [canonicalText, canonicalEntries_eq_spell h.2, sorted, spell]
    have hsorted : sortByKey (spellEntries (sortedEntries entries)) =
        spellEntries (sortByKey (sortedEntries entries)) := by
      rw [spellEntries_eq_map, spellEntries_eq_map]
      exact sortByKey_map (by simp) _
    simp only [bind, Except.bind, hsorted]
    rfl
  | .other, h => by simp [isJson] at h

theorem canonicalItems_eq_spell : ∀ {items : List Value}, itemsJson items = true →
    canonicalItems items = .ok (spellItems (sortedItems items))
  | [], _ => rfl
  | v :: rest, h => by
    rw [itemsJson, Bool.and_eq_true] at h
    rw [canonicalItems, canonicalText_eq_spell h.1, canonicalItems_eq_spell h.2]
    rfl

theorem canonicalEntries_eq_spell : ∀ {entries : Entries}, entriesJson entries = true →
    canonicalEntries entries = .ok (spellEntries (sortedEntries entries))
  | [], _ => rfl
  | (key, v) :: rest, h => by
    rw [entriesJson, Bool.and_eq_true] at h
    rw [canonicalEntries, canonicalText_eq_spell h.1, canonicalEntries_eq_spell h.2]
    rfl

end

/-- A value that `json.loads` can return. -/
abbrev Json := { v : Value // v.isJson = true }

/-- `json.dumps(value, sort_keys=True)`, as the value that the text spells. -/
def dumps (refused : PyError) (v : Value) : Outcome Json :=
  if h : v.isJson = true then pure ⟨v.sorted, isJson_sorted h⟩ else throw refused

theorem dumps_eq_ok {refused : PyError} {v : Value} {json : Json} :
    dumps refused v = .ok json ↔ v.isJson = true ∧ json.val = v.sorted := by
  unfold dumps
  split
  · rename_i h
    rw [Js.pure_eq_ok, Subtype.ext_iff, eq_comm]
    exact ⟨fun heq => ⟨h, heq⟩, fun heq => heq.2⟩
  · rename_i h
    rw [Js.throw_eq_ok]
    exact ⟨False.elim, fun heq => h heq.1⟩

/-- The canonical text is that of the sorted form. -/
theorem canonicalText_sorted {v : Value} (h : v.isJson = true) : canonicalText v.sorted = canonicalText v := by
  rw [canonicalText_eq_spell h, canonicalText_eq_spell (isJson_sorted h), sorted_sorted]

/-! ## Values that Python can hold -/

namespace Value

mutual

/-- Floats have the text of a float and the keys of a dict are distinct. -/
def wellFormed : Value → Bool
  | .float repr => isFloatText repr
  | .list items => itemsWellFormed items
  | .dict entries => decide (entries.map Prod.fst).Nodup && entriesWellFormed entries
  | _ => true

def itemsWellFormed : List Value → Bool
  | [] => true
  | v :: rest => wellFormed v && itemsWellFormed rest

def entriesWellFormed : Entries → Bool
  | [] => true
  | (_, v) :: rest => wellFormed v && entriesWellFormed rest

end

theorem entriesWellFormed_iff {entries : Entries} :
    entriesWellFormed entries = true ↔ ∀ e ∈ entries, e.2.wellFormed = true := by
  induction entries with
  | nil => simp [entriesWellFormed]
  | cons e rest ih => simp [entriesWellFormed, ih]

mutual

theorem wellFormed_of_isJson : ∀ {v : Value}, v.isJson = true → v.wellFormed = true
  | .none, _ => rfl
  | .bool _, _ => rfl
  | .int _, _ => rfl
  | .float _, h => h
  | .str _, _ => rfl
  | .list _, h => itemsWellFormed_of_itemsJson h
  | .dict entries, h => by
    rw [isJson, Bool.and_eq_true] at h
    rw [wellFormed, Bool.and_eq_true]
    exact ⟨h.1, entriesWellFormed_of_entriesJson h.2⟩
  | .other, _ => rfl

theorem itemsWellFormed_of_itemsJson : ∀ {items : List Value}, itemsJson items = true → itemsWellFormed items = true
  | [], _ => rfl
  | _ :: _, h => by
    rw [itemsJson, Bool.and_eq_true] at h
    rw [itemsWellFormed, wellFormed_of_isJson h.1, itemsWellFormed_of_itemsJson h.2, Bool.and_self]

theorem entriesWellFormed_of_entriesJson : ∀ {entries : Entries}, entriesJson entries = true →
    entriesWellFormed entries = true
  | [], _ => rfl
  | (_, _) :: _, h => by
    rw [entriesJson, Bool.and_eq_true] at h
    rw [entriesWellFormed, wellFormed_of_isJson h.1, entriesWellFormed_of_entriesJson h.2, Bool.and_self]

end

mutual

/-- Of these, `json.dumps` takes the JSON values. -/
theorem isJson_of_canonicalText : ∀ {v : Value} {text : Str}, v.wellFormed = true → canonicalText v = .ok text →
    v.isJson = true
  | .none, _, _, _ => rfl
  | .bool _, _, _, _ => rfl
  | .int _, _, _, _ => rfl
  | .float _, _, h, _ => h
  | .str _, _, _, _ => rfl
  | .list items, _, h, htext => by
    simp only [canonicalText, Js.bind_eq_ok] at htext
    obtain ⟨texts, htexts, -⟩ := htext
    exact itemsJson_of_canonicalItems h htexts
  | .dict entries, _, h, htext => by
    rw [wellFormed, Bool.and_eq_true] at h
    simp only [canonicalText, Js.bind_eq_ok] at htext
    obtain ⟨texts, htexts, -⟩ := htext
    rw [isJson, Bool.and_eq_true]
    exact ⟨h.1, entriesJson_of_canonicalEntries h.2 htexts⟩
  | .other, _, _, htext => by
    rw [canonicalText, Js.throw_eq_ok] at htext
    exact htext.elim

theorem itemsJson_of_canonicalItems : ∀ {items : List Value} {texts : List Str}, itemsWellFormed items = true →
    canonicalItems items = .ok texts → itemsJson items = true
  | [], _, _, _ => rfl
  | v :: rest, _, h, htexts => by
    rw [itemsWellFormed, Bool.and_eq_true] at h
    simp only [canonicalItems, Js.bind_eq_ok] at htexts
    obtain ⟨text, htext, texts, htexts, -⟩ := htexts
    rw [itemsJson, isJson_of_canonicalText h.1 htext, itemsJson_of_canonicalItems h.2 htexts, Bool.and_self]

theorem entriesJson_of_canonicalEntries : ∀ {entries : Entries} {texts : List (Str × Str)},
    entriesWellFormed entries = true → canonicalEntries entries = .ok texts → entriesJson entries = true
  | [], _, _, _ => rfl
  | (key, v) :: rest, _, h, htexts => by
    rw [entriesWellFormed, Bool.and_eq_true] at h
    simp only [canonicalEntries, Js.bind_eq_ok] at htexts
    obtain ⟨text, htext, texts, htexts, -⟩ := htexts
    rw [entriesJson, isJson_of_canonicalText h.1 htext, entriesJson_of_canonicalEntries h.2 htexts, Bool.and_self]

end

end Value

/-! ## Taking an entry out -/

theorem lookup_eq_some_iff_mem {entries : Entries} (hn : (entries.map Prod.fst).Nodup) {key : Str} {v : Value} :
    entries.lookup key = some v ↔ (key, v) ∈ entries := by
  induction entries with
  | nil => simp
  | cons e rest ih =>
    rw [List.map_cons, List.nodup_cons] at hn
    rw [List.lookup_cons, List.mem_cons]
    by_cases hkey : key = e.1
    · subst hkey
      have hnot : ∀ w, (e.1, w) ∉ rest := fun w hw => hn.1 (List.mem_map.mpr ⟨_, hw, rfl⟩)
      simp [hnot, Prod.ext_iff, eq_comm]
    · have hne : (key == e.1) = false := beq_eq_false_iff_ne.mpr hkey
      simp only [hne, ih hn.2, Prod.ext_iff, hkey, false_and, false_or]

theorem keys_sortedEntries (entries : Entries) : (sortedEntries entries).map Prod.fst = entries.map Prod.fst := by
  rw [sortedEntries_eq_map, List.map_map]
  rfl

/-- The entries that stay when the last one is taken out of the sorted form. -/
theorem perm_filter_sorted {entries : Entries} {key : Str} {v : Value} (h : key ∉ entries.map Prod.fst) :
    ((sortByKey (sortedEntries (entries ++ [(key, v)]))).filter fun e => !(e.1 == key)).Perm
      (sortedEntries entries) := by
  refine ((perm_sortByKey _).filter _).trans ?_
  have hothers : (sortedEntries entries).filter (fun e => !(e.1 == key)) = sortedEntries entries := by
    refine List.filter_eq_self.mpr fun e he => ?_
    have hmem := List.mem_map_of_mem (f := Prod.fst) he
    rw [keys_sortedEntries] at hmem
    simpa using fun hkey : e.1 = key => h (hkey ▸ hmem)
  rw [sortedEntries_eq_map, List.map_append, ← sortedEntries_eq_map, List.filter_append, hothers]
  simp

/-- Taking an entry out and putting it back. -/
theorem perm_filter_append {entries : Entries} {key : Str} {v : Value} (hn : (entries.map Prod.fst).Nodup)
    (h : (key, v) ∈ entries) : entries.Perm (entries.filter (fun e => !(e.1 == key)) ++ [(key, v)]) := by
  have hone : entries.filter (fun e => e.1 == key) = [(key, v)] := by
    refine List.perm_singleton.mp ((List.perm_ext_iff_of_nodup (hn.of_map _ |>.filter _) (List.nodup_singleton _)).mpr
      fun e => ?_)
    rw [List.mem_filter, beq_iff_eq, List.mem_singleton]
    constructor
    · rintro ⟨he, hkey⟩
      exact List.inj_on_of_nodup_map hn he h hkey
    · rintro rfl
      exact ⟨h, rfl⟩
  have hsplit := (List.filter_append_perm (fun e : Str × Value => e.1 == key) entries).symm
  rw [hone] at hsplit
  exact hsplit.trans List.perm_append_comm

/-- A dict has the text of its entries in sorted form, in whatever order they are. -/
theorem canonicalText_of_perm_sorted {entries rest : Entries} (hjson : (Value.dict entries).isJson = true)
    (h : rest.Perm (sortedEntries entries)) : canonicalText (.dict rest) = canonicalText (.dict entries) := by
  have hn : (entries.map Prod.fst).Nodup := by
    rw [isJson, Bool.and_eq_true, decide_eq_true_iff] at hjson
    exact hjson.1
  rw [← keys_sortedEntries] at hn
  rw [canonicalText_dict_congr h ((h.map Prod.fst).nodup_iff.mpr hn),
    canonicalText_dict_congr (perm_sortByKey _).symm hn]
  exact canonicalText_sorted hjson

end Py
