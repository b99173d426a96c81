import StrataPortNetwork.Js.JsonText
import StrataPortNetwork.Js.Regex

/-! # Texts that are joined and hashed

A text is hashed by its UTF-8 bytes, which hold U+FFFD in the place of a lone surrogate. Texts that
are joined by a unit can be told apart as far as their parts do not hold the unit themselves.
-/
namespace Js

/-! ## Texts as they are hashed -/

/-- `text.toWellFormed()`: what remains of a text in UTF-8. -/
def toWellFormed (s : JsString) : JsString := (codePoints s).flatMap pointUnits

theorem codePoints_toWellFormed (s : JsString) : codePoints (toWellFormed s) = codePoints s :=
  codePoints_flatMap_pointUnits (codePoints_scalar s)

theorem utf8Encode_eq_iff {s t : JsString} : utf8Encode s = utf8Encode t ↔ toWellFormed s = toWellFormed t := by
  have hsame : ∀ s, utf8Encode (toWellFormed s) = utf8Encode s := fun s => by
    rw [utf8Encode, codePoints_toWellFormed, utf8Encode]
  have hwell : ∀ s, WellFormed (toWellFormed s) := fun s => by
    rw [WellFormed, codePoints_toWellFormed, toWellFormed]
  constructor
  · intro h
    exact utf8Encode_injOn (hwell s) (hwell t) ((hsame s).trans (h.trans (hsame t).symm))
  · intro h
    rw [← hsame s, h, hsame t]

theorem toWellFormed_append {a : JsString} (ha : Ascii a) (s : JsString) : toWellFormed (a ++ s) = a ++ toWellFormed s := by
  induction a with
  | nil => rfl
  | cons u rest ih =>
    have hu : u.toNat < 128 := ha u List.mem_cons_self
    have hunits : pointUnits u.toNat = [u] := by
      rw [pointUnits, if_pos (by omega), UInt16.ofNat_toNat]
    have hpoints := codePoints_pointUnits_append (p := u.toNat) (.inl (by omega)) (rest ++ s)
    rw [hunits, List.singleton_append] at hpoints
    rw [List.cons_append, toWellFormed, hpoints, List.flatMap_cons, hunits, ← toWellFormed,
      ih fun v hv => ha v (List.mem_cons_of_mem u hv)]
    rfl

theorem toWellFormed_join {a : JsString} (ha : Ascii a) {x : UInt16} (hx : x.toNat < 128) (s : JsString) :
    toWellFormed (a ++ x :: s) = a ++ x :: toWellFormed s := by
  have hunit : Ascii [x] := by simpa [Ascii] using hx
  rw [toWellFormed_append ha, ← List.singleton_append, toWellFormed_append hunit, List.singleton_append]

theorem toWellFormed_of_ascii {a : JsString} (ha : Ascii a) : toWellFormed a = a := by
  have h := toWellFormed_append ha []
  rw [List.append_nil] at h
  exact h.trans (List.append_nil a)

/-- A pattern that names no unit beyond ASCII. -/
def Regex.isAscii : Regex → Bool
  | never => true
  | lit s => s.all fun u => u.toNat < 128
  | run cls _ _ => cls.all fun range => range.2 < 128
  | seq a b => isAscii a && isAscii b
  | alt a b => isAscii a && isAscii b
  | star a => isAscii a

theorem Regex.ascii_of_accepts {r : Regex} (hr : r.isAscii = true) {s : JsString} (h : r.accepts s = true) : Ascii s := by
  rw [accepts_iff] at h
  induction h with
  | lit s => exact fun u hu => of_decide_eq_true (List.all_eq_true.mp hr u hu)
  | run hall _ _ =>
    intro u hu
    obtain ⟨range, hmem, hrange⟩ := List.any_eq_true.mp (hall u hu)
    have hbound : range.2 < 128 := of_decide_eq_true (List.all_eq_true.mp hr range hmem)
    simp only [Bool.and_eq_true, decide_eq_true_eq] at hrange
    omega
  | seq _ _ iha ihb =>
    simp only [isAscii, Bool.and_eq_true] at hr
    exact (iha hr.1).append (ihb hr.2)
  | altLeft _ _ iha =>
    simp only [isAscii, Bool.and_eq_true] at hr
    exact iha hr.1
  | altRight _ _ ihb =>
    simp only [isAscii, Bool.and_eq_true] at hr
    exact ihb hr.2
  | starNil => simp [Ascii]
  | starCons _ _ iha iht => exact (iha hr).append (iht hr)

/-! ## Texts joined by a unit -/

/-- Where the first parts do not hold the unit, equal texts have equal parts. -/
theorem append_cons_inj {x : UInt16} {a a' b b' : JsString} (ha : x ∉ a) (ha' : x ∉ a') :
    a ++ x :: b = a' ++ x :: b' ↔ a = a' ∧ b = b' := by
  constructor
  · intro h
    rcases List.append_eq_append_iff.mp h with ⟨m, rfl, hm⟩ | ⟨m, rfl, hm⟩
    · cases m with
      | nil => exact ⟨(List.append_nil a).symm, (List.cons.inj hm).2⟩
      | cons u m =>
        obtain ⟨rfl, -⟩ := List.cons.inj hm
        exact absurd (List.mem_append_right a List.mem_cons_self) ha'
    · cases m with
      | nil => exact ⟨List.append_nil a', (List.cons.inj hm).2.symm⟩
      | cons u m =>
        obtain ⟨rfl, -⟩ := List.cons.inj hm
        exact absurd (List.mem_append_right a' List.mem_cons_self) ha
  · rintro ⟨rfl, rfl⟩
    rfl

/-- A part that the unit ends. -/
structure Part (x : UInt16) (p : JsString) : Prop where
  ascii : Ascii p
  ends : x ∉ p

/-- Texts with as many parts before their last ones are the same in UTF-8 exactly when their parts and what remains of their
last ones are. -/
theorem joined_inj {x : UInt16} (hx : x.toNat < 128) {parts parts' : List JsString} {c c' : JsString}
    (hlength : parts.length = parts'.length) (h : ∀ p ∈ parts, Part x p) (h' : ∀ p ∈ parts', Part x p) :
    toWellFormed ([x].intercalate (parts ++ [c])) = toWellFormed ([x].intercalate (parts' ++ [c'])) ↔
      parts = parts' ∧ toWellFormed c = toWellFormed c' := by
  induction parts generalizing parts' with
  | nil =>
    obtain rfl := List.length_eq_zero_iff.mp hlength.symm
    simp
  | cons p parts ih =>
    obtain _ | ⟨p', parts'⟩ := parts'
    · cases hlength
    · rw [List.forall_mem_cons] at h h'
      have hne : ∀ (rest : List JsString) (last : JsString), rest ++ [last] ≠ [] := by simp
      rw [List.cons_append, List.cons_append, List.intercalate_cons_of_ne_nil (hne _ _), List.intercalate_cons_of_ne_nil (hne _ _),
        List.append_assoc, List.append_assoc, List.singleton_append, List.singleton_append, toWellFormed_join h.1.ascii hx,
        toWellFormed_join h'.1.ascii hx, append_cons_inj h.1.ends h'.1.ends, ih (Nat.succ.inj hlength) h.2 h'.2,
        List.cons.injEq, and_assoc]

/-- The first part of the one text continues that of the other by its second part and the beginning of its last. -/
def Continues (x : UInt16) (a b c a' b' c' : JsString) : Prop :=
  ∃ y, a' = a ++ x :: (b ++ y) ∧ x :: c = y ++ x :: (b' ++ x :: c')

/-- Texts of three parts, of which the second does not hold the unit, are equal when their parts are, or when the first part of
the one continues the other's. -/
theorem append_cons_append_inj {x : UInt16} {a b c a' b' c' : JsString} (hb : x ∉ b) (hb' : x ∉ b') :
    a ++ x :: (b ++ x :: c) = a' ++ x :: (b' ++ x :: c') ↔
      (a = a' ∧ b = b' ∧ c = c') ∨ Continues x a b c a' b' c' ∨ Continues x a' b' c' a b c := by
  have hforward : ∀ {a b c a' b' c' m : JsString}, x ∉ b → x ∉ b' → a' = a ++ m →
      x :: (b ++ x :: c) = m ++ x :: (b' ++ x :: c') → (a = a' ∧ b = b' ∧ c = c') ∨ Continues x a b c a' b' c' := by
    intro a b c a' b' c' m hb hb' ha hm
    cases m with
    | nil =>
      obtain ⟨rfl, rfl⟩ := (append_cons_inj hb hb').mp (List.cons.inj hm).2
      exact .inl ⟨by rw [ha, List.append_nil], rfl, rfl⟩
    | cons u z =>
      obtain ⟨rfl, hz⟩ := List.cons.inj hm
      refine .inr ?_
      rcases List.append_eq_append_iff.mp hz with ⟨y, rfl, hy⟩ | ⟨y, hy, hc⟩
      · exact ⟨y, ha, hy⟩
      · cases y with
        | nil =>
          rw [List.append_nil] at hy
          exact ⟨[], by rw [ha, ← hy, List.append_nil], by rw [List.nil_append]; exact hc.symm⟩
        | cons v y =>
          obtain ⟨rfl, -⟩ := List.cons.inj hc
          exact absurd (hy ▸ List.mem_append_right z List.mem_cons_self) hb
  constructor
  · intro h
    rcases List.append_eq_append_iff.mp h with ⟨m, ha, hm⟩ | ⟨m, ha, hm⟩
    · exact (hforward hb hb' ha hm).imp_right .inl
    · rcases hforward hb' hb ha hm with ⟨rfl, rfl, rfl⟩ | hcontinues
      · exact .inl ⟨rfl, rfl, rfl⟩
      · exact .inr (.inr hcontinues)
  · rintro (⟨rfl, rfl, rfl⟩ | ⟨y, rfl, hy⟩ | ⟨y, rfl, hy⟩)
    · rfl
    · rw [hy]
      simp
    · rw [hy]
      simp

end Js
