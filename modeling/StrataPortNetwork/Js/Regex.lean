import StrataPortNetwork.Js.Json

/-! # Anchored regular expressions

The patterns of the form `/^…$/` over code units: literals, bounded runs of a character
class, sequence, choice and iteration. `test` runs derivatives over the string and
decides the matching relation; applied to a value that is no string it coerces first,
as `RegExp.prototype.test` does.
-/
namespace Js

/-- A character class as inclusive ranges of code units. -/
abbrev CharClass := List (ℕ × ℕ)

def CharClass.has (cls : CharClass) (u : UInt16) : Bool :=
  cls.any fun r => r.1 ≤ u.toNat && u.toNat ≤ r.2

theorem CharClass.has_append (cls cls' : CharClass) (u : UInt16) : CharClass.has (cls ++ cls') u = (cls.has u || cls'.has u) :=
  List.any_append

inductive Regex
  | never
  | lit (s : JsString)
  /-- `[cls]{least,most}` -/
  | run (cls : CharClass) (least most : ℕ)
  | seq (a b : Regex)
  | alt (a b : Regex)
  | star (a : Regex)

namespace Regex

def nullable : Regex → Bool
  | never => false
  | lit s => s.isEmpty
  | run _ least _ => least = 0
  | seq a b => nullable a && nullable b
  | alt a b => nullable a || nullable b
  | star _ => true

/-- Sequence and choice that drop a branch without matches. -/
def mkSeq : Regex → Regex → Regex
  | never, _ => never
  | a, b => seq a b

def mkAlt : Regex → Regex → Regex
  | never, b => b
  | a, never => a
  | a, b => alt a b

def deriv (u : UInt16) : Regex → Regex
  | never => never
  | lit [] => never
  | lit (v :: s) => if v = u then lit s else never
  | run cls least most => if cls.has u && 0 < most then run cls (least - 1) (most - 1) else never
  | seq a b => if nullable a then mkAlt (mkSeq (deriv u a) b) (deriv u b) else mkSeq (deriv u a) b
  | alt a b => mkAlt (deriv u a) (deriv u b)
  | star a => mkSeq (deriv u a) (star a)

def accepts (r : Regex) (s : JsString) : Bool := nullable (s.foldl (fun r u => deriv u r) r)

/-- `pattern.test(value)`; `none` is the TypeError of the coercion. -/
def test (r : Regex) (v : Option Json) : Option Bool :=
  match v with
  | none => some (r.accepts (js "undefined"))
  | some v => v.toStr?.map r.accepts

/-! ## The matching relation -/

inductive Matches : Regex → JsString → Prop
  | lit (s : JsString) : Matches (lit s) s
  | run {cls : CharClass} {least most : ℕ} {s : JsString} (h : ∀ u ∈ s, cls.has u = true)
      (hl : least ≤ s.length) (hm : s.length ≤ most) : Matches (run cls least most) s
  | seq {a b : Regex} {s t : JsString} : Matches a s → Matches b t → Matches (seq a b) (s ++ t)
  | altLeft {a : Regex} (b : Regex) {s : JsString} : Matches a s → Matches (alt a b) s
  | altRight (a : Regex) {b : Regex} {s : JsString} : Matches b s → Matches (alt a b) s
  | starNil (a : Regex) : Matches (star a) []
  | starCons {a : Regex} {s t : JsString} : Matches a s → Matches (star a) t → Matches (star a) (s ++ t)

theorem matches_lit {s t : JsString} : Matches (.lit s) t ↔ t = s := by
  constructor
  · intro h
    cases h
    rfl
  · rintro rfl
    exact .lit t

theorem matches_seq {a b : Regex} {s : JsString} :
    Matches (.seq a b) s ↔ ∃ t u, s = t ++ u ∧ a.Matches t ∧ b.Matches u := by
  constructor
  · intro h
    cases h with
    | seq ha hb => exact ⟨_, _, rfl, ha, hb⟩
  · rintro ⟨t, u, rfl, ha, hb⟩
    exact .seq ha hb

theorem matches_alt {a b : Regex} {s : JsString} : Matches (.alt a b) s ↔ a.Matches s ∨ b.Matches s := by
  constructor
  · intro h
    cases h with
    | altLeft _ ha => exact Or.inl ha
    | altRight _ hb => exact Or.inr hb
  · rintro (ha | hb)
    · exact .altLeft b ha
    · exact .altRight a hb

theorem matches_run {cls : CharClass} {least most : ℕ} {s : JsString} :
    Matches (.run cls least most) s ↔ (∀ u ∈ s, cls.has u = true) ∧ least ≤ s.length ∧ s.length ≤ most := by
  constructor
  · intro h
    cases h with
    | run hall hl hm => exact ⟨hall, hl, hm⟩
  · rintro ⟨hall, hl, hm⟩
    exact .run hall hl hm

theorem nullable_iff (r : Regex) : nullable r = true ↔ Matches r [] := by
  induction r with
  | never => exact ⟨fun h => absurd h (by simp [nullable]), fun h => by cases h⟩
  | lit s =>
    cases s with
    | nil => exact ⟨fun _ => .lit [], fun _ => rfl⟩
    | cons v s => exact ⟨fun h => absurd h (by simp [nullable]), fun h => by cases h⟩
  | run cls least most =>
    simp only [nullable, decide_eq_true_eq]
    constructor
    · rintro rfl
      exact .run (by simp) (Nat.zero_le _) (Nat.zero_le _)
    · intro h
      cases h with
      | run _ hl _ => simpa using hl
  | seq a b iha ihb =>
    rw [nullable, Bool.and_eq_true, iha, ihb, matches_seq]
    constructor
    · rintro ⟨ha, hb⟩
      exact ⟨[], [], rfl, ha, hb⟩
    · rintro ⟨t, u, hs, ha, hb⟩
      obtain ⟨rfl, rfl⟩ := List.append_eq_nil_iff.mp hs.symm
      exact ⟨ha, hb⟩
  | alt a b iha ihb =>
    rw [nullable, Bool.or_eq_true, iha, ihb, matches_alt]
  | star a _ => exact ⟨fun _ => .starNil a, fun _ => rfl⟩

theorem mkSeq_matches (a b : Regex) (s : JsString) : Matches (mkSeq a b) s ↔ Matches (seq a b) s := by
  cases a with
  | never =>
    constructor
    · intro h
      cases h
    · intro h
      cases h with
      | seq ha _ => cases ha
  | lit _ | run _ _ _ | seq _ _ | alt _ _ | star _ => exact Iff.rfl

theorem mkAlt_matches (a b : Regex) (s : JsString) : Matches (mkAlt a b) s ↔ Matches a s ∨ Matches b s := by
  have hnever : ¬ Matches never s := by
    intro h
    cases h
  cases a with
  | never => exact ⟨Or.inr, fun h => h.resolve_left hnever⟩
  | lit _ | run _ _ _ | seq _ _ | alt _ _ | star _ =>
    cases b with
    | never => exact ⟨Or.inl, fun h => h.resolve_right hnever⟩
    | lit _ | run _ _ _ | seq _ _ | alt _ _ | star _ => exact matches_alt

theorem seq_cons_iff {a b : Regex} {u : UInt16} {w : JsString} :
    Matches (seq a b) (u :: w) ↔
      (∃ s t, w = s ++ t ∧ Matches a (u :: s) ∧ Matches b t) ∨ (Matches a [] ∧ Matches b (u :: w)) := by
  constructor
  · intro h
    generalize hw : u :: w = x at h
    cases h with
    | @seq _ _ s t ha hb =>
      cases s with
      | nil =>
        rw [List.nil_append] at hw
        exact Or.inr ⟨ha, hw ▸ hb⟩
      | cons v s =>
        obtain ⟨rfl, rfl⟩ := List.cons.inj hw
        exact Or.inl ⟨s, t, rfl, ha, hb⟩
  · rintro (⟨s, t, rfl, ha, hb⟩ | ⟨ha, hb⟩)
    · exact .seq ha hb
    · exact .seq ha hb

theorem star_cons_iff {a : Regex} {u : UInt16} {w : JsString} :
    Matches (star a) (u :: w) ↔ ∃ s t, w = s ++ t ∧ Matches a (u :: s) ∧ Matches (star a) t := by
  constructor
  · intro h
    generalize hr : star a = r at h
    generalize hw : u :: w = x at h
    induction h with
    | lit | run | seq | altLeft | altRight => cases hr
    | starNil => cases hw
    | @starCons _ s t ha ht _ iht =>
      cases hr
      cases s with
      | nil => exact iht rfl hw
      | cons v s =>
        obtain ⟨rfl, rfl⟩ := List.cons.inj hw
        exact ⟨s, t, rfl, ha, ht⟩
  · rintro ⟨s, t, rfl, ha, ht⟩
    exact .starCons ha ht

theorem deriv_iff (r : Regex) (u : UInt16) (w : JsString) :
    Matches (deriv u r) w ↔ Matches r (u :: w) := by
  have hseq : ∀ {a b : Regex} {w : JsString},
      (∀ s, Matches (deriv u a) s ↔ Matches a (u :: s)) →
      (Matches (mkSeq (deriv u a) b) w ↔ ∃ s t, w = s ++ t ∧ Matches a (u :: s) ∧ Matches b t) := by
    intro a b w ih
    rw [mkSeq_matches]
    constructor
    · intro h
      cases h with
      | @seq _ _ s t ha hb => exact ⟨s, t, rfl, (ih s).mp ha, hb⟩
    · rintro ⟨s, t, rfl, ha, hb⟩
      exact .seq ((ih s).mpr ha) hb
  induction r generalizing w with
  | never => exact ⟨fun h => (by cases h), fun h => (by cases h)⟩
  | lit s =>
    cases s with
    | nil => exact ⟨fun h => (by cases h), fun h => (by cases h)⟩
    | cons v s =>
      rw [deriv]
      split
      · rename_i hv
        subst hv
        constructor
        · intro h
          cases h
          exact .lit _
        · intro h
          cases h
          exact .lit _
      · rename_i hv
        constructor
        · intro h
          cases h
        · intro h
          cases h
          exact absurd rfl hv
  | run cls least most =>
    rw [deriv]
    split
    · rename_i hc
      rw [Bool.and_eq_true, decide_eq_true_eq] at hc
      constructor
      · intro h
        cases h with
        | run hall hl hm =>
          refine .run ?_ ?_ ?_
          · intro v hv
            rcases List.mem_cons.mp hv with rfl | hv
            · exact hc.1
            · exact hall v hv
          · rw [List.length_cons]
            omega
          · rw [List.length_cons]
            omega
      · intro h
        cases h with
        | run hall hl hm =>
          rw [List.length_cons] at hl hm
          exact .run (fun v hv => hall v (List.mem_cons_of_mem u hv)) (by omega) (by omega)
    · rename_i hc
      rw [Bool.and_eq_true, decide_eq_true_eq] at hc
      constructor
      · intro h
        cases h
      · intro h
        cases h with
        | run hall hl hm =>
          rw [List.length_cons] at hm
          exact absurd ⟨hall u List.mem_cons_self, by omega⟩ hc
  | seq a b iha ihb =>
    rw [deriv, seq_cons_iff, ← nullable_iff a]
    split
    · rename_i hn
      have hb : Matches (deriv u b) w ↔ Matches b (u :: w) := ihb w
      rw [mkAlt_matches, hseq (fun s => iha s), hb]
      simp [hn]
    · rename_i hn
      rw [hseq (fun s => iha s)]
      simp [hn]
  | alt a b iha ihb =>
    have ha : Matches (deriv u a) w ↔ Matches a (u :: w) := iha w
    have hb : Matches (deriv u b) w ↔ Matches b (u :: w) := ihb w
    rw [deriv, mkAlt_matches, ha, hb]
    constructor
    · rintro (ha | hb)
      · exact .altLeft b ha
      · exact .altRight a hb
    · intro h
      cases h with
      | altLeft _ ha => exact Or.inl ha
      | altRight _ hb => exact Or.inr hb
  | star a iha => rw [deriv, hseq (fun s => iha s), star_cons_iff]

/-- The derivative run decides the matching relation. -/
theorem accepts_iff (r : Regex) (s : JsString) : r.accepts s = true ↔ Matches r s := by
  induction s generalizing r with
  | nil => exact nullable_iff r
  | cons u s ih =>
    have h := ih (deriv u r)
    rw [deriv_iff] at h
    exact h

/-! ## Characters of a match -/

/-- The units a pattern can consume. -/
def uses : Regex → UInt16 → Bool
  | never, _ => false
  | lit s, u => s.contains u
  | run cls _ _, u => cls.has u
  | seq a b, u => uses a u || uses b u
  | alt a b, u => uses a u || uses b u
  | star a, u => uses a u

theorem Matches.uses {r : Regex} {s : JsString} (h : Matches r s) : ∀ u ∈ s, r.uses u = true := by
  induction h with
  | lit s =>
    intro u hu
    simpa [Regex.uses] using hu
  | run hall _ _ => exact hall
  | seq _ _ iha ihb =>
    intro u hu
    rw [Regex.uses, Bool.or_eq_true]
    rcases List.mem_append.mp hu with hu | hu
    · exact Or.inl (iha u hu)
    · exact Or.inr (ihb u hu)
  | altLeft _ _ iha =>
    intro u hu
    rw [Regex.uses, Bool.or_eq_true]
    exact Or.inl (iha u hu)
  | altRight _ _ ihb =>
    intro u hu
    rw [Regex.uses, Bool.or_eq_true]
    exact Or.inr (ihb u hu)
  | starNil => simp
  | starCons _ _ iha iht =>
    intro u hu
    rcases List.mem_append.mp hu with hu | hu
    · exact iha u hu
    · exact iht u hu

/-- A unit the pattern cannot consume does not occur in what it accepts. -/
theorem not_mem_of_accepts {r : Regex} {s : JsString} (h : r.accepts s = true) {u : UInt16}
    (hu : r.uses u = false) : u ∉ s := by
  intro hmem
  have := ((accepts_iff r s).mp h).uses u hmem
  rw [hu] at this
  exact absurd this (by simp)

/-! ## Notations of the sources -/

def text (s : String) : Regex := lit (js s)

/-- `[cls]+` -/
def plus (cls : CharClass) : Regex := seq (run cls 1 1) (star (run cls 1 1))

def lower : CharClass := [(97, 122)]
def upper : CharClass := [(65, 90)]
def digits : CharClass := [(48, 57)]
def hex : CharClass := [(97, 102), (48, 57)]

/-! ## Iterated classes -/

theorem matches_star_run {cls : CharClass} {s : JsString} (h : ∀ u ∈ s, cls.has u = true) :
    Matches (.star (.run cls 1 1)) s := by
  induction s with
  | nil => exact .starNil _
  | cons u rest ih =>
    have hone : Matches (.run cls 1 1) [u] :=
      .run (fun v hv => h v (List.mem_cons.mpr (Or.inl (List.mem_singleton.mp hv)))) le_rfl le_rfl
    exact .starCons hone (ih fun v hv => h v (List.mem_cons_of_mem u hv))

/-- A nonempty string over a class matches its iteration. -/
theorem matches_plus {cls : CharClass} {s : JsString} (hne : s ≠ []) (h : ∀ u ∈ s, cls.has u = true) :
    Matches (.plus cls) s := by
  cases s with
  | nil => exact absurd rfl hne
  | cons u rest =>
    have hone : Matches (.run cls 1 1) [u] :=
      .run (fun v hv => h v (List.mem_cons.mpr (Or.inl (List.mem_singleton.mp hv)))) le_rfl le_rfl
    exact .seq hone (matches_star_run fun v hv => h v (List.mem_cons_of_mem u hv))

theorem matches_star_mono {a b : Regex} (h : ∀ s, a.Matches s → b.Matches s) {s : JsString} (hs : (star a).Matches s) :
    (star b).Matches s := by
  generalize hr : star a = r at hs
  induction hs with
  | starNil => exact .starNil b
  | starCons hhead _ _ ih =>
    obtain rfl := star.inj hr
    exact .starCons (h _ hhead) (ih rfl)
  | lit | run | seq | altLeft | altRight => cases hr

/-- Classes with the same characters give the same iterations. -/
theorem matches_plus_congr {cls cls' : CharClass} (h : ∀ u, cls.has u = cls'.has u) {s : JsString}
    (hs : (plus cls).Matches s) : (plus cls').Matches s := by
  have hrun : ∀ s, (run cls 1 1).Matches s → (run cls' 1 1).Matches s := by
    intro s hs
    rw [matches_run] at hs ⊢
    exact ⟨fun u hu => h u ▸ hs.1 u hu, hs.2⟩
  obtain ⟨t, u, rfl, ht, hu⟩ := matches_seq.mp hs
  exact .seq (hrun t ht) (matches_star_mono hrun hu)

end Regex

end Js
