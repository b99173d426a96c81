import StrataPortNetwork.CognitiveState.Store
import StrataPortNetwork.ExternalProof.Challenge
import StrataPortNetwork.Js.Untied

/-! # Canonical texts of receipts

`canonicalize` orders keys by `localeCompare`, which takes some different strings for equal. The
text, and with it what is signed, is independent of the order of insertion for exactly the
values in which no two such keys meet.
-/
namespace ExternalProof
open Js
open CognitiveState (Value)

/-- The text stands for the value up to the order of keys, and so do the bytes that are signed. -/
structure Canonical (collation : Collation) (v : Value) : Prop where
  text : ∀ w : Value, canonicalize collation v.json = canonicalize collation w.json ↔ v.json.Reordered w.json
  parsed : ∃ u, parse (canonicalize collation v.json) = some u ∧ v.json.Reordered u
  bytes : ∀ w : Value, canonicalBytes collation v.json = canonicalBytes collation w.json ↔ v.json.Reordered w.json

variable {collation : Collation}

theorem canonicalize_eq_iff {v w : Json} : canonicalize collation v = canonicalize collation w ↔
    v.collated collation = w.collated collation := by
  rw [canonicalize_eq, canonicalize_eq]
  exact stringify_injective.eq_iff

theorem canonicalBytes_eq_iff {v w : Json} : canonicalBytes collation v = canonicalBytes collation w ↔
    v.collated collation = w.collated collation := by
  rw [canonicalBytes, canonicalBytes, canonicalize_eq, canonicalize_eq]
  exact utf8_stringify_injective.eq_iff

/-- A text with distinct keys reads back as the value whatever the collation. -/
theorem parse_canonicalize (v : Value) : ∃ u, parse (canonicalize collation v.json) = some u ∧ v.json.Reordered u := by
  obtain ⟨u, hparse, hreordered, -⟩ := (Json.keyed_of_rebuild v.rebuilt).parse_collated collation
  rw [canonicalize_eq]
  exact ⟨u, hparse, hreordered⟩

theorem collated_eq_iff {v w : Value} (h : v.json.Untied collation) :
    v.json.collated collation = w.json.collated collation ↔ v.json.Reordered w.json :=
  ⟨Json.reordered_of_collated_eq collation,
    fun hreordered => h.collated_eq v.rebuilt w.rebuilt (hreordered.sorted_eq (Json.keyed_of_rebuild v.rebuilt)).2⟩

/-- The canonical form of a value is canonical exactly when no object in it has two different
keys, neither an index, that the collation ties. -/
theorem canonical_iff_untied (collation : Collation) (v : Value) : Canonical collation v ↔ v.json.Untied collation := by
  constructor
  · intro h
    refine Json.untied_of_collated v.rebuilt fun w hw hreordered => ?_
    exact canonicalize_eq_iff.mp ((h.text ⟨w, hw⟩).mpr hreordered)
  · intro h
    exact ⟨fun w => canonicalize_eq_iff.trans (collated_eq_iff h), parse_canonicalize v,
      fun w => canonicalBytes_eq_iff.trans (collated_eq_iff h)⟩

namespace Sample

/-- The letter Å as a letter, and as the unit of length. -/
def letter : JsString := [0xC5]

def unit : JsString := [0x212B]

/-- The two are canonically equivalent. -/
def normal (s : JsString) : JsString := s.map fun u => if u = 0x212B then 0xC5 else u

def equivalence : Collation := ⟨fun a b => Json.leUnits (normal a) (normal b), fun _ _ => Json.leUnits_total _ _,
  fun _ _ _ => Json.leUnits_trans⟩

def spelled : Value := ⟨.obj [(letter, .int 1), (unit, .int 2)], by rfl⟩
def respelled : Value := ⟨.obj [(unit, .int 2), (letter, .int 1)], by rfl⟩

/-- Two orders of one value with two texts. -/
theorem spelled_order : ¬ ∀ v w : Value, canonicalize equivalence v.json = canonicalize equivalence w.json ↔
    v.json.Reordered w.json := by
  intro h
  have htext := (h spelled respelled).mpr (.perm (List.Perm.swap _ _ []))
  exact absurd htext (by decide +kernel)

end Sample

end ExternalProof
