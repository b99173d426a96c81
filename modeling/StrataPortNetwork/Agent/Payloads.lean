import StrataPortNetwork.Agent.Sample

/-! # Payloads of envelopes

`validatePayload` walks a payload with a counter of its depth. It accepts a tree exactly when each
value in it, at its depth, is one that it accepts there.
-/
namespace Agent
open Js

/-- The value occurs in the first one, so many levels below it. -/
inductive Occurs : Json → ℕ → Json → Prop
  | here (v : Json) : Occurs v 0 v
  | item {items : List Json} {v w : Json} {depth : ℕ} (hv : v ∈ items) (inside : Occurs v depth w) :
    Occurs (.arr items) (depth + 1) w
  | entry {fields : Fields} {f : JsString × Json} {w : Json} {depth : ℕ} (hf : f ∈ fields) (inside : Occurs f.2 depth w) :
    Occurs (.obj fields) (depth + 1) w

/-- No control character of ASCII. -/
def Printable (s : JsString) : Prop := ∀ u ∈ s, 32 ≤ u.toNat ∧ u.toNat ≠ 127

/-- A key of an object in a payload. -/
structure KeySafe (key : JsString) : Prop where
  nonempty : 1 ≤ key.length
  short : key.length ≤ 128
  printable : Printable key
  harmless : toLowerCase key ∉ forbiddenPayloadKeys.map js

/-- A value of a payload, apart from what is inside it. -/
def ValueSafe : Json → Prop
  | .str s => s.length ≤ 4096 ∧ Printable s
  | .arr items => items.length ≤ 128
  | .obj fields => fields.length ≤ 128 ∧ ∀ f ∈ fields, KeySafe f.1
  | _ => True

/-- Every value in the tree is safe, and none is deeper than eight levels below a payload. -/
def TreeSafe (v : Json) (depth : ℕ) : Prop := ∀ below w, Occurs v below w → depth + below ≤ 8 ∧ ValueSafe w

theorem boundedString_str {s : JsString} {least most : ℕ} :
    boundedString (some (.str s)) least most = true ↔ least ≤ s.length ∧ s.length ≤ most ∧ Printable s := by
  simp only [boundedString, Bool.and_eq_true, decide_eq_true_eq, Bool.not_eq_true', List.any_eq_false, Bool.or_eq_true,
    beq_iff_eq, not_or, not_le, and_assoc, Printable]
  refine and_congr_right fun _ => and_congr_right fun _ => forall_congr' fun u => forall_congr' fun _ => ?_
  omega

/-! ## One level -/

theorem treeSafe_leaf {v : Json} {depth : ℕ} (hleaf : ∀ below w, Occurs v below w → below = 0 ∧ w = v) :
    TreeSafe v depth ↔ depth ≤ 8 ∧ ValueSafe v := by
  constructor
  · exact fun h => h 0 v (.here v)
  · rintro ⟨hdepth, hsafe⟩ below w hw
    obtain ⟨rfl, rfl⟩ := hleaf below w hw
    exact ⟨hdepth, hsafe⟩

theorem treeSafe_arr {items : List Json} {depth : ℕ} : TreeSafe (.arr items) depth ↔
    depth ≤ 8 ∧ items.length ≤ 128 ∧ ∀ v ∈ items, TreeSafe v (depth + 1) := by
  constructor
  · intro h
    obtain ⟨hdepth, hlength⟩ := h 0 _ (.here _)
    refine ⟨hdepth, hlength, fun v hv below w hw => ?_⟩
    obtain ⟨hbelow, hsafe⟩ := h (below + 1) w (.item hv hw)
    exact ⟨by omega, hsafe⟩
  · rintro ⟨hdepth, hlength, hall⟩ below w hw
    cases hw with
    | here => exact ⟨hdepth, hlength⟩
    | item hv inside =>
      obtain ⟨hbelow, hsafe⟩ := hall _ hv _ w inside
      exact ⟨by omega, hsafe⟩

theorem treeSafe_obj {fields : Fields} {depth : ℕ} : TreeSafe (.obj fields) depth ↔
    depth ≤ 8 ∧ fields.length ≤ 128 ∧ ∀ f ∈ fields, KeySafe f.1 ∧ TreeSafe f.2 (depth + 1) := by
  constructor
  · intro h
    obtain ⟨hdepth, hlength, hkeys⟩ := h 0 _ (.here _)
    refine ⟨hdepth, hlength, fun f hf => ⟨hkeys f hf, fun below w hw => ?_⟩⟩
    obtain ⟨hbelow, hsafe⟩ := h (below + 1) w (.entry hf hw)
    exact ⟨by omega, hsafe⟩
  · rintro ⟨hdepth, hlength, hall⟩ below w hw
    cases hw with
    | here => exact ⟨hdepth, hlength, fun f hf => (hall f hf).1⟩
    | entry hf inside =>
      obtain ⟨hbelow, hsafe⟩ := (hall _ hf).2 _ w inside
      exact ⟨by omega, hsafe⟩

theorem require_key_iff {key : JsString} : require "sensitive_payload_forbidden" (boundedString (some (.str key)) 1 128 &&
    !(forbiddenPayloadKeys.map js).contains (toLowerCase key)) = .ok () ↔ KeySafe key := by
  rw [require_eq_ok, Bool.and_eq_true, boundedString_str, Bool.not_eq_true', List.contains_eq_mem, decide_eq_false_iff_not]
  constructor
  · rintro ⟨⟨hnonempty, hshort, hprintable⟩, hharmless⟩
    exact ⟨hnonempty, hshort, hprintable, hharmless⟩
  · rintro ⟨hnonempty, hshort, hprintable, hharmless⟩
    exact ⟨⟨hnonempty, hshort, hprintable⟩, hharmless⟩

/-! ## The whole tree -/

mutual

/-- The walk accepts the trees that are safe. -/
theorem validatePayload_eq_ok : (v : Json) → (depth : ℕ) → (validatePayload v depth = .ok () ↔ TreeSafe v depth)
  | .null, depth => by
    rw [treeSafe_leaf (by rintro _ _ ⟨⟩; exact ⟨rfl, rfl⟩)]
    simp [validatePayload, ValueSafe]
  | .bool b, depth => by
    rw [treeSafe_leaf (by rintro _ _ ⟨⟩; exact ⟨rfl, rfl⟩)]
    simp [validatePayload, ValueSafe]
  | .num x, depth => by
    rw [treeSafe_leaf (by rintro _ _ ⟨⟩; exact ⟨rfl, rfl⟩)]
    simp [validatePayload, ValueSafe]
  | .str s, depth => by
    rw [treeSafe_leaf (by rintro _ _ ⟨⟩; exact ⟨rfl, rfl⟩)]
    simp [validatePayload, ValueSafe, boundedString_str]
  | .arr items, depth => by
    rw [treeSafe_arr]
    simp [validatePayload, validateItems_eq_ok items]
  | .obj fields, depth => by
    rw [treeSafe_obj]
    simp [validatePayload, validateFields_eq_ok fields]

theorem validateItems_eq_ok : (items : List Json) → (depth : ℕ) →
    (validateItems items depth = .ok () ↔ ∀ v ∈ items, TreeSafe v depth)
  | [], depth => by simp [validateItems]
  | v :: rest, depth => by
    simp [validateItems, validatePayload_eq_ok v depth, validateItems_eq_ok rest depth]

theorem validateFields_eq_ok : (fields : Fields) → (depth : ℕ) →
    (validateFields fields depth = .ok () ↔ ∀ f ∈ fields, KeySafe f.1 ∧ TreeSafe f.2 depth)
  | [], depth => by simp [validateFields]
  | (key, v) :: rest, depth => by
    rw [List.forall_mem_cons, ← validateFields_eq_ok rest depth, ← validatePayload_eq_ok v depth, ← require_key_iff, validateFields]
    simp only [bind_eq_ok]
    constructor
    · rintro ⟨⟨⟩, hkey, ⟨⟩, hv, hrest⟩
      exact ⟨⟨hkey, hv⟩, hrest⟩
    · rintro ⟨⟨hkey, hv⟩, hrest⟩
      exact ⟨(), hkey, (), hv, hrest⟩

end

namespace Sample

end Sample

end Agent
