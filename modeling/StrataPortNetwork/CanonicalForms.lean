import StrataPortNetwork.Js.KeyOrder
import StrataPortNetwork.CognitiveState.Store
import StrataPortNetwork.Synaptizer.Learning

/-! # The four canonical forms

Process intelligence, the Synaptizer, the cognitive state store and the cognitive body each
have their own encoder of canonical texts and their own state roots over them.
-/
open Js

/-! ## Process intelligence -/

namespace ProcessIntelligence

mutual

/-- `canonical(value)`. -/
def canonical : Json → JsString
  | .arr items => 91 :: ([44].intercalate (canonicalItems items) ++ [93])
  | .obj fields =>
    let texts := canonicalFields fields
    123 :: ([44].intercalate ((Json.sortKeys (fields.map Prod.fst)).map fun key =>
      quote key ++ 58 :: (texts.lookup key).getD []) ++ [125])
  | .null => stringify .null
  | .bool b => stringify (.bool b)
  | .num x => stringify (.num x)
  | .str s => stringify (.str s)

def canonicalItems : List Json → List JsString
  | [] => []
  | v :: rest => canonical v :: canonicalItems rest

def canonicalFields : Fields → List (JsString × JsString)
  | [] => []
  | f :: rest => (f.1, canonical f.2) :: canonicalFields rest

end

/-- What `stateRoot` hashes. -/
def hashed (label : String) (value : Json) : Bytes := utf8Encode (js label ++ 58 :: canonical value)

/-- `stateRoot(label, value)`. -/
def stateRoot (digest : Synaptic.Digest) (label : String) (value : Json) : JsString :=
  js "sha256:" ++ digest.hex (hashed label value)

theorem canonicalItems_eq_map (items : List Json) : canonicalItems items = items.map canonical := by
  induction items with
  | nil => rfl
  | cons v rest ih => rw [canonicalItems, ih, List.map_cons]

theorem canonicalFields_eq_map (fields : Fields) : canonicalFields fields = fields.map fun f => (f.1, canonical f.2) := by
  induction fields with
  | nil => rfl
  | cons f rest ih => rw [canonicalFields, ih, List.map_cons]

theorem canonicalEncoder : CanonicalEncoder canonical where
  null := by rw [canonical]
  bool b := by rw [canonical]
  num x := by rw [canonical]
  str s := by rw [canonical]
  arr items := by rw [canonical, canonicalItems_eq_map]
  obj fields hnodup := by rw [canonical, canonicalFields_eq_map, map_sortKeys_lookup hnodup]

end ProcessIntelligence

/-! ## The cognitive body -/

namespace CognitiveBody

structure CognitiveBodyError where
  code : String
  message : JsString
  deriving DecidableEq

abbrev Outcome := Except CognitiveBodyError

mutual

/-- `canonicalize(value)`. -/
def canonicalize : Json → JsString
  | .null => stringify .null
  | .bool b => stringify (.bool b)
  | .num x => stringify (.num x)
  | .str s => stringify (.str s)
  | .arr items => 91 :: ([44].intercalate (canonicalizeItems items) ++ [93])
  | .obj fields =>
    let keys := Json.sortKeys (fields.map Prod.fst)
    let texts := canonicalizeFields fields
    123 :: ([44].intercalate (keys.map fun key => quote key ++ 58 :: (texts.lookup key).getD []) ++ [125])

def canonicalizeItems : List Json → List JsString
  | [] => []
  | v :: rest => canonicalize v :: canonicalizeItems rest

def canonicalizeFields : Fields → List (JsString × JsString)
  | [] => []
  | f :: rest => (f.1, canonicalize f.2) :: canonicalizeFields rest

end

/-- What `cognitiveStateRoot` hashes, a zero byte after the label. -/
def hashed (label : String) (value : Json) : Bytes := utf8Encode (js label) ++ 0 :: utf8Encode (canonicalize value)

/-- `cognitiveStateRoot(label, value)`, which is not prefixed. -/
def cognitiveStateRoot (digest : Synaptic.Digest) (label : String) (value : Json) : Outcome JsString := do
  ensure (label ≠ "") ⟨"invalid_state_root_label", js "state-root label must be a non-empty string"⟩
  pure (digest.hex (hashed label value))

theorem canonicalizeItems_eq_map (items : List Json) : canonicalizeItems items = items.map canonicalize := by
  induction items with
  | nil => rfl
  | cons v rest ih => rw [canonicalizeItems, ih, List.map_cons]

theorem canonicalizeFields_eq_map (fields : Fields) :
    canonicalizeFields fields = fields.map fun f => (f.1, canonicalize f.2) := by
  induction fields with
  | nil => rfl
  | cons f rest ih => rw [canonicalizeFields, ih, List.map_cons]

theorem canonicalEncoder : CanonicalEncoder canonicalize where
  null := by rw [canonicalize]
  bool b := by rw [canonicalize]
  num x := by rw [canonicalize]
  str s := by rw [canonicalize]
  arr items := by rw [canonicalize, canonicalizeItems_eq_map]
  obj fields hnodup := by rw [canonicalize, canonicalizeFields_eq_map, map_sortKeys_lookup hnodup]

end CognitiveBody

/-! ## The cognitive state store -/

namespace CognitiveState

theorem canonicalItems_eq_map (items : List Json) : canonicalItems items = items.map canonical := by
  induction items with
  | nil => rfl
  | cons v rest ih => rw [canonicalItems, ih, List.map_cons]

theorem canonicalFields_eq_map (fields : Fields) : canonicalFields fields = fields.map fun f => (f.1, canonical f.2) := by
  induction fields with
  | nil => rfl
  | cons f rest ih => rw [canonicalFields, ih, List.map_cons]

theorem canonicalEncoder : CanonicalEncoder canonical where
  null := by rw [canonical] <;> simp
  bool b := by rw [canonical] <;> simp
  num x := by rw [canonical] <;> simp
  str s := by rw [canonical] <;> simp
  arr items := by rw [canonical, canonicalItems_eq_map]
  obj fields hnodup := by
    rw [canonical, canonicalFields_eq_map, List.map_map, ← map_sortKeys_lookup hnodup canonical]
    rfl

end CognitiveState

/-! ## The Synaptizer -/

namespace Synaptic

/-- `synapticStateRoot(label, value)` with any label. -/
def synapticStateRoot (digest : Digest) (label : String) (value : Json) : Outcome JsString := do
  ensure (label ≠ "") ⟨"invalid_state_root_label", "Synaptizer state-root label is required"⟩
  pure (stateRoot digest label value)

theorem length_hex (digest : Digest) (bytes : Bytes) : (digest.hex bytes).length = 64 := by
  have hmatches := Regex.matches_run.mp ((Regex.accepts_iff _ _).mp (digest.hex_accepts bytes))
  omega

theorem join_eq_intercalate (parts : List JsString) : join parts = [44].intercalate parts := by
  induction parts with
  | nil => rfl
  | cons s rest ih =>
    cases rest with
    | nil => simp [join]
    | cons t rest =>
      have hjoin : join (s :: t :: rest) = s ++ 44 :: join (t :: rest) := rfl
      rw [hjoin, ih, List.intercalate_cons_cons, List.append_assoc, List.singleton_append]

theorem canonicalItems_eq_map (items : List Json) : canonicalItems items = items.map canonical := by
  induction items with
  | nil => rfl
  | cons v rest ih => rw [canonicalItems, ih, List.map_cons]

theorem canonicalEntries_eq_map (fields : Fields) :
    canonicalEntries fields = fields.map fun f => (f.1, quote f.1 ++ 58 :: canonical f.2) := by
  induction fields with
  | nil => rfl
  | cons f rest ih => rw [canonicalEntries, ih, List.map_cons]

theorem canonicalEncoder : CanonicalEncoder canonical where
  null := by rw [canonical, stringify]
  bool b := by rw [canonical]
  num x := by rw [canonical, stringify]
  str s := by rw [canonical, stringify]
  arr items := by rw [canonical, canonicalItems_eq_map, join_eq_intercalate]
  obj fields hnodup := by
    have hsort : sortEntries (canonicalEntries fields) = sortOn Prod.fst (canonicalEntries fields) := rfl
    rw [canonical, hsort, canonicalEntries_eq_map, sortOn_map, List.map_map, join_eq_intercalate]
    rfl

end Synaptic

/-! ## One form and one root -/

/-- The modules with a canonical form of their own. -/
inductive StateModule
  | process
  | synaptizer
  | store
  | body
  deriving DecidableEq

namespace StateModule

def text : StateModule → Json → JsString
  | process => ProcessIntelligence.canonical
  | synaptizer => Synaptic.canonical
  | store => CognitiveState.canonical
  | body => CognitiveBody.canonicalize

/-- What the module hashes for a root. -/
def hashed (label : String) (value : Json) : StateModule → Bytes
  | process => ProcessIntelligence.hashed label value
  | synaptizer => utf8Encode (js label ++ js ":" ++ Synaptic.canonical value)
  | store => utf8Encode (CognitiveState.rootText label value)
  | body => CognitiveBody.hashed label value

/-- The root that the module gives, if it takes the label. -/
def root (digest : Synaptic.Digest) (label : String) (value : Json) : StateModule → Option JsString
  | process => some (ProcessIntelligence.stateRoot digest label value)
  | synaptizer => (Synaptic.synapticStateRoot digest label value).toOption
  | store => (CognitiveState.persistentStateRoot digest.hex label value).toOption
  | body => (CognitiveBody.cognitiveStateRoot digest label value).toOption

theorem canonicalEncoder (m : StateModule) : CanonicalEncoder m.text := by
  cases m
  · exact ProcessIntelligence.canonicalEncoder
  · exact Synaptic.canonicalEncoder
  · exact CognitiveState.canonicalEncoder
  · exact CognitiveBody.canonicalEncoder

/-- What stands before the hash. -/
def tag : StateModule → JsString
  | body => []
  | _ => js "sha256:"

/-- What stands between the label and the text. -/
def separator : StateModule → UInt8
  | body => 0
  | _ => 58

theorem ok_of_toOption {ε : Type} {x : Except ε JsString} {r : JsString} (h : x.toOption = some r) : x = .ok r := by
  cases x with
  | error e => cases h
  | ok s => exact congrArg Except.ok (Option.some.inj h)

theorem root_eq {digest : Synaptic.Digest} {label : String} {value : Json} {m : StateModule} {r : JsString}
    (h : m.root digest label value = some r) : r = m.tag ++ digest.hex (m.hashed label value) := by
  cases m with
  | process => exact (Option.some.inj h).symm
  | synaptizer =>
    obtain ⟨-, -, hr⟩ := bind_eq_ok.mp (ok_of_toOption h)
    exact (Except.ok.inj hr).symm
  | store =>
    obtain ⟨-, -, hr⟩ := bind_eq_ok.mp (ok_of_toOption h)
    exact (Except.ok.inj hr).symm
  | body =>
    obtain ⟨-, -, hr⟩ := bind_eq_ok.mp (ok_of_toOption h)
    exact (Except.ok.inj hr).symm

theorem hashed_eq (label : String) (value : Json) (m : StateModule) :
    m.hashed label value = utf8Encode (js label) ++ m.separator :: utf8Encode (m.text value) := by
  have hcolon : ∀ text : JsString, utf8Encode (js label ++ 58 :: text) = utf8Encode (js label) ++ 58 :: utf8Encode text :=
    fun text => utf8Encode_append_ascii (js label) (by decide) text
  cases m with
  | process => exact hcolon _
  | synaptizer =>
    rw [hashed, List.append_assoc]
    exact hcolon _
  | store => exact hcolon _
  | body => rfl

/-- Bytes under one label and separator determine the text. -/
theorem text_eq_of_hashed {label : String} {m m' : StateModule} {v w : Json} (hv : v.Keyed) (hw : w.Keyed)
    (htag : m.tag = m'.tag) (h : m.hashed label v = m'.hashed label w) : m.text v = m'.text w := by
  have hseparator : m.separator = m'.separator := by
    revert htag
    cases m <;> cases m' <;> decide
  rw [hashed_eq, hashed_eq, hseparator] at h
  exact utf8Encode_injOn (m.canonicalEncoder.wellFormed hv) (m'.canonicalEncoder.wellFormed hw)
    (List.cons.inj (List.append_cancel_left h)).2

/-- One root under one label: the roots carry the same tag and, unless hashes collide, come
from values equal up to the order of keys. -/
theorem reordered_of_root {digest : Synaptic.Digest} {label : String} {m m' : StateModule} {v w : Json} (hv : v.Keyed)
    (hw : w.Keyed) (hdigest : Set.InjOn digest.hex {m.hashed label v, m'.hashed label w}) {r : JsString}
    (h : m.root digest label v = some r) (h' : m'.root digest label w = some r) : Json.Reordered v w := by
  have heq : m.tag ++ digest.hex (m.hashed label v) = m'.tag ++ digest.hex (m'.hashed label w) :=
    (root_eq h).symm.trans (root_eq h')
  obtain ⟨htag, hhex⟩ := List.append_inj' heq (by rw [Synaptic.length_hex, Synaptic.length_hex])
  have hbytes := hdigest (Set.mem_insert _ _) (Set.mem_insert_of_mem _ rfl) hhex
  exact (m.canonicalEncoder.eq_iff_reordered m'.canonicalEncoder hv hw).mp (text_eq_of_hashed hv hw htag hbytes)

/-- The four encoders give every value in memory one text, whatever the order its keys were
inserted in; values with one text, and unless hashes collide values with one root under one
label, are equal up to that order. -/
theorem one_canonical_form (m m' : StateModule) (v w : CognitiveState.Value) :
    m.text v.json = m'.text v.json ∧
    (v.json.Reordered w.json → m.text v.json = m.text w.json) ∧
    (m.text v.json = m'.text w.json → v.json.Reordered w.json) ∧
    ∀ (digest : Synaptic.Digest) (label : String) (r : JsString),
      Set.InjOn digest.hex {m.hashed label v.json, m'.hashed label w.json} →
      m.root digest label v.json = some r → m'.root digest label w.json = some r → v.json.Reordered w.json := by
  have hv : v.json.Keyed := v.rebuilt ▸ Json.keyed_rebuild v.json
  have hw : w.json.Keyed := w.rebuilt ▸ Json.keyed_rebuild w.json
  refine ⟨?_, ?_, ?_, fun digest label r hdigest => reordered_of_root hv hw hdigest⟩
  · exact (m.canonicalEncoder.eq_iff_reordered m'.canonicalEncoder hv hv).mpr (.refl _)
  · exact (m.canonicalEncoder.eq_iff_reordered m.canonicalEncoder hv hw).mpr
  · exact (m.canonicalEncoder.eq_iff_reordered m'.canonicalEncoder hv hw).mp

namespace Sample

/-- One state, with its keys inserted in two orders. -/
def state : CognitiveState.Value where
  json := .record [("sequence", .int 1), ("graph", .record [("nodes", .arr [.null]), ("edges", .arr [])])]
  rebuilt := by rfl

def reinserted : CognitiveState.Value where
  json := .record [("graph", .record [("edges", .arr []), ("nodes", .arr [.null])]), ("sequence", .int 1)]
  rebuilt := by rfl

def zeros : Synaptic.Digest where
  hex _ := List.replicate 64 48
  hex_accepts _ := by decide +kernel

theorem reordered_state : state.json.Reordered reinserted.json := by
  refine .trans (.field [(js "sequence", .int 1)] (js "graph") [] (.perm (List.Perm.swap _ _ []))) (.perm (List.Perm.swap _ _ []))

/-- Both orders have one text and one root in process intelligence and in the store. -/
theorem one_root : process.text state.json = store.text state.json ∧
    process.text state.json = process.text reinserted.json ∧
    process.root zeros "state" state.json = store.root zeros "state" reinserted.json ∧
    state.json.Reordered reinserted.json := by
  obtain ⟨hmodules, horder, -, hroots⟩ := one_canonical_form .process .store state reinserted
  have htext : process.text state.json = store.text reinserted.json :=
    (horder reordered_state).trans (one_canonical_form .process .store reinserted state).1
  have hbytes : process.hashed "state" state.json = store.hashed "state" reinserted.json := by
    rw [hashed_eq, hashed_eq, htext]
    rfl
  have hroot : store.root zeros "state" reinserted.json = process.root zeros "state" state.json := rfl
  refine ⟨hmodules, horder reordered_state, hroot.symm, hroots zeros "state" _ ?_ rfl hroot⟩
  rw [hbytes]
  simp

end Sample

end StateModule
