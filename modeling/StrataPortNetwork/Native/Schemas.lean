import StrataPortNetwork.Js.NumberText
import StrataPortNetwork.Native.Sample
import StrataPortNetwork.Native.SignedNames
import Mathlib.Data.List.Chain

/-! # What the native checks accept

Accepted values have exactly the declared fields. A field that is only tested by a pattern is
coerced first: it is an identifier unless it is an array, a boolean or null, whose texts may
match as well.
-/
namespace Native
open Js

/-! ## Exact fields -/

/-- The parts of joined keys are the parts of the keys. -/
theorem parts_of_joined {x : UInt16} {keys names : List JsString} (hbar : ∀ name ∈ names, x ∉ name) (hne : names ≠ [])
    (hkeys : keys ≠ []) (h : [x].intercalate keys = [x].intercalate names) : keys.flatMap (List.splitOn x) = names := by
  rw [← splitOn_intercalate_flatMap hkeys, h]
  exact List.splitOn_intercalate x hbar hne

/-- Keys that join to the text of some names are these names, where of any two names in a row one is a key. -/
theorem eq_of_joined {x : UInt16} {keys names : List JsString} (hbar : ∀ name ∈ names, x ∉ name) (hnodup : names.Nodup)
    (hne : names ≠ []) (hpresent : names.IsChain fun p q => p ∈ keys ∨ q ∈ keys)
    (h : [x].intercalate keys = [x].intercalate names) (hkeys : keys ≠ []) : keys = names := by
  have hparts := parts_of_joined hbar hne hkeys h
  have hwhole : ∀ name ∈ names, name.splitOn x = [name] := fun name hname => List.splitOn_eq_singleton (hbar name hname)
  have hsingle : ∀ key ∈ keys, key.splitOn x = [key] := by
    intro key hkey
    obtain ⟨before, after, hsplit⟩ := List.append_of_mem hkey
    cases hkeyparts : key.splitOn x with
    | nil => exact absurd hkeyparts (List.splitOn_ne_nil x key)
    | cons p rest =>
      cases rest with
      | nil =>
        have hback : [x].intercalate (key.splitOn x) = key := List.intercalate_splitOn x
        rw [hkeyparts, List.intercalate_singleton] at hback
        rw [hback]
      | cons q rest =>
        -- a part that is a key of its own would be a name twice
        have hnames : names = before.flatMap (List.splitOn x) ++ p :: q :: (rest ++ after.flatMap (List.splitOn x)) := by
          rw [← hparts, hsplit, List.flatMap_append, List.flatMap_cons, hkeyparts]
          simp
        have htwice : ∀ part, part ∈ [p, q] → part ∉ keys := by
          intro part hpart hmem
          have hname : part ∈ names := by
            rw [hnames]
            simp only [List.mem_cons, List.not_mem_nil, or_false] at hpart
            rcases hpart with rfl | rfl <;> simp
          have hown := hwhole part hname
          have hne : part ≠ key := by
            rintro rfl
            rw [hkeyparts] at hown
            exact absurd (congrArg List.length hown) (by simp)
          rw [hsplit, List.mem_append, List.mem_cons] at hmem
          rw [hnames, List.nodup_append] at hnodup
          obtain ⟨-, hlater, hapart⟩ := hnodup
          have hfrom : ∀ l : List JsString, part ∈ l → part ∈ l.flatMap (List.splitOn x) :=
            fun l hl => List.mem_flatMap.mpr ⟨part, hl, hown ▸ List.mem_singleton_self part⟩
          simp only [List.mem_cons, List.not_mem_nil, or_false] at hpart
          rcases hmem with hmem | hmem | hmem
          · exact hapart part (hfrom before hmem) part (by rcases hpart with rfl | rfl <;> simp) rfl
          · exact hne hmem
          · have := hfrom after hmem
            simp only [List.nodup_cons, List.mem_cons, List.mem_append, not_or] at hlater
            rcases hpart with rfl | rfl
            · exact hlater.1.2.2 this
            · exact hlater.2.1.2 this
        have hinfix : [p, q] <:+: names := ⟨_, _, by rw [hnames, List.append_assoc]; rfl⟩
        have hpair := List.IsChain.infix hpresent hinfix
        rcases (List.isChain_cons_cons.mp hpair).1 with hp | hq
        · exact absurd hp (htwice p (by simp))
        · exact absurd hq (htwice q (by simp))
  rw [← hparts, List.flatMap_congr hsingle, List.flatMap_singleton']

/-- Exact fields are the declared ones, where of any two in the order of their names one is there. -/
theorem HasFields.of_exact {v : Json} {names sorted : List String} (hsorted : Json.sortKeys (names.map js) = sorted.map js)
    (hbar : ∀ name ∈ names, (124 : UInt16) ∉ js name) (hnodup : names.Nodup) (hne : names ≠ []) (hsome : ∃ name, (v.get name).isSome = true)
    (hpresent : sorted.IsChain fun p q => (v.get p).isSome = true ∨ (v.get q).isSome = true)
    (h : exactFields (some v) names = .ok ()) : HasFields v names := by
  obtain ⟨own, hown, hkeys⟩ := exactFields_eq_ok.mp h
  rw [Option.some.injEq] at hown
  subst hown
  have hperm : ∀ keys : List JsString, (Json.sortKeys keys).Perm keys := fun keys => List.perm_insertionSort _ keys
  have hmem : ∀ name, ((Json.obj own).get name).isSome = true → js name ∈ Json.sortKeys (own.map Prod.fst) := by
    intro name hname
    obtain ⟨w, hw⟩ := Option.isSome_iff_exists.mp hname
    exact (hperm _).mem_iff.mpr (mem_keys_of_get hw)
  obtain ⟨name, hname⟩ := hsome
  have hown : Json.sortKeys (own.map Prod.fst) ≠ [] := List.ne_nil_of_mem (hmem name hname)
  have hchain : (Json.sortKeys (names.map js)).IsChain fun p q =>
      p ∈ Json.sortKeys (own.map Prod.fst) ∨ q ∈ Json.sortKeys (own.map Prod.fst) := by
    rw [hsorted, List.isChain_map]
    exact hpresent.imp fun p q h => h.imp (hmem p) (hmem q)
  have hnames : Json.sortKeys (names.map js) ≠ [] := by
    intro hnil
    have hlength := (hperm (names.map js)).length_eq
    rw [hnil, List.length_map, List.length_nil] at hlength
    exact hne (List.length_eq_zero_iff.mp hlength.symm)
  have heq := eq_of_joined (fun key hkey => ?_) ((hperm _).nodup_iff.mpr (hnodup.map js_injective)) hnames hchain hkeys hown
  · exact ⟨own, rfl, (hperm _).symm.trans (heq ▸ hperm _)⟩
  · obtain ⟨name, hname, rfl⟩ := List.mem_map.mp ((hperm _).mem_iff.mp hkey)
    exact hbar name hname

/-! ## Identifiers -/

/-- A string that matches the pattern. -/
def Identifier (pattern : Regex) (v : Option Json) : Prop := ∃ s, v = some (.str s) ∧ pattern.accepts s = true

/-- A value whose text is not that of null, of a boolean or of an array. -/
def Uncoerced : Option Json → Prop
  | some .null => False
  | some (.bool _) => False
  | some (.arr _) => False
  | _ => True

/-- A pattern that no number and no object has a text for. -/
structure TextOnly (pattern : Regex) : Prop where
  number : ∀ x : JsNumber, pattern.accepts x.toText = false
  object : pattern.accepts (js "[object Object]") = false

/-- A tested field is an identifier unless it was coerced. -/
theorem TextOnly.identifier_iff {pattern : Regex} (hpattern : TextOnly pattern) {v : Option Json} (hv : v.isSome = true)
    (h : pattern.test v = some true) : Identifier pattern v ↔ Uncoerced v := by
  cases v with
  | none => cases hv
  | some v =>
    obtain ⟨text, htext, haccepts⟩ := Option.map_eq_some_iff.mp h
    constructor
    · rintro ⟨s, hs, -⟩
      rw [hs]
      trivial
    · intro huncoerced
      cases v with
      | null | bool _ | arr _ => cases huncoerced
      | str s => exact ⟨s, rfl, (Option.some.inj htext) ▸ haccepts⟩
      | num x =>
        obtain rfl := Option.some.inj htext
        rw [hpattern.number x] at haccepts
        cases haccepts
      | obj fields =>
        rw [Json.toStr?] at htext
        split at htext
        · cases htext
        · obtain rfl := Option.some.inj htext
          rw [hpattern.object] at haccepts
          cases haccepts

theorem textOnly_capability : TextOnly capabilityPattern :=
  ⟨not_accepts_of_letter (by decide) _, by decide +kernel⟩

theorem textOnly_version : TextOnly versionPattern := ⟨not_accepts_of_points _ _ _, by decide +kernel⟩

theorem textOnly_adapterId : TextOnly adapterIdPattern := ⟨not_accepts_of_letter (by decide) _, by decide +kernel⟩

theorem textOnly_substrate : TextOnly substratePattern := ⟨not_accepts_of_letter (by decide) _, by decide +kernel⟩

theorem textOnly_hex32 : TextOnly hex32 := ⟨not_accepts_of_long (by decide) (by decide), by decide +kernel⟩

theorem textOnly_hex64 : TextOnly hex64 := ⟨not_accepts_of_long (by decide) (by decide), by decide +kernel⟩

/-! ## Schemas -/

structure ComponentSchema (component : Json) : Prop where
  fields : HasFields component ["id", "version", "evidenceStatus"]
  id : Identifier capabilityPattern (component.get "id")
  version : Identifier versionPattern (component.get "version")

structure AdapterSchema (adapter : Json) : Prop where
  fields : HasFields adapter ["id", "substrate", "underlyingIp", "underlyingRouting"]
  id : Identifier adapterIdPattern (adapter.get "id")
  substrate : Identifier substratePattern (adapter.get "substrate")

structure ScopeSchema (scope : Json) : Prop where
  fields : HasFields scope ["stateSha256", "maxBytes"]
  stateSha256 : Identifier hex64 (scope.get "stateSha256")

/-- A field that is there and meets a schema. -/
def Under (schema : Json → Prop) (v : Option Json) : Prop := ∃ w, v = some w ∧ schema w

structure ControlSchema (kind : Kind) (body : Json) : Prop where
  fields : HasFields body kind.fields
  sessionId : Identifier hex32 (body.get "sessionId")
  fromPort : Identifier portIdPattern (body.get "fromPort")
  toPort : Identifier portIdPattern (body.get "toPort")
  scope : Under ScopeSchema (body.get "scope")
  adapter : Under AdapterSchema (body.get "adapter")

def peerFields : List String :=
  ["schema", "portId", "publicKey", "revision", "issuedAt", "expiresAt", "capabilities", "tesseractEngine", "boundWorker"]

structure PeerSchema (record body : Json) : Prop where
  record : HasFields record ["body", "signature"]
  fields : HasFields body peerFields
  portId : Identifier portIdPattern (body.get "portId")
  capabilities : ∃ items, body.get "capabilities" = some (.arr items) ∧ ∀ item ∈ items, Identifier capabilityPattern (some item)
  tesseractEngine : Under ComponentSchema (body.get "tesseractEngine")
  boundWorker : Under ComponentSchema (body.get "boundWorker")

/-- A name of at most five atoms. -/
def NameText (s : JsString) : Prop :=
  ∃ labels : List JsString, s = [46].intercalate labels ∧ s.length ≤ 170 ∧ labels.length ≤ 5 ∧ ∀ label ∈ labels, atom.accepts label = true

structure EntrySchema (entry : Json) : Prop where
  fields : HasFields entry ["name", "targetPort"]
  name : ∃ s, entry.get "name" = some (.str s) ∧ NameText s
  targetPort : Identifier portIdPattern (entry.get "targetPort")

structure NamesSchema (record body : Json) : Prop where
  record : HasFields record ["body", "signature"]
  fields : HasFields body bodyFields
  ownerPort : Identifier portIdPattern (body.get "ownerPort")
  entries : ∃ items, body.get "entries" = some (.arr items) ∧ ∀ entry ∈ items, EntrySchema entry

/-! ## What is accepted -/

/-- A field of a field. -/
def nested (v : Json) (outer inner : String) : Option Json := (v.get outer).bind (·.get inner)

section
variable {crypto : Crypto}

theorem isSome_of_get {v w : Json} {name : String} (h : v.get name = some w) : (v.get name).isSome = true := by
  rw [h]
  rfl

theorem isSome_of_beq {v : Option Json} {s : String} (h : (v == some (Json.text s)) = true) : v.isSome = true := by
  rw [Json.some_beq_str_iff.mp h]
  rfl

theorem isSome_of_test {pattern : Regex} (hpattern : pattern.accepts (js "undefined") = false) {v : Option Json}
    (h : pattern.test v = some true) : v.isSome = true := by
  cases v with
  | none =>
    rw [Regex.test, hpattern] at h
    cases h
  | some _ => rfl

theorem isSome_of_isBool {v : Option Json} (h : isBool v = true) : v.isSome = true := by
  cases v with
  | none => cases h
  | some _ => rfl

theorem eq_some_of_exact {v : Option Json} {names : List String} (h : exactFields v names = .ok ()) : ∃ w, v = some w := by
  obtain ⟨own, rfl, -⟩ := exactFields_eq_ok.mp h
  exact ⟨_, rfl⟩

theorem under_some {schema : Json → Prop} {v : Json} : Under schema (some v) ↔ schema v :=
  ⟨fun ⟨_, hw, h⟩ => Option.some.inj hw ▸ h, fun h => ⟨v, rfl, h⟩⟩

/-- A component that is accepted is one unless its id or version was coerced. -/
theorem component_iff {v : Option Json} (h : assertComponent v = .ok ()) :
    Under ComponentSchema v ↔ Uncoerced (v.bind (·.get "id")) ∧ Uncoerced (v.bind (·.get "version")) := by
  simp only [assertComponent, bind_eq_ok, ensureTest_eq_ok, ensure_eq_ok, exists_const] at h
  obtain ⟨⟨⟩, hfields, hid, hversion, hstatus⟩ := h
  obtain ⟨component, rfl⟩ := eq_some_of_exact hfields
  rw [Option.getD_some] at hid hversion hstatus
  have hversion' := isSome_of_test (by decide +kernel) hversion
  have hstatus' := isSome_of_beq hstatus
  have hsorted : Json.sortKeys (["id", "version", "evidenceStatus"].map js) = ["evidenceStatus", "id", "version"].map js := by
    decide +kernel
  have hexact : HasFields component ["id", "version", "evidenceStatus"] := by
    refine .of_exact hsorted (by decide +kernel) (by decide) (by simp) ⟨_, hversion'⟩ ?_ hfields
    simp [hversion', hstatus']
  have hid' : (component.get "id").isSome = true := hexact.isSome (by simp)
  rw [under_some, Option.bind_some, Option.bind_some, ← textOnly_capability.identifier_iff hid' hid,
    ← textOnly_version.identifier_iff hversion' hversion]
  exact ⟨fun h => ⟨h.id, h.version⟩, fun h => ⟨hexact, h.1, h.2⟩⟩

theorem adapter_iff {v : Option Json} (h : validateAdapterDescriptor v = .ok ()) :
    Under AdapterSchema v ↔ Uncoerced (v.bind (·.get "id")) ∧ Uncoerced (v.bind (·.get "substrate")) := by
  simp only [validateAdapterDescriptor, bind_eq_ok, ensureTest_eq_ok, ensure_eq_ok, exists_const, Bool.and_eq_true] at h
  obtain ⟨⟨⟩, hfields, hid, hsubstrate, hip, hrouting⟩ := h
  obtain ⟨adapter, rfl⟩ := eq_some_of_exact hfields
  rw [Option.getD_some] at hid hsubstrate hip hrouting
  have hsubstrate' := isSome_of_test (by decide +kernel) hsubstrate
  have hsorted : Json.sortKeys (["id", "substrate", "underlyingIp", "underlyingRouting"].map js) =
      ["id", "substrate", "underlyingIp", "underlyingRouting"].map js := by
    decide +kernel
  have hexact : HasFields adapter ["id", "substrate", "underlyingIp", "underlyingRouting"] := by
    refine .of_exact hsorted (by decide +kernel) (by decide) (by simp) ⟨_, hsubstrate'⟩ ?_ hfields
    simp [hsubstrate', isSome_of_isBool hip]
  have hid' : (adapter.get "id").isSome = true := hexact.isSome (by simp)
  rw [under_some, Option.bind_some, Option.bind_some, ← textOnly_adapterId.identifier_iff hid' hid,
    ← textOnly_substrate.identifier_iff hsubstrate' hsubstrate]
  exact ⟨fun h => ⟨h.id, h.substrate⟩, fun h => ⟨hexact, h.1, h.2⟩⟩

theorem scope_iff {v : Option Json} (h : scope v = .ok ()) :
    Under ScopeSchema v ↔ Uncoerced (v.bind (·.get "stateSha256")) := by
  simp only [scope, bind_eq_ok, ensureTest_eq_ok, ensure_eq_ok, exists_const, Option.any_eq_true] at h
  obtain ⟨⟨⟩, hfields, hstate, n, hmax, -⟩ := h
  obtain ⟨state, rfl⟩ := eq_some_of_exact hfields
  rw [Option.getD_some] at hstate hmax
  have hstate' := isSome_of_test (by decide +kernel) hstate
  have hexact : HasFields state ["stateSha256", "maxBytes"] := by
    refine (exactFields_iff (by simp) (by decide) ?_).mp hfields
    simp [hstate', isSome_of_integerField hmax]
  rw [under_some, Option.bind_some, ← textOnly_hex64.identifier_iff hstate' hstate]
  exact ⟨fun h => h.stateSha256, fun h => ⟨hexact, h⟩⟩

/-- A control that is accepted has its fields, whatever its ports are. -/
theorem control_iff {body : Json} {now : ℤ} {kind : Kind} (h : control crypto body now kind = .ok ()) :
    ControlSchema kind body ↔ (Identifier portIdPattern (body.get "fromPort") ∧ Identifier portIdPattern (body.get "toPort")) ∧
      Uncoerced (body.get "sessionId") ∧ Uncoerced (nested body "scope" "stateSha256") ∧
      Uncoerced (nested body "adapter" "id") ∧ Uncoerced (nested body "adapter" "substrate") := by
  simp only [control, bind_eq_ok, ensureTest_eq_ok, ensure_eq_ok, exists_const, Bool.and_eq_true, pure_eq_ok] at h
  obtain ⟨⟨⟩, hfields, ⟨hschema, hsuite⟩, hsession, hlifetime, ⟨⟩, hscope, ⟨⟩, hadapter, key, hkey, -⟩ := h
  obtain ⟨issuedAt, expiresAt, hissued, hexpires, -⟩ := lifetimeOk_iff.mp hlifetime
  have hissued' := isSome_of_integerField hissued
  have hexpires' := isSome_of_integerField hexpires
  have hsession' := isSome_of_test (by decide +kernel) hsession
  have hadapter' : (body.get "adapter").isSome = true := by
    simp only [validateAdapterDescriptor, bind_eq_ok] at hadapter
    obtain ⟨⟨⟩, hexact, -⟩ := hadapter
    obtain ⟨_, hsome⟩ := eq_some_of_exact hexact
    exact isSome_of_get hsome
  have hscope' : (body.get "scope").isSome = true := by
    simp only [scope, bind_eq_ok] at hscope
    obtain ⟨⟨⟩, hexact, -⟩ := hscope
    obtain ⟨_, hsome⟩ := eq_some_of_exact hexact
    exact isSome_of_get hsome
  have hkey' : (body.get "ephemeralKey").isSome = true := by
    obtain ⟨text, htext, -⟩ := decodePublicKey_eq_ok.mp hkey
    exact isSome_of_get htext
  have hschema' : (body.get "schema").isSome = true := by
    rw [Json.some_beq_str_iff.mp hschema]
    rfl
  have hsuite' := isSome_of_beq hsuite
  -- the ports and the digest of the offer are not looked at, and no two of them are neighbours
  have hexact : HasFields body kind.fields := by
    cases kind with
    | offer =>
      have hsorted : Json.sortKeys (Kind.offer.fields.map js) = ["adapter", "ephemeralKey", "expiresAt", "fromPort", "issuedAt", "schema",
          "scope", "sessionId", "suite", "toPort"].map js := by decide +kernel
      refine .of_exact hsorted (by decide +kernel) (by decide) (by simp [Kind.fields]) ⟨_, hsession'⟩ ?_ hfields
      simp [hissued', hexpires', hsession', hadapter', hscope', hkey', hschema', hsuite']
    | accept =>
      have hsorted : Json.sortKeys (Kind.accept.fields.map js) = ["adapter", "ephemeralKey", "expiresAt", "fromPort", "issuedAt",
          "offerSha256", "schema", "scope", "sessionId", "suite", "toPort"].map js := by decide +kernel
      refine .of_exact hsorted (by decide +kernel) (by decide) (by simp [Kind.fields]) ⟨_, hsession'⟩ ?_ hfields
      simp [hissued', hexpires', hsession', hadapter', hscope', hkey', hschema', hsuite']
  rw [← textOnly_hex32.identifier_iff hsession' hsession, nested, nested, nested, ← scope_iff hscope, ← adapter_iff hadapter]
  exact ⟨fun h => ⟨⟨h.fromPort, h.toPort⟩, h.sessionId, h.scope, h.adapter⟩, fun h => ⟨hexact, h.2.1, h.1.1, h.1.2, h.2.2.1, h.2.2.2⟩⟩

theorem identifier_portId (bytes : Bytes) : portIdPattern.accepts (portIdPrefix ++ crypto.digest bytes) = true := by
  rw [Regex.accepts_iff]
  exact .seq (.lit _) ((Regex.accepts_iff _ _).mp (crypto.digest_hex bytes))

/-- The envelope of a verified body has its two fields. -/
theorem HasFields.of_envelope {envelope body : Json} {expectedId publicKey : Option Json}
    (h : verifyEnvelope crypto envelope expectedId publicKey = .ok body) : HasFields envelope ["body", "signature"] := by
  obtain ⟨raw, id, key, signature, hraw, -, -, -, -, hsignature, -⟩ := verifyEnvelope_ok h
  simp only [verifyEnvelope, bind_eq_ok] at h
  obtain ⟨⟨⟩, hfields, -⟩ := h
  refine (exactFields_iff (by simp) (by decide) ?_).mp hfields
  simp [hraw, hsignature]

/-- A peer record that is accepted meets its schema unless an id or a version of its components was coerced. -/
theorem peer_iff {record body : Json} {now : ℤ} {expectedId : Option Json}
    (h : verifyPeerRecord crypto record now expectedId = .ok body) :
    PeerSchema record body ↔ ∀ component ∈ ["tesseractEngine", "boundWorker"],
      Uncoerced (nested body component "id") ∧ Uncoerced (nested body component "version") := by
  simp only [verifyPeerRecord, bind_eq_ok, pure_eq_ok] at h
  obtain ⟨raw, -, verified, hverified, ⟨⟩, hrecord, rfl⟩ := h
  simp only [assertRecord, bind_eq_ok, ensure_eq_ok, exists_const, Bool.and_eq_true, Json.some_beq_str_iff] at hrecord
  obtain ⟨⟨⟩, hfields, hschema, id, hid, ⟨⟨hport, hrevision⟩, hlifetime⟩, hcapabilities, ⟨⟩, hengine, ⟨⟩, hworker, -⟩ := hrecord
  obtain ⟨publicKey, hkey, rfl⟩ := portId_eq_ok.mp hid
  obtain ⟨revision, hrevision, -⟩ := revisionOk_iff.mp hrevision
  obtain ⟨issuedAt, expiresAt, hissued, hexpires, -⟩ := lifetimeOk_iff.mp hlifetime
  have hlist : ∃ items, verified.get "capabilities" = some (.arr items) ∧ ∀ item ∈ items, Identifier capabilityPattern (some item) := by
    unfold capabilitiesOk at hcapabilities
    split at hcapabilities
    · rename_i items hitems
      refine ⟨items, hitems, fun item hitem => ?_⟩
      have hitem' := List.all_eq_true.mp (Bool.and_eq_true_iff.mp hcapabilities).2 item hitem
      obtain ⟨s, hs, haccepts⟩ := (Option.any_eq_true _ _).mp hitem'
      exact ⟨s, Json.bind_str?_eq_some.mp hs, haccepts⟩
    · cases hcapabilities
  have hcomponent : ∀ {v : Option Json}, assertComponent v = .ok () → v.isSome = true := by
    intro v hv
    simp only [assertComponent, bind_eq_ok] at hv
    obtain ⟨⟨⟩, hexact, -⟩ := hv
    obtain ⟨_, rfl⟩ := eq_some_of_exact hexact
    rfl
  have hexact : HasFields verified peerFields := by
    refine (exactFields_iff (by decide) (by decide) ?_).mp hfields
    obtain ⟨items, hitems, -⟩ := hlist
    simp only [peerFields, List.forall_mem_cons, List.not_mem_nil, false_implies, implies_true, and_true, hport, hkey, hitems,
      Option.isSome_some, true_and]
    exact ⟨isSome_of_beq hschema, isSome_of_integerField hrevision, isSome_of_integerField hissued, isSome_of_integerField hexpires,
      hcomponent hengine, hcomponent hworker⟩
  simp only [List.forall_mem_cons, List.not_mem_nil, false_implies, implies_true, and_true]
  rw [nested, nested, nested, nested, ← component_iff hengine, ← component_iff hworker]
  exact ⟨fun h => ⟨h.tesseractEngine, h.boundWorker⟩, fun h =>
    ⟨.of_envelope hverified, hexact, ⟨_, hport, identifier_portId _⟩, hlist, h.1, h.2⟩⟩

/-- Names that are accepted meet their schema. -/
theorem names_schema {record body : Json} {now : ℤ} (h : verifyPortNames crypto record now = .ok body) : NamesSchema record body := by
  have hsigned := verifyPortNames_eq_ok.mp h
  obtain ⟨id, hid, howner⟩ := hsigned.manifest.owner
  obtain ⟨publicKey, -, rfl⟩ := portId_eq_ok.mp hid
  obtain ⟨items, hitems, -, -, hbindings, -⟩ := hsigned.manifest.entries
  refine ⟨hsigned.fields, hsigned.manifest.fields, ⟨_, howner, identifier_portId _⟩, items, hitems, fun entry hentry => ?_⟩
  have hbinding := hbindings entry hentry
  obtain ⟨labels, hname⟩ := hbinding.name
  obtain ⟨target, htarget⟩ := hbinding.target
  obtain ⟨hname, hlength, hlabels, hatoms⟩ := nameParts_eq_ok.mp hname
  exact ⟨hbinding.fields, ⟨_, hname, labels, rfl, hlength, hlabels, hatoms⟩, target, validPortId_eq_ok.mp htarget⟩

end

/-- Accepted peer records, adapters and controls meet their schemas exactly when no tested field was
coerced and the ports of a control, which it is not asked for, are port ids; accepted names always do. -/
theorem accepted_schemas (crypto : Crypto) :
    (∀ (record body : Json) (now : ℤ) (expectedId : Option Json), verifyPeerRecord crypto record now expectedId = .ok body →
      (PeerSchema record body ↔ ∀ component ∈ ["tesseractEngine", "boundWorker"],
        Uncoerced (nested body component "id") ∧ Uncoerced (nested body component "version"))) ∧
    (∀ adapter : Json, validateAdapterDescriptor (some adapter) = .ok () →
      (AdapterSchema adapter ↔ Uncoerced (adapter.get "id") ∧ Uncoerced (adapter.get "substrate"))) ∧
    (∀ (body : Json) (now : ℤ) (kind : Kind), control crypto body now kind = .ok () →
      (ControlSchema kind body ↔
        (Identifier portIdPattern (body.get "fromPort") ∧ Identifier portIdPattern (body.get "toPort")) ∧
          Uncoerced (body.get "sessionId") ∧ Uncoerced (nested body "scope" "stateSha256") ∧
          Uncoerced (nested body "adapter" "id") ∧ Uncoerced (nested body "adapter" "substrate"))) ∧
    ∀ (record body : Json) (now : ℤ), verifyPortNames crypto record now = .ok body → NamesSchema record body :=
  ⟨fun _ _ _ _ h => peer_iff h, fun _ h => under_some.symm.trans (adapter_iff h), fun _ _ _ h => control_iff h,
    fun _ _ _ h => names_schema h⟩

namespace Sample

theorem adapter_meets_schema : AdapterSchema adapter := by
  have haccepted : validateAdapterDescriptor (some adapter) = .ok () := by decide +kernel
  refine ((accepted_schemas crypto).2.1 adapter haccepted).mpr ⟨?_, ?_⟩
  all_goals simp [adapter, Uncoerced, Json.text, List.lookup_cons]

/-- An adapter without a name. -/
def namelessAdapter : Json := .record [("id", .null), ("substrate", .text "ANONYMOUS_PIPE"), ("underlyingIp", .bool false),
  ("underlyingRouting", .bool false)]

/-- The pattern of ids matches the text `null`. -/
theorem nameless_accepted : ¬ ∀ adapter : Json, validateAdapterDescriptor (some adapter) = .ok () → AdapterSchema adapter := by
  intro h
  have haccepted : validateAdapterDescriptor (some namelessAdapter) = .ok () := by decide +kernel
  obtain ⟨s, hs, -⟩ := (h namelessAdapter haccepted).id
  rw [namelessAdapter, Json.get_record] at hs
  cases hs

end Sample

end Native
