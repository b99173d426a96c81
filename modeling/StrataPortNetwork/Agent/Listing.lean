import StrataPortNetwork.Agent.Discovery

/-! # What discovery lists

The catalog holds one entry under each id, whatever calls have filled it. The entries that a
query admits are therefore listed in the order of their ids, and nothing in the result depends on
the order they were registered in.
-/
namespace Js
variable {κ β : Type} [BEq κ] {key : β → κ}

/-! ## Registries with keys that can be found -/

theorem JsMap.key_of_mem_set {m : JsMap κ β} {k : κ} {v : β} {e : κ × β} (he : e ∈ (m.set k v).entries) :
    e.1 = k ∨ ∃ e' ∈ m.entries, e'.1 = e.1 := by
  unfold JsMap.set at he
  split at he
  · obtain ⟨e', he', rfl⟩ := List.mem_map.mp he
    refine .inr ⟨e', he', ?_⟩
    split <;> rfl
  · rcases List.mem_append.mp he with he | he
    · exact .inr ⟨e, he, rfl⟩
    · rw [List.mem_singleton.mp he]
      exact .inl rfl

namespace Registry
variable {r r' : Registry κ β key}

/-- Every key equals itself: none is an array or an object. -/
def Findable (r : Registry κ β key) : Prop := ∀ e ∈ r.map.entries, (e.1 == e.1) = true

variable [PartialEquivBEq κ]

theorem Findable.key_of_mem (h : r.Findable) {e : κ × β} (he : e ∈ r.map.entries) : (key e.2 == e.1) = true :=
  r.keyed _ _ (JsMap.get_of_mem he (h e he))

theorem Findable.mem_values_iff (h : r.Findable) {v : β} : v ∈ r.values ↔ r.get (key v) = some v := by
  constructor
  · intro hv
    obtain ⟨e, he, rfl⟩ := List.mem_map.mp hv
    rw [r.get_congr (h.key_of_mem he)]
    exact JsMap.get_of_mem he (h e he)
  · exact JsMap.mem_values_of_get

theorem Findable.key_self (h : r.Findable) {v : β} (hv : v ∈ r.values) : (key v == key v) = true := by
  obtain ⟨e, he, rfl⟩ := List.mem_map.mp hv
  exact PartialEquivBEq.trans (h.key_of_mem he) (PartialEquivBEq.symm (h.key_of_mem he))

/-- No two values are held under equal keys. -/
theorem Findable.pairwise_values (h : r.Findable) : r.values.Pairwise fun v w => (key v == key w) = false := by
  rw [values, JsMap.values, List.pairwise_map]
  refine r.map.distinct.imp_of_mem fun {e e'} he he' hne => ?_
  rw [← Bool.not_eq_true]
  intro heq
  have hsame : (e.1 == e'.1) = true :=
    PartialEquivBEq.trans (PartialEquivBEq.symm (h.key_of_mem he)) (PartialEquivBEq.trans heq (h.key_of_mem he'))
  rw [hne] at hsame
  cases hsame

theorem Findable.nodup_values (h : r.Findable) : r.values.Nodup := by
  refine h.pairwise_values.imp_of_mem fun {v w} hv _ hne heq => ?_
  subst heq
  rw [h.key_self hv] at hne
  cases hne

/-- Registries that find the same values hold them in some order. -/
theorem Findable.perm_values (h : r.Findable) (h' : r'.Findable) (hget : ∀ k, r.get k = r'.get k) :
    r.values.Perm r'.values := by
  refine (List.perm_ext_iff_of_nodup h.nodup_values h'.nodup_values).mpr fun v => ⟨fun hv => ?_, fun hv => ?_⟩
  · rw [h'.mem_values_iff, ← hget]
    exact h.mem_values_iff.mp hv
  · rw [h.mem_values_iff, hget]
    exact h'.mem_values_iff.mp hv

end Registry

/-! ## Sorting by distinct keys -/

namespace Collation
variable {collation : Collation} {α : Type} {key : α → JsString} {l l' : List α}

theorem pairwise_sortOn_le (collation : Collation) (key : α → JsString) (l : List α) :
    (collation.sortOn key l).Pairwise fun a b => collation.le (key a) (key b) = true := by
  have : Std.Total fun a b : α => collation.le (key a) (key b) = true := ⟨fun _ _ => collation.total _ _⟩
  have : IsTrans α fun a b => collation.le (key a) (key b) = true := ⟨fun _ _ _ => collation.trans _ _ _⟩
  exact List.pairwise_insertionSort _ l

/-- Where only equal members compare as equal, sorting forgets the order of the members. -/
theorem sortOn_perm (hties : ∀ a ∈ l, ∀ b ∈ l, collation.le (key a) (key b) = true → collation.le (key b) (key a) = true → a = b)
    (h : l.Perm l') : collation.sortOn key l = collation.sortOn key l' := by
  refine List.Perm.eq_of_pairwise (fun a b ha hb hab hba => ?_) (pairwise_sortOn_le collation key l)
    (pairwise_sortOn_le collation key l') ((perm_sortOn key l).trans (h.trans (perm_sortOn key l').symm))
  exact hties a ((perm_sortOn key l).mem_iff.mp ha) b (h.mem_iff.mpr ((perm_sortOn key l').mem_iff.mp hb)) hab hba

end Collation

end Js

namespace Agent.Discovery
open Js Transition

/-! ## Catalogs under string ids -/

/-- The id of a registered capability is a string. -/
def Call.Named : Call → Prop
  | .registerCapability value _ => ∃ id, value.get "capability_id" = some (.str id)
  | .setAvailability _ _ => True

def Named (catalog : CapabilityDiscoveryCatalog) : Prop := ∀ e ∈ catalog.entries.map.entries, ∃ id, e.1 = .str id

variable {catalog catalog' : CapabilityDiscoveryCatalog}

@[simp] theorem demand_eq_ok {reasonClass : String} {condition : Bool} {u : Unit} :
    demand reasonClass condition = .ok u ↔ condition = true := ensure_eq_ok

@[simp] theorem demandTest_eq_ok {reasonClass : String} {pattern : Regex} {v : Option Json} {u : Unit} :
    demandTest reasonClass pattern v = .ok u ↔ pattern.test v = some true := ensureTest_eq_ok

@[simp] theorem ofProtocol_eq_ok {α : Type} {x : Outcome α} {a : α} : ofProtocol x = .ok a ↔ x = .ok a := by
  cases x <;> simp [ofProtocol, Except.mapError]

theorem Named.findable (h : Named catalog) : catalog.entries.Findable := by
  intro e he
  obtain ⟨id, hid⟩ := h e he
  rw [hid]
  exact Json.beq_str_iff.mpr rfl

theorem Named.put (h : Named catalog) {entry : CatalogEntry} {id : JsString} (hid : entry.id = .str id) :
    Named { catalog with entries := catalog.entries.put entry } := by
  intro e he
  rcases JsMap.key_of_mem_set he with hkey | ⟨e', he', hkey⟩
  · exact ⟨id, hkey.trans hid⟩
  · rw [← hkey]
    exact h e' he'

theorem Named.id_of_get (h : Named catalog) {k : Json} {entry : CatalogEntry} (hget : catalog.entries.get k = some entry) :
    ∃ id, entry.id = .str id := by
  obtain ⟨e, he, hk, rfl⟩ := JsMap.mem_of_get hget
  obtain ⟨id, hid⟩ := h e he
  have hkey := h.findable.key_of_mem he
  rw [hid] at hkey
  exact ⟨id, Json.eq_of_beq hkey⟩

theorem Named.key_of_get (h : Named catalog) {k : Json} {entry : CatalogEntry} (hget : catalog.entries.get k = some entry) :
    ∃ id, k = .str id := by
  obtain ⟨e, he, hk, -⟩ := JsMap.mem_of_get hget
  obtain ⟨id, hid⟩ := h e he
  exact ⟨id, (Json.eq_of_beq hk).symm.trans hid⟩

/-- What a registration that does not throw writes. -/
theorem registerCapability_ok {value result : Json} {available : Option Json}
    (h : catalog.registerCapability value available = .ok (result, catalog')) :
    ∃ entry : CatalogEntry, entry.capability.1 = value ∧ catalog' = { catalog with entries := catalog.entries.put entry } := by
  simp only [CapabilityDiscoveryCatalog.registerCapability, bind_eq_ok, ofProtocol_eq_ok, demand_eq_ok, pure_eq_ok,
    Prod.mk.injEq] at h
  obtain ⟨capability, hcapability, available, -, -, -, -, -, -, rfl⟩ := h
  exact ⟨⟨capability, available⟩, validated_ok hcapability, rfl⟩

theorem setAvailability_ok {capabilityId available : Option Json}
    (h : catalog.setAvailability capabilityId available = .ok catalog') :
    ∃ k entry b, catalog.entries.get k = some entry ∧
      catalog' = { catalog with entries := catalog.entries.put { entry with available := b } } := by
  simp only [CapabilityDiscoveryCatalog.setAvailability, bind_eq_ok, orThrow_eq_ok, Option.bind_eq_some_iff, pure_eq_ok] at h
  obtain ⟨entry, ⟨k, -, hentry⟩, b, -, hset⟩ := h
  exact ⟨k, entry, b, hentry, hset.symm⟩

theorem Named.step (h : Named catalog) {call : Call} (hcall : call.Named) : Named (step catalog call) := by
  cases call with
  | registerCapability value available =>
    rw [Discovery.step]
    split
    · rename_i hregister
      obtain ⟨entry, hentry, rfl⟩ := registerCapability_ok hregister
      obtain ⟨id, hid⟩ := hcall
      have hkey : entry.id = .str id := by
        rw [CatalogEntry.id, Capability.capabilityId, field, hentry, hid]
        rfl
      exact h.put hkey
    · exact h
  | setAvailability capabilityId available =>
    rw [Discovery.step]
    split
    · rename_i hset
      obtain ⟨k, entry, b, hget, rfl⟩ := setAvailability_ok hset
      obtain ⟨id, hid⟩ := h.id_of_get hget
      have hkey : CatalogEntry.id { entry with available := b } = .str id := hid
      exact h.put hkey
    · exact h

/-- A new catalog. -/
theorem create_ok {maxCapabilities : Option Json} (h : CapabilityDiscoveryCatalog.create maxCapabilities = .ok catalog) :
    catalog.entries = Registry.empty := by
  simp only [CapabilityDiscoveryCatalog.create, bind_eq_ok, ensure_eq_ok, pure_eq_ok] at h
  obtain ⟨most, -, -, -, rfl⟩ := h
  rfl

theorem named_run {maxCapabilities : Option Json} (h : CapabilityDiscoveryCatalog.create maxCapabilities = .ok catalog)
    {calls : List Call} (hcalls : ∀ call ∈ calls, call.Named) : Named (run step catalog calls) := by
  have hempty : Named catalog := by
    intro e he
    rw [create_ok h] at he
    cases he
  have hsteps : Steps step (fun _ call => call.Named) catalog calls := steps_of_forall hcalls
  have hstep : ∀ (catalog : CapabilityDiscoveryCatalog) (call : Call), call.Named → Named catalog → Named (step catalog call) :=
    fun _ _ hcall hnamed => hnamed.step hcall
  exact run_invariant_of_steps hstep hempty hsteps

/-! ## Projections and results -/

theorem hasExactKeys_record {fields : List (String × Json)} {names : List String} (h : fields.map Prod.fst = names) :
    hasExactKeys (some (.record fields)) names = true := by
  subst h
  simp [hasExactKeys, Json.record, Function.comp_def]

/-- A value with exact keys has each of them. -/
theorem isSome_of_exactKeys {v : Json} {names : List String} {reasonClass : String}
    (h : exactKeys (some v) names reasonClass = .ok ()) {name : String} (hname : name ∈ names) : (v.get name).isSome = true := by
  cases v with
  | obj own =>
    rw [exactKeys, require_eq_ok, beq_iff_eq] at h
    have hsorted : ∀ keys : List JsString, (Json.sortKeys keys).Perm keys := fun keys => List.perm_insertionSort _ keys
    have hperm : (own.map Prod.fst).Perm (names.map js) := (hsorted _).symm.trans (h ▸ hsorted _)
    have hmem : js name ∈ own.map Prod.fst := hperm.mem_iff.mpr (List.mem_map_of_mem hname)
    obtain ⟨f, hf, hkey⟩ := List.mem_map.mp hmem
    rw [Json.get, List.lookup_isSome_iff]
    exact ⟨f, hf, by simp [hkey]⟩
  | null | bool _ | num _ | str _ | arr _ => cases h

theorem some_field {v : Json} {name : String} (h : (v.get name).isSome = true) : some (field v name) = v.get name := by
  obtain ⟨w, hw⟩ := Option.isSome_iff_exists.mp h
  rw [field, hw]
  rfl

theorem uniqueEnum_of_membersOf {v : Option Json} {set : List String} (h : membersOf v set = true) :
    uniqueEnum v set set.length = true := by
  unfold membersOf at h
  split at h
  · simp only [Bool.and_eq_true] at h
    simp only [uniqueEnum, Bool.and_eq_true]
    exact ⟨⟨h.1.1.2, h.1.2⟩, h.2⟩
  · cases h

theorem textOfLength_of_bounded {v : Option Json} {least most : ℕ} (h : boundedString v least most = true) :
    textOfLength v least most = true := by
  unfold boundedString at h
  split at h
  · simp only [Bool.and_eq_true] at h
    simp only [textOfLength, Bool.and_eq_true]
    exact h.1
  · cases h

/-- What the projection shows is what the capability holds. -/
theorem get_project (entry : CatalogEntry) {name : String} (hname : name ∈ CAPABILITY_DISCOVERY_PROJECTION_FIELDS)
    (havailable : name ≠ "available") : (project entry).get name = entry.capability.1.get name := by
  have hvalid := entry.capability.2
  simp only [validateCapability, bind_eq_ok] at hvalid
  obtain ⟨⟨⟩, hkeys, -⟩ := hvalid
  simp only [CAPABILITY_DISCOVERY_PROJECTION_FIELDS, List.mem_cons, List.not_mem_nil, or_false] at hname
  have hfield : ∀ name ∈ CAPABILITY_FIELDS, some (field entry.capability.1 name) = entry.capability.1.get name :=
    fun name hmem => some_field (isSome_of_exactKeys hkeys hmem)
  rcases hname with rfl | rfl | rfl | rfl | rfl | rfl | rfl | rfl | rfl | rfl | rfl
  all_goals first
    | exact absurd rfl havailable
    | exact (Json.get_record _ _).trans (hfield _ (by decide))

theorem validateProjection_project (entry : CatalogEntry) : validateProjection (project entry) = .ok () := by
  have hvalid := entry.capability.2
  simp only [validateCapability, bind_eq_ok, require_eq_ok, requireTest_eq_ok, Bool.and_eq_true] at hvalid
  obtain ⟨⟨⟩, -, ⟨⟩, -, ⟨⟩, hid, ⟨⟩, hversion, ⟨⟨⟨⟨⟨⟨⟨⟨⟨⟨⟨⟨howner, haction⟩, -⟩, hauthority⟩, hrisk⟩, hclasses⟩, hmode⟩, -⟩, -⟩, -⟩, -⟩,
    hinput⟩, houtput⟩⟩ := hvalid
  have hget : ∀ name ∈ CAPABILITY_DISCOVERY_PROJECTION_FIELDS, name ≠ "available" →
      (project entry).get name = entry.capability.1.get name := fun name hmem hne => get_project entry hmem hne
  have havailable : (project entry).get "available" = some (.bool true) := Json.get_record _ _
  simp only [validateProjection, bind_eq_ok, demand_eq_ok, demandTest_eq_ok, Bool.and_eq_true]
  rw [hget "capability_id" (by decide) (by decide), hget "version" (by decide) (by decide),
    hget "owner_component" (by decide) (by decide), hget "action_type" (by decide) (by decide),
    hget "required_authority" (by decide) (by decide), hget "risk_ceiling" (by decide) (by decide),
    hget "data_classifications" (by decide) (by decide), hget "execution_mode" (by decide) (by decide),
    hget "input_contract_ref" (by decide) (by decide), hget "output_contract_ref" (by decide) (by decide), havailable]
  exact ⟨(), hasExactKeys_record rfl, (), hid, (), hversion, ⟨⟨⟨⟨⟨⟨⟨howner, haction⟩, hauthority⟩, hrisk⟩,
    uniqueEnum_of_membersOf hclasses⟩, hmode⟩, rfl⟩, textOfLength_of_bounded hinput⟩, textOfLength_of_bounded houtput⟩

theorem ensureAll_project (entries : List CatalogEntry) : ensureAll validateProjection (entries.map project) = .ok () :=
  ensureAll_eq_ok.mpr (List.forall_mem_map.mpr fun entry _ => validateProjection_project entry)

/-- The units of a reference after its first. -/
def referenceClass : CharClass := Regex.upper ++ Regex.lower ++ Regex.digits ++ [(46, 46), (95, 95), (58, 58), (45, 45)]

/-- An id can stand as a reference, if its head can begin one and its length allows it. -/
theorem reference_of_id {head : String} {least most : ℕ} {s : JsString}
    (hhead : (js head).head?.any (CharClass.has (Regex.upper ++ Regex.lower ++ Regex.digits)) = true)
    (htail : (js head).tail.all referenceClass.has = true) (hleast : 8 ≤ (js head).length + least)
    (hmost : (js head).length + most ≤ 128) (h : (Regex.seq (.text head) (.run idClass least most)).accepts s = true) :
    opaqueReferencePattern.accepts s = true := by
  rw [Regex.accepts_iff] at h ⊢
  obtain ⟨whole, rest, rfl, hwhole, hrest⟩ := Regex.matches_seq.mp h
  obtain ⟨hunits, hl, hm⟩ := Regex.matches_run.mp hrest
  rw [Regex.matches_lit.mp hwhole]
  have hwider : ∀ u ∈ rest, referenceClass.has u = true := by
    intro u hu
    obtain ⟨range, hrange, hin⟩ := List.any_eq_true.mp (hunits u hu)
    have hsub : idClass ⊆ referenceClass := by decide
    exact List.any_eq_true.mpr ⟨range, hsub hrange, hin⟩
  cases hjs : js head with
  | nil =>
    rw [hjs] at hhead
    cases hhead
  | cons first tail =>
    rw [hjs] at hhead htail hleast hmost
    rw [List.length_cons] at hleast hmost
    refine .seq (s := [first]) (t := tail ++ rest) (.run (by simpa using hhead) (by simp) (by simp)) (.run ?_ ?_ ?_)
    · intro u hu
      rcases List.mem_append.mp hu with hu | hu
      · exact List.all_eq_true.mp htail u hu
      · exact hwider u hu
    · rw [List.length_append]
      omega
    · rw [List.length_append]
      omega

/-- A message id can stand as a reference. -/
theorem reference_of_messageId {s : JsString} (h : messageIdPattern.accepts s = true) : opaqueReferencePattern.accepts s = true :=
  reference_of_id (by decide) (by decide) (by decide) (by decide) h

section
variable {other : JsString → Option ℤ} {input : Input} {now : ℚ}

/-- The numbers in the range of dates have a text. -/
theorem isoText_isSome_iff {now : ℚ} :
    (isoText (engineDate other) now).isSome = true ↔ -(maxTime : ℚ) ≤ now ∧ now ≤ maxTime := by
  unfold isoText
  split
  · rename_i hrange
    refine iff_of_true ?_ hrange
    change (toISOString _).isSome = true
    rw [toISOString_isSome]
    split
    · rename_i hpos
      have hlow : (0 : ℤ) ≤ now.floor := Rat.le_floor_iff.mpr hpos
      have hhigh : now.floor ≤ (maxTime : ℤ) := by
        have : (now.floor : ℚ) ≤ (maxTime : ℚ) := (Rat.floor_le now).trans hrange.2
        exact_mod_cast this
      omega
    · rename_i hneg
      have hlow : -(maxTime : ℤ) ≤ now.ceil := by
        have : (-(maxTime : ℚ)) ≤ (now.ceil : ℚ) := hrange.1.trans Rat.le_ceil
        exact_mod_cast this
      have hhigh : now.ceil ≤ 0 := Rat.ceil_le_iff.mpr (le_of_lt (not_le.mp hneg))
      omega
  · rename_i hrange
    exact iff_of_false (by simp) hrange

theorem parse_isoText {s : JsString} (h : isoText (engineDate other) now = some s) :
    (parseDate (engineDate other) (some (.str s))).isSome = true := by
  unfold isoText at h
  split at h
  · have hparse : dateParse other s = some _ := dateParse_toISOString other h
    exact Option.isSome_iff_exists.mpr ⟨_, hparse⟩
  · cases h

/-- The checks on the input of `discover`. -/
theorem checkInput_ok {date : DateApi} (h : checkInput date input = .ok now) :
    validateEnvelope date input.envelope = .ok () ∧ validateProtocolReceipt date input.protocolReceipt = .ok () ∧
      validateAgentIdentity date input.identity = .ok () ∧ validateCapabilityDiscoveryQuery input.query = .ok () := by
  simp only [checkInput, bind_eq_ok, demand_eq_ok] at h
  obtain ⟨t, -, ⟨⟩, hevidence, -⟩ := h
  cases hread : evidence date input with
  | error e =>
    rw [hread] at hevidence
    cases hevidence
  | ok u =>
    simp only [evidence, bind_eq_ok, ofProtocol_eq_ok] at hread
    obtain ⟨⟨⟩, henvelope, ⟨⟩, hreceipt, ⟨⟩, hidentity, hquery⟩ := hread
    exact ⟨henvelope, hreceipt, hidentity, hquery⟩

end

/-! ## The listing -/

/-- The capability of an entry is available and matches the query. -/
structure Discoverable (identity query : Json) (entry : CatalogEntry) : Prop where
  available : entry.available = true
  agentClass : ∃ agentClass, identity.get "agent_class" = some agentClass ∧
    agentClass ∈ items (entry.capability.1.get "allowed_agent_classes")
  classification : ∃ classification, query.get "data_classification" = some classification ∧
    classification ∈ items (entry.capability.1.get "data_classifications")
  risk : ∃ n m, riskOrder (entry.capability.1.get "risk_ceiling") = some n ∧ riskOrder (query.get "risk_ceiling") = some m ∧ n ≤ m
  action : items (query.get "action_types") = [] ∨ ∃ action, entry.capability.1.get "action_type" = some action ∧
    action ∈ items (query.get "action_types")

/-- The result shows the first of the discoverable entries in the order of their ids, up to the limit, and tells whether
there are more. -/
def Lists (collation : Collation) (catalog : CapabilityDiscoveryCatalog) (input : Input) (result : Json) : Prop :=
  ∃ entries : List CatalogEntry,
    (∀ entry, entry ∈ entries ↔ catalog.entries.get entry.id = some entry ∧ Discoverable input.identity input.query entry) ∧
    (entries.Pairwise fun entry next => collation.le entry.idText next.idText = true ∧ entry.idText ≠ next.idText) ∧
    result.get "capabilities" = some (.arr ((entries.take (resultLimit input.query)).map project)) ∧
    result.get "truncated" = some (.bool (resultLimit input.query < entries.length))

/-- Both catalogs hold the same capability, equally available, under every id. -/
def SameContent (catalog catalog' : CapabilityDiscoveryCatalog) : Prop :=
  ∀ id : JsString, catalog.entries.get (.str id) = catalog'.entries.get (.str id)

/-- The ids of capabilities are told apart by the collation. -/
def SeparatesIds (collation : Collation) : Prop := ∀ a b, capabilityIdPattern.accepts a = true →
  capabilityIdPattern.accepts b = true → collation.le a b = true → collation.le b a = true → a = b

theorem includes_iff {array v : Option Json} {w : Json} (hv : v = some w) (hscalar : (w == w) = true) :
    includes array v = true ↔ w ∈ items array := by
  subst hv
  rw [includes, Option.any_some, List.contains_iff_exists_mem_beq]
  constructor
  · rintro ⟨u, hu, heq⟩
    rwa [Json.eq_of_beq heq]
  · exact fun hmem => ⟨w, hmem, hscalar⟩

theorem eligible_iff {identity query : Json} (hclass : IsString (identity.get "agent_class"))
    (hclassification : IsString (query.get "data_classification")) (entry : CatalogEntry) :
    eligible identity query entry = true ↔ Discoverable identity query entry := by
  have hvalid := entry.capability.2
  simp only [validateCapability, bind_eq_ok, require_eq_ok, Bool.and_eq_true] at hvalid
  obtain ⟨-, -, -, -, -, -, -, -, ⟨⟨⟨⟨⟨⟨⟨⟨⟨⟨⟨⟨-, haction⟩, -⟩, -⟩, -⟩, -⟩, -⟩, -⟩, -⟩, -⟩, -⟩, -⟩, -⟩⟩ := hvalid
  obtain ⟨agentClass, hclass⟩ := hclass
  obtain ⟨classification, hclassification⟩ := hclassification
  obtain ⟨action, haction⟩ := isString_of_oneOf haction
  have hself : ∀ s : JsString, (Json.str s == Json.str s) = true := fun s => Json.beq_str_iff.mpr rfl
  simp only [eligible, Bool.and_eq_true, Bool.or_eq_true, includes_iff hclass (hself agentClass),
    includes_iff hclassification (hself classification), includes_iff haction (hself action), riskWithin,
    Option.any_eq_true, beq_iff_eq, List.length_eq_zero_iff, decide_eq_true_eq]
  constructor
  · rintro ⟨⟨⟨⟨havailable, hagent⟩, hclassified⟩, n, hn, m, hm, hle⟩, hactions⟩
    exact ⟨havailable, ⟨_, hclass, hagent⟩, ⟨_, hclassification, hclassified⟩, ⟨n, m, hn, hm, hle⟩,
      hactions.imp_right fun hmem => ⟨_, haction, hmem⟩⟩
  · rintro ⟨havailable, ⟨c, hc, hagent⟩, ⟨d, hd, hclassified⟩, ⟨n, m, hn, hm, hle⟩, hactions⟩
    obtain rfl := Option.some.inj (hc.symm.trans hclass)
    obtain rfl := Option.some.inj (hd.symm.trans hclassification)
    refine ⟨⟨⟨⟨havailable, hagent⟩, hclassified⟩, n, hn, m, hm, hle⟩, hactions.imp_right ?_⟩
    rintro ⟨a, ha, hmem⟩
    obtain rfl := Option.some.inj (ha.symm.trans haction)
    exact hmem

section
variable {collation : Collation} {input : Input}

theorem get_capability_id (entry : CatalogEntry) : entry.capability.1.get "capability_id" = some entry.id ∧
    capabilityIdPattern.test (some entry.id) = some true := by
  have hvalid := entry.capability.2
  simp only [validateCapability, bind_eq_ok, requireTest_eq_ok] at hvalid
  obtain ⟨⟨⟩, hkeys, ⟨⟩, -, ⟨⟩, htest, -⟩ := hvalid
  have hget : some entry.id = entry.capability.1.get "capability_id" := some_field (isSome_of_exactKeys hkeys (by decide))
  exact ⟨hget.symm, hget ▸ htest⟩

theorem Named.id_of_mem (h : Named catalog) {entry : CatalogEntry} (hentry : entry ∈ catalog.entries.values) :
    entry.id = .str entry.idText ∧ capabilityIdPattern.accepts entry.idText = true := by
  obtain ⟨id, hid⟩ := h.id_of_get (h.findable.mem_values_iff.mp hentry)
  obtain ⟨hget, htest⟩ := get_capability_id entry
  have htext : entry.idText = id := by
    rw [CatalogEntry.idText, hget, hid]
    rfl
  rw [hid, test_str, Option.some.injEq] at htest
  exact ⟨htext ▸ hid, htext ▸ htest⟩

/-- Entries of a catalog under one id are one entry. -/
theorem Named.eq_of_idText (h : Named catalog) {entry entry' : CatalogEntry} (hentry : entry ∈ catalog.entries.values)
    (hentry' : entry' ∈ catalog.entries.values) (heq : entry.idText = entry'.idText) : entry = entry' := by
  have hget := h.findable.mem_values_iff.mp hentry
  rw [(h.id_of_mem hentry).1, heq, ← (h.id_of_mem hentry').1, h.findable.mem_values_iff.mp hentry'] at hget
  exact (Option.some.inj hget).symm

theorem mem_matched {entry : CatalogEntry} : entry ∈ matched collation catalog input ↔
    entry ∈ catalog.entries.values ∧ eligible input.identity input.query entry = true := by
  rw [matched, (Collation.perm_sortOn _ _).mem_iff, List.mem_filter]

/-- The matched entries stand in the order of their ids, each id once. -/
theorem Named.pairwise_matched (h : Named catalog) : (matched collation catalog input).Pairwise fun entry next =>
    collation.le entry.idText next.idText = true ∧ entry.idText ≠ next.idText := by
  have hnodup : (matched collation catalog input).Nodup :=
    (Collation.perm_sortOn _ _).nodup_iff.mpr (h.findable.nodup_values.filter _)
  refine ((Collation.pairwise_sortOn_le collation _ _).and hnodup).imp_of_mem fun {entry next} hentry hnext hpair => ?_
  refine ⟨hpair.1, fun heq => hpair.2 ?_⟩
  exact h.eq_of_idText (mem_matched.mp hentry).1 (mem_matched.mp hnext).1 heq

/-- The order in which entries are held does not show. -/
theorem matched_perm (hseparates : SeparatesIds collation) (h : Named catalog)
    (hperm : catalog.entries.values.Perm catalog'.entries.values) :
    matched collation catalog input = matched collation catalog' input := by
  refine Collation.sortOn_perm (fun entry hentry next hnext hle hge => ?_) (hperm.filter _)
  have hmem := (List.mem_filter.mp hentry).1
  have hmem' := (List.mem_filter.mp hnext).1
  exact h.eq_of_idText hmem hmem' (hseparates _ _ (h.id_of_mem hmem).2 (h.id_of_mem hmem').2 hle hge)

theorem discover_perm {date : DateApi} (hseparates : SeparatesIds collation) (h : Named catalog)
    (hperm : catalog.entries.values.Perm catalog'.entries.values) (input : Input) :
    discover date collation catalog input = discover date collation catalog' input := by
  have hmatched : matched collation catalog input = matched collation catalog' input := matched_perm hseparates h hperm
  simp only [discover, hmatched]

theorem SameContent.perm_values (h : Named catalog) (h' : Named catalog') (hsame : SameContent catalog catalog') :
    catalog.entries.values.Perm catalog'.entries.values := by
  refine h.findable.perm_values h'.findable fun k => ?_
  cases hk : catalog.entries.get k with
  | some entry =>
    obtain ⟨id, rfl⟩ := h.key_of_get hk
    exact hk.symm.trans (hsame id)
  | none =>
    cases hk' : catalog'.entries.get k with
    | none => rfl
    | some entry =>
      obtain ⟨id, rfl⟩ := h'.key_of_get hk'
      exact hk.symm.trans ((hsame id).trans hk')

/-- A validated query asks for one to 64 results. -/
theorem resultLimit_le {query : Json} (h : validateCapabilityDiscoveryQuery query = .ok ()) : resultLimit query ≤ 64 := by
  simp only [validateCapabilityDiscoveryQuery, bind_eq_ok, orThrow_eq_ok, demand_eq_ok, Bool.and_eq_true, decide_eq_true_eq] at h
  obtain ⟨-, -, -, -, -, -, limit, hlimit, ⟨-, hmost⟩, -⟩ := h
  rw [resultLimit, hlimit]
  simp only [Option.getD_some]
  omega

variable {other : JsString → Option ℤ} {now : ℚ}

/-- The validator of results never rejects what the catalog holds. -/
theorem validateCapabilityDiscoveryResult_resultOf (h : Named catalog) (hchecked : checkInput (engineDate other) input = .ok now)
    {generatedAt : JsString} (hgenerated : isoText (engineDate other) now = some generatedAt) {capabilities : List Json}
    (hcapabilities : capabilities = ((matched collation catalog input).take (resultLimit input.query)).map project) :
    validateCapabilityDiscoveryResult (engineDate other)
      (resultOf input (matched collation catalog input).length capabilities.length capabilities generatedAt) = .ok () := by
  obtain ⟨henvelope, hreceipt, -, hquery⟩ := checkInput_ok hchecked
  simp only [validateEnvelope, bind_eq_ok, requireTest_eq_ok] at henvelope
  obtain ⟨⟨⟩, hkeys, ⟨⟩, -, ⟨⟩, hmessage, ⟨⟩, -, ⟨⟩, hcorrelation, -⟩ := henvelope
  simp only [validateProtocolReceipt, bind_eq_ok, requireTest_eq_ok] at hreceipt
  obtain ⟨⟨⟩, hreceiptKeys, ⟨⟩, -, ⟨⟩, hreceiptMessage, -⟩ := hreceipt
  rw [← some_field (isSome_of_exactKeys hkeys (by decide))] at hmessage hcorrelation
  rw [← some_field (isSome_of_exactKeys hreceiptKeys (by decide))] at hreceiptMessage
  have hcount : capabilities.length ≤ 64 := by
    rw [hcapabilities, List.length_map]
    exact (List.length_take_le _ _).trans (resultLimit_le hquery)
  have hevidence : opaqueReferencePattern.test (some (field input.protocolReceipt "message_id")) = some true := by
    obtain ⟨s, hs, haccepts⟩ := test_eq_true_iff.mp hreceiptMessage
    exact test_eq_true_iff.mpr ⟨s, hs, reference_of_messageId haccepts⟩
  have hids : Json.allDistinct (capabilities.map fun capability => field capability "capability_id") = true := by
    rw [hcapabilities, Json.allDistinct, decide_eq_true_eq, List.map_map, List.pairwise_map]
    refine (h.pairwise_matched.sublist (List.take_sublist _ _)).imp_of_mem fun {entry next} hentry hnext hpair => ?_
    have hid : ∀ entry ∈ (matched collation catalog input).take (resultLimit input.query),
        field (project entry) "capability_id" = .str entry.idText := by
      intro entry hmem
      rw [field, get_project entry (by decide) (by decide)]
      exact (h.id_of_mem (mem_matched.mp (List.mem_of_mem_take hmem)).1).1
    rw [Function.comp_apply, Function.comp_apply, hid entry hentry, hid next hnext, ← Bool.not_eq_true, Json.str_beq_str]
    exact hpair.2
  have hinteger : (some (Json.int capabilities.length)).bind Json.safeInteger? = some (capabilities.length : ℤ) := by
    have hsafe : ((capabilities.length : ℕ) : ℤ).natAbs ≤ 9007199254740991 := by omega
    exact if_pos hsafe
  have hflags : allFalse (resultOf input (matched collation catalog input).length capabilities.length capabilities generatedAt)
      ["authority_granted", "execution_authorized", "provider_contact_authorized", "memory_write_authorized",
        "settlement_authorized", "external_effects_authorized"] = true := by
    have hfalse : ((some (Json.bool false)) == some (Json.bool false)) = true := by decide
    simp only [allFalse, resultOf, Json.get_record, List.lookup_cons, String.reduceBEq, List.all_cons, List.all_nil, hfalse,
      Bool.and_true]
  have hprojections : ∀ capability ∈ capabilities, validateProjection capability = .ok () :=
    hcapabilities ▸ ensureAll_eq_ok.mp (ensureAll_project _)
  simp only [validateCapabilityDiscoveryResult, itemsOrReject, bind_eq_ok, orThrow_eq_ok, demand_eq_ok, demandTest_eq_ok,
    ensureAll_eq_ok, Bool.and_eq_true]
  simp only [resultOf, Json.get_record, List.lookup_cons, String.reduceBEq]
  refine ⟨(), ⟨hasExactKeys_record rfl, Json.some_beq_str_iff.mpr rfl⟩, (), hmessage, (), hcorrelation, (),
    Json.some_beq_str_iff.mpr rfl, capabilities.length, hinteger, (), ⟨⟨?_, ?_⟩, rfl⟩, capabilities, rfl, (), ⟨?_, hflags⟩,
    [field input.protocolReceipt "message_id"], rfl, (), ⟨⟨rfl, rfl⟩, ?_⟩, (), ?_, (), parse_isoText hgenerated, (),
    hprojections, hids⟩
  · simp
  · simpa using hcount
  · simp
  · simp [Json.allDistinct]
  · simpa using hevidence

/-- Past its checks, `discover` throws exactly when the time has no text. -/
theorem discover_eq_ok_iff (h : Named catalog) (hchecked : checkInput (engineDate other) input = .ok now) {result : Json} :
    discover (engineDate other) collation catalog input = .ok result ↔ ∃ generatedAt,
      isoText (engineDate other) now = some generatedAt ∧ result = resultOf input (matched collation catalog input).length
        ((matched collation catalog input).take (resultLimit input.query)).length
        (((matched collation catalog input).take (resultLimit input.query)).map project) generatedAt := by
  simp only [discover, bind_eq_ok, orThrow_eq_ok, pure_eq_ok, hchecked, ensureAll_project, Except.ok.injEq]
  constructor
  · rintro ⟨_, rfl, ⟨⟩, -, generatedAt, hgenerated, ⟨⟩, -, rfl⟩
    exact ⟨generatedAt, hgenerated, by rw [List.length_map]⟩
  · rintro ⟨generatedAt, hgenerated, rfl⟩
    have hvalid := validateCapabilityDiscoveryResult_resultOf h hchecked hgenerated (Eq.refl
      (((matched collation catalog input).take (resultLimit input.query)).map project))
    rw [List.length_map] at hvalid ⊢
    exact ⟨now, rfl, (), trivial, generatedAt, hgenerated, (), hvalid, rfl⟩

/-- Past its checks, `discover` throws the RangeError of a time that has no text. -/
theorem discover_eq_rangeError (hchecked : checkInput (engineDate other) input = .ok now) (hnone : isoText (engineDate other) now = none) :
    discover (engineDate other) collation catalog input = .error (.protocol .rangeError) := by
  simp only [discover, hchecked, ensureAll_project, hnone, bind, Except.bind, orThrow]

variable (collation) in
theorem lists_resultOf (h : Named catalog) (hchecked : checkInput (engineDate other) input = .ok now) (generatedAt : JsString) :
    Lists collation catalog input (resultOf input (matched collation catalog input).length
      ((matched collation catalog input).take (resultLimit input.query)).length
      (((matched collation catalog input).take (resultLimit input.query)).map project) generatedAt) := by
  obtain ⟨-, -, hidentity, hquery⟩ := checkInput_ok hchecked
  simp only [validateAgentIdentity, bind_eq_ok, require_eq_ok, Bool.and_eq_true] at hidentity
  obtain ⟨-, -, -, -, -, -, -, -, -, ⟨⟨hclass, -⟩, -⟩, -⟩ := hidentity
  simp only [validateCapabilityDiscoveryQuery, bind_eq_ok, demand_eq_ok, Bool.and_eq_true] at hquery
  obtain ⟨-, -, -, -, -, ⟨⟨-, hclassification⟩, -⟩, -⟩ := hquery
  refine ⟨matched collation catalog input, fun entry => ?_, h.pairwise_matched, Json.get_record _ _, ?_⟩
  · rw [mem_matched, h.findable.mem_values_iff,
      eligible_iff (isString_of_oneOf hclass) (isString_of_oneOf hclassification)]
  · refine (Json.get_record _ _).trans (congrArg (fun b => some (Json.bool b)) ?_)
    rw [List.length_take, decide_eq_decide]
    omega

end

/-! ## Registrations -/

def registrations (entries : List CatalogEntry) : List Call :=
  entries.map fun entry => .registerCapability entry.capability.1 (some (.bool entry.available))

/-- An entry under a new id is added at the end. -/
theorem step_register {entry : CatalogEntry} (hfresh : catalog.entries.get entry.id = none)
    (hroom : (catalog.entries.map.size : ℤ) < catalog.maxCapabilities) :
    (step catalog (.registerCapability entry.capability.1 (some (.bool entry.available)))) =
      { catalog with entries := catalog.entries.put entry } := by
  have hregister : catalog.registerCapability entry.capability.1 (some (.bool entry.available)) =
      .ok (entry.capability.1, { catalog with entries := catalog.entries.put entry }) := by
    simp only [CapabilityDiscoveryCatalog.registerCapability, bind_eq_ok, ofProtocol_eq_ok, demand_eq_ok, pure_eq_ok]
    refine ⟨entry.capability, validated_self _, entry.available, rfl, (), ?_, (), ?_, rfl⟩
    · change Gateway.sameText ((catalog.entries.get entry.id).map _) _ = true
      rw [hfresh]
      rfl
    · simp [hroom]
  rw [step, hregister]

/-- Registering entries under new ids adds them in their order. -/
theorem values_registrations {entries : List CatalogEntry} (hnodup : (entries.map CatalogEntry.id).Nodup)
    (hfresh : ∀ entry ∈ entries, catalog.entries.get entry.id = none)
    (hroom : (catalog.entries.map.size + entries.length : ℤ) ≤ catalog.maxCapabilities) :
    (run step catalog (registrations entries)).entries.values = catalog.entries.values ++ entries := by
  induction entries generalizing catalog with
  | nil => simp [registrations]
  | cons entry rest ih =>
    obtain ⟨hnew, hnodup⟩ := List.nodup_cons.mp (List.map_cons ▸ hnodup)
    obtain ⟨hentry, hrest⟩ := List.forall_mem_cons.mp hfresh
    rw [List.length_cons, Nat.cast_succ] at hroom
    have hput : (catalog.entries.put entry).map.entries = catalog.entries.map.entries ++ [(entry.id, entry)] :=
      JsMap.entries_set_of_get_eq_none hentry entry
    have hvalues : (catalog.entries.put entry).values = catalog.entries.values ++ [entry] := by
      rw [Registry.values, JsMap.values, hput, List.map_append]
      rfl
    rw [registrations, List.map_cons, run_cons, step_register hentry (by omega), ← registrations, ih hnodup]
    · rw [hvalues, List.append_assoc]
      rfl
    · intro next hnext
      rw [Registry.get_put, if_neg, hrest next hnext]
      intro heq
      exact hnew (Json.eq_of_beq heq ▸ List.mem_map_of_mem hnext)
    · have hsize : (catalog.entries.put entry).map.size = catalog.entries.map.size + 1 := by
        rw [JsMap.size, hput, List.length_append]
        rfl
      change ((catalog.entries.put entry).map.size + rest.length : ℤ) ≤ catalog.maxCapabilities
      rw [hsize, Nat.cast_succ]
      omega

/-! ## Exactness -/

namespace Sample
open Agent.Sample

def codeUnits : Collation := ⟨Json.leUnits, Json.leUnits_total, fun _ _ _ => Json.leUnits_trans⟩

theorem separatesIds : SeparatesIds codeUnits := fun _ _ _ _ hle hge => Json.leUnits_antisymm hle hge

def queryValue : Json := .record [("contract_version", .text "kindred.agent.capability-discovery-query.v1"),
  ("requester_agent_id", .text workerId), ("action_types", texts ["communication"]), ("data_classification", .text "internal"),
  ("risk_ceiling", .text "medium"), ("result_limit", .int 1), ("include_unavailable", .bool false),
  ("authority_requested", .bool false), ("provider_contact_requested", .bool false), ("memory_write_requested", .bool false),
  ("tool_execution_requested", .bool false), ("settlement_requested", .bool false), ("external_effects", .bool false)]

/-- A query of the worker's that the gateway accepted at 16:21. -/
def input (now : ℚ) : Input where
  envelope := envelope "discovery" "nonce-0000000004" agent brainstem "internal" .null .null (texts []) .null .null queryValue
  protocolReceipt := .record [("contract_version", .text "kindred.agent.protocol-receipt.v1"),
    ("message_id", .text "kindred-message-note-001"), ("correlation_id", .text "note-0001"), ("status", .text "accepted"),
    ("accepted_at", .text "2026-07-21T16:21:00.000Z"), ("replay_consumed", .bool true)]
  identity := identityValue
  now := some now

def noOther : JsString → Option ℤ := fun _ => none

theorem admitted {now : ℚ} (h : (checkInput (engineDate noOther) (input now)).isOk = true) :
    checkInput (engineDate noOther) (input now) = .ok now := by
  cases hchecked : checkInput (engineDate noOther) (input now) with
  | error e =>
    rw [hchecked] at h
    cases h
  | ok t =>
    have hnow := hchecked
    simp only [checkInput, bind_eq_ok, orThrow_eq_ok, pure_eq_ok] at hnow
    obtain ⟨t', ht', -, -, -, -, -, -, -, -, rfl⟩ := hnow
    exact congrArg Except.ok (Option.some.inj ht').symm

/-- The calls that fill the catalog. -/
def calls : List Call := [.registerCapability capabilityValue none,
  .registerCapability (capabilityValue.set "capability_id" (.text "kindred.capability.draft.v1")) (some (.bool false)),
  .setAvailability (some (.text "kindred.capability.draft.v1")) (some (.bool true))]

theorem calls_named : ∀ call ∈ calls, call.Named := by
  simp only [calls, List.forall_mem_cons]
  exact ⟨⟨_, rfl⟩, ⟨_, rfl⟩, trivial, by simp⟩

def start : CapabilityDiscoveryCatalog := ⟨1024, Registry.empty⟩

end Sample

end Agent.Discovery
