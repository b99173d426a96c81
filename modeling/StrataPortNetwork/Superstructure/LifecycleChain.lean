import StrataPortNetwork.Superstructure.Lifecycle
import StrataPortNetwork.HashChain
import StrataPortNetwork.Transition

/-! # The chain of lifecycle events

A transition appends one event that links to the last one, and moves the projection row in
the same transaction. What `verify` decodes of an event has the text that was hashed, so
every transaction with an event verifies.
-/
namespace Superstructure
open Py
open Py.Value (isJson entriesJson_iff sortedEntries sortedEntries_eq_map)
open Js (JsMap)

namespace LifecycleStore
variable (platform : Platform)

/-- The row passes the check of `verify`. -/
def Links (row : EventRow) (previous : Option Str) (place : ℤ) : Prop :=
  checkRow platform row previous place = .ok true

variable {platform}

theorem chain_eq_some {rows : List EventRow} {previous result : Option Str} {place : ℤ} :
    chain platform rows previous place = .ok (some result) ↔
      HashChain.Linked (Links platform) EventRow.eventHash rows previous place ∧
        HashChain.last EventRow.eventHash rows previous = result := by
  induction rows generalizing previous place with
  | nil => simp [chain, HashChain.Linked]
  | cons row rest ih =>
    simp only [chain, Js.bind_eq_ok, HashChain.Linked, Links]
    constructor
    · rintro ⟨checked, hchecked, hrest⟩
      cases checked with
      | false => simp at hrest
      | true =>
        obtain ⟨hlinked, hlast⟩ := ih.mp hrest
        exact ⟨⟨hchecked, hlinked⟩, hlast⟩
    · rintro ⟨⟨hchecked, hlinked⟩, hlast⟩
      exact ⟨true, hchecked, ih.mpr ⟨hlinked, hlast⟩⟩

theorem verifyReads_eq_true {rows : List EventRow} {projection : Option Projection} :
    verifyReads platform rows projection = .ok true ↔
      HashChain.Linked (Links platform) EventRow.eventHash rows none 1 ∧ rows ≠ [] ∧
        ∃ p, projection = some p ∧ p.version = rows.length ∧
          p.lastEventHash = HashChain.last EventRow.eventHash rows none := by
  simp only [verifyReads, Js.bind_eq_ok]
  constructor
  · rintro ⟨result, hchain, hresult⟩
    cases result with
    | none => simp at hresult
    | some previous =>
      obtain ⟨hlinked, rfl⟩ := chain_eq_some.mp hchain
      simp only [Js.pure_eq_ok, Bool.and_eq_true, Bool.not_eq_true', List.isEmpty_eq_false_iff, Option.any_eq_true,
        decide_eq_true_eq] at hresult
      exact ⟨hlinked, hresult⟩
  · rintro ⟨hlinked, hne, p, rfl, hversion, hlast⟩
    refine ⟨_, chain_eq_some.mpr ⟨hlinked, rfl⟩, ?_⟩
    simp [hne, hversion, hlast]

end LifecycleStore

/-! ## One transition -/

/-- The extra entries leave the place of the event and its hash as they are. -/
structure TransitionCall.KeepsChain (call : TransitionCall) (projection : Projection) : Prop where
  place : ∀ v, call.extra.get (str "sequence") = some v →
    LifecycleStore.equalsInt (some v) (projection.version + 1) = true
  hash : call.extra.get (str "event_hash") = none

theorem get_foldl_set {entries : Entries} {d : Dict} {key : Str} (h : ∀ e ∈ entries, e.1 ≠ key) :
    (entries.foldl (fun d e => d.set e.1 e.2) d).get key = d.get key := by
  induction entries generalizing d with
  | nil => rfl
  | cons e rest ih =>
    rw [List.foldl_cons, ih fun e' he' => h e' (List.mem_cons_of_mem _ he'), JsMap.get_set,
      if_neg (by simpa using h e List.mem_cons_self)]

/-- A key that only ever gets one value holds it. -/
theorem get_dictOf_of_mem {entries : Entries} {key : Str} {v : Value} (hmem : (key, v) ∈ entries)
    (honly : ∀ e ∈ entries, e.1 = key → e.2 = v) : (dictOf entries).get key = some v := by
  have hfold : ∀ d : Dict, (∀ e ∈ entries, e.1 = key → e.2 = v) → (d.get key = some v ∨ (key, v) ∈ entries) →
      (entries.foldl (fun d e => d.set e.1 e.2) d).get key = some v := by
    clear honly hmem
    induction entries with
    | nil => exact fun d _ h => h.resolve_right List.not_mem_nil
    | cons e rest ih =>
      intro d honly h
      refine ih (d.set e.1 e.2) (fun e' he' => honly e' (List.mem_cons_of_mem _ he')) ?_
      by_cases hkey : e.1 = key
      · refine .inl ?_
        rw [JsMap.get_set, if_pos (by simpa using hkey), honly e List.mem_cons_self hkey]
      · rcases h with hget | hmem
        · refine .inl ?_
          rw [JsMap.get_set, if_neg (by simpa using hkey), hget]
        · refine .inr ((List.mem_cons.mp hmem).resolve_left ?_)
          rintro rfl
          exact hkey rfl
  exact hfold _ honly (.inr hmem)

theorem ne_of_get_eq_none {d : Dict} {key : Str} (h : d.get key = none) : ∀ e ∈ d.entries, e.1 ≠ key := by
  rintro e he rfl
  rw [JsMap.mem_entries_iff.mp he] at h
  exact absurd h (by simp)

namespace TransitionCall
variable {call : TransitionCall}

/-- A field that the extra entries do not redefine. -/
theorem get_event {projection : Projection} {key : Str} (h : call.extra.get key = none) :
    (call.event projection).get key = (dictOf (call.ownFields projection)).get key := by
  rw [event, dictOf, List.foldl_append]
  exact get_foldl_set (ne_of_get_eq_none h)

/-- A field that they redefine. -/
theorem get_event_of_extra {projection : Projection} {key : Str} {v : Value} (h : call.extra.get key = some v) :
    (call.event projection).get key = some v := by
  obtain ⟨before, after, hsplit⟩ := List.append_of_mem (JsMap.mem_entries_iff.mpr h)
  have hafter : ∀ e ∈ after, e.1 ≠ key := by
    have hnodup := call.extra.nodup_keys
    rw [hsplit, List.map_append, List.map_cons] at hnodup
    rintro e he rfl
    exact (List.nodup_cons.mp hnodup.of_append_right).1 (List.mem_map.mpr ⟨e, he, rfl⟩)
  rw [event, dictOf, hsplit, List.foldl_append, List.foldl_append, List.foldl_cons, get_foldl_set hafter,
    JsMap.get_set, if_pos (by simp)]

/-- The names of the event's own fields. -/
def ownNames : List String :=
  ["event_id", "schema_version", "timestamp", "organization_id", "tenant_id", "partner_id",
    "environment_id", "project_id", "transaction_id", "destination_transaction_id", "message_id",
    "correlation_id", "causation_id", "trace_id", "source_identity", "acting_identity",
    "delegated_authority", "origin_port", "destination_port", "stratum", "capability",
    "provider_of_record", "transport_rail", "attempt", "sequence", "previous_state", "new_state",
    "reason_code", "provider_response_code", "rail_response_code", "receipt_id", "receipt_hash",
    "payload_hash", "reconciliation_state", "evidence_state", "truth_class", "classification",
    "disclosure_policy", "previous_event_hash"]

theorem keys_ownFields (projection : Projection) : (call.ownFields projection).map Prod.fst = ownNames.map str := by
  simp only [ownFields, ownNames, List.map_cons, List.map_nil]

theorem exists_ownName {projection : Projection} {field : Str × Value} (h : field ∈ call.ownFields projection) :
    ∃ name ∈ ownNames, str name = field.1 := by
  have hkey := List.mem_map_of_mem (f := Prod.fst) h
  rw [keys_ownFields] at hkey
  exact List.mem_map.mp hkey

/-- Each of the own fields is there once. -/
theorem get_ownFields {projection : Projection} {key : Str} {v : Value} (hmem : (key, v) ∈ call.ownFields projection) :
    (dictOf (call.ownFields projection)).get key = some v := by
  have hnodup : ((call.ownFields projection).map Prod.fst).Nodup := by
    rw [keys_ownFields]
    exact List.Nodup.map str_injective (by decide +kernel)
  refine get_dictOf_of_mem hmem fun e he hkey => ?_
  exact congrArg Prod.snd (List.inj_on_of_nodup_map hnodup he hmem hkey)

theorem get_event_sequence {projection : Projection} (h : call.KeepsChain projection) :
    ∃ v, (call.event projection).get (str "sequence") = some v ∧
      LifecycleStore.equalsInt (some v) (projection.version + 1) = true := by
  cases hextra : call.extra.get (str "sequence") with
  | none =>
    refine ⟨.int (projection.version + 1), ?_, by simp [LifecycleStore.equalsInt]⟩
    rw [get_event hextra]
    exact get_ownFields (by simp [ownFields])
  | some v => exact ⟨v, get_event_of_extra hextra, h.place v hextra⟩

/-- The id of the event, also after its hash is put in. -/
theorem get_event_id (call : TransitionCall) (projection : Projection) (hash : Value)
    (h : call.extra.get (str "event_id") = none) :
    ((call.event projection).set (str "event_hash") hash).get (str "event_id") = some (.str call.eventId) := by
  rw [JsMap.get_set, if_neg (by simp), get_event h]
  exact get_ownFields List.mem_cons_self

theorem get_event_hash {projection : Projection} (h : call.KeepsChain projection) :
    (call.event projection).get (str "event_hash") = none := by
  have hnew : ∀ field ∈ call.ownFields projection, field.1 ≠ str "event_hash" := by
    intro field hfield
    obtain ⟨name, hname, hkey⟩ := exists_ownName hfield
    rw [← hkey, str_injective.ne_iff]
    rintro rfl
    exact absurd hname (by decide +kernel)
  rw [get_event h.hash, dictOf, get_foldl_set hnew]
  rfl

end TransitionCall

theorem LifecycleStore.equalsInt_sorted (v : Value) (i : ℤ) : equalsInt (some v.sorted) i = equalsInt (some v) i := by
  cases v <;> rfl

namespace LifecycleStore
variable {platform : Platform}

/-- What a transition appends and how it moves the projection. -/
theorem transitionIn_spec {call : TransitionCall} {db db' : Database} {hash : Str}
    (h : transitionIn platform call db = .ok (hash, db')) : ∃ projection eventId eventJson,
      db.transactions.get call.envelope.transactionId = some projection ∧
      digest platform.sha256 (chained (.ofDict (call.event projection)) projection.lastEventHash) = .ok hash ∧
      dumps notSerializable (.ofDict ((call.event projection).set (str "event_hash") (.str hash))) = .ok eventJson ∧
      db'.transactions = db.transactions.set call.envelope.transactionId { projection with
        status := call.newState
        version := projection.version + 1
        lastEventHash := some hash
        blocker := call.blocker
        reconciliationStatus := call.reconciliation
        updatedAt := call.now } ∧
      db'.events = db.events ++ [⟨eventId, call.envelope.transactionId, some eventJson, some hash,
        projection.lastEventHash, call.now⟩] ∧
      (call.extra.get (str "event_id") = none → eventId = call.eventId) := by
  simp only [transitionIn, Js.bind_eq_ok, Js.pure_eq_ok, Prod.mk.injEq, Js.orThrow_eq_ok] at h
  obtain ⟨-, -, projection, hprojection, -, -, hash, hhash, value, hvalue, eventJson, hjson, eventId, htext, -, -, -, -,
    -, -, -, -, -, -, -, -, -, -, -, -, rfl, rfl⟩ := h
  refine ⟨projection, eventId, eventJson, hprojection, hhash, hjson, rfl, rfl, fun hextra => ?_⟩
  rw [call.get_event_id _ _ hextra] at hvalue
  rw [← Option.some.inj hvalue] at htext
  exact (Js.pure_eq_ok.mp htext).symm

theorem expectedVersion_of_transitionIn {call : TransitionCall} {db : Database} {result : Str × Database} {p : Projection}
    (hp : db.transactions.get call.envelope.transactionId = some p) (h : transitionIn platform call db = .ok result) :
    call.expectedVersion.all (fun version => p.version = version) = true := by
  simp only [transitionIn, Js.bind_eq_ok, Js.orThrow_eq_ok, Js.ensure_eq_ok] at h
  obtain ⟨-, -, q, hq, -, hversion, -⟩ := h
  rw [hp, Option.some.injEq] at hq
  exact hq ▸ hversion

/-- The row that a transition appends passes its check. -/
theorem links_of_transition {call : TransitionCall} {projection : Projection} (hkeeps : call.KeepsChain projection)
    {eventId transactionId hash createdAt : Str} {eventJson : Json}
    (hhash : digest platform.sha256 (chained (.ofDict (call.event projection)) projection.lastEventHash) = .ok hash)
    (hjson : dumps notSerializable (.ofDict ((call.event projection).set (str "event_hash") (.str hash))) =
      .ok eventJson) :
    Links platform ⟨eventId, transactionId, some eventJson, some hash, projection.lastEventHash, createdAt⟩
      projection.lastEventHash (projection.version + 1) := by
  obtain ⟨hisJson, hval⟩ := dumps_eq_ok.mp hjson
  have hfresh := TransitionCall.get_event_hash hkeeps
  have hnew : ((call.event projection).set (str "event_hash") (.str hash)).entries =
      (call.event projection).entries ++ [(str "event_hash", .str hash)] := JsMap.entries_set_of_get_eq_none hfresh _
  have hkey : str "event_hash" ∉ (call.event projection).entries.map Prod.fst := by
    intro hmem
    obtain ⟨e, he, hkey⟩ := List.mem_map.mp hmem
    exact ne_of_get_eq_none hfresh e he hkey
  -- What is decoded is the sorted form, and taking the hash out leaves the entries of the event.
  let full := sortByKey (sortedEntries ((call.event projection).entries ++ [(str "event_hash", .str hash)]))
  let rest := full.filter fun e => !(e.1 == str "event_hash")
  have hdecoded : eventJson.val = .dict full := by rw [hval, Value.ofDict, hnew]; rfl
  have hfull : (full.map Prod.fst).Nodup := by
    have hdecodedJson := eventJson.property
    rw [hdecoded, isJson, Bool.and_eq_true, decide_eq_true_iff] at hdecodedJson
    exact hdecodedJson.1
  have hmem : (str "event_hash", Value.str hash) ∈ full := by
    rw [(perm_sortByKey _).mem_iff, sortedEntries_eq_map]
    exact List.mem_map.mpr ⟨(str "event_hash", .str hash), by simp, rfl⟩
  have hpop : popEventHash eventJson.val = .ok (some (.str hash, .dict rest)) := by
    rw [hdecoded, popEventHash, (lookup_eq_some_iff_mem hfull).mpr hmem]
    rfl
  have hperm : rest.Perm (sortedEntries (call.event projection).entries) := perm_filter_sorted hkey
  have hsequence : equalsInt ((Value.dict rest).get "sequence") (projection.version + 1) = true := by
    obtain ⟨v, hget, hplace⟩ := TransitionCall.get_event_sequence hkeeps
    have hrest : (str "sequence", v.sorted) ∈ rest := by
      rw [hperm.mem_iff, sortedEntries_eq_map]
      exact List.mem_map.mpr ⟨_, JsMap.mem_entries_iff.mpr hget, rfl⟩
    rw [Value.get, (lookup_eq_some_iff_mem (hfull.sublist (List.filter_sublist.map _))).mpr hrest, equalsInt_sorted,
      hplace]
  have htext : canonicalText (.dict rest) = canonicalText (.ofDict (call.event projection)) := by
    refine canonicalText_of_perm_sorted ?_ hperm
    rw [Value.ofDict, hnew, isJson, Bool.and_eq_true, decide_eq_true_iff, entriesJson_iff] at hisJson
    rw [isJson, Bool.and_eq_true, decide_eq_true_iff, entriesJson_iff]
    rw [List.map_append] at hisJson
    exact ⟨hisJson.1.of_append_left, fun e he => hisJson.2 e (List.mem_append_left _ he)⟩
  have hdigest : digest platform.sha256 (chained (.dict rest) projection.lastEventHash) = .ok hash := by
    rw [← hhash, digest, digest, canonicalJson, canonicalJson]
    have hchained : canonicalText (chained (.dict rest) projection.lastEventHash) =
        canonicalText (chained (.ofDict (call.event projection)) projection.lastEventHash) :=
      canonicalText_dict_entry [] [(str "previous_hash", .ofOption projection.lastEventHash)] htext
    exact congrArg (fun t => (t >>= encode) >>= fun bytes => pure (platform.sha256 bytes)) hchained
  simp only [Links, checkRow, hpop, bind, Except.bind, hsequence, equalsText, hdigest]
  simp [pure, Except.pure]

end LifecycleStore

/-! ## Databases -/

namespace Database
variable {platform : Platform} {check : EventRow → Option Str → ℤ → Prop} {db : Database}

/-- The events of every transaction are a chain that its projection row ends. -/
structure Chained (check : EventRow → Option Str → ℤ → Prop) (db : Database) : Prop where
  linked : ∀ {id p}, db.transactions.get id = some p → HashChain.Linked check EventRow.eventHash (db.rowsOf id) none 1
  version : ∀ {id p}, db.transactions.get id = some p → p.version = (db.rowsOf id).length
  last : ∀ {id p}, db.transactions.get id = some p →
    p.lastEventHash = HashChain.last EventRow.eventHash (db.rowsOf id) none
  orphans : ∀ {id}, db.transactions.get id = none → db.rowsOf id = []

theorem chained_empty : Chained check empty where
  linked h := by simp [empty] at h
  version h := by simp [empty] at h
  last h := by simp [empty] at h
  orphans _ := rfl

/-- In a chained database `verify` accepts the transactions that have an event. -/
theorem Chained.verify_iff (h : db.Chained (LifecycleStore.Links platform)) {id : Str} {p : Projection}
    (hp : db.transactions.get id = some p) :
    LifecycleStore.verify platform db id = .ok true ↔ db.rowsOf id ≠ [] := by
  rw [LifecycleStore.verify, LifecycleStore.verifyReads_eq_true, hp]
  exact ⟨fun hverified => hverified.2.1, fun hne => ⟨h.linked hp, hne, p, rfl, h.version hp, h.last hp⟩⟩

theorem rowsOf_append {db' : Database} {row : EventRow} (h : db'.events = db.events ++ [row]) (id : Str) :
    db'.rowsOf id = if row.transactionId = id then db.rowsOf id ++ [row] else db.rowsOf id := by
  rw [rowsOf, h, List.filter_append]
  by_cases hid : row.transactionId = id
  · simp [rowsOf, hid]
  · simp [rowsOf, hid]

/-- A new projection row, which has no events yet, keeps the chains. -/
theorem chained_insert (hdb : db.Chained check) {id : Str} {p : Projection} (hid : db.transactions.get id = none)
    (hversion : p.version = 0) (hlast : p.lastEventHash = none) :
    Chained check { db with transactions := db.transactions.set id p } := by
  have hrows : rowsOf { db with transactions := db.transactions.set id p } id = [] := hdb.orphans hid
  have hget : ∀ {i q}, (db.transactions.set id p).get i = some q →
      (i = id ∧ q = p) ∨ db.transactions.get i = some q := by
    intro i q hq
    rw [JsMap.get_set] at hq
    split at hq
    · rename_i hkey
      exact .inl ⟨(beq_iff_eq.mp hkey).symm, (Option.some.inj hq).symm⟩
    · exact .inr hq
  constructor
  · intro i q hq
    rcases hget hq with ⟨rfl, rfl⟩ | hq
    · rw [hrows]
      trivial
    · exact hdb.linked hq
  · intro i q hq
    rcases hget hq with ⟨rfl, rfl⟩ | hq
    · rw [hrows, hversion]
      rfl
    · exact hdb.version hq
  · intro i q hq
    rcases hget hq with ⟨rfl, rfl⟩ | hq
    · rw [hrows, hlast]
      rfl
    · exact hdb.last hq
  · intro i hi
    rw [JsMap.get_set] at hi
    split at hi
    · exact absurd hi (by simp)
    · exact hdb.orphans hi

/-- Appending a row that passes its check, and moving the projection row to it, keeps the chains. -/
theorem chained_append (hdb : db.Chained check) {db' : Database} {id : Str} {p p' : Projection} {row : EventRow}
    (hp : db.transactions.get id = some p) (hcheck : check row p.lastEventHash (p.version + 1))
    (hrow : row.transactionId = id) (hversion : p'.version = p.version + 1) (hlast : p'.lastEventHash = row.eventHash)
    (htransactions : db'.transactions = db.transactions.set id p') (hevents : db'.events = db.events ++ [row]) :
    db'.Chained check := by
  have hrows := fun i => @rowsOf_append _ db' _ hevents i
  have hget : ∀ i q, db'.transactions.get i = some q → (i = id ∧ q = p') ∨ (i ≠ id ∧ db.transactions.get i = some q) := by
    intro i q hq
    rw [htransactions, JsMap.get_set] at hq
    by_cases hi : i = id
    · rw [if_pos (by simp [hi])] at hq
      exact .inl ⟨hi, (Option.some.inj hq).symm⟩
    · rw [if_neg (by simpa using fun h : id = i => hi h.symm)] at hq
      exact .inr ⟨hi, hq⟩
  have hsame : db'.rowsOf id = db.rowsOf id ++ [row] := by rw [hrows, if_pos hrow]
  have hother : ∀ {i}, i ≠ id → db'.rowsOf i = db.rowsOf i := by
    intro i hi
    rw [hrows, if_neg fun h => hi (h.symm.trans hrow)]
  constructor
  · intro i q hq
    rcases hget i q hq with ⟨rfl, rfl⟩ | ⟨hi, hq⟩
    · rw [hsame, HashChain.linked_append, ← hdb.last hp, add_comm, ← hdb.version hp]
      exact ⟨hdb.linked hp, hcheck⟩
    · rw [hother hi]
      exact hdb.linked hq
  · intro i q hq
    rcases hget i q hq with ⟨rfl, rfl⟩ | ⟨hi, hq⟩
    · rw [hsame, hversion, hdb.version hp]
      simp
    · rw [hother hi]
      exact hdb.version hq
  · intro i q hq
    rcases hget i q hq with ⟨rfl, rfl⟩ | ⟨hi, hq⟩
    · rw [hsame, HashChain.last_append, hlast]
    · rw [hother hi]
      exact hdb.last hq
  · intro i hi
    rw [htransactions, JsMap.get_set] at hi
    by_cases heq : (id == i) = true
    · rw [if_pos heq] at hi
      exact absurd hi (by simp)
    · rw [if_neg heq] at hi
      rw [hother fun h => heq (by simp [h])]
      exact hdb.orphans hi

end Database

namespace LifecycleStore
variable {platform : Platform} {check : EventRow → Option Str → ℤ → Prop} {db : Database}

/-- What the first transaction of `create` inserts. -/
theorem insertIn_spec {envelope : ProductionEnvelope} {json : Json} {now : Str} {db' : Database}
    (h : insertIn envelope json now db = .ok ((), db')) : db.transactions.get envelope.transactionId = none ∧
      ∃ p : Projection, p.version = 0 ∧ p.lastEventHash = none ∧ p.status = str "received" ∧
        db' = { db with transactions := db.transactions.set envelope.transactionId p } := by
  simp only [insertIn, Js.bind_eq_ok, Js.pure_eq_ok, Prod.mk.injEq, true_and, Js.ensure_eq_ok, Bool.not_eq_true'] at h
  obtain ⟨-, -, -, -, -, -, -, hnew, rfl⟩ := h
  exact ⟨JsMap.get_eq_none_iff.mpr hnew, _, rfl, rfl, rfl, rfl⟩

/-- A transition that returns keeps the chains and adds its event. -/
theorem transition_chained (hdb : db.Chained check) {fate : Fate} {call : TransitionCall} {hash : Str}
    (hcheck : ∀ p eventId json, db.transactions.get call.envelope.transactionId = some p →
      digest platform.sha256 (chained (.ofDict (call.event p)) p.lastEventHash) = .ok hash →
      dumps notSerializable (.ofDict ((call.event p).set (str "event_hash") (.str hash))) = .ok json →
      check ⟨eventId, call.envelope.transactionId, some json, some hash, p.lastEventHash, call.now⟩
        p.lastEventHash (p.version + 1))
    (h : (transition platform fate call db).1 = .ok hash) :
    (transition platform fate call db).2.Chained check ∧
      (∃ row, (transition platform fate call db).2.events = db.events ++ [row] ∧
        row.transactionId = call.envelope.transactionId) ∧
      ∀ id, ((transition platform fate call db).2.transactions.get id).isSome = (db.transactions.get id).isSome := by
  obtain ⟨p, eventId, json, hp, hhash, hjson, htransactions, hevents, -⟩ := transitionIn_spec (transaction_ok h)
  refine ⟨Database.chained_append hdb hp (hcheck p eventId json hp hhash hjson) rfl rfl rfl htransactions hevents,
    ⟨_, hevents, rfl⟩, fun id => ?_⟩
  rw [transition, htransactions, JsMap.get_set]
  split
  · rename_i hid
    rw [← beq_iff_eq.mp hid, hp]
    rfl
  · rfl

end LifecycleStore

end Superstructure
