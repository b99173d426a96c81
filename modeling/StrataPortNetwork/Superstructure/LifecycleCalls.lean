import StrataPortNetwork.Superstructure.LifecycleChain
import StrataPortNetwork.Superstructure.Sample
import StrataPortNetwork.Py.Encodable

/-! # Runs of lifecycle calls

`create` inserts the projection row and appends the first event in a second transaction.
Where that transaction cannot raise, the chains of all transactions stay whole over every
run, and a call that raises has changed nothing.
-/
namespace Superstructure
open Py
open Py.Value (isJson isJson_ofDict isJson_ofOption isJson_strings)
open Js (JsMap)

/-! ## The event has a digest -/

theorem mem_foldl_set {entries : Entries} {d : Dict} {key : Str} {v : Value}
    (h : (entries.foldl (fun d e => d.set e.1 e.2) d).get key = some v) : (key, v) ∈ entries ∨ d.get key = some v := by
  induction entries generalizing d with
  | nil => exact .inr h
  | cons e rest ih =>
    rcases ih h with hrest | hset
    · exact .inl (List.mem_cons_of_mem _ hrest)
    · rw [JsMap.get_set] at hset
      by_cases hkey : (e.1 == key) = true
      · rw [if_pos hkey] at hset
        rw [← beq_iff_eq.mp hkey, ← Option.some.inj hset]
        exact .inl List.mem_cons_self
      · rw [if_neg hkey] at hset
        exact .inr hset

/-- A dict has no other entries than those it is made of. -/
theorem mem_of_mem_dictOf {entries : Entries} {e : Str × Value} (h : e ∈ (dictOf entries).entries) : e ∈ entries := by
  rcases mem_foldl_set (JsMap.mem_entries_iff.mp h) with hmem | hempty
  · exact hmem
  · exact absurd hempty (by simp)

/-- What is hashed has a digest when the event is JSON without lone surrogates. -/
theorem digest_chained_ok (sha256 : Js.Bytes → Str) {event : Dict} {previous : Option Str}
    (hevent : ∀ e ∈ event.entries, e.2.isJson = true ∧ Scalar e.1 ∧ e.2.Scalar)
    (hprevious : (Value.ofOption previous).Scalar) :
    ∃ hash, digest sha256 (chained (.ofDict event) previous) = .ok hash := by
  have hjson : (Value.ofDict event).isJson = true := isJson_ofDict fun e he => (hevent e he).1
  have hscalar : (Value.ofDict event).Scalar := by
    rw [Value.ofDict, Value.Scalar, Value.scalarEntries_iff]
    exact fun e he => (hevent e he).2
  refine digest_ok ?_ ?_
  · simp [chained, Value.record, isJson, Value.entriesJson, hjson]
  · simp [chained, Value.record, Value.Scalar, Value.ScalarEntries, hscalar, hprevious, scalar_str]

namespace TransitionCall
variable {call : TransitionCall} {projection : Projection}

/-- The texts that an event takes from its call. -/
def texts (call : TransitionCall) : List Str :=
  let e := call.envelope
  [call.eventId, call.now, e.organizationId, e.tenantId, e.partnerId, e.environmentId, e.projectId, e.transactionId,
    e.messageId, e.correlationId, e.causationId, e.traceId, e.sourceIdentity, e.delegatedAuthority, e.originPort,
    e.destinationPort, e.destinationStratum, e.destinationCapability, call.newState, call.reason, e.payloadHash,
    call.reconciliation, e.truthClass] ++ e.disclosurePolicy

/-- The texts of the call have UTF-8 bytes. -/
def Encodable (call : TransitionCall) : Prop := ∀ t ∈ call.texts, Scalar t

theorem ownFields_json : ∀ field ∈ call.ownFields projection, field.2.isJson = true := by
  simp only [ownFields, List.map_cons, List.map_nil, List.forall_mem_cons, isJson_strings, isJson_ofOption, true_and]
  simp only [isJson, Value.text, true_and, List.not_mem_nil, false_imp_iff, implies_true, and_true]
  split <;> rfl

theorem scalar_classification (c : Classification) : Scalar c.value := by cases c <;> exact scalar_str _

/-- Where the texts of the call and of the projection row have UTF-8 bytes, so have those of the event. -/
theorem ownFields_scalar (hcall : call.Encodable) (hstatus : Scalar projection.status)
    (hlast : (Value.ofOption projection.lastEventHash).Scalar) :
    ∀ field ∈ call.ownFields projection, Scalar field.1 ∧ field.2.Scalar := by
  have hstrings : (Value.strings call.envelope.disclosurePolicy).Scalar := by
    rw [Value.strings, Value.Scalar, Value.scalarItems_iff]
    intro v hv
    obtain ⟨t, ht, rfl⟩ := List.mem_map.mp hv
    exact hcall t (List.mem_append_right _ ht)
  simp only [Encodable, texts, List.cons_append, List.nil_append, List.forall_mem_cons] at hcall
  simp only [ownFields, List.map_cons, List.map_nil, List.forall_mem_cons, scalar_str, true_and, hstrings, hlast]
  simp only [Value.Scalar, Value.text, scalar_str, scalar_classification, hcall, hstatus, true_and, List.not_mem_nil,
    false_imp_iff, implies_true, and_true]
  split <;> simp [Value.Scalar, scalar_str]

end TransitionCall

namespace LifecycleStore
variable {platform : Platform} {db : Database}

/-- The event of a call without extra entries has a digest and a text. -/
theorem plain_event (platform : Platform) {call : TransitionCall} {p : Projection} (hextra : call.extra = JsMap.empty)
    (hstatus : Scalar p.status) (hprevious : (Value.ofOption p.lastEventHash).Scalar) (hencodable : call.Encodable) :
    ∃ hash json, digest platform.sha256 (chained (.ofDict (call.event p)) p.lastEventHash) = .ok hash ∧
      dumps notSerializable (.ofDict ((call.event p).set (str "event_hash") (.str hash))) = .ok json := by
  have hfield : ∀ e ∈ (call.event p).entries, isJson e.2 = true ∧ Scalar e.1 ∧ e.2.Scalar := by
    intro e he
    have hown : e ∈ call.ownFields p := by
      refine (List.mem_append.mp (mem_of_mem_dictOf he)).resolve_right ?_
      rw [hextra]
      exact List.not_mem_nil
    exact ⟨TransitionCall.ownFields_json _ hown, TransitionCall.ownFields_scalar hencodable hstatus hprevious _ hown⟩
  obtain ⟨hash, hhash⟩ := digest_chained_ok platform.sha256 hfield hprevious
  have hfull : isJson (.ofDict ((call.event p).set (str "event_hash") (.str hash))) = true := by
    refine isJson_ofDict fun e he => ?_
    rw [JsMap.mem_entries_iff, JsMap.get_set] at he
    split at he
    · rw [← Option.some.inj he]
      rfl
    · exact (hfield _ (JsMap.mem_entries_iff.mpr he)).1
  exact ⟨hash, _, hhash, dif_pos hfull⟩

/-- A call without extra entries returns unless its version check fails, an integer or a text of it cannot be bound, or
its event id is taken. -/
theorem transitionIn_ok (platform : Platform) {call : TransitionCall} {p : Projection} (hextra : call.extra = JsMap.empty)
    (hp : db.transactions.get call.envelope.transactionId = some p)
    (hversion : call.expectedVersion.all (fun version => p.version = version) = true)
    (hplace : bindInt (p.version + 1) = .ok ()) (hretry : bindInt call.retryIncrement = .ok ())
    (hblocker : bindOption call.blocker = .ok ()) (hstatus : Scalar p.status)
    (hprevious : (Value.ofOption p.lastEventHash).Scalar) (hencodable : call.Encodable)
    (hfresh : ∀ row ∈ db.events, row.eventId ≠ call.eventId) :
    ∃ result, transitionIn platform call db = .ok result := by
  obtain ⟨hash, json, hhash, hjson⟩ := plain_event platform hextra hstatus hprevious hencodable
  have hid := call.get_event_id p (.str hash) (by rw [hextra, JsMap.get_empty])
  have hunused : db.events.any (fun row => row.eventId == call.eventId) = false := by simpa using hfresh
  have htexts : Scalar call.envelope.transactionId ∧ Scalar call.eventId ∧ Scalar call.newState ∧
      Scalar call.reconciliation := by
    refine ⟨?_, ?_, ?_, ?_⟩ <;> exact hencodable _ (by simp [TransitionCall.texts])
  obtain ⟨htransactionId, heventId, hnewState, hreconciliation⟩ := htexts
  simp only [transitionIn, Js.bind_eq_ok, Js.pure_eq_ok, Js.orThrow_eq_ok, Js.ensure_eq_ok]
  refine ⟨_, (), bindText_ok htransactionId, p, hp, (), hversion, hash, hhash, _, hid, json, hjson, _, rfl, (),
    bindText_ok heventId, (), ?_, (), bindText_ok hnewState, (), hplace, (), hretry, (), hblocker, (),
    bindText_ok hreconciliation, (), ?_, rfl⟩
  · rw [hunused]
    rfl
  · rw [hp]
    simp

/-- The first event of a transaction. -/
theorem received_ok (platform : Platform) {call : CreateCall} {p : Projection}
    (hp : db.transactions.get call.envelope.transactionId = some p) (hversion : p.version = 0)
    (hlast : p.lastEventHash = none) (hstatus : p.status = str "received") (hencodable : call.received.Encodable)
    (hfresh : ∀ row ∈ db.events, row.eventId ≠ call.eventId) :
    ∃ result, transitionIn platform call.received db = .ok result := by
  have hplace : bindInt (p.version + 1) = .ok () := by
    rw [hversion]
    rfl
  have hprevious : (Value.ofOption p.lastEventHash).Scalar := by
    rw [hlast]
    trivial
  exact transitionIn_ok platform (show call.received.extra = JsMap.empty from rfl) hp rfl hplace rfl rfl
    (hstatus ▸ scalar_str _) hprevious hencodable hfresh

/-! ## Creation -/

/-- The first transaction of the call inserts the projection row. -/
structure CreateCall.Inserts (call : CreateCall) (db : Database) : Prop where
  commits : call.insertFate = .commits
  json : call.envelope.asdict.isJson = true
  texts : Scalar call.envelope.transactionId ∧ Scalar call.envelope.organizationId ∧ Scalar call.envelope.tenantId
  fresh : db.transactions.get call.envelope.transactionId = none

/-- The second transaction of the call appends the first event. -/
structure CreateCall.Completes (call : CreateCall) (db : Database) : Prop where
  commits : call.eventFate = .commits
  encodable : call.received.Encodable
  fresh : ∀ row ∈ db.events, row.eventId ≠ call.eventId

theorem insert_ok {call : CreateCall} (h : call.Inserts db) (json : Json) :
    ∃ db', transaction call.insertFate (insertIn call.envelope json call.now) db = (.ok (), db') := by
  have hrun : ∃ result, insertIn call.envelope json call.now db = .ok result := by
    simp only [insertIn, Js.bind_eq_ok, Js.pure_eq_ok, Js.ensure_eq_ok]
    exact ⟨_, (), bindText_ok h.texts.1, (), bindText_ok h.texts.2.1, (), bindText_ok h.texts.2.2, (),
      by simpa using JsMap.get_eq_none_iff.mp h.fresh, rfl⟩
  obtain ⟨⟨⟨⟩, db'⟩, hresult⟩ := hrun
  exact ⟨db', h.commits ▸ transaction_of_ok hresult⟩

/-- A call that does not insert the row changes nothing; after one that does, only its event is missing. -/
theorem create_cases (platform : Platform) (call : CreateCall) (db : Database) :
    (¬call.Inserts db ∧ (create platform call db).2 = db) ∨
      (call.Inserts db ∧ ∃ p : Projection, p.version = 0 ∧ p.lastEventHash = none ∧ p.status = str "received" ∧
        create platform call db = transition platform call.eventFate call.received
          { db with transactions := db.transactions.set call.envelope.transactionId p }) := by
  unfold create
  cases hjson : dumps ⟨.attributeError, str "object has no attribute 'value'"⟩ call.envelope.asdict with
  | error e =>
    refine .inl ⟨fun h => ?_, rfl⟩
    rw [dumps, dif_pos h.json] at hjson
    exact absurd hjson (by simp [pure, Except.pure])
  | ok json =>
    rcases hinsert : transaction call.insertFate (insertIn call.envelope json call.now) db with ⟨_ | ⟨⟨⟩⟩, db'⟩
    · refine .inl ⟨fun h => ?_, ?_⟩
      · obtain ⟨db'', h⟩ := insert_ok h json
        rw [h] at hinsert
        exact absurd (congrArg Prod.fst hinsert) (by simp)
      · have hsame := transaction_error (congrArg Prod.fst hinsert)
        simpa only [hinsert] using hsame
    · have hbody := transaction_ok (congrArg Prod.fst hinsert)
      rw [hinsert] at hbody
      obtain ⟨hfresh, p, hversion, hlast, hstatus, rfl⟩ := insertIn_spec hbody
      refine .inr ⟨⟨transaction_commits (congrArg Prod.fst hinsert), (dumps_eq_ok.mp hjson).1, ?_, hfresh⟩, p, hversion,
        hlast, hstatus, by simp only [hinsert]⟩
      simp only [insertIn, Js.bind_eq_ok] at hbody
      obtain ⟨⟨⟩, htransaction, ⟨⟩, horganization, ⟨⟩, htenant, -⟩ := hbody
      exact ⟨scalar_of_bindText htransaction, scalar_of_bindText horganization, scalar_of_bindText htenant⟩

end LifecycleStore

/-! ## Whole databases -/

/-- Every projection row ends a chain of at least one event. -/
structure Database.Whole (platform : Platform) (db : Database) : Prop where
  chained : db.Chained (LifecycleStore.Links platform)
  events : ∀ {id p}, db.transactions.get id = some p → db.rowsOf id ≠ []

theorem Database.whole_empty {platform : Platform} : Database.empty.Whole platform :=
  ⟨Database.chained_empty, fun hp => absurd hp (by simp [Database.empty])⟩

namespace LifecycleStore
variable {platform : Platform} {db : Database}

theorem transition_whole (hdb : db.Chained (Links platform)) {fate : Fate} {call : TransitionCall}
    (hothers : ∀ {id p}, id ≠ call.envelope.transactionId → db.transactions.get id = some p → db.rowsOf id ≠ [])
    (hkeeps : ∀ {p}, db.transactions.get call.envelope.transactionId = some p → call.KeepsChain p)
    {hash : Str} (h : (transition platform fate call db).1 = .ok hash) :
    (transition platform fate call db).2.Whole platform := by
  obtain ⟨hchained, ⟨row, hevents, hrow⟩, hsome⟩ :=
    transition_chained hdb (fun p _ _ hp hhash hjson => links_of_transition (hkeeps hp) hhash hjson) h
  refine ⟨hchained, fun {id p} hp => ?_⟩
  rw [Database.rowsOf_append hevents]
  split
  · simp
  · rename_i hid
    have hdbsome := hsome id
    rw [hp, Option.isSome_some, eq_comm, Option.isSome_iff_exists] at hdbsome
    obtain ⟨q, hq⟩ := hdbsome
    exact hothers (fun h => hid (hrow.trans h.symm)) hq

/-- Also a transition that raises leaves the database whole. -/
theorem transition_step (hdb : db.Whole platform) {fate : Fate} {call : TransitionCall}
    (hkeeps : ∀ {hash p}, (transition platform fate call db).1 = .ok hash →
      db.transactions.get call.envelope.transactionId = some p → call.KeepsChain p) :
    (transition platform fate call db).2.Whole platform := by
  cases hresult : (transition platform fate call db).1 with
  | error e =>
    rw [transition] at hresult ⊢
    rw [transaction_error hresult]
    exact hdb
  | ok hash => exact transition_whole hdb.chained (fun _ hp => hdb.events hp) (hkeeps hresult) hresult

theorem received_keepsChain (call : CreateCall) (p : Projection) : call.received.KeepsChain p :=
  ⟨fun _ h => absurd h (by simp [CreateCall.received]), rfl⟩

/-- Where its second transaction does not fail after the first one, `create` leaves the database whole, and it has
changed nothing when it raises. -/
theorem create_step (hdb : db.Whole platform) {call : CreateCall} (h : call.Inserts db → call.Completes db) :
    (create platform call db).2.Whole platform ∧
      ∀ e, (create platform call db).1 = .error e → (create platform call db).2 = db := by
  rcases create_cases platform call db with ⟨-, hsame⟩ | ⟨hinserts, p, hversion, hlast, hstatus, hcreate⟩
  · rw [hsame]
    exact ⟨hdb, fun _ _ => rfl⟩
  · obtain ⟨hcommits, hencodable, hfresh⟩ := h hinserts
    let inserted : Database := { db with transactions := db.transactions.set call.envelope.transactionId p }
    have hp : inserted.transactions.get call.envelope.transactionId = some p := by simp [inserted]
    have hchained : inserted.Chained (Links platform) :=
      Database.chained_insert hdb.chained hinserts.fresh hversion hlast
    have hothers : ∀ {id q}, id ≠ call.envelope.transactionId → inserted.transactions.get id = some q →
        inserted.rowsOf id ≠ [] := by
      intro id q hid hq
      rw [JsMap.get_set, if_neg (by simpa using Ne.symm hid)] at hq
      exact hdb.events hq
    obtain ⟨⟨hash, db'⟩, hbody⟩ := received_ok platform hp hversion hlast hstatus hencodable hfresh
    have hresult : (transition platform call.eventFate call.received inserted).1 = .ok hash := by
      rw [transition, hcommits, transaction_of_ok hbody]
    rw [hcreate]
    refine ⟨transition_whole hchained hothers (fun _ => received_keepsChain call _) hresult, fun e he => ?_⟩
    rw [hresult] at he
    exact absurd he (by simp)

end LifecycleStore

/-! ## Calls one after another -/

/-- The extra entries redefine no field of the event itself. -/
def TransitionCall.KeepsOwnFields (call : TransitionCall) : Prop :=
  (∀ projection, ∀ field ∈ call.ownFields projection, call.extra.get field.1 = none) ∧
    call.extra.get (str "event_hash") = none

theorem TransitionCall.KeepsOwnFields.keepsChain {call : TransitionCall} (h : call.KeepsOwnFields)
    (projection : Projection) : call.KeepsChain projection := by
  have hplace := h.1 projection (str "sequence", .int (projection.version + 1)) (by simp [TransitionCall.ownFields])
  exact ⟨fun _ hextra => absurd hextra (by simp [hplace]), h.2⟩

namespace LifecycleStore
variable {platform : Platform} {db : Database}

/-- A call of the store. -/
inductive Call
  | create (call : CreateCall)
  | transition (fate : Fate) (call : TransitionCall)

namespace Call

def perform (platform : Platform) : Call → Database → Outcome Str × Database
  | .create call, db => LifecycleStore.create platform call db
  | .transition fate call, db => LifecycleStore.transition platform fate call db

def step (platform : Platform) (db : Database) (call : Call) : Database := (call.perform platform db).2

end Call

/-- The calls of a client: a new transaction has well-formed texts and an unused event id, and the database takes its
event; a transition keeps the event's own fields. -/
def Admissible (db : Database) : Call → Prop
  | .create call => call.Completes db
  | .transition _ call => call.KeepsOwnFields

theorem call_step (hdb : db.Whole platform) {call : Call} (h : Admissible db call) :
    (call.step platform db).Whole platform ∧
      ∀ e, (call.perform platform db).1 = .error e → (call.perform platform db).2 = db := by
  cases call with
  | create call => exact create_step hdb fun _ => h
  | transition fate call =>
    refine ⟨transition_step hdb fun _ _ => TransitionCall.KeepsOwnFields.keepsChain h _, fun e he => ?_⟩
    exact transaction_error he

/-- After every run of calls the projection row of each transaction ends the chain of its events, which `verify`
accepts, and a further call that raises changes nothing. -/
theorem chain_invariant (platform : Platform) (calls : List Call) (db : Database)
    (hrun : Transition.run (Call.step platform) Database.empty calls = db)
    (h : Transition.Steps (Call.step platform) Admissible Database.empty calls) :
    (∀ id p, db.transactions.get id = some p → verify platform db id = .ok true ∧
      p.version = (db.rowsOf id).length ∧
      ∃ row, (db.rowsOf id).getLast? = some row ∧ p.lastEventHash = row.eventHash) ∧
    ∀ call e, Admissible db call → (call.perform platform db).1 = .error e → (call.perform platform db).2 = db := by
  have hstep : ∀ (db : Database) (call : Call), Admissible db call → db.Whole platform →
      (call.step platform db).Whole platform := fun _ _ hok hdb => (call_step hdb hok).1
  have hwhole : db.Whole platform := hrun ▸ Transition.run_invariant_of_steps hstep Database.whole_empty h
  refine ⟨fun id p hp => ?_, fun call e hcall => (call_step hwhole hcall).2 e⟩
  have hne := hwhole.events hp
  refine ⟨(hwhole.chained.verify_iff hp).mpr hne, hwhole.chained.version hp, _, List.getLast?_eq_some_getLast hne, ?_⟩
  rw [hwhole.chained.last hp, HashChain.last_eq_getLast _ hne]

end LifecycleStore

namespace Sample

/-- The envelope of the sample is stored without a failure. -/
def created (insertFate eventFate : Fate) : LifecycleStore.CreateCall :=
  ⟨direct, str "2026-07-26T16:21:00+00:00", insertFate, str "event-1", str "2026-07-26T16:21:00+00:00", eventFate⟩

def checkedIdentity : TransitionCall :=
  ⟨direct, str "identity_resolved", str "identity-and-authority-validated", some 1, 0, none, str "pending",
    dict [("operator", .text "port-zero")], str "event-2", str "2026-07-26T16:21:01+00:00"⟩

theorem created_encodable (insertFate eventFate : Fate) : (created insertFate eventFate).received.Encodable := by
  have hnil : Scalar [] := by simp [Scalar]
  simp [TransitionCall.Encodable, TransitionCall.texts, created, LifecycleStore.CreateCall.received, direct, routed,
    scalar_str, hnil]

theorem checkedIdentity_keepsOwnFields : checkedIdentity.KeepsOwnFields := by
  constructor
  · intro projection field hfield
    obtain ⟨name, hname, hkey⟩ := TransitionCall.exists_ownName hfield
    have hfree : ∀ name ∈ TransitionCall.ownNames, checkedIdentity.extra.get (str name) = none := by decide +kernel
    rw [← hkey, hfree name hname]
  · simp [checkedIdentity, dict]

/-- A transaction is created and moves on. -/
theorem created_transaction_verifies :
    (Transition.run (LifecycleStore.Call.step platform) Database.empty
      [.create (created .commits .commits), .transition .commits checkedIdentity]).transactions.get (str "tx1") = none ∨
    LifecycleStore.verify platform (Transition.run (LifecycleStore.Call.step platform) Database.empty
      [.create (created .commits .commits), .transition .commits checkedIdentity]) (str "tx1") = .ok true := by
  have hadmissible : Transition.Steps (LifecycleStore.Call.step platform) LifecycleStore.Admissible Database.empty
      [.create (created .commits .commits), .transition .commits checkedIdentity] :=
    ⟨⟨rfl, created_encodable _ _, fun row hrow => absurd hrow List.not_mem_nil⟩, checkedIdentity_keepsOwnFields, trivial⟩
  cases hp : (Transition.run (LifecycleStore.Call.step platform) Database.empty
      [.create (created .commits .commits), .transition .commits checkedIdentity]).transactions.get (str "tx1") with
  | none => exact .inl rfl
  | some p => exact .inr ((LifecycleStore.chain_invariant platform _ _ rfl hadmissible).1 _ p hp).1

end Sample

end Superstructure
