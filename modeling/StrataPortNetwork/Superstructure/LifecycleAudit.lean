import StrataPortNetwork.Superstructure.LifecycleCalls
import StrataPortNetwork.Py.Unambiguous

/-! # What verification tells

`verify` reads the events of a transaction and later its projection row, while other clients
go on. Where no event falls between the two reads, it accepts what the store has written;
and with a hash without collisions it accepts nothing else.
-/
namespace Superstructure
open Py
open Py.Value (isJson sortedEntries sortedEntries_eq_map)
open Js (JsMap)

namespace LifecycleStore

/-- A transaction of a client: the first one of `create`, or that of a transition. -/
inductive ClientStep
  | insert (fate : Fate) (envelope : ProductionEnvelope) (envelopeJson : Json) (now : Str)
  | append (fate : Fate) (call : TransitionCall)

namespace ClientStep

def step (platform : Platform) (db : Database) : ClientStep → Database
  | .insert fate envelope envelopeJson now => (transaction fate (insertIn envelope envelopeJson now) db).2
  | .append fate call => (transition platform fate call db).2

/-- A transition leaves the number and the hash of its event as they are. -/
def KeepsChain (db : Database) : ClientStep → Prop
  | .insert .. => True
  | .append _ call => ∀ p, db.transactions.get call.envelope.transactionId = some p → call.KeepsChain p

variable {platform : Platform} {check : EventRow → Option Str → ℤ → Prop} {db : Database}

/-- A step keeps the chains if the event it may append passes its check, and it takes no event away. -/
theorem step_chained (hdb : db.Chained check) (a : ClientStep)
    (hcheck : ∀ fate call, a = .append fate call → ∀ hash p eventId json,
      db.transactions.get call.envelope.transactionId = some p →
      digest platform.sha256 (chained (.ofDict (call.event p)) p.lastEventHash) = .ok hash →
      dumps notSerializable (.ofDict ((call.event p).set (str "event_hash") (.str hash))) = .ok json →
      check ⟨eventId, call.envelope.transactionId, some json, some hash, p.lastEventHash, call.now⟩
        p.lastEventHash (p.version + 1)) :
    (a.step platform db).Chained check ∧ ∀ id, db.rowsOf id <+: (a.step platform db).rowsOf id := by
  cases a with
  | insert fate envelope json now =>
    rw [step]
    cases hresult : (transaction fate (insertIn envelope json now) db).1 with
    | error e =>
      rw [transaction_error hresult]
      exact ⟨hdb, fun _ => List.prefix_rfl⟩
    | ok u =>
      obtain ⟨hfresh, p, hversion, hlast, -, hinserted⟩ := insertIn_spec (transaction_ok hresult)
      rw [hinserted]
      exact ⟨Database.chained_insert hdb hfresh hversion hlast, fun _ => List.prefix_rfl⟩
  | append fate call =>
    rw [step]
    cases hresult : (transition platform fate call db).1 with
    | error e =>
      rw [transition] at hresult ⊢
      rw [transaction_error hresult]
      exact ⟨hdb, fun _ => List.prefix_rfl⟩
    | ok hash =>
      obtain ⟨hchained, ⟨row, hevents, -⟩, -⟩ := transition_chained hdb (hcheck fate call rfl hash) hresult
      refine ⟨hchained, fun id => ?_⟩
      rw [Database.rowsOf_append hevents]
      split
      · exact List.prefix_append _ _
      · exact List.prefix_rfl

end ClientStep

/-! ## Reads at different times -/

variable {platform : Platform} {db : Database}

theorem links_step (hdb : db.Chained (Links platform)) {a : ClientStep} (h : a.KeepsChain db) :
    (a.step platform db).Chained (Links platform) ∧ ∀ id, db.rowsOf id <+: (a.step platform db).rowsOf id := by
  refine ClientStep.step_chained hdb a fun fate call heq hash p eventId json hp hhash hjson => ?_
  subst heq
  exact links_of_transition (h p hp) hhash hjson

theorem links_run (hdb : db.Chained (Links platform)) {steps : List ClientStep}
    (h : Transition.Steps (ClientStep.step platform) ClientStep.KeepsChain db steps) :
    (Transition.run (ClientStep.step platform) db steps).Chained (Links platform) ∧
      ∀ id, db.rowsOf id <+: (Transition.run (ClientStep.step platform) db steps).rowsOf id := by
  have hstep : ∀ (db' : Database) (a : ClientStep), a.KeepsChain db' →
      (db'.Chained (Links platform) ∧ ∀ id, db.rowsOf id <+: db'.rowsOf id) →
      (a.step platform db').Chained (Links platform) ∧ ∀ id, db.rowsOf id <+: (a.step platform db').rowsOf id := by
    rintro db' a hkeeps ⟨hchained, hgrown⟩
    obtain ⟨hchained', hgrown'⟩ := links_step hchained hkeeps
    exact ⟨hchained', fun id => (hgrown id).trans (hgrown' id)⟩
  exact Transition.run_invariant_of_steps hstep ⟨hdb, fun _ => List.prefix_rfl⟩ h

/-- Between the reads of `verify` any number of steps may fall. It accepts exactly when its first read finds an event
of the transaction and none is appended before its second read. -/
theorem verify_interleaved_iff (platform : Platform) (before between : List ClientStep) (id : Str) (db db' : Database)
    (hdb : Transition.run (ClientStep.step platform) Database.empty before = db)
    (hdb' : Transition.run (ClientStep.step platform) db between = db')
    (h : Transition.Steps (ClientStep.step platform) ClientStep.KeepsChain Database.empty (before ++ between)) :
    verifyReads platform (db.rowsOf id) (db'.transactions.get id) = .ok true ↔
      db.rowsOf id ≠ [] ∧ db'.rowsOf id = db.rowsOf id := by
  rw [Transition.steps_append, hdb] at h
  have hchained : db.Chained (Links platform) := hdb ▸ (links_run Database.chained_empty h.1).1
  obtain ⟨hchained', hgrown⟩ := hdb' ▸ links_run hchained h.2
  rw [verifyReads_eq_true]
  constructor
  · rintro ⟨-, hne, p, hp, hversion, -⟩
    rw [hchained'.version hp, Nat.cast_inj] at hversion
    exact ⟨hne, ((hgrown id).eq_of_length hversion.symm).symm⟩
  · rintro ⟨hne, hsame⟩
    have hlinked : HashChain.Linked (Links platform) EventRow.eventHash (db.rowsOf id) none 1 := by
      cases hp : db.transactions.get id with
      | none => exact absurd (hchained.orphans hp) hne
      | some p => exact hchained.linked hp
    cases hp : db'.transactions.get id with
    | none => exact absurd (hsame ▸ hchained'.orphans hp) hne
    | some p => exact ⟨hlinked, hne, p, rfl, hsame ▸ hchained'.version hp, hsame ▸ hchained'.last hp⟩

/-! ## Tamper evidence -/

/-- What a transition records, whatever its extra entries are. -/
def Recorded (platform : Platform) (row : EventRow) (previous : Option Str) (_ : ℤ) : Prop :=
  ∃ (event : Dict) (hash : Str) (json : Json), row.eventJson = some json ∧ row.eventHash = some hash ∧
    row.previousHash = previous ∧ (Value.ofDict event).isJson = true ∧
    digest platform.sha256 (chained (.ofDict event) previous) = .ok hash ∧
    dumps notSerializable (.ofDict (event.set (str "event_hash") (.str hash))) = .ok json

theorem canonicalText_chained {event : Value} {previous : Option Str} {text : Str}
    (h : canonicalText (chained event previous) = .ok text) : ∃ eventText, canonicalText event = .ok eventText := by
  simp only [chained, Value.record, List.map_cons, canonicalText, canonicalEntries, Js.bind_eq_ok] at h
  obtain ⟨-, ⟨eventText, htext, -⟩, -⟩ := h
  exact ⟨eventText, htext⟩

theorem isJson_chained {event : Value} {previous : Option Str} (h : event.isJson = true) :
    (chained event previous).isJson = true := by
  simp [chained, Value.record, isJson, Value.entriesJson, h]

/-- The events that are recorded are JSON. -/
theorem isJson_event {call : TransitionCall} {p : Projection} {hash : Str}
    (hextra : ∀ e ∈ call.extra.entries, e.2.wellFormed = true)
    (h : digest platform.sha256 (chained (.ofDict (call.event p)) p.lastEventHash) = .ok hash) :
    (Value.ofDict (call.event p)).isJson = true := by
  simp only [digest, canonicalJson, Js.bind_eq_ok] at h
  obtain ⟨-, ⟨text, htext, -⟩, -⟩ := h
  obtain ⟨eventText, heventText⟩ := canonicalText_chained htext
  refine Value.isJson_of_canonicalText ?_ heventText
  rw [Value.ofDict, Value.wellFormed, Bool.and_eq_true, decide_eq_true_iff, Value.entriesWellFormed_iff]
  refine ⟨(call.event p).nodup_keys, fun e he => ?_⟩
  rcases List.mem_append.mp (mem_of_mem_dictOf he) with hown | hextraMem
  · exact Value.wellFormed_of_isJson (TransitionCall.ownFields_json e hown)
  · exact hextra e hextraMem

end LifecycleStore

/-- The same decoded event, whatever the order of its entries, under the same hashes. -/
structure EventRow.Same (row row' : EventRow) : Prop where
  event : row.eventJson.map (·.val.sorted) = row'.eventJson.map (·.val.sorted)
  hash : row.eventHash = row'.eventHash
  previous : row.previousHash = row'.previousHash

namespace LifecycleStore
variable {platform : Platform} {db : Database}

/-- What is hashed determines the event and the hash before it. -/
theorem chained_inj {event event' : Value} {previous previous' : Option Str}
    (h : (chained event previous).sorted = (chained event' previous').sorted) :
    event.sorted = event'.sorted ∧ previous = previous' := by
  have hprevious : ∀ p : Option Str, (Value.ofOption p).sorted = Value.ofOption p := by
    intro p
    cases p <;> rfl
  simp only [chained, Value.record, List.map_cons, List.map_nil, Value.sorted, sortedEntries, Value.dict.injEq,
    hprevious] at h
  have hmem : ∀ e, e ∈ [(str "event", event.sorted), (str "previous_hash", Value.ofOption previous)] →
      e ∈ [(str "event", event'.sorted), (str "previous_hash", Value.ofOption previous')] := by
    intro e he
    rw [← (perm_sortByKey _).mem_iff, ← h, (perm_sortByKey _).mem_iff]
    exact he
  have hevent : event.sorted = event'.sorted := by simpa using hmem (str "event", event.sorted) (by simp)
  have hhash : Value.ofOption previous = Value.ofOption previous' := by
    simpa using hmem (str "previous_hash", Value.ofOption previous) (by simp)
  refine ⟨hevent, ?_⟩
  cases previous <;> cases previous' <;> simp_all [Value.ofOption]

/-- What passes the check of `verify` is a JSON dict with the hash of its other entries. -/
theorem links_cases {row : EventRow} {previous : Option Str} {place : ℤ} (h : Links platform row previous place) :
    ∃ (json : Json) (entries : Entries) (hash : Str), row.eventJson = some json ∧ json.val = .dict entries ∧
      row.eventHash = some hash ∧ row.previousHash = previous ∧ (str "event_hash", .str hash) ∈ entries ∧
      digest platform.sha256 (chained (.dict (entries.filter fun e => !(e.1 == str "event_hash"))) previous) =
        .ok hash := by
  simp only [Links, checkRow] at h
  cases hjson : row.eventJson with
  | none => simp [hjson] at h
  | some json =>
    simp only [hjson, Js.bind_eq_ok] at h
    obtain ⟨popped, hpopped, h⟩ := h
    cases hval : json.val with
    | dict entries =>
      rw [hval, popEventHash, Js.pure_eq_ok] at hpopped
      subst hpopped
      cases hlookup : entries.lookup (str "event_hash") with
      | none => simp [hlookup] at h
      | some stored =>
        have hn : (entries.map Prod.fst).Nodup := by
          have hisJson := json.property
          rw [hval, isJson, Bool.and_eq_true, decide_eq_true_iff] at hisJson
          exact hisJson.1
        simp only [hlookup, Option.map_some] at h
        rw [lookup_eq_some_iff_mem hn] at hlookup
        split at h
        · simp at h
        · rename_i hchecks
          simp only [Js.bind_eq_ok, Js.pure_eq_ok, decide_eq_true_eq] at h
          obtain ⟨hash, hhash, hrow⟩ := h
          simp only [Bool.or_eq_true, not_or, decide_eq_true_eq, Bool.not_eq_true', Bool.not_eq_false] at hchecks
          obtain ⟨⟨-, hprevious⟩, hstored⟩ := hchecks
          have hstr : stored = .str hash := by
            rw [← hrow] at hstored
            cases stored <;> simp_all [equalsText]
          exact ⟨json, entries, hash, rfl, hval, hrow.symm, not_not.mp hprevious, hstr ▸ hlookup, hhash⟩
    | _ => simp [hval, popEventHash, throw, throwThe, MonadExceptOf.throw] at hpopped

/-- The hash of a row determines its event and the hash before it. -/
theorem same_of_hash (hsha : Function.Injective platform.sha256) {row row' : EventRow} {previous previous' : Option Str}
    {place : ℤ} (h : Recorded platform row previous place) (h' : Links platform row' previous' place)
    (hhash : row.eventHash = row'.eventHash) : row.Same row' ∧ previous = previous' := by
  obtain ⟨event, hash, json, hjson, hrow, hprevious, hevent, hdigest, hdumps⟩ := h
  obtain ⟨json', entries, hash', hjson', hval, hrow', hprevious', hmem, hdigest'⟩ := links_cases h'
  obtain rfl : hash = hash' := by
    rw [hrow, hrow'] at hhash
    exact Option.some.inj hhash
  set rest := entries.filter fun e => !(e.1 == str "event_hash")
  have hn : (entries.map Prod.fst).Nodup ∧ Value.entriesJson entries = true := by
    have hisJson := json'.property
    rwa [hval, isJson, Bool.and_eq_true, decide_eq_true_iff] at hisJson
  have hrest : (Value.dict rest).isJson = true := by
    rw [isJson, Bool.and_eq_true, decide_eq_true_iff, Value.entriesJson_iff]
    exact ⟨hn.1.sublist (List.filter_sublist.map _),
      fun e he => Value.entriesJson_iff.mp hn.2 e (List.mem_filter.mp he).1⟩
  -- The hash has no collisions and the canonical text no ambiguity, so the event and the hash before it agree.
  have hchained : (chained (.ofDict event) previous).sorted = (chained (.dict rest) previous').sorted := by
    simp only [digest, Js.bind_eq_ok, Js.pure_eq_ok] at hdigest hdigest'
    obtain ⟨bytes, hbytes, hsum⟩ := hdigest
    obtain ⟨bytes', hbytes', hsum'⟩ := hdigest'
    obtain rfl := hsha (hsum.trans hsum'.symm)
    obtain ⟨text, htext, htext'⟩ := canonicalText_of_canonicalJson hbytes hbytes'
    exact sorted_eq_of_canonicalText (isJson_chained hevent) (isJson_chained hrest) (htext.trans htext'.symm)
  obtain ⟨hsorted, rfl⟩ := chained_inj hchained
  refine ⟨⟨?_, hrow.trans hrow'.symm, hprevious.trans hprevious'.symm⟩, rfl⟩
  have hpermEntries : (sortedEntries event.entries).Perm (sortedEntries rest) := by
    simp only [Value.ofDict, Value.sorted, Value.dict.injEq] at hsorted
    exact (perm_sortByKey _).symm.trans ((List.Perm.of_eq hsorted).trans (perm_sortByKey _))
  have hfresh : event.get (str "event_hash") = none := by
    have hnotMem : str "event_hash" ∉ event.entries.map Prod.fst := by
      rw [← keys_sortedEntries, (hpermEntries.map Prod.fst).mem_iff, keys_sortedEntries]
      simp [rest]
    cases hget : event.get (str "event_hash") with
    | none => rfl
    | some v => exact absurd (List.mem_map.mpr ⟨_, JsMap.mem_entries_iff.mpr hget, rfl⟩) hnotMem
  have hperm : (sortedEntries (event.entries ++ [(str "event_hash", .str hash)])).Perm (sortedEntries entries) := by
    rw [sortedEntries_eq_map, sortedEntries_eq_map]
    rw [sortedEntries_eq_map, sortedEntries_eq_map] at hpermEntries
    refine List.Perm.trans ?_ ((perm_filter_append hn.1 hmem).map _).symm
    rw [List.map_append, List.map_append]
    exact hpermEntries.append_right _
  obtain ⟨hfull, hjsonVal⟩ := dumps_eq_ok.mp hdumps
  rw [hjson, hjson', Option.map_some, Option.map_some, hjsonVal, hval, Value.sorted_sorted, Value.ofDict,
    JsMap.entries_set_of_get_eq_none hfresh, Value.sorted, Value.sorted]
  rw [sortByKey_congr hperm.symm]
  rw [keys_sortedEntries]
  exact hn.1

theorem recorded_run {steps : List ClientStep}
    (h : ∀ fate call, .append fate call ∈ steps → ∀ e ∈ call.extra.entries, e.2.wellFormed = true) :
    (Transition.run (ClientStep.step platform) Database.empty steps).Chained (Recorded platform) := by
  have hstep : ∀ (db : Database) (a : ClientStep),
      (∀ fate call, a = .append fate call → ∀ e ∈ call.extra.entries, e.2.wellFormed = true) →
      db.Chained (Recorded platform) → (a.step platform db).Chained (Recorded platform) := by
    intro db a hextra hdb
    refine (ClientStep.step_chained hdb a fun fate call heq hash p eventId json _ hhash hjson => ?_).1
    exact ⟨call.event p, hash, json, rfl, rfl, rfl, isJson_event (hextra fate call heq) hhash, hhash, hjson⟩
  exact Transition.run_invariant_of_steps hstep Database.chained_empty
    (Transition.steps_of_forall fun a ha fate call heq => h fate call (heq ▸ ha))

/-- Whatever becomes of the events after a run: as long as the projection row of a transaction is left alone, `verify`
accepts only the events that the store recorded. -/
theorem tamper_evident (platform : Platform) (hsha : Function.Injective platform.sha256) (steps : List ClientStep)
    (h : ∀ fate call, .append fate call ∈ steps → ∀ e ∈ call.extra.entries, e.2.wellFormed = true) (db db' : Database)
    (hrun : Transition.run (ClientStep.step platform) Database.empty steps = db) (id : Str)
    (hprojection : db'.transactions.get id = db.transactions.get id)
    (haltered : ¬List.Forall₂ EventRow.Same (db.rowsOf id) (db'.rowsOf id)) :
    verify platform db' id ≠ .ok true := by
  intro hverified
  have hchained : db.Chained (Recorded platform) := hrun ▸ recorded_run h
  rw [verify, hprojection] at hverified
  obtain ⟨hlinked, hne, p, hp, hversion, hlast⟩ := verifyReads_eq_true.mp hverified
  refine haltered (HashChain.forall₂_of_last ?_ (hchained.linked hp) hlinked ?_ ?_)
  · exact fun hrow hrow' hhash => same_of_hash hsha hrow hrow' hhash
  · exact Nat.cast_inj.mp ((hchained.version hp).symm.trans hversion)
  · exact (hchained.last hp).symm.trans hlast

end LifecycleStore

namespace Sample
open LifecycleStore

theorem direct_isJson : direct.asdict.isJson = true := by decide +kernel

def storedDirect : Json := ⟨direct.asdict.sorted, Value.isJson_sorted direct_isJson⟩

/-- The two transactions of `create` for the envelope of the sample. -/
def creating : List ClientStep :=
  [.insert .commits direct storedDirect (str "2026-07-26T16:21:00+00:00"),
    .append .commits (created .commits .commits).received]

/-- They leave one event. -/
theorem creating_appends (platform : Platform) : ∃ p row bytes,
    (Transition.run (ClientStep.step platform) Database.empty creating).transactions.get (str "tx1") = some p ∧
    p.version = 1 ∧ p.status = str "received" ∧ p.lastEventHash = some (platform.sha256 bytes) ∧
    (Transition.run (ClientStep.step platform) Database.empty creating).events = [row] ∧
    row.eventId = str "event-1" ∧ row.transactionId = str "tx1" := by
  have hinserts : (created .commits .commits).Inserts Database.empty :=
    ⟨rfl, direct_isJson, ⟨scalar_str _, scalar_str _, scalar_str _⟩, rfl⟩
  obtain ⟨db, hinsert⟩ := insert_ok hinserts storedDirect
  have hbody := transaction_ok (congrArg Prod.fst hinsert)
  rw [hinsert] at hbody
  obtain ⟨-, p, hversion, hlast, hstatus, rfl⟩ := insertIn_spec hbody
  let inserted : Database := { Database.empty with transactions := JsMap.set JsMap.empty (str "tx1") p }
  have hp : inserted.transactions.get (str "tx1") = some p := by simp [inserted]
  have happend : ∃ result, transitionIn platform (created .commits .commits).received inserted = .ok result :=
    received_ok platform hp hversion hlast hstatus (created_encodable _ _) fun row hrow => absurd hrow List.not_mem_nil
  obtain ⟨⟨hash, db⟩, happend⟩ := happend
  have hrun : Transition.run (ClientStep.step platform) Database.empty creating = db := by
    have hfirst : (transaction .commits (insertIn direct storedDirect (str "2026-07-26T16:21:00+00:00"))
        Database.empty).2 = inserted := congrArg Prod.snd hinsert
    rw [creating, Transition.run_cons, ClientStep.step, hfirst, Transition.run_cons, Transition.run_nil,
      ClientStep.step, transition, transaction_of_ok happend]
  obtain ⟨q, eventId, json, hq, hhash, -, htransactions, hevents, heventId⟩ := transitionIn_spec happend
  have hqp : q = p := Option.some.inj (hq.symm.trans hp)
  obtain ⟨bytes, -, rfl⟩ : ∃ bytes, canonicalJson _ = .ok bytes ∧ hash = platform.sha256 bytes := by
    simp only [digest, Js.bind_eq_ok, Js.pure_eq_ok] at hhash
    obtain ⟨bytes, hbytes, hhash⟩ := hhash
    exact ⟨bytes, hbytes, hhash.symm⟩
  rw [hrun]
  refine ⟨_, _, bytes, htransactions ▸ (JsMap.get_set _ _ _ _).trans (if_pos (by simp; rfl)), ?_, rfl, rfl, hevents,
    heventId rfl, rfl⟩
  rw [hqp, hversion]
  rfl

/-- A further transition of the transaction. -/
def checkedPolicy : TransitionCall := { checkedIdentity with
  newState := str "policy_checked"
  reason := str "governance-policy-validated"
  extra := JsMap.empty }

def advancing : ClientStep := .append .commits checkedPolicy

theorem checkedPolicy_encodable : checkedPolicy.Encodable := by
  have hnil : Scalar [] := by simp [Scalar]
  simp [TransitionCall.Encodable, TransitionCall.texts, checkedPolicy, checkedIdentity, direct, routed, scalar_str, hnil]

theorem checkedPolicy_keepsChain (p : Projection) : checkedPolicy.KeepsChain p :=
  ⟨fun _ h => absurd h (by simp [checkedPolicy]), rfl⟩

theorem creating_advancing_keepChain : Transition.Steps (ClientStep.step spelling) ClientStep.KeepsChain Database.empty
    (creating ++ [advancing]) :=
  ⟨trivial, fun p _ => received_keepsChain _ p, fun p _ => checkedPolicy_keepsChain p, trivial⟩

theorem creating_rows : ∃ row,
    (Transition.run (ClientStep.step spelling) Database.empty creating).rowsOf (str "tx1") = [row] := by
  obtain ⟨p, row, bytes, -, -, -, -, hevents, -, htransaction⟩ := creating_appends spelling
  exact ⟨row, by simp [Database.rowsOf, hevents, htransaction]⟩

theorem advancing_rows : ((advancing.step spelling
    (Transition.run (ClientStep.step spelling) Database.empty creating)).rowsOf (str "tx1")).length = 2 := by
  obtain ⟨first, hfirst⟩ := creating_rows
  obtain ⟨p, row, bytes, hp, hversion, hstatus, hlast, hevents, hid, -⟩ := creating_appends spelling
  set db := Transition.run (ClientStep.step spelling) Database.empty creating
  have happend : ∃ result, transitionIn spelling checkedPolicy db = .ok result := by
    refine transitionIn_ok spelling rfl hp ?_ ?_ rfl rfl (hstatus ▸ scalar_str _) (hlast ▸ scalar_hexText _)
      checkedPolicy_encodable fun row' hrow' => ?_
    · simp [checkedPolicy, checkedIdentity, hversion]
    · rw [hversion]
      rfl
    · rw [hevents, List.mem_singleton] at hrow'
      rw [hrow', hid]
      simp [checkedPolicy, checkedIdentity]
  obtain ⟨⟨hash, db'⟩, happend⟩ := happend
  obtain ⟨q, eventId, json, -, -, -, -, hevents', -⟩ := transitionIn_spec happend
  have hstep : advancing.step spelling db = db' := by
    rw [advancing, ClientStep.step, transition, transaction_of_ok happend]
  have hrows := (Database.rowsOf_append hevents' (str "tx1")).trans (if_pos rfl)
  rw [hstep, hrows, hfirst]
  rfl

/-- A transition falls between the two reads of `verify`. -/
theorem overtaken_verify_iff :
    verifyReads spelling ((Transition.run (ClientStep.step spelling) Database.empty creating).rowsOf (str "tx1"))
      ((Transition.run (ClientStep.step spelling) (Transition.run (ClientStep.step spelling) Database.empty creating)
        [advancing]).transactions.get (str "tx1")) = .ok true ↔
    (Transition.run (ClientStep.step spelling) Database.empty creating).rowsOf (str "tx1") ≠ [] ∧
      (Transition.run (ClientStep.step spelling) (Transition.run (ClientStep.step spelling) Database.empty creating)
        [advancing]).rowsOf (str "tx1") =
        (Transition.run (ClientStep.step spelling) Database.empty creating).rowsOf (str "tx1") :=
  verify_interleaved_iff spelling creating [advancing] (str "tx1") _ _ rfl rfl creating_advancing_keepChain

/-- It then reports an untouched history as tampered with. -/
theorem false_alarm : ¬∀ (platform : Platform) (before between : List ClientStep) (id : Str) (db db' : Database),
    Transition.run (ClientStep.step platform) Database.empty before = db →
    Transition.run (ClientStep.step platform) db between = db' →
    Transition.Steps (ClientStep.step platform) ClientStep.KeepsChain Database.empty (before ++ between) →
    db.rowsOf id ≠ [] → verifyReads platform (db.rowsOf id) (db'.transactions.get id) = .ok true := by
  intro hclaim
  obtain ⟨row, hrow⟩ := creating_rows
  have hverified := hclaim spelling creating [advancing] (str "tx1") _ _ rfl rfl creating_advancing_keepChain
    (by simp [hrow])
  obtain ⟨-, -, p, hp, hversion, -⟩ := verifyReads_eq_true.mp hverified
  have hchained := (links_run Database.chained_empty creating_advancing_keepChain).1
  rw [Transition.run_append] at hchained
  have hlength := (hchained.version hp).symm.trans hversion
  rw [Transition.run_cons, Transition.run_nil, advancing_rows, hrow] at hlength
  exact absurd hlength (by simp)

theorem creating_wellFormed : ∀ fate call, .append fate call ∈ creating →
    ∀ e ∈ call.extra.entries, e.2.wellFormed = true := by
  intro fate call hmem e he
  rw [creating, List.mem_cons, List.mem_singleton] at hmem
  rcases hmem with heq | heq
  · exact absurd heq (by simp)
  · rw [ClientStep.append.injEq] at heq
    rw [heq.2] at he
    exact absurd he List.not_mem_nil

/-- Deleting all events leaves the projections, and takes events away. -/
theorem without_events {db : Database} {id : Str} {row : EventRow} (hrow : db.rowsOf id = [row]) :
    (Database.mk db.transactions []).transactions.get id = db.transactions.get id ∧
      ¬ List.Forall₂ EventRow.Same (db.rowsOf id) ((Database.mk db.transactions []).rowsOf id) := by
  refine ⟨rfl, ?_⟩
  rw [hrow]
  exact fun h => nomatch h

/-- All events are deleted. -/
theorem deleted_events_detected :
    verify spelling ⟨(Transition.run (ClientStep.step spelling) Database.empty creating).transactions, []⟩ (str "tx1") ≠
      .ok true := by
  obtain ⟨row, hrow⟩ := creating_rows
  obtain ⟨hprojection, haltered⟩ := without_events hrow
  exact tamper_evident spelling hexText_injective creating creating_wellFormed _ _ rfl _ hprojection haltered

end Sample

end Superstructure
