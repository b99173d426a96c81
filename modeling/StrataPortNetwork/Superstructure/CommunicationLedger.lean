import StrataPortNetwork.Superstructure.Communications
import StrataPortNetwork.Superstructure.Sample
import StrataPortNetwork.HashChain
import StrataPortNetwork.Transition

/-! # Concurrent appends and redelivered callbacks

An append links its event to the last one it has read. The chain of a message holds as long
as no other append to the message commits between that read and the insert.
-/
namespace Superstructure.CommunicationLedger
open Py
open Py.Value (isJson scalar_ofOption)

/-! ## The chain of a message -/

section Chain
variable {platform : Platform}

/-- What the next event of a message links to. -/
def head (row : CommunicationRow) : Option (Str × CommunicationState) := some (row.eventHash, row.event.newState)

/-- The row passes the check of `verify`, and its event follows the state before it. -/
def Follows (platform : Platform) (row : CommunicationRow) (previous : Option (Str × CommunicationState)) (_ : ℤ) : Prop :=
  checkRow platform row (previous.map Prod.fst) = true ∧ row.event.previousState = previous.map Prod.snd

/-- Each event's previous state is the new state of the event before it. -/
def StatesFollow : List CommunicationRow → Option CommunicationState → Prop
  | [], _ => True
  | row :: rest, previous => row.event.previousState = previous ∧ StatesFollow rest (some row.event.newState)

theorem chain_of_linked {rows : List CommunicationRow} {previous : Option (Str × CommunicationState)} {place : ℤ}
    (h : HashChain.Linked (Follows platform) head rows previous place) :
    chain platform rows (previous.map Prod.fst) = true ∧ StatesFollow rows (previous.map Prod.snd) := by
  induction rows generalizing previous place with
  | nil => exact ⟨rfl, trivial⟩
  | cons row rest ih =>
    obtain ⟨hchain, hstates⟩ := ih h.2
    refine ⟨?_, h.1.2, hstates⟩
    rw [chain, h.1.1, Bool.true_and]
    exact hchain

theorem evidenceHash_of_checkRow {row : CommunicationRow} {previous : Option Str}
    (h : checkRow platform row previous = true) : row.event.evidenceHash = row.eventHash := by
  rw [checkRow, Bool.and_eq_true, decide_eq_true_eq] at h
  exact h.2

/-- In a chain, what an append takes from the last event is what the next event links to. -/
theorem last_of_linked {rows : List CommunicationRow} (h : HashChain.Linked (Follows platform) head rows none 1) :
    (rows.getLast?.map fun row => row.event.evidenceHash) = (HashChain.last head rows none).map Prod.fst ∧
      (rows.getLast?.map fun row => row.event.newState) = (HashChain.last head rows none).map Prod.snd := by
  rcases List.eq_nil_or_concat rows with rfl | ⟨rest, row, rfl⟩
  · exact ⟨rfl, rfl⟩
  · rw [List.concat_eq_append] at h ⊢
    rw [HashChain.linked_append] at h
    rw [List.getLast?_append, HashChain.last_append]
    exact ⟨congrArg some (evidenceHash_of_checkRow h.2.1), rfl⟩

/-- What `append` makes of the events it has read. -/
theorem prepare_spec {call : AppendCall} {eventId now : Str} {prior : List CommunicationRow} {row : CommunicationRow}
    (h : prepare platform call eventId now prior = .ok row) :
    validate (prior.getLast?.map fun row => row.event.newState) call.newState call.reasonCode = .ok () ∧
      row.eventId = eventId ∧ row.messageId = call.messageId ∧ row.callbackId = call.callbackId ∧
      checkRow platform row (prior.getLast?.map fun row => row.event.evidenceHash) = true ∧
      (row.event.previousState = prior.getLast?.map fun row => row.event.newState) ∧
      row.event.newState = call.newState := by
  simp only [prepare, Js.bind_eq_ok, Js.pure_eq_ok] at h
  obtain ⟨⟨⟩, hvalid, hash, hhash, rfl⟩ := h
  refine ⟨hvalid, rfl, rfl, rfl, ?_, rfl, rfl⟩
  have hsame : ({ pending call eventId now (prior.getLast?.map fun row => row.event.newState) with
      evidenceHash := str "pending" } : CommunicationEvent) =
      pending call eventId now (prior.getLast?.map fun row => row.event.newState) := rfl
  simp only [checkRow, hsame, hhash, decide_true, Bool.and_self]

theorem insertIn_spec {row : CommunicationRow} {db db' : Communications} (h : insertIn row db = .ok ((), db')) :
    db' = db ++ [row] ∧ ∀ r ∈ db, r.callbackId = row.callbackId → row.callbackId = none := by
  simp only [insertIn, Js.bind_eq_ok, Js.pure_eq_ok, Js.ensure_eq_ok, Prod.mk.injEq, true_and] at h
  obtain ⟨-, -, -, -, -, -, -, -, -, -, -, -, -, -, -, hcallback, rfl⟩ := h
  refine ⟨rfl, fun r hr hsame => ?_⟩
  cases hc : row.callbackId with
  | none => rfl
  | some callbackId =>
    rw [hc, Option.all_some, Bool.not_eq_true', List.any_eq_false] at hcallback
    exact absurd (by rw [hsame, hc]; simp) (hcallback r hr)

/-- A row that was prepared is inserted unless its attempt does not fit or its event id or callback id is taken. -/
theorem insertIn_ok {call : AppendCall} {eventId now : Str} {prior : List CommunicationRow} {row : CommunicationRow}
    {db : Communications} (hprepare : prepare platform call eventId now prior = .ok row)
    (htexts : Scalar eventId ∧ Scalar call.messageId ∧ (∀ callbackId ∈ call.callbackId, Scalar callbackId) ∧
      (∀ bytes, Scalar (platform.sha256 bytes)) ∧ ∀ r ∈ prior, Scalar r.event.evidenceHash)
    (hattempt : bindInt call.attemptNumber = .ok ()) (hfresh : ∀ r ∈ db, r.eventId ≠ eventId)
    (hcallback : ∀ r ∈ db, r.callbackId = call.callbackId → call.callbackId = none) :
    insertIn row db = .ok ((), db ++ [row]) := by
  obtain ⟨hevent, hmessage, hcallbackId, hsha, hprior⟩ := htexts
  simp only [prepare, Js.bind_eq_ok, Js.pure_eq_ok, digest] at hprepare
  obtain ⟨⟨⟩, -, hash, ⟨bytes, -, rfl⟩, rfl⟩ := hprepare
  have hoption : ∀ text : Option Str, (∀ t ∈ text, Scalar t) → bindOption text = .ok () := by
    intro text h
    cases text with
    | none => rfl
    | some t => exact bindText_ok (h t rfl)
  have hprevious : ∀ t ∈ prior.getLast?.map (fun r => r.event.evidenceHash), Scalar t := by
    intro t ht
    obtain ⟨r, hr, rfl⟩ := Option.mem_map.mp ht
    exact hprior r (List.mem_of_getLast? hr)
  simp only [insertIn, Js.bind_eq_ok, Js.pure_eq_ok, Js.ensure_eq_ok]
  refine ⟨(), bindText_ok hevent, (), hoption _ hcallbackId, (), bindText_ok hmessage, (), hattempt, (),
    bindText_ok (hsha bytes), (), hoption _ hprevious, (), by simpa using hfresh, (), ?_, trivial⟩
  cases hc : call.callbackId with
  | none => rfl
  | some callbackId =>
    rw [Option.all_some, Bool.not_eq_true', List.any_eq_false]
    intro r hr heq
    exact absurd ((hcallback r hr ((beq_iff_eq.mp heq).trans hc.symm)).symm.trans hc) (by simp)

/-- The chains of all messages hold. -/
def Chained (platform : Platform) (db : Communications) : Prop :=
  ∀ messageId, HashChain.Linked (Follows platform) head (db.rowsOf messageId) none 1

theorem rowsOf_append (db : Communications) (row : CommunicationRow) (messageId : Str) :
    Communications.rowsOf (db ++ [row]) messageId =
      if row.messageId = messageId then db.rowsOf messageId ++ [row] else db.rowsOf messageId := by
  rw [Communications.rowsOf, List.filter_append]
  by_cases hid : row.messageId = messageId
  · simp [Communications.rowsOf, hid]
  · simp [Communications.rowsOf, hid]

/-- Inserting the row that was prepared from the events of its message keeps the chains. -/
theorem chained_insert {db db' : Communications} (hdb : Chained platform db) {call : AppendCall} {eventId now : Str}
    {row : CommunicationRow} (hprepare : prepare platform call eventId now (db.rowsOf call.messageId) = .ok row)
    (hinsert : insertIn row db = .ok ((), db')) : Chained platform db' := by
  obtain ⟨rfl, -⟩ := insertIn_spec hinsert
  obtain ⟨-, -, hmessage, -, hcheck, hprevious, -⟩ := prepare_spec hprepare
  intro messageId
  rw [rowsOf_append]
  split
  · rename_i hid
    rw [← hid, hmessage]
    obtain ⟨hhash, hstate⟩ := last_of_linked (hdb call.messageId)
    refine HashChain.linked_append.mpr ⟨hdb call.messageId, ?_, ?_⟩
    · rw [← hhash]
      exact hcheck
    · rw [← hstate]
      exact hprevious
  · exact hdb messageId

end Chain

/-! ## Concurrent clients -/

/-- An append on its way, with the events of its message once it has read them. -/
structure Client where
  call : AppendCall
  eventId : Str
  now : Str
  prior : Option (List CommunicationRow)

/-- The table and the clients of its database. -/
structure Site where
  db : Communications
  clients : ℕ → Option Client

inductive Event
  | call (id : ℕ) (call : AppendCall) (eventId now : Str)
  | advance (id : ℕ) (fate : Fate)

namespace Site

def empty : Site := ⟨[], fun _ => none⟩

def setClient (site : Site) (id : ℕ) (client : Option Client) : Site :=
  { site with clients := fun j => if j = id then client else site.clients j }

/-- The next step of an append: its read, then its insert. What it reads after an insert that raised changes nothing. -/
def advance (platform : Platform) (site : Site) (id : ℕ) (client : Client) (fate : Fate) : Site :=
  match client.prior with
  | none => site.setClient id (some { client with prior := some (site.db.rowsOf client.call.messageId) })
  | some prior =>
    match prepare platform client.call client.eventId client.now prior with
    | .error _ => site.setClient id none
    | .ok row => { site.setClient id none with db := (transaction fate (insertIn row) site.db).2 }

def step (platform : Platform) (site : Site) : Event → Site
  | .call id call eventId now => site.setClient id (some ⟨call, eventId, now, none⟩)
  | .advance id fate => (site.clients id).elim site fun client => site.advance platform id client fate

/-- An insert that commits finds the events of its message as its append has read them. -/
def Undisturbed (platform : Platform) (site : Site) : Event → Prop
  | .call .. => True
  | .advance id fate => ∀ client prior row db, site.clients id = some client → client.prior = some prior →
      prepare platform client.call client.eventId client.now prior = .ok row →
      transaction fate (insertIn row) site.db = (.ok (), db) → site.db.rowsOf client.call.messageId = prior

theorem step_chained {platform : Platform} {site : Site} {event : Event} (h : site.Undisturbed platform event)
    (hsite : Chained platform site.db) : Chained platform (site.step platform event).db := by
  cases event with
  | call id call eventId now => exact hsite
  | advance id fate =>
    rw [step]
    cases hclient : site.clients id with
    | none => exact hsite
    | some client =>
      rw [Option.elim_some, advance]
      cases hprior : client.prior with
      | none => exact hsite
      | some prior =>
        simp only
        cases hprepare : prepare platform client.call client.eventId client.now prior with
        | error e => exact hsite
        | ok row =>
          rcases hinsert : transaction fate (insertIn row) site.db with ⟨_ | ⟨⟨⟩⟩, db⟩
          · have hsame := transaction_error (congrArg Prod.fst hinsert)
            rw [hinsert] at hsame
            simp only [hinsert, show db = site.db from hsame]
            exact hsite
          · have hsame := h client prior row db hclient hprior hprepare hinsert
            have hbody := transaction_ok (congrArg Prod.fst hinsert)
            rw [hinsert] at hbody
            simp only [hinsert]
            exact chained_insert hsite (hsame ▸ hprepare) hbody

@[simp] theorem setClient_db (site : Site) (id : ℕ) (client : Option Client) : (site.setClient id client).db = site.db := rfl

@[simp] theorem setClient_clients (site : Site) (id : ℕ) (client : Option Client) (j : ℕ) :
    (site.setClient id client).clients j = if j = id then client else site.clients j := rfl

/-- The second step of an append inserts. -/
theorem step_insert {platform : Platform} {site : Site} {id : ℕ} {client : Client}
    (hclient : site.clients id = some client) {prior : List CommunicationRow} (hprior : client.prior = some prior)
    {row : CommunicationRow} (hprepare : prepare platform client.call client.eventId client.now prior = .ok row)
    {db : Communications} (hinsert : insertIn row site.db = .ok ((), db)) :
    site.step platform (.advance id .commits) = { site.setClient id none with db := db } := by
  rw [step, hclient, Option.elim_some, advance, hprior]
  simp only [hprepare, transaction_of_ok hinsert]

/-- In every interleaving in which no other append to a message commits between the read and the insert of an append,
the events of every message verify and each one starts from the state that the one before it ends in. -/
theorem concurrent_appends (platform : Platform) (events : List Event) (site : Site)
    (hrun : Transition.run (step platform) Site.empty events = site)
    (h : Transition.Steps (step platform) (Undisturbed platform) Site.empty events) (messageId : Str) :
    verify platform site.db messageId = true ∧ StatesFollow (site.db.rowsOf messageId) none := by
  have hstep : ∀ (site : Site) (event : Event), site.Undisturbed platform event → Chained platform site.db →
      Chained platform (site.step platform event).db := fun _ _ => step_chained
  have hempty : Chained platform Site.empty.db := fun _ => trivial
  have hchained : Chained platform site.db := hrun ▸ Transition.run_invariant_of_steps hstep hempty h
  exact chain_of_linked (hchained messageId)

end Site

/-! ## Texts of an event -/

/-- The texts that an event takes from its call. -/
def texts (call : AppendCall) : List Str :=
  [call.correlationId, call.causationId, call.traceId, call.messageId, call.context.organizationId,
    call.context.tenantId, call.context.requestingIdentity, call.actingIdentity, call.context.delegatedAuthority,
    call.context.transportRail, call.channel, call.reasonCode, call.payloadHash, call.context.disclosurePolicy] ++
    (call.campaignId.toList ++ call.providerResponseCode.toList ++ call.railResponseCode.toList ++
      call.receiptIdentifier.toList)

/-- The texts of the call have UTF-8 bytes. -/
def Encodable (call : AppendCall) : Prop := ∀ t ∈ texts call, Scalar t

theorem asdict_scalar (state : CommunicationState) : state.asdict.Scalar := by
  have hvalues : Scalar state.requestStatus.value ∧ Scalar state.g3tProviderStatus.value ∧
      Scalar state.transportRailStatus.value ∧ Scalar state.recipientStatus.value ∧
      Scalar state.reconciliationStatus.value ∧ Scalar state.evidenceStatus.value ∧ Scalar state.truthClass.value := by
    refine ⟨?_, ?_, ?_, ?_, ?_, ?_, ?_⟩
    · cases state.requestStatus <;> exact scalar_str _
    · cases state.g3tProviderStatus <;> exact scalar_str _
    · cases state.transportRailStatus <;> exact scalar_str _
    · cases state.recipientStatus <;> exact scalar_str _
    · cases state.reconciliationStatus <;> exact scalar_str _
    · cases state.evidenceStatus <;> exact scalar_str _
    · cases state.truthClass <;> exact scalar_str _
  simp only [CommunicationState.asdict, Value.record, List.map_cons, List.map_nil, Value.Scalar, Value.ScalarEntries,
    scalar_str, hvalues, and_self]

theorem hashed_scalar_iff {call : AppendCall} {eventId now : Str} {previous : Option CommunicationState}
    {previousHash : Option Str} : (hashed (pending call eventId now previous) previousHash).Scalar ↔
      (Scalar eventId ∧ Scalar now) ∧ Encodable call ∧ (Value.ofOption previousHash).Scalar := by
  have hstate : (previous.elim Value.none CommunicationState.asdict).Scalar := by
    cases previous with
    | none => trivial
    | some state => exact asdict_scalar state
  simp only [hashed, pending, CommunicationEvent.asdict, Value.record, List.map_cons, List.map_nil, Value.Scalar,
    Value.ScalarEntries, scalar_str, hstate, asdict_scalar, Encodable, texts, List.mem_append, or_imp, forall_and,
    List.cons_append, List.nil_append, List.forall_mem_cons, scalar_ofOption, Option.mem_toList, true_and, and_true]
  tauto

theorem hashed_isJson (call : AppendCall) (eventId now : Str) (previous : Option CommunicationState)
    (previousHash : Option Str) : (hashed (pending call eventId now previous) previousHash).isJson = true := by
  have hstate : ∀ state : CommunicationState, state.asdict.isJson = true := fun _ => by
    simp [CommunicationState.asdict, Value.record, isJson, Value.entriesJson]
  have hprevious : (previous.elim Value.none CommunicationState.asdict).isJson = true := by
    cases previous with
    | none => rfl
    | some state => exact hstate state
  simp [hashed, pending, CommunicationEvent.asdict, Value.record, isJson, Value.entriesJson, hstate, hprevious]

/-- An append gets as far as its insert exactly when its state is valid and its texts have UTF-8 bytes. -/
theorem prepare_ok_iff {platform : Platform} {call : AppendCall} {eventId now : Str} {prior : List CommunicationRow} :
    (∃ row, prepare platform call eventId now prior = .ok row) ↔
      validate (prior.getLast?.map fun row => row.event.newState) call.newState call.reasonCode = .ok () ∧
        (Scalar eventId ∧ Scalar now) ∧ Encodable call ∧
        (Value.ofOption (prior.getLast?.map fun row => row.event.evidenceHash)).Scalar := by
  rw [← hashed_scalar_iff, ← digest_ok_iff platform.sha256 (hashed_isJson call eventId now
    (prior.getLast?.map fun row => row.event.newState) (prior.getLast?.map fun row => row.event.evidenceHash))]
  simp only [prepare, Js.bind_eq_ok, Js.pure_eq_ok]
  constructor
  · rintro ⟨row, ⟨⟩, hvalid, hash, hhash, -⟩
    exact ⟨hvalid, hash, hhash⟩
  · rintro ⟨hvalid, hash, hhash⟩
    exact ⟨_, (), hvalid, hash, hhash, rfl⟩

/-! ## Redelivered callbacks -/

/-- Callbacks are recorded once, and what was bound has UTF-8 bytes. -/
structure Recorded (db : Communications) : Prop where
  callbacks : db.Pairwise fun row row' => row.callbackId = row'.callbackId → row'.callbackId = none
  callbackIds : ∀ row ∈ db, ∀ callbackId ∈ row.callbackId, Scalar callbackId
  hashes : ∀ row ∈ db, Scalar row.event.evidenceHash

theorem insertIn_binds {row : CommunicationRow} {db : Communications} {result : Unit × Communications}
    (h : insertIn row db = .ok result) : (∀ callbackId ∈ row.callbackId, Scalar callbackId) ∧ Scalar row.eventHash := by
  simp only [insertIn, Js.bind_eq_ok] at h
  obtain ⟨-, -, ⟨⟩, hcallback, -, -, -, -, ⟨⟩, hhash, -⟩ := h
  refine ⟨fun callbackId hc => ?_, scalar_of_bindText hhash⟩
  rw [Option.mem_def.mp hc] at hcallback
  exact scalar_of_bindText hcallback

theorem recorded_insert {platform : Platform} {db db' : Communications} (hdb : Recorded db) {call : AppendCall}
    {eventId now : Str} {prior : List CommunicationRow} {row : CommunicationRow}
    (hprepare : prepare platform call eventId now prior = .ok row) (hinsert : insertIn row db = .ok ((), db')) :
    Recorded db' := by
  obtain ⟨hcallback, hhash⟩ := insertIn_binds hinsert
  obtain ⟨rfl, hfresh⟩ := insertIn_spec hinsert
  obtain ⟨-, -, -, -, hcheck, -⟩ := prepare_spec hprepare
  have hrow : ∀ p : CommunicationRow → Prop, p row → (∀ r ∈ db, p r) → ∀ r ∈ db ++ [row], p r := by
    intro p hp hall r hr
    rcases List.mem_append.mp hr with hr | hr
    · exact hall r hr
    · exact List.mem_singleton.mp hr ▸ hp
  refine ⟨List.pairwise_append.mpr ⟨hdb.callbacks, List.pairwise_singleton _ _, fun r hr r' hr' => ?_⟩,
    hrow _ hcallback hdb.callbackIds, hrow _ (evidenceHash_of_checkRow hcheck ▸ hhash) hdb.hashes⟩
  rw [List.mem_singleton.mp hr']
  exact hfresh r hr

section Redelivery
variable {platform : Platform} {db : Communications}

/-- The three ways of an append. -/
theorem append_cases (platform : Platform) (call : AppendCall) (stamp : Stamp) (db : Communications) :
    (∃ e, prepare platform call stamp.eventId stamp.now (db.rowsOf call.messageId) = .error e ∧
      append platform call stamp db = (.error e, db)) ∨
    (∃ row, prepare platform call stamp.eventId stamp.now (db.rowsOf call.messageId) = .ok row ∧
      ((insertIn row db = .ok ((), db ++ [row]) ∧ append platform call stamp db = (.ok row.event, db ++ [row])) ∨
        ∃ e, append platform call stamp db = (recover call e db, db))) := by
  unfold append
  cases hprepare : prepare platform call stamp.eventId stamp.now (db.rowsOf call.messageId) with
  | error e => exact .inl ⟨e, rfl, rfl⟩
  | ok row =>
    refine .inr ⟨row, rfl, ?_⟩
    rcases hinsert : transaction stamp.fate (insertIn row) db with ⟨e | ⟨⟨⟩⟩, db'⟩
    · have hsame := transaction_error (congrArg Prod.fst hinsert)
      rw [hinsert] at hsame
      exact .inr ⟨e, by simp only [hinsert, show db' = db from hsame]⟩
    · have hbody := transaction_ok (congrArg Prod.fst hinsert)
      rw [hinsert] at hbody
      obtain ⟨rfl, -⟩ := insertIn_spec hbody
      exact .inl ⟨hbody, by simp only [hinsert]⟩

theorem append_recorded (platform : Platform) (hdb : Recorded db) (call : AppendCall) (stamp : Stamp) :
    Recorded (append platform call stamp db).2 ∧ db <+: (append platform call stamp db).2 := by
  rcases append_cases platform call stamp db with ⟨e, -, h⟩ | ⟨row, hprepare, ⟨hinsert, h⟩ | ⟨e, h⟩⟩
  · rw [h]
    exact ⟨hdb, List.prefix_rfl⟩
  · rw [h]
    exact ⟨recorded_insert hdb hprepare hinsert, List.prefix_append _ _⟩
  · rw [h]
    exact ⟨hdb, List.prefix_rfl⟩

theorem find_callback (hdb : Recorded db) {row : CommunicationRow} (hrow : row ∈ db) {callbackId : Str}
    (hcallback : row.callbackId = some callbackId) :
    db.find? (fun r => r.callbackId == some callbackId) = some row := by
  obtain ⟨before, after, rfl⟩ := List.append_of_mem hrow
  have hfirst : ∀ r ∈ before, ¬(r.callbackId == some callbackId) = true := by
    intro r hr heq
    have hpair := (List.pairwise_append.mp hdb.callbacks).2.2 r hr row List.mem_cons_self
    rw [beq_iff_eq, ← hcallback] at heq
    exact absurd (hcallback.symm.trans (hpair heq)) (by simp)
  rw [List.find?_append, List.find?_eq_none.mpr hfirst, Option.none_or, List.find?_cons_of_pos (by simp [hcallback])]

/-- An append under a recorded callback id changes nothing. It returns the recorded event, of whatever message, if it
gets as far as its insert and the id is not empty; and it raises otherwise. -/
theorem append_of_callback (platform : Platform) (hdb : Recorded db) {row : CommunicationRow} (hrow : row ∈ db) {callbackId : Str}
    (hcallback : row.callbackId = some callbackId) {call : AppendCall} (hcall : call.callbackId = some callbackId)
    (stamp : Stamp) : (append platform call stamp db).2 = db ∧
      ((append platform call stamp db).1 = .ok row.event ↔ callbackId ≠ [] ∧
        ∃ row', prepare platform call stamp.eventId stamp.now (db.rowsOf call.messageId) = .ok row') := by
  rcases append_cases platform call stamp db with ⟨e, hprepare, h⟩ | ⟨row', hprepare, ⟨hinsert, h⟩ | ⟨e, h⟩⟩
  · rw [h, hprepare]
    simp
  · obtain ⟨-, hfresh⟩ := insertIn_spec hinsert
    have hcallback' : row'.callbackId = some callbackId := (prepare_spec hprepare).2.2.2.1.trans hcall
    have hnone := hfresh row hrow (hcallback.trans hcallback'.symm)
    exact absurd (hcallback'.symm.trans hnone) (by simp)
  · rw [h, hprepare]
    refine ⟨rfl, ?_⟩
    rw [recover, hcall]
    cases callbackId with
    | nil => simp [throw, throwThe, MonadExceptOf.throw]
    | cons c rest =>
      have hbind := bindText_ok (hdb.callbackIds row hrow _ hcallback)
      simp only [hbind, bind, Except.bind, find_callback hdb hrow hcallback]
      simp [pure, Except.pure]

/-- The state that the events of a message end in. -/
def latest (db : Communications) (messageId : Str) : Option CommunicationState :=
  (db.rowsOf messageId).getLast?.map fun row => row.event.newState

theorem prepare_recorded_iff (platform : Platform) (hdb : Recorded db) (call : AppendCall) {stamp : Stamp}
    (hstamp : Scalar stamp.eventId ∧ Scalar stamp.now) :
    (∃ row, prepare platform call stamp.eventId stamp.now (db.rowsOf call.messageId) = .ok row) ↔
      validate (latest db call.messageId) call.newState call.reasonCode = .ok () ∧ Encodable call := by
  have hlast : (Value.ofOption ((db.rowsOf call.messageId).getLast?.map fun row => row.event.evidenceHash)).Scalar := by
    rw [scalar_ofOption]
    intro t ht
    obtain ⟨row, hrow, rfl⟩ := Option.mem_map.mp ht
    exact hdb.hashes row (List.mem_filter.mp (List.mem_of_getLast? hrow)).1
  rw [prepare_ok_iff, latest]
  exact ⟨fun h => ⟨h.1, h.2.2.1⟩, fun h => ⟨h.1, hstamp, h.2, hlast⟩⟩

/-- One append after the other. -/
def step (platform : Platform) (db : Communications) (op : AppendCall × Stamp) : Communications :=
  (append platform op.1 op.2 db).2

/-- The append was accepted in the history, with this row. -/
def Accepted (platform : Platform) (history : List (AppendCall × Stamp)) (call : AppendCall) (row : CommunicationRow) :
    Prop :=
  ∃ before stamp after, history = before ++ (call, stamp) :: after ∧
    step platform (Transition.run (step platform) [] before) (call, stamp) =
      Transition.run (step platform) [] before ++ [row]

theorem run_recorded (platform : Platform) (hdb : Recorded db) (history : List (AppendCall × Stamp)) :
    Recorded (Transition.run (step platform) db history) ∧ db <+: Transition.run (step platform) db history := by
  have hstep : ∀ (db' : Communications) (op : AppendCall × Stamp), (Recorded db' ∧ db <+: db') →
      Recorded (step platform db' op) ∧ db <+: step platform db' op := by
    rintro db' op ⟨hdb', hprefix⟩
    obtain ⟨hrecorded, hgrown⟩ := append_recorded platform hdb' op.1 op.2
    exact ⟨hrecorded, hprefix.trans hgrown⟩
  exact Transition.run_invariant hstep ⟨hdb, List.prefix_rfl⟩ history

theorem recorded_nil : Recorded [] := ⟨.nil, by simp, by simp⟩

/-- An accepted append is recorded for good under its callback id and its message. -/
theorem Accepted.spec {history : List (AppendCall × Stamp)} {call : AppendCall} {row : CommunicationRow}
    (h : Accepted platform history call row) : row ∈ Transition.run (step platform) [] history ∧
      row.callbackId = call.callbackId ∧ row.messageId = call.messageId ∧ Encodable call := by
  obtain ⟨before, stamp, after, rfl, hstep⟩ := h
  have hdb := (run_recorded platform recorded_nil before).1
  have hprefix := (run_recorded platform
    (append_recorded platform hdb call stamp).1 after).2
  rw [Transition.run_append, Transition.run_cons]
  rw [step] at hstep
  rw [hstep] at hprefix
  refine ⟨?_, ?_⟩
  · rw [step, hstep]
    exact hprefix.subset (by simp)
  · rcases append_cases platform call stamp (Transition.run (step platform) [] before) with
      ⟨e, -, happend⟩ | ⟨row', hprepare, ⟨-, happend⟩ | ⟨e, happend⟩⟩
    · rw [happend] at hstep
      simp at hstep
    · rw [happend] at hstep
      obtain rfl : row' = row := by simpa using hstep
      obtain ⟨-, -, hmessage, hcallback, -⟩ := prepare_spec hprepare
      exact ⟨hcallback, hmessage, (prepare_ok_iff.mp ⟨row', hprepare⟩).2.2.1⟩
    · rw [happend] at hstep
      simp at hstep

end Redelivery

end Superstructure.CommunicationLedger

namespace Superstructure.Sample
open Py
open CommunicationLedger

def context : B2BContext :=
  ⟨str "org1", str "t1", str "agent1", str "send:message", str "rail-x", str "minimal"⟩

def accepted (rail : TransportRailStatus) (reconciliation : ReconciliationStatus) (truth : CommunicationTruth) :
    CommunicationState :=
  ⟨.authorized, .accepted, rail, .notObserved, reconciliation, .recorded, truth⟩

/-- A report on the message, under a callback id where it has one. -/
def report (state : CommunicationState) (callbackId : Option Str) : AppendCall :=
  ⟨context, str "m1", state, str "c", str "cause", str "trace", str "g3t-service", str "email", 1, str "accepted",
    str "hash", callbackId, none, none, none, none⟩

theorem report_encodable (state : CommunicationState) (callbackId : Option Str) :
    CommunicationLedger.Encodable (report state callbackId) := by
  simp [CommunicationLedger.Encodable, texts, report, context, scalar_str]

def noon : Str := str "2026-07-26T12:00:00+00:00"

def stamped (eventId : String) : Stamp := ⟨str eventId, noon, .commits⟩

def submission : AppendCall := report (accepted .submitted .pending .requested) none
def acceptance : AppendCall := report (accepted .railAccepted .railReported .railReported) none

/-- Two clients read the empty history of the message and then both insert. -/
def racing : List Event :=
  [.call 0 submission (str "event-1") noon, .call 1 acceptance (str "event-2") noon, .advance 0 .commits,
    .advance 1 .commits, .advance 0 .commits, .advance 1 .commits]

theorem prepared (state : CommunicationState) (callbackId : Option Str) (eventId : String)
    (h : validate none state (str "accepted") = .ok ()) :
    ∃ row, prepare spelling (report state callbackId) (str eventId) noon [] = .ok row :=
  prepare_ok_iff.mpr ⟨h, ⟨scalar_str _, scalar_str _⟩, report_encodable _ _, by simp⟩

theorem racing_rows : ∃ row row',
    (Transition.run (CommunicationLedger.Site.step spelling) CommunicationLedger.Site.empty racing).db = [row, row'] ∧
    (∀ id, (Transition.run (CommunicationLedger.Site.step spelling) CommunicationLedger.Site.empty racing).clients id =
      none) ∧
    row.messageId = str "m1" ∧ row'.messageId = str "m1" ∧ row'.previousHash = none := by
  obtain ⟨row, hrow⟩ := prepared (accepted .submitted .pending .requested) none "event-1" rfl
  obtain ⟨row', hrow'⟩ := prepared (accepted .railAccepted .railReported .railReported) none "event-2" rfl
  obtain ⟨-, hevent, hmessage, -, -, -⟩ := prepare_spec hrow
  obtain ⟨-, -, hmessage', -, hcheck, -⟩ := prepare_spec hrow'
  have hinsert : insertIn row [] = .ok ((), [row]) :=
    insertIn_ok hrow ⟨scalar_str _, scalar_str _, by simp [report], scalar_hexText, by simp⟩ rfl (by simp) (by simp)
  have hinsert' : insertIn row' [row] = .ok ((), [row, row']) := by
    refine insertIn_ok hrow' ⟨scalar_str _, scalar_str _, by simp [report], scalar_hexText, by simp⟩ rfl ?_ fun _ _ _ => rfl
    simp [hevent]
  have hprevious : row'.previousHash = none := by
    rw [checkRow, Bool.and_eq_true, Bool.and_eq_true, decide_eq_true_eq] at hcheck
    exact hcheck.1.1
  obtain ⟨site, hsite, hdb, h0, h1, hothers⟩ : ∃ site,
      Transition.run (CommunicationLedger.Site.step spelling) CommunicationLedger.Site.empty (racing.take 4) = site ∧
      site.db = [] ∧ site.clients 0 = some ⟨submission, str "event-1", noon, some []⟩ ∧
      site.clients 1 = some ⟨acceptance, str "event-2", noon, some []⟩ ∧
      ∀ id, id ≠ 0 → id ≠ 1 → site.clients id = none := by
    refine ⟨_, rfl, rfl, rfl, rfl, fun id h0 h1 => ?_⟩
    simp [racing, CommunicationLedger.Site.step, CommunicationLedger.Site.advance, CommunicationLedger.Site.empty,
      CommunicationLedger.Site.setClient, h0, h1]
  have hinsertFirst : insertIn row site.db = .ok ((), [row]) := by
    rw [hdb]
    exact hinsert
  have hfirst := CommunicationLedger.Site.step_insert h0 rfl hrow hinsertFirst
  have h1' : ({ site.setClient 0 none with db := [row] } : CommunicationLedger.Site).clients 1 =
      some ⟨acceptance, str "event-2", noon, some []⟩ := h1
  have hsecond := CommunicationLedger.Site.step_insert h1' rfl hrow' hinsert'
  have hrun : Transition.run (CommunicationLedger.Site.step spelling) CommunicationLedger.Site.empty racing =
      { ({ site.setClient 0 none with db := [row] } : CommunicationLedger.Site).setClient 1 none with
        db := [row, row'] } := by
    rw [← List.take_append_drop 4 racing, Transition.run_append, hsite, racing, List.drop_succ_cons, List.drop_succ_cons,
      List.drop_succ_cons, List.drop_succ_cons, List.drop_zero, Transition.run_cons, hfirst, Transition.run_cons, hsecond,
      Transition.run_nil]
  rw [hrun]
  refine ⟨row, row', rfl, fun id => ?_, hmessage, hmessage', hprevious⟩
  by_cases hid0 : id = 0 <;> by_cases hid1 : id = 1 <;> simp [hid0, hid1, hothers]

/-- The two events of the message do not verify. -/
theorem forked_chain : ¬∀ (platform : Platform) (events : List Event) (site : CommunicationLedger.Site),
    Transition.run (CommunicationLedger.Site.step platform) CommunicationLedger.Site.empty events = site →
    (∀ id, site.clients id = none) → ∀ messageId,
    verify platform site.db messageId = true ∧ StatesFollow (site.db.rowsOf messageId) none := by
  intro hclaim
  obtain ⟨row, row', hdb, hclients, hmessage, hmessage', hprevious⟩ := racing_rows
  have hverify := (hclaim spelling racing _ rfl hclients (str "m1")).1
  have hrows : Communications.rowsOf [row, row'] (str "m1") = [row, row'] := by
    simp [Communications.rowsOf, hmessage, hmessage']
  rw [verify, hdb, hrows] at hverify
  simp [chain, checkRow, hprevious] at hverify

/-- Nobody disturbs the append. -/
def orderly : List Event := [.call 0 submission (str "event-1") noon, .advance 0 .commits, .advance 0 .commits]

theorem orderly_verifies : verify spelling
      (Transition.run (CommunicationLedger.Site.step spelling) CommunicationLedger.Site.empty orderly).db (str "m1") = true ∧
    StatesFollow ((Transition.run (CommunicationLedger.Site.step spelling)
      CommunicationLedger.Site.empty orderly).db.rowsOf (str "m1")) none := by
  have hundisturbed : Transition.Steps (CommunicationLedger.Site.step spelling)
      (CommunicationLedger.Site.Undisturbed spelling) CommunicationLedger.Site.empty orderly := by
    refine ⟨trivial, fun client prior row db hclient hprior => ?_, fun client prior row db hclient hprior => ?_, trivial⟩
    · obtain rfl := Option.some.inj hclient
      exact absurd hprior (by simp)
    · obtain rfl := Option.some.inj hclient
      exact fun _ _ => Option.some.inj hprior
  exact CommunicationLedger.Site.concurrent_appends spelling orderly _ rfl hundisturbed (str "m1")

/-- A provider reports that the rail accepted the message; the rail reports its delivery. -/
def railAccepted : AppendCall := report (accepted .railAccepted .providerReported .g3tReported) (some (str "cb1"))
def railDelivered : AppendCall := report (accepted .railDelivered .railReported .railReported) none

theorem append_eq {platform : Platform} {call : AppendCall} {stamp : Stamp} {db : Communications} {row : CommunicationRow}
    (hfate : stamp.fate = .commits)
    (hprepare : prepare platform call stamp.eventId stamp.now (db.rowsOf call.messageId) = .ok row)
    (hinsert : insertIn row db = .ok ((), db ++ [row])) : append platform call stamp db = (.ok row.event, db ++ [row]) := by
  simp only [append, hprepare, hfate, transaction_of_ok hinsert]

theorem first_report : ∃ row, step spelling [] (railAccepted, stamped "event-1") = [row] ∧ row.messageId = str "m1" ∧
    row.eventId = str "event-1" ∧ row.callbackId = some (str "cb1") ∧
    row.event.newState = railAccepted.newState ∧ Scalar row.event.evidenceHash := by
  obtain ⟨row, hrow⟩ := prepared railAccepted.newState (some (str "cb1")) "event-1" rfl
  obtain ⟨-, hevent, hmessage, hcallback, hcheck, -, hstate⟩ := prepare_spec hrow
  have hinsert : insertIn row [] = .ok ((), [row]) :=
    insertIn_ok hrow ⟨scalar_str _, scalar_str _, by simp [report, scalar_str], scalar_hexText, by simp⟩ rfl (by simp)
      (by simp)
  have hhash := (insertIn_binds hinsert).2
  rw [← evidenceHash_of_checkRow hcheck] at hhash
  have happend : append spelling railAccepted (stamped "event-1") [] = (.ok row.event, [] ++ [row]) :=
    append_eq rfl hrow hinsert
  refine ⟨row, ?_, hmessage, hevent, hcallback, hstate, hhash⟩
  rw [step, happend, List.nil_append]

theorem second_report : ∃ row row',
    Transition.run (step spelling) [] [(railAccepted, stamped "event-1"), (railDelivered, stamped "event-2")] =
      [row, row'] ∧ step spelling [] (railAccepted, stamped "event-1") = [row] ∧ row.callbackId = some (str "cb1") ∧
    row.messageId = str "m1" ∧ row'.messageId = str "m1" ∧ row'.event.newState = railDelivered.newState := by
  obtain ⟨row, hfirst, hmessage, hevent, hcallback, hstate, hhash⟩ := first_report
  have hrows : Communications.rowsOf [row] railDelivered.messageId = [row] := by
    simp [Communications.rowsOf, hmessage, railDelivered, report]
  have hvalid : validate ([row].getLast?.map fun row => row.event.newState) railDelivered.newState
      railDelivered.reasonCode = .ok () := by
    rw [List.getLast?_singleton, Option.map_some, hstate]
    rfl
  have hprepare : ∃ row', prepare spelling railDelivered (str "event-2") noon [row] = .ok row' :=
    prepare_ok_iff.mpr ⟨hvalid, ⟨scalar_str _, scalar_str _⟩, report_encodable _ none, by simpa using hhash⟩
  obtain ⟨row', hrow'⟩ := hprepare
  obtain ⟨-, -, hmessage', -, -, -, hstate'⟩ := prepare_spec hrow'
  have hinsert : insertIn row' [row] = .ok ((), [row] ++ [row']) := by
    refine insertIn_ok hrow' ⟨scalar_str _, scalar_str _, by simp [railDelivered, report], scalar_hexText, ?_⟩ rfl ?_
      fun _ _ _ => rfl
    · simpa using hhash
    · simp [hevent]
  have happend : append spelling railDelivered (stamped "event-2") [row] = (.ok row'.event, [row] ++ [row']) :=
    append_eq rfl (by rw [hrows]; exact hrow') hinsert
  refine ⟨row, row', ?_, hfirst, hcallback, hmessage, hmessage', hstate'⟩
  rw [Transition.run_cons, hfirst, Transition.run_cons, Transition.run_nil, step, happend]
  rfl

end Superstructure.Sample
