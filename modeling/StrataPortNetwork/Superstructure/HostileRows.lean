import StrataPortNetwork.Superstructure.LifecycleAudit
import StrataPortNetwork.Superstructure.Communications

/-! # Verification of hostile rows

Whoever can write to the database can put any JSON under an event. The communication ledger
answers for every content of its rows. The lifecycle store raises at an event that is no
object, and at one whose fields match but whose digest cannot be taken.
-/
namespace Superstructure
open Py
open Py.Value (isJson)
open Js (orThrow)

/-! ## Lifecycle events -/

namespace LifecycleStore
variable {platform : Platform}

/-- The entries of an event but for its hash. -/
def others (entries : Entries) : Entries := entries.filter fun e => !(e.1 == str "event_hash")

/-- The fields that are compared before the digest is taken agree with the row and its place. -/
def Matches (row : EventRow) (previous : Option Str) (place : ℤ) (entries : Entries) : Prop :=
  ∃ stored, entries.lookup (str "event_hash") = some stored ∧
    equalsInt ((others entries).lookup (str "sequence")) place = true ∧ row.previousHash = previous ∧
    equalsText stored row.eventHash = true

/-- The event is no JSON at all, or an object without lone surrogates wherever its fields match. -/
def Answers (row : EventRow) (previous : Option Str) (place : ℤ) : Prop :=
  ∀ json, row.eventJson = some json → ∃ entries, json.val = .dict entries ∧
    (Matches row previous place entries → (chained (.dict (others entries)) previous).Scalar)

/-- The event of the row is intact: its fields match and its digest is the hash of the row. -/
def Intact (platform : Platform) (row : EventRow) (previous : Option Str) (place : ℤ) : Prop :=
  ∃ json entries hash, row.eventJson = some json ∧ json.val = .dict entries ∧ Matches row previous place entries ∧
    row.eventHash = some hash ∧ digest platform.sha256 (chained (.dict (others entries)) previous) = .ok hash

/-- All rows before the row are intact; `previous` is the hash of the last of them. -/
def Reaches (platform : Platform) (rows : List EventRow) (row : EventRow) (previous : Option Str) (place : ℤ) : Prop :=
  ∃ before after, rows = before ++ row :: after ∧ HashChain.Linked (Intact platform) EventRow.eventHash before none 1 ∧
    HashChain.last EventRow.eventHash before none = previous ∧ place = 1 + before.length

theorem isJson_others {json : Json} {entries : Entries} (h : json.val = .dict entries) :
    (Value.dict (others entries)).isJson = true := by
  have hjson := json.property
  rw [h, isJson, Bool.and_eq_true, decide_eq_true_iff, Value.entriesJson_iff] at hjson
  rw [isJson, Bool.and_eq_true, decide_eq_true_iff, Value.entriesJson_iff]
  exact ⟨hjson.1.sublist (List.filter_sublist.map _), fun e he => hjson.2 e (List.mem_filter.mp he).1⟩

section CheckRow
variable {row : EventRow} {previous : Option Str} {place : ℤ} {json : Json} {entries : Entries}

theorem checkRow_of_not_matches (hjson : row.eventJson = some json) (hval : json.val = .dict entries)
    (h : ¬Matches row previous place entries) : checkRow platform row previous place = .ok false := by
  simp only [checkRow, hjson, hval, popEventHash, pure_bind]
  cases hstored : entries.lookup (str "event_hash") with
  | none => rfl
  | some stored =>
    simp only [Option.map_some]
    split
    · rfl
    · rename_i hchecks
      simp only [Bool.or_eq_true, not_or, decide_eq_true_eq, Bool.not_eq_true', Bool.not_eq_false] at hchecks
      exact absurd ⟨stored, hstored, hchecks.1.1, not_not.mp hchecks.1.2, hchecks.2⟩ h

theorem checkRow_of_matches (hjson : row.eventJson = some json) (hval : json.val = .dict entries)
    (h : Matches row previous place entries) :
    checkRow platform row previous place =
      (digest platform.sha256 (chained (.dict (others entries)) previous)).map fun hash =>
        decide (some hash = row.eventHash) := by
  obtain ⟨stored, hstored, hsequence, hprevious, htext⟩ := h
  have hget : (Value.dict (entries.filter fun e => !(e.1 == str "event_hash"))).get "sequence" =
      (others entries).lookup (str "sequence") := rfl
  simp only [checkRow, hjson, hval, popEventHash, pure_bind, hstored, Option.map_some, hget, hsequence, hprevious, htext,
    Bool.not_true, ne_eq, not_true_eq_false, decide_false, Bool.or_false, Bool.false_eq_true, if_false]
  rfl

/-- The check of an event returns exactly where the event answers. -/
theorem checkRow_ok_iff : (∃ b, checkRow platform row previous place = .ok b) ↔ Answers row previous place := by
  cases hjson : row.eventJson with
  | none => simp [checkRow, Answers, hjson, pure, Except.pure]
  | some json =>
    have hanswers : Answers row previous place ↔ ∃ entries, json.val = .dict entries ∧
        (Matches row previous place entries → (chained (.dict (others entries)) previous).Scalar) := by
      simp [Answers, hjson]
    rw [hanswers]
    cases hval : json.val with
    | dict entries =>
      simp only [Value.dict.injEq, exists_eq_left']
      by_cases hmatches : Matches row previous place entries
      · rw [checkRow_of_matches hjson hval hmatches,
          ← digest_ok_iff platform.sha256 (isJson_chained (isJson_others hval))]
        cases digest platform.sha256 (chained (.dict (others entries)) previous) <;>
          simp [Except.map, hmatches]
      · rw [checkRow_of_not_matches hjson hval hmatches]
        simp [hmatches]
    | _ => simp [checkRow, hjson, hval, popEventHash, throw, throwThe, MonadExceptOf.throw, bind, Except.bind]

/-- An event passes its check exactly when it is intact. -/
theorem links_iff_intact : Links platform row previous place ↔ Intact platform row previous place := by
  constructor
  · intro h
    obtain ⟨json, entries, hash, hjson, hval, hhash, -, -, hdigest⟩ := links_cases h
    refine ⟨json, entries, hash, hjson, hval, ?_, hhash, hdigest⟩
    by_contra hmatches
    rw [Links, checkRow_of_not_matches hjson hval hmatches] at h
    simp at h
  · rintro ⟨json, entries, hash, hjson, hval, hmatches, hhash, hdigest⟩
    rw [Links, checkRow_of_matches hjson hval hmatches, hdigest, hhash]
    simp [Except.map]

end CheckRow

/-- The walk over the events returns exactly when all events it comes to answer. -/
theorem chain_ok_iff {rows : List EventRow} {start : Option Str} {first : ℤ} :
    (∃ result, chain platform rows start first = .ok result) ↔
      ∀ before row after, rows = before ++ row :: after →
        HashChain.Linked (Intact platform) EventRow.eventHash before start first →
        Answers row (HashChain.last EventRow.eventHash before start) (first + before.length) := by
  induction rows generalizing start first with
  | nil => simp [chain, pure, Except.pure]
  | cons head rest ih =>
    have hsplit : (∀ before row after, head :: rest = before ++ row :: after →
          HashChain.Linked (Intact platform) EventRow.eventHash before start first →
          Answers row (HashChain.last EventRow.eventHash before start) (first + before.length)) ↔
        Answers head start first ∧ (Links platform head start first →
          ∃ result, chain platform rest head.eventHash (first + 1) = .ok result) := by
      rw [ih]
      constructor
      · refine fun h => ⟨by simpa using h [] head rest rfl trivial, fun hhead before row after hrows hlinked => ?_⟩
        have hnext := h (head :: before) row after (by rw [hrows]; rfl) ⟨links_iff_intact.mp hhead, hlinked⟩
        rwa [List.length_cons, Nat.cast_succ, add_comm (before.length : ℤ), ← add_assoc] at hnext
      · rintro ⟨hhead, hrest⟩ before row after hrows hlinked
        cases before with
        | nil =>
          obtain ⟨rfl, -⟩ := List.cons.inj hrows
          simpa using hhead
        | cons row' before =>
          obtain ⟨rfl, htail⟩ := List.cons.inj hrows
          have hnext := hrest (links_iff_intact.mpr hlinked.1) before row after htail hlinked.2
          rwa [List.length_cons, Nat.cast_succ, add_comm (before.length : ℤ), ← add_assoc]
    rw [hsplit, ← @checkRow_ok_iff platform]
    cases hcheck : checkRow platform head start first with
    | error e => simp [chain, hcheck, bind, Except.bind]
    | ok passed =>
      cases passed with
      | false => simp [chain, hcheck, Links, bind, Except.bind, pure, Except.pure]
      | true => simp [chain, hcheck, Links, bind, Except.bind]

/-- `verify` returns exactly when all events it comes to answer, whatever the projection is. -/
theorem verifyReads_ok_iff (platform : Platform) (rows : List EventRow) (projection : Option Projection) :
    (∃ b, verifyReads platform rows projection = .ok b) ↔
      ∀ row previous place, Reaches platform rows row previous place → Answers row previous place := by
  have hchain : (∃ b, verifyReads platform rows projection = .ok b) ↔ ∃ result, chain platform rows none 1 = .ok result := by
    rw [verifyReads]
    cases chain platform rows none 1 with
    | error e => simp [bind, Except.bind]
    | ok result => cases result <;> simp [bind, Except.bind, pure, Except.pure]
  rw [hchain, chain_ok_iff]
  constructor
  · rintro h row previous place ⟨before, after, hrows, hlinked, rfl, rfl⟩
    exact h before row after hrows hlinked
  · exact fun h before row after hrows hlinked => h row _ _ ⟨before, after, hrows, hlinked, rfl, rfl⟩

end LifecycleStore

/-! ## Communication events -/

namespace CommunicationLedger
variable (platform : Platform)

/-- What `verify` reads of a row: the value of its JSON text, where it has one, and its hashes. -/
structure RawRow where
  eventJson : Option Json
  eventHash : Option Str
  previousHash : Option Str

/-- `event["evidence_hash"]`. -/
def storedHash : Value → Outcome Value
  | .dict entries => orThrow (entries.lookup (str "evidence_hash")) ⟨.keyError, str "'evidence_hash'"⟩
  | .list _ => throw ⟨.typeError, str "list indices must be integers or slices, not str"⟩
  | .str _ => throw ⟨.typeError, str "string indices must be integers, not 'str'"⟩
  | _ => throw ⟨.typeError, str "object is not subscriptable"⟩

/-- `event["evidence_hash"] = "pending"`, where there is such an entry. -/
def setPending : Value → Value
  | .dict entries => .dict (entries.map fun e => (e.1, if e.1 = str "evidence_hash" then .text "pending" else e.2))
  | v => v

/-- The body of the loop of `verify`. A `JSONDecodeError` is a `ValueError`. -/
def checkRaw (row : RawRow) (previous : Option Str) : Outcome Bool := do
  let event ← orThrow row.eventJson ⟨.valueError, str "Expecting value"⟩
  let stored ← storedHash event.val
  if row.previousHash ≠ previous then pure false
  else do
    let hash ← digest platform.sha256 (chained (setPending event.val) previous)
    pure (some hash = row.eventHash && LifecycleStore.equalsText stored row.eventHash)

def chainRaw : List RawRow → Option Str → Outcome Bool
  | [], _ => pure true
  | row :: rest, previous => do
    let checked ← checkRaw platform row previous
    if checked then chainRaw rest row.eventHash else pure false

/-- `except (KeyError, TypeError, ValueError, json.JSONDecodeError)`; a `UnicodeEncodeError` is a `ValueError`. -/
def caught (e : PyError) : Bool := e.cls ∈ [.keyError, .typeError, .valueError, .unicodeEncodeError]

/-- `verify(message_id)`, for the rows that it reads. -/
def verifyRaw (rows : List RawRow) : Outcome Bool :=
  match chainRaw platform rows none with
  | .ok verified => pure verified
  | .error e => if caught e then pure false else throw e

variable {platform}

theorem orThrow_error {α : Type} {x : Option α} {e e' : PyError} (h : orThrow x e = .error e') : e' = e := by
  cases x with
  | none => exact (Except.error.inj h).symm
  | some a => exact nomatch h

/-- What a digest can raise is caught. -/
theorem caught_digest {v : Value} {e : PyError} (h : digest platform.sha256 v = .error e) : caught e = true := by
  rw [digest, canonicalJson] at h
  cases htext : canonicalText v with
  | error e' =>
    rw [htext] at h
    rw [← Except.error.inj h, canonicalText_error htext]
    rfl
  | ok text =>
    simp only [htext, bind, Except.bind, encode] at h
    split at h
    · rename_i herror
      split at herror
      · rw [← Except.error.inj h, ← Except.error.inj herror]
        rfl
      · cases herror
    · cases h

theorem caught_storedHash {v : Value} {e : PyError} (h : storedHash v = .error e) : caught e = true := by
  cases v with
  | dict entries =>
    rw [orThrow_error h]
    rfl
  | _ =>
    rw [← Except.error.inj h]
    rfl

theorem caught_checkRaw {row : RawRow} {previous : Option Str} {e : PyError}
    (h : checkRaw platform row previous = .error e) : caught e = true := by
  rw [checkRaw] at h
  cases hevent : orThrow row.eventJson (⟨.valueError, str "Expecting value"⟩ : PyError) with
  | error e' =>
    rw [hevent] at h
    rw [← Except.error.inj h, orThrow_error hevent]
    rfl
  | ok event =>
    simp only [hevent, bind, Except.bind] at h
    cases hstored : storedHash event.val with
    | error e' =>
      rw [hstored] at h
      exact Except.error.inj h ▸ caught_storedHash hstored
    | ok stored =>
      simp only [hstored] at h
      split at h
      · exact nomatch h
      · cases hdigest : digest platform.sha256 (chained (setPending event.val) previous) with
        | error e' =>
          simp only [hdigest] at h
          exact Except.error.inj h ▸ caught_digest hdigest
        | ok hash => simp [hdigest, pure, Except.pure] at h

theorem caught_chainRaw {rows : List RawRow} {previous : Option Str} {e : PyError}
    (h : chainRaw platform rows previous = .error e) : caught e = true := by
  induction rows generalizing previous with
  | nil => exact nomatch h
  | cons row rest ih =>
    rw [chainRaw] at h
    cases hcheck : checkRaw platform row previous with
    | error e' =>
      rw [hcheck] at h
      exact Except.error.inj h ▸ caught_checkRaw hcheck
    | ok checked =>
      simp only [hcheck, bind, Except.bind] at h
      split at h
      · exact ih h
      · exact nomatch h

/-- `verify` returns, whatever its rows are. -/
theorem verifyRaw_total (platform : Platform) (rows : List RawRow) : ∃ b, verifyRaw platform rows = .ok b := by
  rw [verifyRaw]
  cases h : chainRaw platform rows none with
  | ok verified => exact ⟨verified, rfl⟩
  | error e => exact ⟨false, by simp [caught_chainRaw h, pure, Except.pure]⟩

/-! ## Rows that the ledger writes -/

theorem isJson_asdict (event : CommunicationEvent) : event.asdict.isJson = true := by
  have hstate : ∀ state : CommunicationState, state.asdict.isJson = true := fun _ => by
    simp [CommunicationState.asdict, Value.record, isJson, Value.entriesJson]
  have hprevious : (event.previousState.elim Value.none CommunicationState.asdict).isJson = true := by
    cases event.previousState with
    | none => rfl
    | some state => exact hstate state
  simp [CommunicationEvent.asdict, Value.record, isJson, Value.entriesJson, hstate, hprevious]

/-- A row of the ledger, with its text as `json.dumps` writes it. -/
def raw (row : CommunicationRow) : RawRow :=
  ⟨some ⟨row.event.asdict.sorted, Value.isJson_sorted (isJson_asdict row.event)⟩, some row.eventHash, row.previousHash⟩

theorem setPending_sorted (v : Value) : setPending v.sorted = (setPending v).sorted := by
  cases v with
  | dict entries =>
    simp only [Value.sorted, setPending, Value.sortedEntries_eq_map, List.map_map]
    rw [← sortByKey_map (by simp), List.map_map]
    congr 2
    refine List.map_congr_left fun e _ => ?_
    simp only [Function.comp_apply]
    split <;> rfl
  | _ => rfl

theorem setPending_asdict (event : CommunicationEvent) :
    setPending event.asdict = ({ event with evidenceHash := str "pending" } : CommunicationEvent).asdict := by
  simp [CommunicationEvent.asdict, Value.record, setPending, Value.text]

theorem storedHash_asdict (event : CommunicationEvent) : storedHash event.asdict.sorted = .ok (.str event.evidenceHash) := by
  have hjson := Value.isJson_sorted (isJson_asdict event)
  rw [CommunicationEvent.asdict, Value.record, Value.sorted, isJson, Bool.and_eq_true, decide_eq_true_iff] at hjson
  have hlookup := (@lookup_eq_some_iff_mem _ hjson.1 (str "evidence_hash") (.str event.evidenceHash)).mpr
    ((perm_sortByKey _).mem_iff.mpr (by simp [Value.sortedEntries_eq_map, Value.sorted]))
  rw [CommunicationEvent.asdict, Value.record, Value.sorted, storedHash, hlookup]
  rfl

/-- The digest that is taken of a row of the ledger is the one that `append` has taken. -/
theorem digest_raw (row : CommunicationRow) (previous : Option Str) :
    digest platform.sha256 (chained (setPending row.event.asdict.sorted) previous) =
      digest platform.sha256 (hashed { row.event with evidenceHash := str "pending" } previous) := by
  have htext := @canonicalText_dict_entry [] [(str "previous_hash", .ofOption previous)] (str "event") _ _
    (canonicalText_sorted (isJson_asdict { row.event with evidenceHash := str "pending" }))
  simp only [List.nil_append] at htext
  simp only [digest, canonicalJson, chained, hashed, Value.record, List.map_cons, List.map_nil, setPending_sorted,
    setPending_asdict, htext]

theorem checkRaw_raw (row : CommunicationRow) (previous : Option Str) :
    (checkRaw platform (raw row) previous).toOption.getD false = checkRow platform row previous := by
  simp only [checkRaw, raw, orThrow, storedHash_asdict, digest_raw, checkRow, bind, Except.bind, pure, Except.pure]
  by_cases hprevious : row.previousHash = previous
  · cases digest platform.sha256 (hashed { row.event with evidenceHash := str "pending" } previous) <;>
      simp [hprevious, LifecycleStore.equalsText, Except.toOption]
  · simp [hprevious, Except.toOption]

theorem chainRaw_map (rows : List CommunicationRow) (previous : Option Str) :
    (chainRaw platform (rows.map raw) previous).toOption.getD false = chain platform rows previous := by
  induction rows generalizing previous with
  | nil => rfl
  | cons row rest ih =>
    rw [List.map_cons, chainRaw, chain, ← checkRaw_raw, ← ih]
    cases checkRaw platform (raw row) previous with
    | error e => rfl
    | ok checked => cases checked <;> rfl

/-- On the rows of the ledger `verify` answers as it does for their events. -/
theorem verifyRaw_map (platform : Platform) (db : Communications) (messageId : Str) :
    verifyRaw platform ((db.rowsOf messageId).map raw) = .ok (verify platform db messageId) := by
  obtain ⟨b, hb⟩ := verifyRaw_total platform ((db.rowsOf messageId).map raw)
  rw [hb, verify, ← chainRaw_map]
  rw [verifyRaw] at hb
  cases h : chainRaw platform ((db.rowsOf messageId).map raw) none with
  | ok verified =>
    rw [h] at hb
    exact hb.symm
  | error e =>
    rw [h] at hb
    simp only [caught_chainRaw h, if_true] at hb
    exact hb.symm

end CommunicationLedger

/-! ## Both verifiers -/

/-- Both verifiers return for all rows exactly when every event of the lifecycle that the walk comes to answers: it is
no JSON, or an object without lone surrogates wherever its fields match. -/
theorem verifiers_total_iff (platform : Platform) (rows : List EventRow) (projection : Option Projection)
    (messages : List CommunicationLedger.RawRow) :
    ((∃ b, LifecycleStore.verifyReads platform rows projection = .ok b) ∧
      ∃ b, CommunicationLedger.verifyRaw platform messages = .ok b) ↔
      ∀ row previous place, LifecycleStore.Reaches platform rows row previous place →
        LifecycleStore.Answers row previous place := by
  rw [and_iff_left (CommunicationLedger.verifyRaw_total platform messages)]
  exact LifecycleStore.verifyReads_ok_iff platform rows projection

namespace Sample

/-- An event that is `[]`. -/
def listed : EventRow := ⟨str "event-1", str "tx1", some ⟨.list [], rfl⟩, some [], none, []⟩

/-- `pop` of a list raises a `TypeError`, which is not caught. -/
theorem listed_raises : ¬∀ (platform : Platform) (rows : List EventRow) (projection : Option Projection)
    (messages : List CommunicationLedger.RawRow), (∃ b, LifecycleStore.verifyReads platform rows projection = .ok b) ∧
      ∃ b, CommunicationLedger.verifyRaw platform messages = .ok b := by
  intro hclaim
  obtain ⟨⟨b, hb⟩, -⟩ := hclaim platform [listed] none []
  exact nomatch hb

end Sample

end Superstructure
