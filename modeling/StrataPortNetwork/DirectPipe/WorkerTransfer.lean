import StrataPortNetwork.Js.Check
import StrataPortNetwork.Transition

/-! # Transfers to the pipe worker

Buffers go to a worker thread and come back, each under an id of its own. Transfers,
messages, timers, worker errors and closing come in any order. Ids are natural numbers, as
the numbers of the source are for the first 2 ^ 53 transfers; latencies are left out.
-/
namespace DirectPipe
open Js

inductive Failure
  | error (message : JsString)
  | typeError (message : String)
  | rangeError (message : JsString)
  /-- What `postMessage` threw or the worker reported. -/
  | foreign

/-- The limits that the constructor has checked. -/
structure Options where
  maxBytes : ℕ
  maxInflight : ℕ
  maxBytes_pos : 0 < maxBytes
  maxInflight_pos : 0 < maxInflight

/-- What a pending transfer expects. -/
structure Request where
  logicalBytes : ℕ
  expectedSha256 : JsString

/-- A message of the worker; a field of another type is `none`. -/
structure Message where
  id : Option ℕ
  /-- A truthy error. -/
  error : Option JsString
  buffer : Option Bytes
  byteLength : Option ℕ
  sha256 : Option JsString

/-- What `postMessage` does with the buffer. -/
inductive Posting
  | detaches
  | keeps
  | throws

inductive Settlement
  | resolved (output : Bytes)
  | rejected (failure : Failure)

/-- The transfer object, with a record of the transfers it accepted and settled. -/
structure Transfers where
  options : Options
  pending : List (ℕ × Request)
  /-- The timers that are set. -/
  armed : List ℕ
  nextId : ℕ
  closed : Bool
  accepted : List (ℕ × Bytes)
  settled : List (ℕ × Settlement)

inductive Event
  | transfer (buffer : Option Bytes) (posting : Posting)
  | message (message : Message)
  | timeout (id : ℕ)
  | error
  | exit (code : ℤ)
  | close

/-- The buffers that come up in an event. -/
def Event.payloads : Event → List Bytes
  | .transfer buffer _ => buffer.toList
  | .message answered => answered.buffer.toList
  | _ => []

def integrityMismatch : Failure := .error (js "Direct Pipe worker integrity or length mismatch")

namespace Transfers

def start (options : Options) : Transfers := ⟨options, [], [], 1, false, [], []⟩

def pendingIds (s : Transfers) : List ℕ := s.pending.map Prod.fst

/-- How often a transfer was settled. -/
def settlements (s : Transfers) (id : ℕ) : ℕ := (s.settled.map Prod.fst).count id

/-- `#fail(error)` -/
def fail (s : Transfers) (failure : Failure) : Transfers :=
  if s.closed then s
  else { s with
    closed := true
    armed := s.armed.filter fun id => !s.pendingIds.contains id
    settled := s.settled ++ s.pending.map fun p => (p.1, .rejected failure)
    pending := [] }

/-- The checks of `transfer(buffer)`. -/
def checkTransfer (s : Transfers) (buffer : Option Bytes) : Except Failure Bytes := do
  ensure (!s.closed) (.error (js "Direct Pipe worker is closed"))
  let bytes ← orThrow buffer (.typeError "Transfer requires an owned ArrayBuffer")
  ensure (1 ≤ bytes.length && bytes.length ≤ s.options.maxBytes)
    (.rangeError (js "Transfer size must be between 1 and " ++ natText s.options.maxBytes ++ js " bytes"))
  ensure (s.pending.length < s.options.maxInflight) (.error (js "Direct Pipe worker capacity exceeded"))
  pure bytes

variable (digest : Bytes → JsString)

/-- The table with a new transfer in it. -/
def accept (s : Transfers) (bytes : Bytes) : Transfers :=
  { s with
    nextId := s.nextId + 1
    armed := s.armed ++ [s.nextId]
    pending := s.pending ++ [(s.nextId, ⟨bytes.length, digest bytes⟩)]
    accepted := s.accepted ++ [(s.nextId, bytes)] }

/-- `transfer(buffer)`: the id of the promise, or the rejection. -/
def transfer (s : Transfers) (buffer : Option Bytes) (posting : Posting) : Transfers × Except Failure ℕ :=
  match s.checkTransfer buffer with
  | .error failure => (s, .error failure)
  | .ok bytes =>
    (match posting with
      | .detaches => s.accept digest bytes
      | .keeps => (s.accept digest bytes).fail (.error (js "Transfer did not detach the source ArrayBuffer"))
      | .throws => (s.accept digest bytes).fail .foreign, .ok s.nextId)

/-- The output of a message that answers a request. -/
def checkMessage (message : Message) (request : Request) : Except Failure Bytes := do
  match message.error with
  | some error => throw (.error (js "Direct Pipe worker: " ++ error))
  | none => pure ()
  let buffer ← orThrow message.buffer integrityMismatch
  ensure (message.byteLength == some request.logicalBytes && buffer.length == request.logicalBytes &&
    message.sha256 == some request.expectedSha256 && digest buffer == request.expectedSha256) integrityMismatch
  pure buffer

/-- A pending transfer that is taken off the table, its timer cleared, and settled. -/
def settle (s : Transfers) (id : ℕ) (settlement : Settlement) : Transfers :=
  { s with
    pending := s.pending.filter fun p => p.1 != id
    armed := s.armed.filter (· != id)
    settled := s.settled ++ [(id, settlement)] }

/-- `#receive(message)` -/
def receive (s : Transfers) (message : Message) : Transfers :=
  match message.id.bind fun id => (s.pending.lookup id).map fun request => (id, request) with
  | none => s
  | some (id, request) =>
    match checkMessage digest message request with
    | .ok output => s.settle id (.resolved output)
    | .error failure => (s.settle id (.rejected failure)).fail failure

/-- The timer of a transfer; a cleared timer does not fire. -/
def expire (s : Transfers) (id : ℕ) : Transfers :=
  if s.armed.contains id then
    { s with armed := s.armed.filter (· != id) }.fail (.error (js "Direct Pipe worker transfer timed out"))
  else s

def exitMessage (code : ℤ) : JsString := js "Direct Pipe worker exited with code " ++ (JsNumber.int code).toText

def step (s : Transfers) : Event → Transfers
  | .transfer buffer posting => (s.transfer digest buffer posting).1
  | .message message => s.receive digest message
  | .timeout id => s.expire id
  | .error => s.fail .foreign
  | .exit code => s.fail (.error (exitMessage code))
  | .close => s.fail (.error (js "Direct Pipe worker closed"))

end Transfers

/-! ## The worker -/

/-- What the worker posts for a message, whose hashing may fail. -/
def answer (digest : Bytes → JsString) (id : Option ℕ) (buffer : Option Bytes) (hashes : Bool) : Message :=
  match id, buffer with
  | some id, some buffer =>
    if hashes then ⟨some id, none, some buffer, some buffer.length, some (digest buffer)⟩
    else ⟨some id, some (js "worker_integrity_failed"), none, none, none⟩
  | _, _ => ⟨id, some (js "invalid_transfer"), none, none, none⟩

end DirectPipe
