import StrataPortNetwork.CognitiveBody.Graph
import StrataPortNetwork.Logged
import StrataPortNetwork.ProcessIntelligence.Observer
import StrataPortNetwork.Transition

/-! # The attachment of process ports

A process port reaches process intelligence through a boundary of unknown behaviour. Every use of
it is requested first, and what the boundary returns as a receipt must not authorise anything.
-/
namespace CognitiveBody
open Js Logged

inductive ProcessMethod
  | discoverProcessSkills
  | discoverProsynthesizedCapability
  | requestCandidate
  | executeCapability
  | requestRecomposition
  deriving DecidableEq

def dispatchers : List (JsString × ProcessMethod) := [(js "DISCOVER_PROCESS_SKILLS", .discoverProcessSkills),
  (js "DISCOVER_PROSYNTHESIZED_CAPABILITY", .discoverProsynthesizedCapability),
  (js "REQUEST_PROSYNTHESINE_CANDIDATE", .requestCandidate), (js "EXECUTE_CAPABILITY", .executeCapability),
  (js "REQUEST_POST_SYNTHESIS_RECOMPOSITION", .requestRecomposition)]

/-- A boundary whose methods may do anything; `none` is a method that throws. -/
structure ProcessBoundary (σ π : Type) where
  request : JsString → π → σ → Option Json × σ
  call : ProcessMethod → π → σ → Option Json × σ

inductive AttachmentFailure
  | rejected (error : CognitiveBodyError)
  /-- The TypeError of a request type that is no string and has none. -/
  | typeError
  | boundary

/-- A call of the boundary with what it returned. -/
inductive BoundaryCall (π : Type)
  | request (requestType : JsString) (payload : π) (receipt : Option Json)
  | method (method : ProcessMethod) (payload : π) (result : Option Json)

/-- A receipt for a request type that authorises no effect and no escalation. -/
def isSafeReceipt (requestType : JsString) (receipt : Json) : Bool :=
  receipt.get "request_type" == some (.str requestType) && receipt.get "external_effects_authorized" == some (.bool false) &&
    receipt.get "authority_escalation_authorized" == some (.bool false)

section
variable {σ π : Type} (boundary : ProcessBoundary σ π)

/-- The name and the method of a request type. -/
def supported (requestType : Json) : Except AttachmentFailure (JsString × ProcessMethod) :=
  match requestType.str?.bind fun name => (dispatchers.lookup name).map (name, ·) with
  | some found => .ok found
  | none => match requestType.toStr? with
    | some text => .error (.rejected ⟨"unsupported_process_request_type",
        js "Unsupported Process Intelligence request type: " ++ text⟩)
    | none => .error .typeError

/-- `prepare(requestType, payload)`: the receipt and the method of the request. -/
def prepare (requestType : Json) (payload : π) : Act σ (BoundaryCall π) AttachmentFailure (Json × ProcessMethod) := do
  let (name, method) ← only (supported requestType)
  let receipt ← call (fun s => ((boundary.request name payload s).1.elim (.error .boundary) .ok, (boundary.request name payload s).2))
    fun receipt => .request name payload receipt.toOption
  only (ensure (receipt.get "request_type" == some (.str name))
    (.rejected (reject "invalid_process_boundary_receipt" "Process Intelligence boundary returned an invalid request receipt")))
  only (ensure (isSafeReceipt name receipt)
    (.rejected (reject "unsafe_process_boundary_receipt" "Process Intelligence request unexpectedly authorized consequence")))
  pure (receipt, method)

/-- `request(requestType, payload)`. -/
def attachmentRequest (requestType : Json) (payload : π) : Act σ (BoundaryCall π) AttachmentFailure Json := do
  let (receipt, _) ← prepare boundary requestType payload
  pure receipt

/-- `dispatch(requestType, payload, receiptPayload)`. -/
def dispatch (requestType : Json) (payload receiptPayload : π) : Act σ (BoundaryCall π) AttachmentFailure Json := do
  let (receipt, method) ← prepare boundary requestType receiptPayload
  let result ← call (fun s => ((boundary.call method payload s).1.elim (.error .boundary) .ok, (boundary.call method payload s).2))
    fun result => .method method payload result.toOption
  pure (freezeClone (.record [("request", receipt), ("result", result)]))

/-- A use of an attachment. -/
inductive AttachmentCall (π : Type)
  | request (requestType : Json) (payload : π)
  | dispatch (requestType : Json) (payload receiptPayload : π)

/-- The boundary and its log after a use, which may have been rejected. -/
def attachmentStep (s : σ × List (BoundaryCall π)) : AttachmentCall π → σ × List (BoundaryCall π)
  | .request requestType payload => (attachmentRequest boundary requestType payload s).2
  | .dispatch requestType payload receiptPayload => (dispatch boundary requestType payload receiptPayload s).2

end

/-! ## What the log shows -/

/-- Requests, and calls of methods each right after a request of its type whose receipt is safe. -/
inductive Guarded {π : Type} : List (BoundaryCall π) → Prop
  | nil : Guarded []
  | request {log : List (BoundaryCall π)} (h : Guarded log) (requestType : JsString) (payload : π) (receipt : Option Json) :
      Guarded (log ++ [.request requestType payload receipt])
  | method {log : List (BoundaryCall π)} (h : Guarded log) {requestType : JsString} {method : ProcessMethod} {receipt : Json}
      (htype : dispatchers.lookup requestType = some method) (hsafe : isSafeReceipt requestType receipt = true) (receiptPayload payload : π)
      (result : Option Json) :
      Guarded (log ++ [.request requestType receiptPayload (some receipt)] ++ [.method method payload result])

/-- The log ends with a request for the method whose receipt is safe. -/
def Prepared {π : Type} (method : ProcessMethod) (log : List (BoundaryCall π)) : Prop :=
  ∃ earlier requestType payload receipt, Guarded earlier ∧ log = earlier ++ [.request requestType payload (some receipt)] ∧
    dispatchers.lookup requestType = some method ∧ isSafeReceipt requestType receipt = true

theorem Prepared.guarded {π : Type} {method : ProcessMethod} {log : List (BoundaryCall π)} (h : Prepared method log) : Guarded log := by
  obtain ⟨earlier, requestType, payload, receipt, hearlier, rfl, -, -⟩ := h
  exact hearlier.request requestType payload (some receipt)

section
variable {σ π : Type} {boundary : ProcessBoundary σ π}

theorem supported_eq_ok {requestType : Json} {found : JsString × ProcessMethod} (h : supported requestType = .ok found) :
    dispatchers.lookup found.1 = some found.2 := by
  rw [supported] at h
  split at h
  · rename_i found' hfound
    obtain rfl := Except.ok.inj h
    obtain ⟨name, -, hname⟩ := Option.bind_eq_some_iff.mp hfound
    obtain ⟨method, hmethod, rfl⟩ := Option.map_eq_some_iff.mp hname
    exact hmethod
  · split at h <;> cases h

theorem prepare_triple (requestType : Json) (payload : π) :
    Triple Guarded (prepare boundary requestType payload) (fun result log => Prepared result.2 log) Guarded := by
  unfold prepare
  refine Triple.bind (Q := fun found log => dispatchers.lookup found.1 = some found.2 ∧ Guarded log) ?_ fun found => ?_
  · exact Triple.only (fun found log hfound hlog => ⟨supported_eq_ok hfound, hlog⟩) fun log hlog => hlog
  obtain ⟨name, method⟩ := found
  have hstart : ∀ receipt : Option Json, ∀ log : List (BoundaryCall π), dispatchers.lookup name = some method ∧ Guarded log →
      Guarded (log ++ [.request name payload receipt]) := fun receipt log hlog => hlog.2.request name payload receipt
  refine Triple.bind (Q := fun receipt log => dispatchers.lookup name = some method ∧
    ∃ earlier, Guarded earlier ∧ log = earlier ++ [.request name payload (some receipt)]) ?_ fun receipt => ?_
  · exact Triple.call (fun receipt log hlog => ⟨hlog.1, log, hlog.2, rfl⟩) fun e log hlog => hstart _ log hlog
  have hrequested : ∀ log : List (BoundaryCall π), (dispatchers.lookup name = some method ∧
      ∃ earlier, Guarded earlier ∧ log = earlier ++ [.request name payload (some receipt)]) → Guarded log := by
    rintro log ⟨-, earlier, hearlier, rfl⟩
    exact hearlier.request name payload (some receipt)
  refine Triple.bind (Q := fun _ log => dispatchers.lookup name = some method ∧
    ∃ earlier, Guarded earlier ∧ log = earlier ++ [.request name payload (some receipt)]) ?_ fun _ => ?_
  · exact Triple.only (fun _ log _ hlog => hlog) hrequested
  refine Triple.bind (Q := fun _ log => Prepared method log) ?_ fun _ => Triple.pure fun log hlog => hlog
  refine Triple.only (fun _ log hsafe hlog => ?_) hrequested
  obtain ⟨htype, earlier, hearlier, rfl⟩ := hlog
  exact ⟨earlier, name, payload, receipt, hearlier, rfl, htype, ensure_eq_ok.mp hsafe⟩

theorem attachmentRequest_triple (requestType : Json) (payload : π) :
    Triple Guarded (attachmentRequest boundary requestType payload) (fun _ log => Guarded log) Guarded :=
  (prepare_triple requestType payload).bind fun _ => Triple.pure fun _ hlog => hlog.guarded

theorem dispatch_triple (requestType : Json) (payload receiptPayload : π) :
    Triple Guarded (dispatch boundary requestType payload receiptPayload) (fun _ log => Guarded log) Guarded := by
  refine (prepare_triple requestType receiptPayload).bind fun found => ?_
  obtain ⟨receipt, method⟩ := found
  have hcalled : ∀ result : Option Json, ∀ log : List (BoundaryCall π), Prepared method log →
      Guarded (log ++ [.method method payload result]) := by
    rintro result log ⟨earlier, requestType, receiptPayload, receipt, hearlier, rfl, htype, hsafe⟩
    exact hearlier.method htype hsafe receiptPayload payload result
  refine Triple.bind (Q := fun _ log => Guarded log) ?_ fun result => Triple.pure fun log hlog => hlog
  exact Triple.call (fun _ log hlog => hcalled _ log hlog) fun _ log hlog => hcalled _ log hlog

theorem attachmentStep_guarded (s : σ × List (BoundaryCall π)) (use : AttachmentCall π) (h : Guarded s.2) :
    Guarded (attachmentStep boundary s use).2 := by
  cases use with
  | request requestType payload => exact (attachmentRequest_triple requestType payload).always h
  | dispatch requestType payload receiptPayload => exact (dispatch_triple requestType payload receiptPayload).always h

end

/-! ## The boundary of process intelligence -/

def PROCESS_INTELLIGENCE_REQUEST_TYPES : List JsString := [js "DISCOVER_PROCESS_SKILLS", js "DISCOVER_PROSYNTHESIZED_CAPABILITY",
  js "REQUEST_PROSYNTHESINE_CANDIDATE", js "EXECUTE_CAPABILITY", js "REQUEST_POST_SYNTHESIS_RECOMPOSITION"]

def adapterReceipt (requestType : JsString) (payload : Json) : Json := .record [
  ("contract_version", .text "kindred.process-intelligence-boundary.v1"), ("request_type", .str requestType), ("payload", payload.rebuild),
  ("external_effects_authorized", .bool false), ("authority_escalation_authorized", .bool false)]

/-- `request(requestType, payload)` of the adapter. -/
def adapterRequest (requestType : JsString) (payload : Json) : ProcessIntelligence.Outcome Json := do
  ensure (PROCESS_INTELLIGENCE_REQUEST_TYPES.contains requestType) (.rejected "process_intelligence_request_invalid")
  pure (adapterReceipt requestType payload)

/-- The boundary of an adapter, whose other methods may do anything. -/
def adapterBoundary {σ : Type} (method : ProcessMethod → Json → σ → Option Json × σ) : ProcessBoundary σ Json where
  request requestType payload s := ((adapterRequest requestType payload).toOption, s)
  call := method

theorem contains_of_lookup {name : JsString} {method : ProcessMethod} (h : dispatchers.lookup name = some method) :
    PROCESS_INTELLIGENCE_REQUEST_TYPES.contains name = true := by
  have hnames : PROCESS_INTELLIGENCE_REQUEST_TYPES = dispatchers.map Prod.fst := rfl
  rw [hnames, List.contains_iff_mem]
  obtain ⟨before, after, hentries, -⟩ := List.lookup_eq_some_iff.mp h
  rw [hentries]
  simp

theorem get_adapterReceipt (name : JsString) (payload : Json) :
    (adapterReceipt name payload).get "request_type" = some (.str name) ∧ isSafeReceipt name (adapterReceipt name payload) = true := by
  have htype : (adapterReceipt name payload).get "request_type" = some (.str name) := by
    rw [adapterReceipt, Json.get_record]
    rfl
  have hexternal : (adapterReceipt name payload).get "external_effects_authorized" = some (.bool false) := by
    rw [adapterReceipt, Json.get_record]
    rfl
  have hauthority : (adapterReceipt name payload).get "authority_escalation_authorized" = some (.bool false) := by
    rw [adapterReceipt, Json.get_record]
    rfl
  refine ⟨htype, ?_⟩
  rw [isSafeReceipt, htype, hexternal, hauthority]
  simp

/-- The method and the payload that a use calls the boundary with. -/
def served : AttachmentCall Json → Option (ProcessMethod × Json)
  | .request .. => none
  | .dispatch requestType payload _ => (supported requestType).toOption.map fun found => (found.2, payload)

/-- The methods in a log with their payloads. -/
def calledMethods (log : List (BoundaryCall Json)) : List (ProcessMethod × Json) :=
  log.filterMap fun entry => match entry with
    | .request .. => none
    | .method method payload _ => some (method, payload)

section
variable {σ : Type} (method : ProcessMethod → Json → σ → Option Json × σ)

theorem prepare_unsupported {requestType : Json} {e : AttachmentFailure} (h : supported requestType = .error e) (payload : Json)
    (s : σ × List (BoundaryCall Json)) : prepare (adapterBoundary method) requestType payload s = (.error e, s) := by
  rw [prepare, h, bind_apply]
  rfl

/-- The receipts of the adapter let every request of a type it has through. -/
theorem prepare_adapter {requestType : Json} {name : JsString} {m : ProcessMethod} (h : supported requestType = .ok (name, m)) (payload : Json)
    (s : σ) (log : List (BoundaryCall Json)) : prepare (adapterBoundary method) requestType payload (s, log) =
      (.ok (adapterReceipt name payload, m), s, log ++ [.request name payload (some (adapterReceipt name payload))]) := by
  obtain ⟨htype, hsafe⟩ := get_adapterReceipt name payload
  have hrequest : adapterRequest name payload = .ok (adapterReceipt name payload) := by
    rw [adapterRequest, contains_of_lookup (supported_eq_ok h)]
    rfl
  have hsame : (some (Json.str name) == some (Json.str name)) = true := by simp
  simp only [prepare, h, bind_apply, only, call, adapterBoundary, hrequest, Except.toOption, Option.elim_some, htype, hsame, hsafe,
    ensure, if_true]
  rfl

theorem attachmentStep_serves (s : σ × List (BoundaryCall Json)) (use : AttachmentCall Json) :
    calledMethods (attachmentStep (adapterBoundary method) s use).2 = calledMethods s.2 ++ (served use).toList := by
  obtain ⟨s, log⟩ := s
  cases use with
  | request requestType payload =>
    rw [attachmentStep, attachmentRequest, bind_apply]
    cases hsupported : supported requestType with
    | error e =>
      rw [prepare_unsupported method hsupported]
      exact (List.append_nil _).symm
    | ok found =>
      rw [prepare_adapter method hsupported]
      exact List.filterMap_append
  | dispatch requestType payload receiptPayload =>
    rw [attachmentStep, dispatch, bind_apply, served]
    cases hsupported : supported requestType with
    | error e =>
      rw [prepare_unsupported method hsupported]
      exact (List.append_nil _).symm
    | ok found =>
      rw [prepare_adapter method hsupported]
      simp only [bind_apply, call, adapterBoundary]
      have hlog : ∀ result : Option Json, calledMethods (log ++ [.request found.1 receiptPayload (some (adapterReceipt found.1 receiptPayload))] ++
          [.method found.2 payload result]) = calledMethods log ++ [(found.2, payload)] := by
        intro result
        simp [calledMethods]
      cases (method found.2 payload s).1 <;> exact hlog _

end

/-- Whatever a boundary does, and in whatever order an attachment to it is used, no method of the boundary is called
but right after a request of its own type, for which the boundary returned a receipt that authorises neither an
effect nor an escalation. -/
theorem attachment_guarded {σ π : Type} (boundary : ProcessBoundary σ π) (uses : List (AttachmentCall π)) (s : σ) :
    Guarded (Transition.run (attachmentStep boundary) (s, []) uses).2 :=
  Transition.run_invariant (fun s use h => attachmentStep_guarded s use h) .nil uses

end CognitiveBody
