import StrataPortNetwork.Agent.Steps

/-! # A concrete clock and a concrete worker

`Date` on ISO texts with milliseconds, which is what the gateway writes itself, and a
worker with a chain of three grants, on which the gateway can be run.
-/
namespace Agent.Sample
open Js Transition Gateway

/-! ## ISO dates -/

/-- Days since 1970-01-01 of a date in the Gregorian calendar. -/
def daysFromCivil (year month day : ℤ) : ℤ :=
  let y := if month ≤ 2 then year - 1 else year
  let era := y / 400
  let yearOfEra := y - era * 400
  let dayOfYear := (153 * (month + (if 2 < month then -3 else 9)) + 2) / 5 + day - 1
  era * 146097 + (yearOfEra * 365 + yearOfEra / 4 - yearOfEra / 100 + dayOfYear) - 719468

def civilFromDays (days : ℤ) : ℤ × ℤ × ℤ :=
  let z := days + 719468
  let era := z / 146097
  let dayOfEra := z - era * 146097
  let yearOfEra := (dayOfEra - dayOfEra / 1460 + dayOfEra / 36524 - dayOfEra / 146096) / 365
  let dayOfYear := dayOfEra - (365 * yearOfEra + yearOfEra / 4 - yearOfEra / 100)
  let shifted := (5 * dayOfYear + 2) / 153
  let month := if shifted < 10 then shifted + 3 else shifted - 9
  (yearOfEra + era * 400 + (if month ≤ 2 then 1 else 0), month, dayOfYear - (153 * shifted + 2) / 5 + 1)

/-- The number the given units spell. -/
def number (s : JsString) (first count : ℕ) : ℤ := (readDigits ((s.drop first).take count) 0 0).1

/-- `YYYY-MM-DDTHH:mm:ss.sssZ` -/
def isoPattern : Regex :=
  .seq (.run Regex.digits 4 4) (.seq (.text "-") (.seq (.run Regex.digits 2 2) (.seq (.text "-")
    (.seq (.run Regex.digits 2 2) (.seq (.text "T") (.seq (.run Regex.digits 2 2) (.seq (.text ":")
      (.seq (.run Regex.digits 2 2) (.seq (.text ":") (.seq (.run Regex.digits 2 2) (.seq (.text ".")
        (.seq (.run Regex.digits 3 3) (.text "Z")))))))))))))

def parseIso (s : JsString) : Option ℤ :=
  if isoPattern.accepts s then
    some ((((daysFromCivil (number s 0 4) (number s 5 2) (number s 8 2) * 24 + number s 11 2) * 60 + number s 14 2) * 60 +
      number s 17 2) * 1000 + number s 20 3)
  else none

def isoText (t : ℤ) : Option JsString :=
  let seconds := t / 1000
  let (year, month, day) := civilFromDays (seconds / 86400)
  if 0 ≤ year ∧ year ≤ 9999 then
    some (padText 4 year.toNat ++ js "-" ++ padText 2 month.toNat ++ js "-" ++ padText 2 day.toNat ++ js "T" ++
      padText 2 (seconds / 3600 % 24).toNat ++ js ":" ++ padText 2 (seconds / 60 % 60).toNat ++ js ":" ++
      padText 2 (seconds % 60).toNat ++ js "." ++ padText 3 (t % 1000).toNat ++ js "Z")
  else none

def isoDate : DateApi := ⟨parseIso, isoText⟩

/-! ## Fixtures -/

def texts (items : List String) : Json := .arr (items.map .text)

def workerId : String := "kindred-agent-worker-01"
def capabilityId : String := "kindred.capability.note.v1"

/-- An active worker that declares the three grants of the samples. -/
def identityValue : Json := .record [("contract_version", .text "kindred.agent.identity.v1"), ("agent_id", .text workerId),
  ("tenant_id", .text "kindred-tenant-local-01"), ("agent_class", .text "worker"),
  ("owner_id", .text "owner-01"), ("creator_id", .text "owner-01"), ("version", .text "1.0.0"),
  ("lineage", .record [("parent_agent_id", .null), ("replaces_agent_id", .null)]), ("purpose", .text "notes"),
  ("capabilities", texts [capabilityId]), ("prohibited_capabilities", texts []), ("permissions", texts []),
  ("authority", .record [("issuer_component", .text "brainstem"),
    ("grant_refs", texts ["kindred-grant-root-001", "kindred-grant-middle-1", "kindred-grant-leaf-001"]),
    ("ceiling", .text "user_delegated")]), ("budget_refs", texts []), ("lifecycle_state", .text "active"),
  ("health", .text "healthy"), ("evidence_refs", texts []),
  ("memory_scope", .record [("namespace_refs", texts []), ("write_mode", .text "proposal_only")]),
  ("execution_scope", .record [("mode", .text "proposal_only"), ("allowed_capabilities", texts [capabilityId])]),
  ("provider_scope", .record [("mode", .text "mediated_only"), ("provider_refs", texts [])]),
  ("economic_mandate_ref", .null), ("replacement_agent_id", .null),
  ("created_at", .text "2026-07-21T15:00:00.000Z"), ("revoked_at", .null)]

def capabilityValue : Json := .record [("contract_version", .text "kindred.agent.capability.v1"),
  ("capability_id", .text capabilityId), ("version", .text "1.0.0"), ("owner_component", .text "brainstem"),
  ("action_type", .text "communication"), ("allowed_agent_classes", texts ["worker"]),
  ("required_authority", .text "user_delegated"), ("risk_ceiling", .text "low"),
  ("data_classifications", texts ["internal"]), ("execution_mode", .text "proposal_only"),
  ("provider_contact", .text "mediated_only"), ("memory_commit", .text "brainstem_only"),
  ("settlement", .text "retrobank_mandate_only"), ("compensation_required", .bool false),
  ("input_contract_ref", .text "notes"), ("output_contract_ref", .text "notes")]

/-- An active grant of the worker's, until the given minute past 16:00. -/
def grantValue (id : String) (parent : Json) (permissions : List String) (minute : String) : Json :=
  .record [("contract_version", .text "kindred.agent.authority-grant.v1"), ("grant_id", .text id),
    ("subject_agent_id", .text workerId), ("issuer_component", .text "brainstem"), ("issuer_id", .text "brainstem"),
    ("authentication_ref", .text "kindred-authref-worker-1"), ("authority_level", .text "user_delegated"),
    ("capability_ids", texts [capabilityId]), ("message_types", texts ["request"]),
    ("permissions", texts permissions), ("budget_refs", texts []), ("parent_grant_ref", parent),
    ("issued_at", .text "2026-07-21T15:30:00.000Z"),
    ("expires_at", .text ("2026-07-21T16:" ++ minute ++ ":00.000Z")), ("status", .text "active"), ("revoked_at", .null)]

theorem grantValue_id (id : String) (parent : Json) (permissions : List String) (minute : String) :
    (grantValue id parent permissions minute).get "grant_id" = some (.text id) := by
  simp [grantValue, List.lookup_cons]

/-- A message sent at 16:20 that expires at 16:30. -/
def envelope (type nonce : String) (sender recipient : Json) (classification : String)
    (authority capability evidence authentication delegation payload : Json) : Json :=
  .record [("contract_version", .text "kindred.agent.message-envelope.v1"),
    ("message_id", .text "kindred-message-note-001"), ("message_type", .text type), ("sender", sender),
    ("recipient", recipient), ("authority_ref", authority), ("correlation_id", .text "note-0001"),
    ("causation_id", .null), ("nonce", .text nonce), ("timestamp", .text "2026-07-21T16:20:00.000Z"),
    ("expires_at", .text "2026-07-21T16:30:00.000Z"), ("data_classification", .text classification),
    ("requested_capability", capability), ("budget_ref", .null), ("evidence_refs", evidence),
    ("authentication_ref", authentication), ("delegation_ref", delegation), ("payload", payload)]

def agent : Json := .record [("principal_type", .text "agent"), ("id", .text workerId)]
def brainstem : Json := .record [("principal_type", .text "runtime_component"), ("id", .text "brainstem")]

/-- A request under the last grant of the chain. -/
def requestValue : Json :=
  envelope "request" "nonce-0000000001" agent brainstem "internal" (.text "kindred-grant-leaf-001") (.text capabilityId)
    (texts []) (.text "kindred-authref-worker-1") (.text "kindred-grant-middle-1") (.record [])

/-- A status message under a reference nobody issued. -/
def statusValue : Json :=
  envelope "status" "nonce-0000000002" agent brainstem "internal" .null .null (texts [])
    (.text "kindred-authref-forged-1") .null (.record [])

/-- The revocation of the worker. -/
def revocationValue : Json :=
  envelope "revocation" "nonce-0000000003" brainstem brainstem "restricted" .null .null (texts ["evidence-1"])
    (.text "kindred-authref-brainstem") .null
    (.record [("contract_version", .text "kindred.agent.revocation-notice.v1"),
      ("revocation_id", .text "kindred-revocation-worker-1"), ("target_type", .text "agent"), ("target_id", .text workerId),
      ("reason_class", .text "owner_request"), ("effective_at", .text "2026-07-21T16:20:00.000Z"),
      ("authority_component", .text "brainstem"), ("cascade_dependents", .bool true),
      ("evidence_refs", texts ["evidence-1"]), ("provider_contact_requested", .bool false),
      ("memory_mutation_requested", .bool false), ("tool_execution_requested", .bool false),
      ("settlement_requested", .bool false), ("external_effects", .bool false)])

/-! ## The gateway at work -/

theorem ok_of_isOk {x : Outcome Unit} (h : x.isOk = true) : x = .ok () := by
  cases x with
  | ok u => rfl
  | error e => simp [Except.isOk, Except.toBool] at h

theorem accepts_of_isOk {x : Outcome Json × Gateway isoDate} (h : x.1.isOk = true) : ∃ result g', x = (.ok result, g') := by
  obtain ⟨result | e, g'⟩ := x
  · simp [Except.isOk, Except.toBool] at h
  · exact ⟨_, g', rfl⟩

def worker : Identity isoDate := ⟨identityValue, ok_of_isOk (by decide +kernel)⟩
def notes : Capability := ⟨capabilityValue, ok_of_isOk (by decide +kernel)⟩

/-- The root grant, until 16:22. -/
def root : Grant isoDate where
  value := grantValue "kindred-grant-root-001" .null ["note.write"] "22"
  valid := ok_of_isOk (by decide +kernel)
  grantId := js "kindred-grant-root-001"
  named := grantValue_id ..

/-- Delegated by the root grant, with a permission that the root grant does not list. -/
def middle : Grant isoDate where
  value := grantValue "kindred-grant-middle-1" (.text "kindred-grant-root-001") ["note.erase"] "40"
  valid := ok_of_isOk (by decide +kernel)
  grantId := js "kindred-grant-middle-1"
  named := grantValue_id ..

def leaf : Grant isoDate where
  value := grantValue "kindred-grant-leaf-001" (.text "kindred-grant-middle-1") ["note.erase"] "40"
  valid := ok_of_isOk (by decide +kernel)
  grantId := js "kindred-grant-leaf-001"
  named := grantValue_id ..

def request : Envelope isoDate := ⟨requestValue, ok_of_isOk (by decide +kernel)⟩
def status : Envelope isoDate := ⟨statusValue, ok_of_isOk (by decide +kernel)⟩
def revocation : Envelope isoDate := ⟨revocationValue, ok_of_isOk (by decide +kernel)⟩

/-- Minutes after 16:00. -/
def at16 (minute : ℤ) : ℤ := 1784649600000 + minute * 60000

def references : JsMap JsString (List Json) := JsMap.empty.set (js "brainstem") [.text "kindred-authref-brainstem"]
def guard : ReplayGuard := ⟨JsMap.empty, 4096⟩

/-- The worker and its capability, registered. -/
def staffed : Gateway isoDate :=
  { start isoDate references guard with
    identities := Registry.empty.put worker
    capabilities := Registry.empty.put notes }

/-- The chain of grants, registered. -/
def delegated : Gateway isoDate := { staffed with grants := ((Registry.empty.put root).put middle).put leaf }

def staffing : List Operation := [.registerIdentity worker.1, .registerCapability notes.1]
def delegating : List Operation :=
  [.registerAuthorityGrant root.value, .registerAuthorityGrant middle.value, .registerAuthorityGrant leaf.value]

theorem run_staffing : run step (start isoDate references guard) staffing = staffed := by
  rw [staffing, run_cons, step_registerIdentity worker (Registry.get_empty _), run_cons,
    step_registerCapability notes (Registry.get_empty _)]
  rfl

theorem run_delegating : run step (start isoDate references guard) (staffing ++ delegating) = delegated := by
  rw [run_append, run_staffing, delegating, run_cons, step_registerAuthorityGrant root (by decide +kernel), run_cons,
    step_registerAuthorityGrant middle (by decide +kernel), run_cons,
    step_registerAuthorityGrant leaf (by decide +kernel)]
  rfl

theorem get_root : delegated.grants.get root.grantId = some root := by
  change (((Registry.empty.put root).put middle).put leaf).get root.grantId = some root
  rw [Registry.get_put, if_neg (by decide +kernel), Registry.get_put, if_neg (by decide +kernel), Registry.get_put,
    if_pos (BEq.refl _)]

theorem get_middle : delegated.grants.get middle.grantId = some middle := by
  change (((Registry.empty.put root).put middle).put leaf).get middle.grantId = some middle
  rw [Registry.get_put, if_neg (by decide +kernel), Registry.get_put, if_pos (BEq.refl _)]

theorem get_leaf : delegated.grants.get leaf.grantId = some leaf := by
  change (((Registry.empty.put root).put middle).put leaf).get leaf.grantId = some leaf
  rw [Registry.get_put, if_pos (BEq.refl _)]

theorem parentRef_middle : middle.parentRef = some root.grantId := by
  simp [Grant.parentRef, middle, root, grantValue, List.lookup_cons, Json.text, Json.str?]

theorem parentRef_leaf : leaf.parentRef = some middle.grantId := by
  simp [Grant.parentRef, middle, leaf, grantValue, List.lookup_cons, Json.text, Json.str?]

end Agent.Sample
