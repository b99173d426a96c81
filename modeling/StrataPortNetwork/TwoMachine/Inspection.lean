import StrataPortNetwork.TwoMachine.Genuine
import StrataPortNetwork.Py.Units

/-! # Receipts outside the receiver

The offline inspection of a receipt in Python, and the transcript that the Android sender
computes. Both read the JSON document of the receipt.
-/
namespace TwoMachine
open Js (JsString Bytes ensure orThrow bar natText)
open Py (Value Str PyError str decimal point)

/-! ## `interconnect/evidence.py` -/

def FIELDS : List String := ["schemaVersion", "sessionId", "stateId", "stateHash", "generation", "payloadSha256",
  "receivedSha256", "payloadBytes", "ciphertextBytes", "sourceHostFingerprint", "destinationHostFingerprint",
  "distinctHostFingerprints", "loopbackObserved", "authenticationVerified", "integrityVerified", "encryptedOnWire",
  "cipher", "transportClass", "twoHostNetworkProofSatisfied", "physicalMachineAttestationProven",
  "productionReadyClaim", "observedAt"]

/-- `FIELDS[11:16] + FIELDS[18:21]` -/
def BOOLS : List String := (FIELDS.drop 11).take 5 ++ (FIELDS.drop 18).take 3

def HASHES : List String := ["stateHash", "payloadSha256", "receivedSha256", "sourceHostFingerprint",
  "destinationHostFingerprint", "receiptMac"]

/-- `str(value)`; the text of a container is left out. -/
def textOf : Value → Option Str
  | .none => some (str "None")
  | .bool b => some (str (if b then "True" else "False"))
  | .int i => some (decimal i)
  | .float repr => some repr
  | .str s => some s
  | _ => none

/-- `text.lower()` on ASCII. -/
def lower (text : Str) : Str := text.map fun c => if 65 ≤ c.val ∧ c.val ≤ 90 then point (c.val + 32) else c

def receiptField (receipt : Value) (name : String) : Option Str :=
  (receipt.get name).bind fun v => if name ∈ BOOLS then (textOf v).map lower else textOf v

/-- The text that `inspect_receipt` authenticates. -/
def receiptText (receipt : Value) : Option Str :=
  (FIELDS.mapM (receiptField receipt)).map fun parts => [point 124].intercalate parts

/-- `re.fullmatch(r"[0-9a-fA-F]{64}", text)` -/
def isSha256 (text : Str) : Bool :=
  text.length == 64 && text.all fun c => (48 ≤ c.val && c.val ≤ 57) || (97 ≤ c.val && c.val ≤ 102) ||
    (65 ≤ c.val && c.val ≤ 70)

/-- `re.fullmatch(r"[0-9a-fA-F-]{36}", text)` -/
def isSessionId (text : Str) : Bool :=
  text.length == 36 && text.all fun c => (48 ≤ c.val && c.val ≤ 57) || (97 ≤ c.val && c.val ≤ 102) ||
    (65 ≤ c.val && c.val ≤ 70) || c.val == 45

def refuse (message : String) : PyError := ⟨.valueError, str message⟩

/-- The string in a field. -/
def strField (receipt : Value) (name : String) : Option Str :=
  match receipt.get name with
  | some (.str s) => some s
  | _ => none

def intField (receipt : Value) (name : String) : Option ℤ :=
  match receipt.get name with
  | some (.int i) => some i
  | _ => none

def boolField (receipt : Value) (name : String) : Option Bool :=
  match receipt.get name with
  | some (.bool b) => some b
  | _ => none

/-- What `inspect_receipt` reports, beside its constant disclaimers. -/
structure Inspection where
  macVerified : Bool
  payloadVerified : Bool
  deriving DecidableEq

/-- `inspect_receipt(receipt, secret, payload_path)`, the payload being the bytes of the file.
`fromisoformat` tells the texts that `datetime.fromisoformat` reads. -/
def inspectReceipt (platform : Platform) (fromisoformat : Str → Bool) (receipt : Value) (secret : Option Value)
    (payload : Option Bytes) : Py.Outcome Inspection := do
  let names := (FIELDS ++ ["receiptMac"]).map str
  let keys := receipt.items.map Prod.fst
  ensure (keys.all (names.contains ·) && names.all (keys.contains ·)) (refuse "Unexpected or missing receipt fields")
  ensure (strField receipt "schemaVersion" == some (str TWO_HOST_PROOF_SCHEMA)) (refuse "Unsupported schema")
  ensure (BOOLS.all fun field => (boolField receipt field).isSome) (refuse "Verification flags must be booleans")
  ensure (HASHES.all fun field => (strField receipt field).any isSha256) (refuse "Malformed SHA-256/MAC")
  let sessionId ← orThrow (strField receipt "sessionId") ⟨.typeError, str "expected string or bytes-like object"⟩
  ensure (isSessionId sessionId) (refuse "Malformed session identity")
  let stateId ← orThrow (strField receipt "stateId") (refuse "Ambiguous state identity")
  ensure (1 ≤ stateId.length && stateId.length ≤ 512 && stateId.all fun c => c.val ≠ 124 && c.val ≠ 13 && c.val ≠ 10)
    (refuse "Ambiguous state identity")
  ensure (["generation", "payloadBytes", "ciphertextBytes"].all fun field =>
    (intField receipt field).any fun i => 0 ≤ i && i ≤ 2 ^ 53 - 1) (refuse "Invalid integer")
  let payloadBytes := (intField receipt "payloadBytes").getD 0
  ensure (1 ≤ payloadBytes && payloadBytes ≤ 32 * 1024 * 1024 && intField receipt "ciphertextBytes" == some payloadBytes)
    (refuse "Invalid payload bounds")
  ensure (strField receipt "stateHash" == strField receipt "payloadSha256" &&
    strField receipt "payloadSha256" == strField receipt "receivedSha256") (refuse "Contradictory reconstruction hashes")
  ensure (["authenticationVerified", "integrityVerified", "encryptedOnWire"].all fun field =>
    boolField receipt field == some true) (refuse "Verification failed")
  ensure (boolField receipt "physicalMachineAttestationProven" == some false &&
    boolField receipt "productionReadyClaim" == some false) (refuse "Unsupported physical/production promotion")
  let distinct := strField receipt "sourceHostFingerprint" != strField receipt "destinationHostFingerprint"
  ensure (boolField receipt "distinctHostFingerprints" == some distinct && boolField receipt "twoHostNetworkProofSatisfied" ==
    some (distinct && boolField receipt "loopbackObserved" == some false)) (refuse "Contradictory host classification")
  ensure (strField receipt "cipher" == some (str TWO_HOST_CIPHER) &&
    strField receipt "transportClass" == some (str TRANSPORT_CLASS)) (refuse "Unsupported transport")
  let observedAt ← orThrow (strField receipt "observedAt") (refuse "Expected UTC timestamp")
  ensure (observedAt.getLast? == some (point 90)) (refuse "Expected UTC timestamp")
  ensure (fromisoformat (observedAt.flatMap fun c => if c = point 90 then str "+00:00" else [c]))
    (refuse "Invalid isoformat string")
  let macVerified ← match secret with
    | none => pure false
    | some (.str secret) => do
      ensure (32 ≤ secret.length) (refuse "Invalid local pairing secret")
      let text ← orThrow (receiptText receipt) ⟨.keyError, []⟩
      let key ← Py.encode secret
      let bytes ← Py.encode text
      ensure (some (Py.ofUnits (platform.hmacSha256 key bytes)) == (strField receipt "receiptMac").map lower)
        (refuse "Receipt MAC rejected")
      pure true
    | some _ => throw (refuse "Invalid local pairing secret")
  let payloadVerified ← match payload with
    | none => pure false
    | some bytes => do
      ensure (bytes.length ≤ payloadBytes) (refuse "Payload size mismatch")
      ensure (bytes.length = payloadBytes && some (Py.ofUnits (platform.sha256 bytes)) == strField receipt "payloadSha256")
        (refuse "Payload hash mismatch")
      pure true
  pure ⟨macVerified, payloadVerified⟩

/-! ## `Sw06fClient.kt` -/

/-- `JSONObject.getString`, which prints what is no string; the text of a container is left out. -/
def getString (receipt : Js.Json) (name : String) : Option JsString :=
  match receipt.get name with
  | some (.str s) => some s
  | some (.bool b) => some (boolText b)
  | some (.num (.int i)) => some (Js.JsNumber.int i).toText
  | some .null => some (Js.js "null")
  | _ => none

/-- `JSONObject.getLong` of a number. -/
def getLong (receipt : Js.Json) (name : String) : Option ℤ :=
  match receipt.get name with
  | some (.num (.int i)) => if -(2 : ℤ) ^ 63 ≤ i ∧ i < 2 ^ 63 then some i else none
  | _ => none

/-- `Long.toString`. -/
def longText (i : ℤ) : JsString := (if i < 0 then [45] else []) ++ natText i.natAbs

/-- `JSONObject.getBoolean` of a boolean. -/
def getBoolean (receipt : Js.Json) (name : String) : Option Bool :=
  match receipt.get name with
  | some (.bool b) => some b
  | _ => none

/-- `Sw06fClient.receiptTranscript`; `none` is a JSONException. -/
def androidTranscript (r : Js.Json) : Option JsString :=
  (allSome [getString r "schemaVersion", getString r "sessionId", getString r "stateId", getString r "stateHash",
    (getLong r "generation").map longText, getString r "payloadSha256", getString r "receivedSha256",
    (getLong r "payloadBytes").map longText, (getLong r "ciphertextBytes").map longText,
    getString r "sourceHostFingerprint", getString r "destinationHostFingerprint",
    (getBoolean r "distinctHostFingerprints").map boolText, (getBoolean r "loopbackObserved").map boolText,
    (getBoolean r "authenticationVerified").map boolText, (getBoolean r "integrityVerified").map boolText,
    (getBoolean r "encryptedOnWire").map boolText, getString r "cipher", getString r "transportClass",
    (getBoolean r "twoHostNetworkProofSatisfied").map boolText,
    (getBoolean r "physicalMachineAttestationProven").map boolText, (getBoolean r "productionReadyClaim").map boolText,
    getString r "observedAt"]).map Js.joinBar

end TwoMachine
