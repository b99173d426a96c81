import StrataPortNetwork.Native.Identity

/-! # Port names

The `port://` addresses of a port's namespace and the signed manifests that map its
names to target ports. The address pattern leaves nothing for `new URL` to normalise,
so its host and path are read off the text.
-/
namespace Native
open Js

def portNamesSchema : String := "kindred.sdpn.port-names.v1"
def maxManifestBytes : ℕ := 32768

/-- `/^[a-z][a-z0-9-]{0,30}[a-z0-9]$|^[a-z]$/` -/
def atom : Regex :=
  .alt (.seq (.run Regex.lower 1 1) (.seq (.run (Regex.lower ++ Regex.digits ++ [(45, 45)]) 0 30)
    (.run (Regex.lower ++ Regex.digits) 1 1))) (.run Regex.lower 1 1)

/-- `(?:\/[a-zA-Z0-9_-]+)*\/?` -/
def pathPattern : Regex :=
  .seq (.star (.seq (.text "/") (.plus (Regex.lower ++ Regex.upper ++ Regex.digits ++ [(95, 95), (45, 45)]))))
    (.alt (.text "/") (.text ""))

/-- `/^port:\/\/[a-z0-9.-]+(?:\/[a-zA-Z0-9_-]+)*\/?$/` -/
def uriPattern : Regex :=
  .seq (.text "port://") (.seq (.plus (Regex.lower ++ Regex.digits ++ [(46, 46), (45, 45)])) pathPattern)

def validPortId (value : Option Json) : Outcome JsString := do
  let text ← orThrow (value.bind Json.str?) (.error "SDPN Port Zero identity required")
  ensure (portIdPattern.accepts text) (.error "SDPN Port Zero identity required")
  pure text

def nameParts (name : Option Json) : Outcome (List JsString) := do
  let text ← orThrow (name.bind Json.str?) (.error "Port name bounds")
  ensure (text.length ≤ 170) (.error "Port name bounds")
  let labels := if text.isEmpty then [] else text.splitOn 46
  ensure (labels.length ≤ 5 && labels.all atom.accepts) (.error "Port subdomain rejected")
  pure labels

def safePath (path : Option Json) : Outcome JsString := do
  let text ← orThrow (path.bind Json.str?) (.error "Port resource path rejected")
  ensure (text.length ≤ 512 && pathPattern.accepts text) (.error "Port resource path rejected")
  pure (if text.isEmpty then [47] else text)

def portNamespaceHost (ownerPort : Option Json) : Outcome JsString := do
  let text ← validPortId ownerPort
  let hash := text.drop portIdPrefix.length
  pure (hash.take 32 ++ 46 :: (hash.drop 32 ++ js ".sdpn"))

/-- `makePortUri(ownerPort, name = '', path = '/')`. -/
def makePortUri (ownerPort name path : Option Json) : Outcome JsString := do
  let parts ← nameParts (some (name.getD (.text "")))
  let namespaceHost ← portNamespaceHost ownerPort
  let path ← safePath (some (path.getD (.text "/")))
  pure (js "port://" ++ [46].intercalate (parts ++ [namespaceHost]) ++ path)

structure PortAddress where
  uri : JsString
  name : JsString
  ownerPort : JsString
  path : JsString
  namespaceHost : JsString

/-- `new URL(uri)` on what the address pattern admits: the host and the path. -/
def urlParts (uri : JsString) : JsString × JsString :=
  let rest := uri.drop 7
  (rest.takeWhile (· != 47), rest.dropWhile (· != 47))

/-- `text.replace(/\/$/, '')` -/
def dropFinalSlash (text : JsString) : JsString :=
  if text.getLast? = some 47 then text.dropLast else text

def parsePortUri (uri : Json) : Outcome PortAddress := do
  let text ← orThrow uri.str? (.error "Noncanonical port:// URI")
  ensure (text.length ≤ 1024 && uriPattern.accepts text) (.error "Noncanonical port:// URI")
  let (hostname, pathname) := urlParts text
  let labels := hostname.splitOn 46
  ensure (3 ≤ labels.length && labels.getLast? == some (js "sdpn")) (.error "SDPN overlay suffix required")
  let first := labels.getD (labels.length - 3) []
  let second := labels.getD (labels.length - 2) []
  ensure (hex32.accepts first && hex32.accepts second) (.error "Self-certifying namespace missing")
  let name := [46].intercalate (labels.take (labels.length - 3))
  let _ ← nameParts (some (.str name))
  let path ← safePath (some (.str pathname))
  let ownerPort := portIdPrefix ++ first ++ second
  let made ← makePortUri (some (.str ownerPort)) (some (.str name)) (some (.str path))
  ensure (made == text || dropFinalSlash made == text) (.error "Noncanonical port address")
  let namespaceHost ← portNamespaceHost (some (.str ownerPort))
  pure ⟨made, name, ownerPort, path, namespaceHost⟩

/-- The loop over the entries, with the names seen so far. -/
def checkEntries : List JsString → List Json → Outcome Unit
  | _, [] => pure ()
  | seen, entry :: rest => do
    exactFields (some entry) ["name", "targetPort"]
    let _ ← nameParts (entry.get "name")
    let _ ← validPortId (entry.get "targetPort")
    let name := ((entry.get "name").bind Json.str?).getD []
    ensure (!seen.contains name) (.error "Duplicate port name")
    checkEntries (name :: seen) rest

variable (crypto : Crypto)

/-- `verifyBody(body, now)`. -/
def verifyBody (body : Json) (now : ℤ) : Outcome Unit := do
  exactFields (some body) ["schema", "ownerPort", "ownerPublicKey", "revision", "issuedAt", "expiresAt",
    "entries"]
  ensure (body.get "schema" == some (.text portNamesSchema)) (.error "Port name authority or lifetime rejected")
  let id ← portId crypto (body.get "ownerPublicKey")
  ensure (body.get "ownerPort" == some (.str id) && revisionOk body && lifetimeOk body now 3600000)
    (.error "Port name authority or lifetime rejected")
  let entries ← orThrow ((body.get "entries").bind Json.items?) (.error "Port name record count rejected")
  ensure (1 ≤ entries.length && entries.length ≤ 128) (.error "Port name record count rejected")
  checkEntries [] entries
  let bytes ← canonicalBytes body
  ensure (bytes.length ≤ maxManifestBytes) (.error "Port name manifest size exceeded")

/-- `signPortNames(identity, entries, options)`. -/
def signPortNames (identity : Identity crypto) (entries revision : Json) (now ttlMs : ℤ) : Outcome Json := do
  ensure (1 ≤ ttlMs && ttlMs ≤ 3600000) (.error "Port name TTL rejected")
  let body := Json.record [("schema", .text portNamesSchema), ("ownerPort", .str identity.id),
    ("ownerPublicKey", .str identity.publicKey), ("revision", revision), ("issuedAt", .int now),
    ("expiresAt", .int (now + ttlMs)), ("entries", entries)]
  verifyBody crypto body now
  identity.sign body

/-- `verifyPortNames(record, now)`. -/
def verifyPortNames (record : Json) (now : ℤ) : Outcome Json := do
  let raw ← orThrow ((record.get "body").filter Json.truthy) (.error "Port name record absent")
  let body ← verifyEnvelope crypto record (raw.get "ownerPort") (raw.get "ownerPublicKey")
  verifyBody crypto body now
  pure body

/-- A verified manifest is the snapshot of the record's body and is fresh. -/
theorem verifyPortNames_ok {crypto : Crypto} {record body : Json} {now : ℤ}
    (h : verifyPortNames crypto record now = .ok body) :
    ∃ raw, record.get "body" = some raw ∧ ordered raw = some body ∧ lifetimeOk body now 3600000 = true := by
  simp only [verifyPortNames, bind_eq_ok, orThrow_eq_ok, pure_eq_ok, Option.filter_eq_some_iff] at h
  obtain ⟨raw, ⟨hraw, -⟩, body', hverified, ⟨⟩, hbody, rfl⟩ := h
  obtain ⟨raw', -, -, -, hraw', hordered, -⟩ := verifyEnvelope_ok hverified
  rw [hraw, Option.some.injEq] at hraw'
  subst hraw'
  simp only [verifyBody, bind_eq_ok, ensure_eq_ok, Bool.and_eq_true] at hbody
  obtain ⟨-, -, -, -, -, -, -, ⟨-, hlife⟩, -⟩ := hbody
  exact ⟨raw, hraw, hordered, hlife⟩

structure PortResolution where
  address : JsString
  ownerPort : JsString
  targetPort : Json
  name : JsString
  path : JsString
  signedRevision : Json
  expiresAt : Json

/-- `resolvePortName(uri, record, now)`, without the constant disclaimers of its result. -/
def resolvePortName (uri record : Json) (now : ℤ) : Outcome PortResolution := do
  let address ← parsePortUri uri
  let body ← verifyPortNames crypto record now
  ensure (body.get "ownerPort" == some (.str address.ownerPort)) (.error "Untrusted Port Zero namespace")
  let entries := ((body.get "entries").bind Json.items?).getD []
  let entry ← orThrow (entries.find? fun item => item.get "name" == some (.str address.name))
    (.error "Port name not registered")
  pure ⟨address.uri, address.ownerPort, (entry.get "targetPort").getD .null, address.name, address.path,
    (body.get "revision").getD .null, (body.get "expiresAt").getD .null⟩

end Native
