import StrataPortNetwork.Native.Resolution

/-! # The community implementation of port names

The independently distributed client reads `port://` addresses and signed names with code of
its own. It shares the node cryptography with the native port, and nothing else.
-/
namespace Community
open Js Native

def communitySchema : String := "kindred.sdpn.port-names.v1"
def portPrefix : JsString := js "strata:port:ed25519:"

/-- `/^[a-z](?:[a-z0-9-]{0,30}[a-z0-9])?$/` -/
def nameAtom : Regex :=
  .seq (.run Regex.lower 1 1) (.alt (.seq (.run (Regex.lower ++ Regex.digits ++ [(45, 45)]) 0 30)
    (.run (Regex.lower ++ Regex.digits) 1 1)) (.text ""))

/-- `/^strata:port:ed25519:[0-9a-f]{64}$/` -/
def portIdText : Regex := .seq (.text "strata:port:ed25519:") (.run (Regex.digits ++ [(97, 102)]) 64 64)

/-- `[A-Za-z0-9+/]` -/
def base64Class : CharClass := Regex.upper ++ Regex.lower ++ Regex.digits ++ [(43, 43), (47, 47)]

/-- `/^(?:[A-Za-z0-9+/]{4})*(?:[A-Za-z0-9+/]{2}==|[A-Za-z0-9+/]{3}=)?$/` -/
def base64Text : Regex :=
  .seq (.star (.run base64Class 4 4)) (.alt (.alt (.seq (.run base64Class 2 2) (.text "=="))
    (.seq (.run base64Class 3 3) (.text "="))) (.text ""))

/-- `(?:\/[A-Za-z0-9_-]+)*\/?` -/
def resourcePath : Regex :=
  .seq (.star (.seq (.text "/") (.plus (Regex.upper ++ Regex.lower ++ Regex.digits ++ [(95, 95), (45, 45)]))))
    (.alt (.text "/") (.text ""))

/-- `/^port:\/\/[a-z0-9.-]+(?:\/[A-Za-z0-9_-]+)*\/?$/` -/
def uriText : Regex :=
  .seq (.text "port://") (.seq (.plus (Regex.lower ++ Regex.digits ++ [(46, 46), (45, 45)])) resourcePath)

/-! ## Records -/

def joinedKeys (keys : List JsString) : JsString := [44].intercalate (Json.sortKeys keys)

def assertExact (value : Option Json) (keys : List String) : Outcome Unit :=
  ensure (match value with
    | some (.obj own) => joinedKeys (own.map Prod.fst) == joinedKeys (keys.map js)
    | _ => false) (.error "Unexpected community protocol fields")

mutual

def ordered : Json → Outcome Json
  | .null => pure .null
  | .bool b => pure (.bool b)
  | .str s => pure (.str s)
  | .num x => do
    ensure x.safeInteger?.isSome (.error "Non-canonical community record")
    pure (.num x)
  | .arr items => do
    let items ← orderedItems items
    pure (.arr items)
  | .obj fields => do
    let fields ← orderedFields fields
    pure (.obj (Json.canonicalFields fields))

def orderedItems : List Json → Outcome (List Json)
  | [] => pure []
  | v :: rest => do
    let v ← ordered v
    let rest ← orderedItems rest
    pure (v :: rest)

def orderedFields : Fields → Outcome Fields
  | [] => pure []
  | f :: rest => do
    let v ← ordered f.2
    let rest ← orderedFields rest
    pure ((f.1, v) :: rest)

end

def canonical (value : Json) : Outcome Bytes := do
  let value ← ordered value
  pure (utf8Encode (stringify value))

/-! ## Keys, names and addresses -/

section
variable (crypto : Crypto)

/-- `decodeKey(base64)`, the key object being its bytes. -/
def decodeKey (base64 : Option Json) : Outcome Bytes := do
  let text ← orThrow (base64.bind Json.str?) (.error "Invalid public key encoding")
  ensure (text.length ≤ 128 && base64Text.accepts text) (.error "Invalid public key encoding")
  let bytes := base64Decode text
  ensure (base64Encode bytes == text && bytes.length ≤ 96) (.error "Noncanonical public key encoding")
  let keyType ← orThrow (crypto.keyType? bytes) .crypto
  ensure (keyType == js "ed25519") (.error "Only Ed25519 Port Zero keys accepted")
  pure bytes

def portIdentifier (publicKeyDerBase64 : Option Json) : Outcome JsString := do
  let bytes ← decodeKey crypto publicKeyDerBase64
  pure (portPrefix ++ crypto.digest bytes)

end

def validateName (name : Option Json) : Outcome (List JsString) := do
  let text ← orThrow (name.bind Json.str?) (.error "SDPN alias name length")
  ensure (text.length ≤ 170) (.error "SDPN alias name length")
  let parts := if text.isEmpty then [] else text.splitOn 46
  ensure (parts.length ≤ 5 && parts.all nameAtom.accepts) (.error "SDPN alias syntax")
  pure parts

def validateId (id : Option Json) : Outcome JsString := do
  let text ← orThrow (id.bind Json.str?) (.error "Target is not a Port Zero identity")
  ensure (portIdText.accepts text) (.error "Target is not a Port Zero identity")
  pure text

/-- `communityPortUri(ownerPort, name = '', path = '/')`. -/
def communityPortUri (ownerPort name path : Option Json) : Outcome JsString := do
  let owner ← validateId ownerPort
  let parts ← validateName (some (name.getD (.text "")))
  let path ← orThrow ((path.getD (.text "/")).str?) (.error "Unsafe port resource path")
  ensure (path.length ≤ 512 && resourcePath.accepts path) (.error "Unsafe port resource path")
  let digest := owner.drop portPrefix.length
  let host := [46].intercalate (parts ++ [digest.take 32, digest.drop 32, js "sdpn"])
  pure (js "port://" ++ host ++ if path.isEmpty then [47] else path)

structure CommunityAddress where
  uri : JsString
  ownerPort : JsString
  name : JsString
  path : JsString

def parseCommunityPortUri (uri : Json) : Outcome CommunityAddress := do
  let text ← orThrow uri.str? (.error "Invalid native port URI")
  ensure (text.length ≤ 1024 && uriText.accepts text) (.error "Invalid native port URI")
  let (hostname, pathname) := urlParts text
  let labels := hostname.splitOn 46
  ensure (3 ≤ labels.length && labels.getLast? == some (js "sdpn")) (.error "Not an SDPN overlay")
  let a := labels.getD (labels.length - 3) []
  let b := labels.getD (labels.length - 2) []
  ensure (hex32.accepts a && hex32.accepts b) (.error "Missing self-certifying owner ID")
  let ownerPort := portPrefix ++ a ++ b
  let name := [46].intercalate (labels.take (labels.length - 3))
  let _ ← validateName (some (.str name))
  let made ← communityPortUri (some (.str ownerPort)) (some (.str name)) (some (.str pathname))
  ensure (made == text || dropFinalSlash made == text) (.error "Noncanonical port URI")
  -- the pathname of an address without a path stays empty
  pure ⟨text, ownerPort, name, pathname⟩

/-! ## Signed names -/

/-- The loop over the entries, with the names seen so far. -/
def checkBindings : List JsString → List Json → Outcome Unit
  | _, [] => pure ()
  | seen, binding :: rest => do
    assertExact (some binding) ["name", "targetPort"]
    let _ ← validateName (binding.get "name")
    let _ ← validateId (binding.get "targetPort")
    let name := ((binding.get "name").bind Json.str?).getD []
    ensure (!seen.contains name) (.error "Duplicate community alias")
    checkBindings (name :: seen) rest

variable (crypto : Crypto)

def validateBindings (body : Json) (now : ℤ) : Outcome Unit := do
  assertExact (some body) ["schema", "ownerPort", "ownerPublicKey", "revision", "issuedAt", "expiresAt", "entries"]
  ensure (body.get "schema" == some (.text communitySchema)) (.error "Invalid community namespace lifetime")
  let id ← portIdentifier crypto (body.get "ownerPublicKey")
  ensure (body.get "ownerPort" == some (.str id) && revisionOk body && lifetimeOk body now 3600000)
    (.error "Invalid community namespace lifetime")
  let entries ← orThrow ((body.get "entries").bind Json.items?) (.error "Community namespace binding quota")
  ensure (1 ≤ entries.length && entries.length ≤ 128) (.error "Community namespace binding quota")
  checkBindings [] entries
  let bytes ← canonical body
  ensure (bytes.length ≤ 32768) (.error "Manifest is too large")

def verifyCommunityNames (envelope : Json) (now : ℤ) : Outcome Json := do
  assertExact (some envelope) ["body", "signature"]
  let raw ← orThrow ((envelope.get "body").filter Json.isRecord) (.error "Signed record absent")
  let bytes ← canonical raw
  let body ← orThrow ((utf8Decode bytes).bind parse) .syntaxError
  validateBindings crypto body now
  let publicKey ← decodeKey crypto (body.get "ownerPublicKey")
  let text ← orThrow ((envelope.get "signature").bind Json.str?) (.error "Signature encoding")
  ensure (text.length == 88) (.error "Signature encoding")
  let signature := base64Decode text
  let message ← canonical body
  ensure (signature.length == 64 && base64Encode signature == text && crypto.verify message publicKey signature)
    (.error "Community namespace signature invalid")
  pure body

structure CommunityResolution where
  address : JsString
  ownerPort : JsString
  targetPort : Json
  aliasName : JsString
  resourcePath : JsString
  expiresAt : Json

/-- `resolveCommunityPort(uri, envelope, now)`, without the constant disclaimers of its result. -/
def resolveCommunityPort (uri envelope : Json) (now : ℤ) : Outcome CommunityResolution := do
  let address ← parseCommunityPortUri uri
  let body ← verifyCommunityNames crypto envelope now
  ensure (body.get "ownerPort" == some (.str address.ownerPort)) (.error "Different Port Zero authority")
  let entries := ((body.get "entries").bind Json.items?).getD []
  let binding ← orThrow (entries.find? fun x => x.get "name" == some (.str address.name)) (.error "Unassigned PORT alias")
  pure ⟨address.uri, address.ownerPort, (binding.get "targetPort").getD .null, address.name, address.path,
    (body.get "expiresAt").getD .null⟩

end Community
