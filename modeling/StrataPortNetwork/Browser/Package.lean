import StrataPortNetwork.Js.Check
import StrataPortNetwork.Js.Base64
import StrataPortNetwork.Js.JsonText
import StrataPortNetwork.Js.KeyOrder

/-! # Sealed packages of the browser

A file is sealed under a passphrase: the name, the type, the size and the digest of the file go
before its bytes into the clear text, whose encryption is the content of a JSON package. Opening
a package checks all of them again.
-/
namespace Browser
open Js

/-- `Error` with a message, and what the engine throws. -/
inductive Failure
  | error (message : String)
  | engine
  deriving DecidableEq

abbrev Outcome := Except Failure

/-- The functions of `crypto.subtle` in use: SHA-256, PBKDF2 with 310000 rounds and AES-256-GCM. -/
structure WebCrypto where
  sha256 : Bytes → Bytes
  sha256_length : ∀ bytes, (sha256 bytes).length = 32
  Key : Type
  pbkdf2 : Bytes → Bytes → Key
  encrypt : Key → Bytes → Bytes → Bytes
  encrypt_length : ∀ key iv clear, (encrypt key iv clear).length = clear.length + 16
  decrypt : Key → Bytes → Bytes → Option Bytes

def PACKAGE_VERSION : String := "kindred.sdpn.browser-package.v1"
def MAX_FILE_BYTES : ℕ := 16 * 1024 * 1024

/-! ## Encodings -/

def base64Class : CharClass := [(65, 90), (97, 122), (48, 57), (43, 43), (47, 47)]

/-- `/^(?:[A-Za-z0-9+/]{4})*(?:[A-Za-z0-9+/]{2}==|[A-Za-z0-9+/]{3}=)?$/` -/
def base64Pattern : Regex := .seq (.star (.run base64Class 4 4))
  (.alt (.seq (.run base64Class 2 2) (.text "==")) (.alt (.seq (.run base64Class 3 3) (.text "=")) (.text "")))

/-- `base64ToBytes(value, maximum)`. -/
def base64ToBytes (value : Option Json) (maximum : ℕ) : Outcome Bytes := do
  let text ← orThrow (value.bind Json.str?) (.error "Invalid package encoding")
  ensure (text.length ≤ (maximum + 2) / 3 * 4 + 4 && base64Pattern.accepts text) (.error "Invalid package encoding")
  let bytes := base64Decode text
  ensure (bytes.length ≤ maximum) (.error "Package is too large")
  pure bytes

def hex (bytes : Bytes) : JsString := bytes.flatMap fun b => [hexDigit (b.toNat / 16), hexDigit (b.toNat % 16)]

/-- `DataView.setUint32(0, n)` on four bytes. -/
def uint32 (n : ℕ) : Bytes :=
  [UInt8.ofNat (n / 16777216), UInt8.ofNat (n / 65536), UInt8.ofNat (n / 256), UInt8.ofNat n]

/-- `DataView.getUint32(0)`. -/
def getUint32 : Bytes → ℕ
  | a :: b :: c :: d :: _ => a.toNat * 16777216 + b.toNat * 65536 + c.toNat * 256 + d.toNat
  | _ => 0

/-- `new TextDecoder('utf-8', { fatal: true }).decode(bytes)`, which drops a byte order mark. -/
def decodeFatal (bytes : Bytes) : Option JsString :=
  match bytes with
  | 0xEF :: 0xBB :: 0xBF :: rest => utf8Decode rest
  | bytes => utf8Decode bytes

/-! ## Names and keys -/

/-- A unit that `/[\\/\x00-\x1f\x7f]/` matches. -/
def isForbidden (u : UInt16) : Bool := u == 92 || u == 47 || u.toNat < 32 || u == 127

/-- `safeName(name)`. -/
def safeName (name : Option Json) : Outcome JsString := do
  let name ← orThrow (name.bind Json.str?) (.error "Invalid file name")
  ensure (!name.isEmpty && name.length ≤ 255 && !name.any isForbidden && name != js "." && name != js "..")
    (.error "Invalid file name")
  pure name

section
variable (crypto : WebCrypto)

/-- `keyFromPassphrase(passphrase, salt)`. -/
def keyFromPassphrase (passphrase : Json) (salt : Bytes) : Outcome crypto.Key := do
  let text ← orThrow passphrase.str? (.error "Use a passphrase of at least 12 characters")
  ensure (12 ≤ text.length && text.length ≤ 1024) (.error "Use a passphrase of at least 12 characters")
  pure (crypto.pbkdf2 (utf8Encode text) salt)

/-- `digest(bytes)`. -/
def digest (bytes : Bytes) : JsString := hex (crypto.sha256 bytes)

/-! ## Sealing -/

/-- What is read of a file. -/
structure SourceFile where
  name : Json
  type : Json
  size : ℤ
  data : Bytes

/-- `typeof file.type === 'string' ? file.type.slice(0, 128) : ''` -/
def SourceFile.mime (file : SourceFile) : JsString := (file.type.str?.map (·.take 128)).getD []

def metadata (name mime : JsString) (size : ℤ) (sha256 : JsString) : Json :=
  .record [("name", .str name), ("mime", .str mime), ("size", .int size), ("sha256", .str sha256)]

/-- The bytes of the metadata, under the name that was checked. -/
def metadataBytes (file : SourceFile) (name : JsString) : Bytes :=
  utf8Encode (stringify (metadata name file.mime file.data.length (digest crypto file.data)))

/-- The metadata after its length, and the data. -/
def clearText (file : SourceFile) (name : JsString) : Bytes :=
  uint32 (metadataBytes crypto file name).length ++ (metadataBytes crypto file name ++ file.data)

def packageOf (salt iv ciphertext : Bytes) : Json :=
  .record [("version", .text PACKAGE_VERSION), ("kdf", .text "PBKDF2-SHA256-310000"), ("cipher", .text "AES-256-GCM"),
    ("salt", .str (base64Encode salt)), ("iv", .str (base64Encode iv)), ("ciphertext", .str (base64Encode ciphertext))]

structure Sealed where
  package : Json
  receipt : Json

/-- `sealFile(file, passphrase)` with the salt and the IV that it draws. -/
def sealFile (salt iv : Bytes) (file : SourceFile) (passphrase : Json) : Outcome Sealed := do
  ensure (0 ≤ file.size && file.size ≤ MAX_FILE_BYTES) (.error "Choose a file up to 16 MiB")
  let name ← safeName (some file.name)
  ensure (file.data.length == file.size) (.error "File changed while reading")
  let key ← keyFromPassphrase crypto passphrase salt
  let ciphertext := crypto.encrypt key iv (clearText crypto file name)
  pure ⟨packageOf salt iv ciphertext, .record [("classification", .text "PORTABLE_BUFFERED_ENCRYPTED_PACKAGE"), ("name", .str name),
    ("bytes", .int file.data.length), ("sha256", .str (digest crypto file.data)), ("executed", .bool true),
    ("networkTransportProven", .bool false)]⟩

/-! ## Opening -/

/-- What a package holds. -/
structure Opened where
  name : JsString
  mime : JsString
  bytes : Bytes
  sha256 : JsString

/-- `/^[0-9a-f]{64}$/` -/
def sha256Pattern : Regex := .run Regex.hex 64 64

/-- The checks on the metadata of a package and its bytes. -/
def openContents (value : Json) (bytes : Bytes) : Outcome Opened := do
  ensure value.truthy (.error "Package integrity check failed")
  let name ← safeName (value.get "name")
  let mime ← orThrow ((value.get "mime").bind Json.str?) (.error "Package integrity check failed")
  ensure (mime.length ≤ 128 && value.get "size" == some (.int bytes.length) && bytes.length ≤ MAX_FILE_BYTES)
    (.error "Package integrity check failed")
  ensureTest sha256Pattern (value.get "sha256") (.error "Package integrity check failed") .engine
  ensure (value.get "sha256" == some (.str (digest crypto bytes))) (.error "Package integrity check failed")
  pure ⟨name, mime, bytes, digest crypto bytes⟩

/-- The value is a package of this version with exactly its fields. -/
def isPackage (value : Json) : Bool :=
  value.truthy && value.items?.isNone && value.get "version" == some (.text PACKAGE_VERSION) &&
    value.get "kdf" == some (.text "PBKDF2-SHA256-310000") && value.get "cipher" == some (.text "AES-256-GCM") &&
    [44].intercalate (Json.sortKeys (value.fields.map Prod.fst)) == js "cipher,ciphertext,iv,kdf,salt,version"

/-- The salt, the IV and the ciphertext of a package. -/
structure Parts where
  salt : Bytes
  iv : Bytes
  ciphertext : Bytes
  deriving DecidableEq

/-- What is decoded of the text of a package. -/
def decodePackage (packageText : JsString) : Outcome Parts := do
  ensure (packageText.length ≤ 24 * 1024 * 1024) (.error "Package is too large")
  let value ← orThrow (parse packageText) (.error "Invalid package JSON")
  ensure (isPackage value) (.error "Unsupported package format")
  let salt ← base64ToBytes (value.get "salt") 16
  let iv ← base64ToBytes (value.get "iv") 12
  ensure (salt.length == 16 && iv.length == 12) (.error "Invalid package parameters")
  let ciphertext ← base64ToBytes (value.get "ciphertext") (MAX_FILE_BYTES + 4096)
  pure ⟨salt, iv, ciphertext⟩

/-- What a clear text holds. -/
def openClear (clear : Bytes) : Outcome Opened := do
  ensure (6 ≤ clear.length) (.error "Invalid package contents")
  let metaSize := getUint32 clear
  ensure (2 ≤ metaSize && metaSize ≤ 1024 && 4 + metaSize ≤ clear.length) (.error "Invalid package metadata")
  let value ← orThrow ((decodeFatal ((clear.drop 4).take metaSize)).bind parse) (.error "Invalid package metadata")
  openContents crypto value (clear.drop (4 + metaSize))

/-- `openPackage(packageText, passphrase)`. -/
def openPackage (packageText : JsString) (passphrase : Json) : Outcome Opened := do
  let parts ← decodePackage packageText
  let key ← keyFromPassphrase crypto passphrase parts.salt
  let clear ← orThrow (crypto.decrypt key parts.iv parts.ciphertext)
    (.error "Could not open package: wrong passphrase or altered data")
  openClear crypto clear

end

end Browser
