import StrataPortNetwork.Native.PortNames
import StrataPortNetwork.Js.Map

/-! # Directories of signed records

`SignedPeerDirectory` and `SignedPortNameDirectory` keep the latest record of each port.
They share the admission of a record and the purge of expired ones; their capacity
checks, queries and revocations differ.
-/
namespace Native
open Js

/-- The snapshots of the records by their verified port, and the revoked ids. -/
structure SignedDirectory where
  records : JsMap JsString Json
  revoked : List Json
  capacity : ℕ

/-- What distinguishes the two directories when they ingest a record. -/
structure DirectoryKind where
  verify : Json → ℤ → Outcome Json
  owner : String
  revokedMessage : String
  rollbackMessage : String
  capacityMessage : String
  /-- Whether the capacity check looks for the port after the purge or before it. -/
  recheck : Bool

def storedBody (record : Json) : Json := (record.get "body").getD .null
def storedRevision (record : Json) : ℤ := (integerField (storedBody record) "revision").getD 0
def storedExpiresAt (record : Json) : ℤ := (integerField (storedBody record) "expiresAt").getD 0

namespace SignedDirectory

def empty (capacity : ℕ) : SignedDirectory := ⟨JsMap.empty, [], capacity⟩

def isRevoked (directory : SignedDirectory) (id : Json) : Bool := directory.revoked.any (· == id)

def purged (directory : SignedDirectory) (now : ℤ) : JsMap JsString Json :=
  directory.records.filter fun record => now < storedExpiresAt record

/-- `#revoked.add(id); #records.delete(id)` -/
def drop (directory : SignedDirectory) (id : Json) : SignedDirectory :=
  { directory with
    records := match id with
      | .str port => directory.records.delete port
      | _ => directory.records
    revoked := if directory.isRevoked id then directory.revoked else id :: directory.revoked }

variable (crypto : Crypto) (kind : DirectoryKind)

/-- The comparison of a record with the stored one of its port. -/
def supersedes (prior record body : Json) : Outcome Unit :=
  let revision := (integerField body "revision").getD 0
  if revision < storedRevision prior then .error (.error kind.rollbackMessage)
  else if revision = storedRevision prior then do
    let own ← canonicalDigest crypto record
    let stored ← canonicalDigest crypto prior
    ensure (own == stored) (.error kind.rollbackMessage)
  else .ok ()

/-- The checks of `ingest` before the purge, with the port of the record. -/
def admits (directory : SignedDirectory) (record : Json) (now : ℤ) : Outcome JsString := do
  let body ← kind.verify record now
  let port ← orThrow ((body.get kind.owner).bind Json.str?) .typeError
  ensure (!directory.isRevoked (.str port)) (.error kind.revokedMessage)
  match directory.records.get port with
  | none => pure port
  | some prior =>
    supersedes crypto kind prior record body
    pure port

/-- `directory.ingest(record, now)`: an admitted record purges the expired ones even when
the capacity check then rejects it. -/
def ingest (directory : SignedDirectory) (record : Json) (now : ℤ) : Outcome JsString × SignedDirectory :=
  match admits crypto kind directory record now with
  | .error e => (.error e, directory)
  | .ok port =>
    let records := directory.purged now
    let known := if kind.recheck then records.has port else directory.records.has port
    if !known && directory.capacity ≤ records.size then
      (.error (.error kind.capacityMessage), { directory with records := records })
    else match snapshot record with
      | .error e => (.error e, { directory with records := records })
      | .ok copy => (.ok port, { directory with records := records.set port copy })

end SignedDirectory

variable (crypto : Crypto)

/-- `new SignedPeerDirectory({ capacity })` and `new SignedPortNameDirectory({ capacity })`. -/
def SignedDirectory.create (capacity : Json) : Outcome SignedDirectory := do
  let capacity ← orThrow (capacity.safeInteger?.filter fun n => 1 ≤ n && n ≤ 4096) (.error "Directory capacity")
  pure (SignedDirectory.empty capacity.toNat)

/-! ## Peer records -/

namespace SignedPeerDirectory

def kind : DirectoryKind where
  verify record now := verifyPeerRecord crypto record now none
  owner := "portId"
  revokedMessage := "Peer revoked"
  rollbackMessage := "Peer revision rollback/conflict"
  capacityMessage := "Directory capacity exceeded"
  recheck := true

def ingest := SignedDirectory.ingest crypto (kind crypto)

/-- `directory.get(id, now)`. -/
def get (directory : SignedDirectory) (id : Json) (now : ℤ) : Outcome Json := do
  ensure (!directory.isRevoked id) (.error "Peer revoked")
  let record ← orThrow (id.str?.bind directory.records.get) (.error "Peer unknown")
  let _ ← verifyPeerRecord crypto record now (some id)
  snapshot record

/-- `directory.revoke(id)`. -/
def revoke (directory : SignedDirectory) (id : Json) : Outcome SignedDirectory := do
  ensure (directory.revoked.length < 4096 || directory.isRevoked id) (.error "Revocation capacity exceeded")
  pure (directory.drop id)

end SignedPeerDirectory

/-! ## Port name manifests -/

namespace SignedPortNameDirectory

def kind : DirectoryKind where
  verify record now := verifyPortNames crypto record now
  owner := "ownerPort"
  revokedMessage := "Port namespace revoked"
  rollbackMessage := "Port namespace rollback/conflict"
  capacityMessage := "Port directory capacity exceeded"
  recheck := false

def ingest := SignedDirectory.ingest crypto (kind crypto)

/-- `directory.resolve(uri, now)`. -/
def resolve (directory : SignedDirectory) (uri : Json) (now : ℤ) : Outcome PortResolution := do
  let address ← parsePortUri uri
  ensure (!directory.isRevoked (.str address.ownerPort)) (.error "Port namespace revoked")
  let record ← orThrow (directory.records.get address.ownerPort) (.error "Unknown signed port namespace")
  resolvePortName crypto uri record now

/-- `directory.revoke(ownerPort)`. -/
def revoke (directory : SignedDirectory) (ownerPort : Json) : Outcome SignedDirectory := do
  let _ ← validPortId (some ownerPort)
  pure (directory.drop ownerPort)

end SignedPortNameDirectory

end Native
