import StrataPortNetwork.Native.SignedNames
import StrataPortNetwork.Js.Indented
import StrataPortNetwork.Transition

/-! # Commands of the operator

A command reads the manifest of names, signs one with the next revision and renames it into the
place of the manifest. The steps of several commands come in any order; nothing locks the
directory. As long as each manifest replaces the one that its command has read, no binding is
lost and no revision is signed twice.
-/
namespace Native
open Js

inductive Action
  | renew
  | bind (name targetPort : JsString)

/-- The directory of an operator. -/
structure Place (crypto : Crypto) where
  identity : Identity crypto
  manifestPath : JsString
  /-- `bytes.toString('utf8')` of bytes that are not UTF-8. -/
  malformed : Bytes → JsString

/-- The entries after an action. -/
def Action.apply : Action → List Json → Outcome (List Json)
  | .renew, entries => pure entries
  | .bind name targetPort, entries => do
    ensure (!name.isEmpty) (.error "Root mapping is immutable in bind operation")
    -- `entry.name` of `null`
    ensure (!entries.any Json.isNull) .typeError
    pure (entries.filter (fun entry => !(entry.get "name" == some (.str name))) ++
      [.record [("name", .str name), ("targetPort", .str targetPort)]])

/-- `JSON.stringify(record, null, 2) + '\n'` -/
def manifestFile (record : Json) : Bytes := utf8Encode (indented record ++ [10])

namespace Place
variable {crypto : Crypto} (place : Place crypto)

/-- The body of the manifest in a file. -/
def bodyIn (content : Bytes) : Outcome Json := do
  let existing ← orThrow (parse ((utf8Decode content).getD (place.malformed content))) .syntaxError
  verifyEnvelope crypto existing (some (.str place.identity.id)) (some (.str place.identity.publicKey))

/-- The revision and the entries of the manifest that a command reads. -/
def readManifest (content : Bytes) : Outcome (ℤ × List Json) := do
  ensure (content.length ≤ 32768) (.error "Manifest file size rejected")
  let body ← place.bodyIn content
  ensure (body.get "schema" == some (.text portNamesSchema)) (.error "Existing signed Port Zero namespace rejected")
  let revision ← orThrow (integerField body "revision") (.error "Existing signed Port Zero namespace rejected")
  ensure (1 ≤ revision && revision < 9007199254740991) (.error "Existing signed Port Zero namespace rejected")
  let entries ← orThrow ((body.get "entries").bind Json.items?) (.error "Existing signed Port Zero namespace rejected")
  pure (revision, entries)

/-- The manifest that a command signs. -/
def signNext (action : Action) (content : Bytes) (now : ℤ) : Outcome Json := do
  let (revision, entries) ← place.readManifest content
  let entries ← action.apply entries
  signPortNames crypto place.identity (.arr entries) (.int (revision + 1)) now 300000

def temporaryPath (uuid : JsString) : JsString := place.manifestPath ++ js "." ++ uuid ++ js ".tmp"

end Place

/-! ## Commands in flight -/

inductive Stage
  | started
  | read (content : Bytes)
  | signed (content : Bytes) (record : Json)
  /-- The record is in the temporary file. -/
  | staged (content : Bytes) (record : Json) (temporary : JsString)
  | succeeded
  | denied

structure Command where
  action : Action
  stage : Stage

structure Operator where
  files : JsString → Option Bytes
  commands : ℕ → Option Command
  /-- The manifests put in place by the commands that succeeded, the last one last. -/
  written : List (Action × Json)

inductive Event
  | starts (id : ℕ) (action : Action)
  | reads (id : ℕ)
  | signs (id : ℕ) (now : ℤ)
  | stages (id : ℕ) (uuid : JsString)
  /-- The temporary file cannot be written further than so many bytes. -/
  | tears (id : ℕ) (uuid : JsString) (count : ℕ)
  | renames (id : ℕ)
  /-- A file operation of the command fails. -/
  | fails (id : ℕ)

/-- The command that a step belongs to. -/
def Event.id : Event → ℕ
  | .starts id _ | .reads id | .signs id _ | .stages id _ | .tears id _ _ | .renames id | .fails id => id

namespace Operator

def setStage (s : Operator) (id : ℕ) (action : Action) (stage : Stage) : Operator :=
  { s with commands := Function.update s.commands id (some ⟨action, stage⟩) }

def setFile (s : Operator) (path : JsString) (content : Option Bytes) : Operator :=
  { s with files := Function.update s.files path content }

variable {crypto : Crypto} (place : Place crypto)

/-- One step of one command. A temporary file is created exclusively, and removed where its rename fails. -/
def step (s : Operator) : Event → Operator
  | .starts id action =>
    match s.commands id with
    | none => s.setStage id action .started
    | some _ => s
  | .reads id =>
    match s.commands id with
    | some ⟨action, .started⟩ =>
      match s.files place.manifestPath with
      | some content => s.setStage id action (.read content)
      | none => s.setStage id action .denied
    | _ => s
  | .signs id now =>
    match s.commands id with
    | some ⟨action, .read content⟩ =>
      match place.signNext action content now with
      | .ok record => s.setStage id action (.signed content record)
      | .error _ => s.setStage id action .denied
    | _ => s
  | .stages id uuid =>
    match s.commands id with
    | some ⟨action, .signed content record⟩ =>
      match s.files (place.temporaryPath uuid) with
      | none => (s.setFile (place.temporaryPath uuid) (some (manifestFile record))).setStage id action
          (.staged content record (place.temporaryPath uuid))
      | some _ => s.setStage id action .denied
    | _ => s
  | .tears id uuid count =>
    match s.commands id with
    | some ⟨action, .signed _ record⟩ =>
      match s.files (place.temporaryPath uuid) with
      | none => (s.setFile (place.temporaryPath uuid) (some ((manifestFile record).take count))).setStage id action .denied
      | some _ => s.setStage id action .denied
    | _ => s
  | .renames id =>
    match s.commands id with
    | some ⟨action, .staged _ record temporary⟩ =>
      match s.files temporary with
      | some file =>
        let renamed := (s.setFile place.manifestPath (some file)).setFile temporary none
        { renamed with written := s.written ++ [(action, record)] }.setStage id action .succeeded
      | none => s.setStage id action .denied
    | _ => s
  | .fails id =>
    match s.commands id with
    | some ⟨action, .staged _ _ temporary⟩ => (s.setFile temporary none).setStage id action .denied
    | some ⟨action, .started⟩ | some ⟨action, .read _⟩ | some ⟨action, .signed _ _⟩ => s.setStage id action .denied
    | _ => s

end Operator

end Native
