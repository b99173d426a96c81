import StrataPortNetwork.Js.Check
import StrataPortNetwork.Js.Buffers
import StrataPortNetwork.Js.Collation
import StrataPortNetwork.Js.Date
import StrataPortNetwork.Js.Trim

/-! # Owned sites of the portal

`apps/portal/server.mjs`: a site is validated when it is posted and kept in a file under its slug.
The listing reads the files again, within its own limits, and leaves out what it cannot take for a
site.
-/
namespace Portal
open Js

inductive Failure
  | error (message : String)
  /-- `EEXIST` -/
  | exists
  deriving DecidableEq

abbrev Outcome := Except Failure

/-- `/^[a-z][a-z0-9-]{1,47}$/` -/
def slugPattern : Regex := .seq (.run [(97, 122)] 1 1) (.run [(97, 122), (48, 57), (45, 45)] 1 47)

/-- A site that was validated, trimmed. -/
structure Site where
  slug : JsString
  title : JsString
  description : JsString
  body : JsString
  slug_ok : slugPattern.accepts slug = true
  title_ok : 2 ≤ title.length ∧ title.length ≤ 100 ∧ trim title = title
  description_ok : description.length ≤ 250 ∧ trim description = description
  body_ok : 1 ≤ body.length ∧ body.length ≤ 20000 ∧ trim body = body

def isSiteKey (key : JsString) : Bool := [js "slug", js "title", js "description", js "body"].contains key

/-- `validateSite(source)`. -/
def validateSite (source : Json) : Outcome Site :=
  if !source.isRecord || source.keys.any (fun key => !isSiteKey key) then .error (.error "Unrecognized site payload")
  else
    match (source.get "slug").bind Json.str?, (source.get "title").bind Json.str?, (source.get "description").bind Json.str?,
      (source.get "body").bind Json.str? with
    | some slug, some title, some description, some body =>
      if h : slugPattern.accepts slug = true ∧ (2 ≤ (trim title).length ∧ title.length ≤ 100) ∧ description.length ≤ 250 ∧
          1 ≤ (trim body).length ∧ body.length ≤ 20000 then
        .ok {
          slug, title := trim title, description := trim description, body := trim body
          slug_ok := h.1
          title_ok := ⟨h.2.1.1, (length_trim_le title).trans h.2.1.2, trim_trim title⟩
          description_ok := ⟨(length_trim_le description).trans h.2.2.1, trim_trim description⟩
          body_ok := ⟨h.2.2.2.1, (length_trim_le body).trans h.2.2.2.2, trim_trim body⟩ }
      else .error (.error "Site name, title, description or content rejected")
    | _, _, _, _ => .error (.error "Site name, title, description or content rejected")

/-- A site with the time of its creation. -/
structure Published where
  site : Site
  createdAt : JsString

namespace Published
variable (published : Published)

def toJson : Json := .record [("slug", .str published.site.slug), ("title", .str published.site.title),
  ("description", .str published.site.description), ("body", .str published.site.body), ("createdAt", .str published.createdAt)]

/-- `JSON.stringify(created) + '\n'` -/
def content : Bytes := utf8Encode (stringify published.toJson ++ [10])

end Published

def fileName (slug : JsString) : JsString := slug ++ js ".json"

/-- The files under `sites`; no folder is an empty one. -/
structure Directory where
  files : List (JsString × Bytes)
  nodup : (files.map Prod.fst).Nodup

namespace Directory

def empty : Directory := ⟨[], List.nodup_nil⟩

/-- `open(path, 'wx')` and a write. -/
def create (directory : Directory) (name : JsString) (content : Bytes) : Outcome Directory :=
  if h : name ∈ directory.files.map Prod.fst then .error .exists
  else .ok ⟨(name, content) :: directory.files, by rw [List.map_cons, List.nodup_cons]; exact ⟨h, directory.nodup⟩⟩

end Directory

/-! ## The listing -/

/-- `const { createdAt, ...fields } = raw`; nothing but an object leaves fields of a site. -/
def withoutCreatedAt : Json → Option Json
  | .obj fields => some (.obj (fields.filter fun f => f.1 != js "createdAt"))
  | _ => none

/-- What the listing takes from a file. -/
def readSite (file : JsString × Bytes) : Option Published :=
  let slug := file.1.take (file.1.length - 5)
  if !(js ".json").isSuffixOf file.1 || !slugPattern.accepts slug || 25000 < file.2.length then none
  else do
    let raw ← parse (bufferText file.2)
    let fields ← withoutCreatedAt raw
    let site ← (validateSite fields).toOption
    let createdAt ← (raw.get "createdAt").bind Json.str?
    if site.slug = slug then some ⟨site, createdAt⟩ else none

/-- The loop over the files, which ends at 300 sites. -/
def collect : List (JsString × Bytes) → List Published → List Published
  | [], sites => sites
  | file :: rest, sites =>
    match readSite file with
    | none => collect rest sites
    | some site => if 300 ≤ sites.length + 1 then sites ++ [site] else collect rest (sites ++ [site])

/-- A portal server: its origin and token, the order of `readdir` and that of `localeCompare`. -/
structure Server where
  port : ℕ
  csrf : JsString
  readdir : Directory → List (JsString × Bytes)
  readdir_perm : ∀ directory, (readdir directory).Perm directory.files
  collation : Collation

/-! ## Requests -/

/-- A request to `POST /api/sites`. -/
structure Request where
  origin : Option JsString
  intent : Option JsString
  chunks : List Bytes
  now : ℤ

/-- The loop of `readRequest` over the chunks. -/
def readParts (max : ℕ) : ℕ → List Bytes → Option Bytes
  | _, [] => some []
  | size, chunk :: rest => if max < size + chunk.length then none else (readParts max (size + chunk.length) rest).map (chunk ++ ·)

/-- `readRequest(req)`. -/
def readRequest (request : Request) : Option Json := (readParts 24576 0 request.chunks).bind fun bytes => parse (bufferText bytes)

/-- `{ site: { ...site, preview }, signedPortPublished: false }` under 201, or an error. -/
inductive Response
  | created (site : Published)
  | error (code : ℕ) (message : String)

namespace Server
variable (server : Server)

/-! ## Listing and posting -/

/-- `listSites(directory)`, the newest first. -/
def listSites (directory : Directory) : List Published :=
  (collect (server.readdir directory) []).insertionSort fun a b => server.collation.le b.createdAt a.createdAt = true

/-- The site that `GET /p/slug` shows. -/
def siteAt (directory : Directory) (slug : JsString) : Option Published :=
  (server.listSites directory).find? fun published => published.site.slug = slug

/-- `saveSite(directory, source)` at a time. -/
def saveSite (directory : Directory) (now : ℤ) (source : Json) : Outcome (Published × Directory) := do
  let site ← validateSite source
  ensure ((server.listSites directory).length < 300) (.error "Site capacity reached")
  let createdAt ← orThrow (toISOString now) (.error "Invalid time value")
  let published : Published := ⟨site, createdAt⟩
  let directory ← directory.create (fileName site.slug) published.content
  pure (published, directory)

/-- The request comes from the pages of the portal. -/
def intended (request : Request) : Bool :=
  request.origin == some (js "http://127.0.0.1:" ++ natText server.port) &&
    match request.intent with
    | none => false
    | some supplied =>
      (utf8Encode supplied).length == (utf8Encode server.csrf).length && utf8Encode supplied == utf8Encode server.csrf

/-- `respondApi` on `POST /api/sites`. -/
def respond (directory : Directory) (request : Request) : Response × Directory :=
  if !server.intended request then (.error 403 "Operator intent required", directory)
  else
    match readRequest request with
    | none => (.error 400 "Invalid bounded JSON request", directory)
    | some source =>
      match server.saveSite directory request.now source with
      | .ok (published, directory) => (.created published, directory)
      | .error .exists => (.error 409 "Port site name already exists", directory)
      | .error (.error message) => (.error 400 message, directory)

/-- The directory after requests, one after another, on an empty one. -/
def after (requests : List Request) : Directory :=
  requests.foldl (fun directory request => (server.respond directory request).2) .empty

end Server

end Portal
