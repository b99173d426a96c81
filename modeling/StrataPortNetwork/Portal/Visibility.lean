import StrataPortNetwork.Portal.Sites

/-! # Which accepted sites are visible

A site is accepted by the length of its texts and listed by the bytes of its file. Every file that
the portal writes is read back as the site, up to 25000 bytes; a larger one keeps its slug taken
and is never shown.
-/
namespace Portal
open Js

/-- The text under a name in the body of a request. -/
def textOf (source : Json) (name : String) : JsString := ((source.get name).bind Json.str?).getD []

/-- The site of a request takes at most 24945 bytes in JSON, with the time. -/
def Request.Fits (request : Request) : Prop := ∀ source createdAt, readRequest request = some source →
  toISOString request.now = some createdAt → quotedBytes (textOf source "slug") + quotedBytes (trim (textOf source "title")) +
    quotedBytes (trim (textOf source "description")) + quotedBytes (trim (textOf source "body")) + quotedBytes createdAt ≤ 24945

/-! ## What is kept of a site -/

theorem validateSite_fields (site : Site) : validateSite (.record [("slug", .str site.slug), ("title", .str site.title),
    ("description", .str site.description), ("body", .str site.body)]) = .ok site := by
  obtain ⟨slug, title, description, body, hslug, htitle, hdescription, hbody⟩ := site
  generalize hsource : Json.record [("slug", .str slug), ("title", .str title), ("description", .str description),
      ("body", .str body)] = source
  have hkeys : source.keys.any (fun key => !isSiteKey key) = false := by
    rw [← hsource]
    show [js "slug", js "title", js "description", js "body"].any (fun key => !isSiteKey key) = false
    decide
  have hrecord : source.isRecord = true := by rw [← hsource]; rfl
  have hget : source.get "slug" = some (.str slug) ∧ source.get "title" = some (.str title) ∧
      source.get "description" = some (.str description) ∧ source.get "body" = some (.str body) := by
    rw [← hsource]
    exact ⟨rfl, rfl, rfl, rfl⟩
  obtain ⟨hs, ht, hd, hb⟩ := hget
  simp [validateSite, hkeys, hrecord, hs, ht, hd, hb, Json.str?, hslug, htitle, hdescription, hbody]

theorem withoutCreatedAt_toJson (published : Published) : withoutCreatedAt published.toJson =
    some (.record [("slug", .str published.site.slug), ("title", .str published.site.title),
      ("description", .str published.site.description), ("body", .str published.site.body)]) := by
  simp [withoutCreatedAt, Published.toJson, Json.record]

theorem rebuild_toJson (published : Published) : published.toJson.rebuild = published.toJson := by
  refine rebuild_record (by simp) (by simp only [List.forall_mem_cons]; decide) (by simp [Json.rebuild])

/-- A line feed after a printed value is read over. -/
theorem parse_line (v : Json) : parse (stringify v ++ [10]) = some v.rebuild := by
  have hread := readValue_stringify v ((stringify v ++ [10]).length + 1) [10]
    (by rw [List.length_append]; omega) (by rintro c ⟨⟩; decide)
  rw [parse, readText, hread, Option.bind_some, if_pos (show skipSpace [10] = [] by decide), Option.map_some]

theorem wellFormed_line (v : Json) : WellFormed (stringify v ++ [10]) :=
  (wellFormed_stringify v).append (wellFormed_of_ascii (by decide))

/-- What is read of the file of a site, but for its limit. -/
theorem readSite_content (published : Published) : readSite (fileName published.site.slug, published.content) =
    if published.content.length ≤ 25000 then some published else none := by
  have hsuffix : (js ".json").isSuffixOf (fileName published.site.slug) = true :=
    List.isSuffixOf_iff_suffix.mpr (List.suffix_append _ _)
  have hname : (fileName published.site.slug).take ((fileName published.site.slug).length - 5) = published.site.slug := by
    have hlength : (js ".json").length = 5 := by decide
    rw [fileName, List.length_append, hlength, Nat.add_sub_cancel, List.take_left']
    rfl
  have hcreated : (published.toJson.get "createdAt").bind Json.str? = some published.createdAt := by
    rw [Json.bind_str?_eq_some, Published.toJson, Json.get_record]
    rfl
  have hread : parse (bufferText published.content) = some published.toJson := by
    rw [Published.content, bufferText_utf8Encode (wellFormed_line _), parse_line, rebuild_toJson]
  rw [readSite]
  dsimp only
  rw [hname, hsuffix, published.site.slug_ok]
  by_cases hlength : published.content.length ≤ 25000
  · rw [if_neg (by simp; omega), if_pos hlength, hread]
    simp only [Option.bind_eq_bind, Option.bind_some, withoutCreatedAt_toJson, validateSite_fields, hcreated, Except.toOption, if_true]
  · rw [if_pos (by simp; omega), if_neg hlength]

theorem length_entry {a : JsString} (ha : Ascii a) (s : JsString) {t : JsString} (ht : WellFormed t) :
    (utf8Encode (a ++ (quote s ++ t))).length = a.length + quotedBytes s + (utf8Encode t).length ∧ WellFormed (a ++ (quote s ++ t)) := by
  have hquote : WellFormed (quote s ++ t) := (wellFormed_quote s).append ht
  exact ⟨by rw [length_utf8Encode_ascii ha hquote, length_utf8Encode_quote s ht]; omega, (wellFormed_of_ascii ha).append hquote⟩

/-- The bytes of a file, from its texts. -/
theorem length_content (published : Published) : published.content.length = quotedBytes published.site.slug +
    quotedBytes published.site.title + quotedBytes published.site.description + quotedBytes published.site.body +
      quotedBytes published.createdAt + 55 := by
  have hslug : 123 :: (quote (js "slug") ++ [58]) = js "\x7b\"slug\":" := by decide
  have htitle : 44 :: (quote (js "title") ++ [58]) = js ",\"title\":" := by decide
  have hdescription : 44 :: (quote (js "description") ++ [58]) = js ",\"description\":" := by decide
  have hbody : 44 :: (quote (js "body") ++ [58]) = js ",\"body\":" := by decide
  have hcreatedAt : 44 :: (quote (js "createdAt") ++ [58]) = js ",\"createdAt\":" := by decide
  have htext : stringify published.toJson ++ [10] = js "\x7b\"slug\":" ++ (quote published.site.slug ++ (js ",\"title\":" ++
      (quote published.site.title ++ (js ",\"description\":" ++ (quote published.site.description ++ (js ",\"body\":" ++
        (quote published.site.body ++ (js ",\"createdAt\":" ++ (quote published.createdAt ++ [125, 10]))))))))) := by
    simp [Published.toJson, Json.record, stringify, stringifyFields, ← hslug, ← htitle, ← hdescription, ← hbody, ← hcreatedAt]
  have hend : WellFormed [125, 10] := wellFormed_of_ascii (by decide)
  have hcreatedAt' := length_entry (show Ascii (js ",\"createdAt\":") by decide) published.createdAt hend
  have hbody' := length_entry (show Ascii (js ",\"body\":") by decide) published.site.body hcreatedAt'.2
  have hdescription' := length_entry (show Ascii (js ",\"description\":") by decide) published.site.description hbody'.2
  have htitle' := length_entry (show Ascii (js ",\"title\":") by decide) published.site.title hdescription'.2
  have hslug' := length_entry (show Ascii (js "\x7b\"slug\":") by decide) published.site.slug htitle'.2
  have hlengths : (js "\x7b\"slug\":").length = 8 ∧ (js ",\"title\":").length = 9 ∧ (js ",\"description\":").length = 15 ∧
      (js ",\"body\":").length = 8 ∧ (js ",\"createdAt\":").length = 13 ∧ (utf8Encode [125, 10]).length = 2 := by decide
  rw [Published.content, htext, hslug'.1, htitle'.1, hdescription'.1, hbody'.1, hcreatedAt'.1]
  omega

/-! ## The listing -/

/-- The loop takes the sites in the files, 300 at most. -/
theorem collect_eq (files : List (JsString × Bytes)) {sites : List Published} (h : sites.length < 300) :
    collect files sites = sites ++ (files.filterMap readSite).take (300 - sites.length) := by
  induction files generalizing sites with
  | nil => rw [collect, List.filterMap_nil, List.take_nil, List.append_nil]
  | cons file rest ih =>
    rw [collect]
    cases hread : readSite file with
    | none => rw [List.filterMap_cons_none hread]; exact ih h
    | some site =>
      rw [List.filterMap_cons_some hread]
      dsimp only
      split
      · rw [show 300 - sites.length = 1 by omega, List.take_succ_cons, List.take_zero]
      · rw [ih (by rw [List.length_append, List.length_singleton]; omega), List.append_assoc, List.singleton_append,
          ← List.take_succ_cons, List.length_append, List.length_singleton, show 300 - (sites.length + 1) + 1 = 300 - sites.length by omega]

/-- The sites in the files of a directory. -/
def Directory.sites (directory : Directory) : List Published := directory.files.filterMap readSite

variable (server : Server)

/-- The listing loses nothing up to 300 sites, and has 300 where there are more. -/
theorem Server.listSites_spec (directory : Directory) :
    (server.listSites directory).length = min 300 directory.sites.length ∧
      (directory.sites.length ≤ 300 → (server.listSites directory).Perm directory.sites) := by
  have hperm := (server.readdir_perm directory).filterMap readSite
  have hlist : (server.listSites directory).Perm (((server.readdir directory).filterMap readSite).take 300) := by
    have hcollect := collect_eq (server.readdir directory) (show ([] : List Published).length < 300 by decide)
    rw [List.nil_append] at hcollect
    rw [Server.listSites, hcollect]
    exact List.perm_insertionSort _ _
  refine ⟨?_, fun hcount => ?_⟩
  · rw [hlist.length_eq, List.length_take, hperm.length_eq]
    rfl
  · rw [List.take_of_length_le (hperm.length_eq.trans_le hcount)] at hlist
    exact hlist.trans hperm

/-! ## Runs -/

theorem validateSite_spec {source : Json} {site : Site} (h : validateSite source = .ok site) : site.slug = textOf source "slug" ∧
    site.title = trim (textOf source "title") ∧ site.description = trim (textOf source "description") ∧
      site.body = trim (textOf source "body") := by
  rw [validateSite] at h
  split at h
  · cases h
  · split at h
    · rename_i slug title description body hslug htitle hdescription hbody
      split at h
      · obtain rfl := Except.ok.inj h
        simp only [textOf, hslug, htitle, hdescription, hbody, Option.getD_some, and_self]
      · cases h
    · cases h

theorem Server.saveSite_spec {directory next : Directory} {now : ℤ} {source : Json} {published : Published}
    (h : server.saveSite directory now source = .ok (published, next)) : validateSite source = .ok published.site ∧
      (server.listSites directory).length < 300 ∧ toISOString now = some published.createdAt ∧
        next.files = (fileName published.site.slug, published.content) :: directory.files := by
  simp only [Server.saveSite, bind_eq_ok, ensure_eq_ok, orThrow_eq_ok, pure_eq_ok, Prod.mk.injEq, decide_eq_true_eq] at h
  obtain ⟨site, hsite, ⟨⟩, hcount, createdAt, hcreated, next, hnext, rfl, rfl⟩ := h
  rw [Directory.create] at hnext
  split at hnext
  · cases hnext
  · obtain rfl := Except.ok.inj hnext
    exact ⟨hsite, hcount, hcreated, rfl⟩

theorem Server.respond_created {server : Server} {directory next : Directory} {request : Request} {source : Json}
    {published : Published} (hintended : server.intended request = true) (hread : readRequest request = some source)
    (hsave : server.saveSite directory request.now source = .ok (published, next)) :
    (server.respond directory request).1 = .created published := by
  simp [Server.respond, hintended, hread, hsave]

/-- A request is refused and leaves the directory alone, or its site is saved. -/
theorem Server.respond_cases (directory : Directory) (request : Request) :
    (∃ code message, server.respond directory request = (.error code message, directory)) ∨
      ∃ source published next, readRequest request = some source ∧
        server.saveSite directory request.now source = .ok (published, next) ∧
          server.respond directory request = (.created published, next) := by
  rw [Server.respond]
  split
  · exact .inl ⟨_, _, rfl⟩
  · split
    · exact .inl ⟨_, _, rfl⟩
    · rename_i source hsource
      split
      · rename_i published next hsave
        exact .inr ⟨source, published, next, hsource, hsave, rfl⟩
      · exact .inl ⟨_, _, rfl⟩
      · exact .inl ⟨_, _, rfl⟩

/-- Every file is that of a site, and the listing has room for all of them. -/
structure Directory.Kept (directory : Directory) : Prop where
  written : ∀ file ∈ directory.files, ∃ published : Published, file = (fileName published.site.slug, published.content)
  count : directory.sites.length ≤ 300

theorem Directory.Kept.respond {directory : Directory} (h : directory.Kept) (request : Request) :
    (server.respond directory request).2.Kept := by
  rcases server.respond_cases directory request with ⟨code, message, hrespond⟩ | ⟨source, published, next, -, hsave, hrespond⟩
  · rw [hrespond]
    exact h
  · rw [hrespond]
    obtain ⟨-, hcount, -, hfiles⟩ := server.saveSite_spec hsave
    refine ⟨fun file hfile => ?_, ?_⟩
    · rw [hfiles] at hfile
      rcases List.mem_cons.mp hfile with rfl | hfile
      · exact ⟨published, rfl⟩
      · exact h.written file hfile
    · rw [(server.listSites_spec directory).1] at hcount
      have hcons : next.sites.length ≤ directory.sites.length + 1 := by
        rw [Directory.sites, Directory.sites, hfiles, List.filterMap_cons]
        split
        · exact Nat.le_succ _
        · exact le_rfl
      exact hcons.trans (by omega)

theorem Server.after_append (before later : List Request) : server.after (before ++ later) =
    later.foldl (fun directory request => (server.respond directory request).2) (server.after before) := List.foldl_append

theorem Server.after_kept (requests : List Request) : (server.after requests).Kept := by
  induction requests using List.reverseRecOn with
  | nil => exact ⟨fun file hfile => absurd hfile List.not_mem_nil, Nat.zero_le _⟩
  | append_singleton before request ih =>
    rw [Server.after_append]
    exact ih.respond server request

/-- A file stays. -/
theorem Server.after_subset (before later : List Request) : (server.after before).files ⊆ (server.after (before ++ later)).files := by
  induction later using List.reverseRecOn with
  | nil => rw [List.append_nil]; exact List.Subset.refl _
  | append_singleton later request ih =>
    rw [← List.append_assoc, Server.after_append _ (before ++ later)]
    refine List.Subset.trans ih ?_
    rcases server.respond_cases (server.after (before ++ later)) request with ⟨_, _, hrespond⟩ | ⟨_, _, _, -, hsave, hrespond⟩
    · rw [List.foldl_cons, hrespond]
      exact List.Subset.refl _
    · rw [List.foldl_cons, hrespond]
      obtain ⟨-, -, -, hfiles⟩ := server.saveSite_spec hsave
      exact hfiles ▸ List.subset_cons_self _ _

/-- A site is listed, and shown under its slug. -/
def Server.Visible (directory : Directory) (published : Published) : Prop :=
  published ∈ server.listSites directory ∧ server.siteAt directory published.site.slug = some published

/-- A site is visible exactly where its file is within the limit of the listing. -/
theorem Directory.Kept.visible_iff {directory : Directory} (h : directory.Kept) {published : Published}
    (hfile : (fileName published.site.slug, published.content) ∈ directory.files) :
    server.Visible directory published ↔ published.content.length ≤ 25000 := by
  have hperm := (server.listSites_spec directory).2 h.count
  have hfrom : ∀ shown ∈ server.listSites directory, shown.content.length ≤ 25000 ∧
      (fileName shown.site.slug, shown.content) ∈ directory.files := by
    intro shown hshown
    obtain ⟨file, hmem, hread⟩ := List.mem_filterMap.mp (hperm.mem_iff.mp hshown)
    obtain ⟨other, rfl⟩ := h.written file hmem
    rw [readSite_content] at hread
    split at hread
    · rename_i hlength
      obtain rfl := Option.some.inj hread
      exact ⟨hlength, hmem⟩
    · cases hread
  constructor
  · exact fun hvisible => (hfrom published hvisible.1).1
  · intro hlength
    have hlisted : published ∈ server.listSites directory :=
      hperm.mem_iff.mpr (List.mem_filterMap.mpr ⟨_, hfile, by rw [readSite_content, if_pos hlength]⟩)
    refine ⟨hlisted, ?_⟩
    rw [Server.siteAt]
    cases hfound : (server.listSites directory).find? fun shown => decide (shown.site.slug = published.site.slug) with
    | none => exact absurd (List.find?_eq_none.mp hfound published hlisted) (by simp)
    | some shown =>
      have hslug : shown.site.slug = published.site.slug := of_decide_eq_true (List.find?_some (p := fun shown : Published =>
        decide (shown.site.slug = published.site.slug)) hfound)
      obtain ⟨hshort, hother⟩ := hfrom shown (List.mem_of_find?_eq_some hfound)
      have hsame := List.inj_on_of_nodup_map directory.nodup hother hfile (congrArg fileName hslug)
      have hread := readSite_content shown
      rw [hsame, readSite_content, if_pos hlength, if_pos hshort] at hread
      exact hread.symm

/-- An accepted site is visible, then and after any more requests, exactly where its request fits. -/
theorem Server.visible_iff {before later : List Request} {request : Request} {published : Published}
    (h : (server.respond (server.after before) request).1 = .created published) :
    server.Visible (server.after (before ++ request :: later)) published ↔ request.Fits := by
  have hrun : server.after (before ++ [request]) = (server.respond (server.after before) request).2 := server.after_append before [request]
  rcases server.respond_cases (server.after before) request with ⟨_, _, hrespond⟩ | ⟨source, saved, next, hsource, hsave, hrespond⟩
  · rw [hrespond] at h
    cases h
  · rw [hrespond] at h hrun
    obtain rfl : saved = published := Response.created.inj h
    obtain ⟨hsite, -, hcreated, hfiles⟩ := server.saveSite_spec hsave
    obtain ⟨hslug, htitle, hdescription, hbody⟩ := validateSite_spec hsite
    have hfile : (fileName saved.site.slug, saved.content) ∈ (server.after (before ++ request :: later)).files := by
      rw [List.append_cons]
      refine server.after_subset (before ++ [request]) later ?_
      rw [hrun, hfiles]
      exact List.mem_cons_self
    have hlength := length_content saved
    rw [hslug, htitle, hdescription, hbody] at hlength
    rw [(server.after_kept _).visible_iff server hfile]
    constructor
    · intro hshort source' createdAt' hsource' hcreated'
      obtain rfl := Option.some.inj (hsource.symm.trans hsource')
      obtain rfl := Option.some.inj (hcreated.symm.trans hcreated')
      omega
    · intro hfits
      have := hfits source saved.createdAt hsource hcreated
      omega

/-- In a run, every site that is answered with 201 is visible from then on. -/
def Server.AcceptedVisible (requests : List Request) : Prop := ∀ before request later published,
  before ++ request :: later <+: requests → (server.respond (server.after before) request).1 = .created published →
    server.Visible (server.after (before ++ request :: later)) published

/-- Every request of a run whose site is saved fits. -/
def Server.AcceptedFit (requests : List Request) : Prop := ∀ before request published,
  before ++ [request] <+: requests → (server.respond (server.after before) request).1 = .created published → request.Fits

/-- Accepted sites are visible from then on exactly in the runs that save no site of more than
24945 bytes in JSON. -/
theorem accepted_visible_iff (server : Server) (requests : List Request) :
    server.AcceptedVisible requests ↔ server.AcceptedFit requests := by
  constructor
  · intro hvisible before request published hbegins hcreated
    have hiff := @Server.visible_iff server before [] request published hcreated
    exact hiff.mp (hvisible before request [] published hbegins hcreated)
  · intro hfit before request later published hbegins hcreated
    have hshort : before ++ [request] <+: before ++ request :: later := ⟨later, (List.append_cons ..).symm⟩
    exact (server.visible_iff hcreated).mpr (hfit before request published (hshort.trans hbegins) hcreated)

/-! ## Bytes that are not UTF-8 -/

namespace Sample

/-- A byte that begins nothing becomes U+FFFD. -/
theorem bufferText_invalid (n : ℕ) (rest : Bytes) :
    bufferText (List.replicate n 255 ++ rest) = List.replicate n 0xFFFD ++ bufferText rest := by
  induction n with
  | zero => rfl
  | succ n ih =>
    have hlead : leadByte 255 = ([0xFFFD], none) := rfl
    rw [bufferText] at ih ⊢
    rw [List.replicate_succ, List.cons_append, bufferPoints, hlead, List.singleton_append, List.flatMap_cons, ih]
    rfl

theorem quote_invalid (n : ℕ) : quote (List.replicate n 0xFFFD) = 34 :: (List.replicate n 0xFFFD ++ [34]) := by
  have hunits : escapeUnits (List.replicate n 0xFFFD) = List.replicate n 0xFFFD := by
    induction n with
    | zero => rfl
    | succ n ih =>
      cases n with
      | zero => decide
      | succ n =>
        rw [List.replicate_succ, List.replicate_succ, escapeUnits, if_neg (by decide), ← List.replicate_succ, ih]
        rfl
  rw [quote, hunits]

theorem quotedBytes_invalid (n : ℕ) : quotedBytes (List.replicate n 0xFFFD) = 3 * n + 2 := by
  have hpoint : WellFormed [0xFFFD] := rfl
  have hwell : ∀ k, WellFormed (List.replicate k 0xFFFD ++ [34]) := by
    intro k
    induction k with
    | zero => exact wellFormed_of_ascii (by decide)
    | succ k ih => exact WellFormed.append (t := List.replicate k 0xFFFD ++ [34]) hpoint ih
  have hlength : ∀ k, (utf8Encode (List.replicate k 0xFFFD ++ [34])).length = 3 * k + 1 := by
    intro k
    induction k with
    | zero => decide
    | succ k ih =>
      have hone : (utf8Encode [0xFFFD]).length = 3 := by decide
      rw [List.replicate_succ, List.cons_append, ← List.singleton_append, utf8Encode_append hpoint (hwell k), List.length_append,
        ih, hone]
      omega
  rw [quotedBytes, quote_invalid, ← List.singleton_append, length_utf8Encode_ascii (by decide) (hwell n), hlength n, List.length_singleton]
  omega

def source (body : JsString) : Json := .record [("slug", .text "port"), ("title", .text "Port"), ("description", .text ""),
  ("body", .str body)]

/-- A body with bytes that are not UTF-8. -/
def request (n : ℕ) : Request where
  origin := some (js "http://127.0.0.1:8790")
  intent := some (js "token")
  chunks := [utf8Encode (js "\x7b\"slug\":\"port\",\"title\":\"Port\",\"description\":\"\",\"body\":\"") ++
    (List.replicate n 255 ++ utf8Encode (js "\"\x7d"))]
  now := 0

def portal : Server := ⟨8790, js "token", Directory.files, fun _ => .refl _,
  ⟨Json.leUnits, Json.leUnits_total, fun _ _ _ => Json.leUnits_trans⟩⟩

theorem stringify_source (n : ℕ) : stringify (source (List.replicate n 0xFFFD)) =
    js "\x7b\"slug\":\"port\",\"title\":\"Port\",\"description\":\"\",\"body\":\"" ++ (List.replicate n 0xFFFD ++ js "\"\x7d") := by
  have hopening : 123 :: (quote (js "slug") ++ 58 :: (quote (js "port") ++ 44 :: (quote (js "title") ++ 58 :: (quote (js "Port") ++
      44 :: (quote (js "description") ++ 58 :: (quote (js "") ++ 44 :: (quote (js "body") ++ [58, 34]))))))) =
        js "\x7b\"slug\":\"port\",\"title\":\"Port\",\"description\":\"\",\"body\":\"" := by decide
  have hclosing : js "\"\x7d" = [34, 125] := by decide
  simp [source, Json.record, Json.text, stringify, stringifyFields, quote_invalid, ← hopening, hclosing]

theorem readRequest_request {n : ℕ} (h : n ≤ 20000) : readRequest (request n) = some (source (List.replicate n 0xFFFD)) := by
  have hopening : (utf8Encode (js "\x7b\"slug\":\"port\",\"title\":\"Port\",\"description\":\"\",\"body\":\"")).length = 55 ∧
      (utf8Encode (js "\"\x7d")).length = 2 := by decide
  have hclosing : bufferText (utf8Encode (js "\"\x7d")) = js "\"\x7d" := by decide
  have hrebuild : (source (List.replicate n 0xFFFD)).rebuild = source (List.replicate n 0xFFFD) :=
    rebuild_record (by simp) (by simp only [List.forall_mem_cons]; decide) (by simp [Json.rebuild, Json.text])
  rw [readRequest, request, readParts, if_neg, readParts, Option.map_some, Option.bind_some, List.append_nil,
    bufferText_append (wellFormed_of_ascii (by decide)), bufferText_invalid, hclosing, ← stringify_source, parse_stringify, hrebuild]
  rw [List.length_append, List.length_append, hopening.1, hopening.2, List.length_replicate]
  omega

theorem trim_invalid (n : ℕ) : trim (List.replicate n 0xFFFD) = List.replicate n 0xFFFD :=
  trim_of_solid fun u hu => by rw [List.eq_of_mem_replicate hu]; decide

theorem saveSite_source {n : ℕ} (hpos : 0 < n) (h : n ≤ 20000) : ∃ published next,
    portal.saveSite .empty 0 (source (List.replicate n 0xFFFD)) = .ok (published, next) := by
  let site : Site := {
    slug := js "port", title := js "Port", description := js "", body := List.replicate n 0xFFFD
    slug_ok := by decide
    title_ok := by decide
    description_ok := by decide
    body_ok := by rw [List.length_replicate]; exact ⟨hpos, h, trim_invalid n⟩ }
  have hsite : validateSite (source (List.replicate n 0xFFFD)) = .ok site := validateSite_fields site
  have hempty : (portal.listSites .empty).length = 0 := (portal.listSites_spec .empty).1
  have hdate : toISOString 0 = some (js "1970-01-01T00:00:00.000Z") := by decide
  refine ⟨⟨site, js "1970-01-01T00:00:00.000Z"⟩, ?_⟩
  simp only [Server.saveSite, bind_eq_ok, ensure_eq_ok, orThrow_eq_ok, pure_eq_ok, decide_eq_true_eq]
  exact ⟨_, site, hsite, (), by omega, _, hdate, _, dif_neg List.not_mem_nil, rfl⟩

/-- A site of 9000 bytes that are not UTF-8 is answered with 201 and never visible. -/
theorem invalid_bytes_vanish : (∃ published, (portal.respond (portal.after []) (request 9000)).1 = .created published) ∧
    ¬ portal.AcceptedVisible [request 9000] := by
  obtain ⟨published, next, hsave⟩ := saveSite_source (n := 9000) (by decide) (by decide)
  have hread := readRequest_request (n := 9000) (by decide)
  have hcreated : (portal.respond (portal.after []) (request 9000)).1 = .created published := by
    have hintended : portal.intended (request 9000) = true := by rfl
    have hnow : portal.saveSite (portal.after []) (request 9000).now (source (List.replicate 9000 0xFFFD)) = .ok (published, next) := hsave
    exact Server.respond_created hintended hread hnow
  refine ⟨⟨published, hcreated⟩, fun hvisible => ?_⟩
  have hfits := (@Server.visible_iff portal [] [] (request 9000) published hcreated).mp
    (hvisible [] (request 9000) [] published (List.prefix_refl _) hcreated)
  have hdate : toISOString (request 9000).now = some (js "1970-01-01T00:00:00.000Z") := by decide
  have hbytes := hfits _ _ hread hdate
  have hbody : textOf (source (List.replicate 9000 0xFFFD)) "body" = List.replicate 9000 0xFFFD := rfl
  rw [hbody, trim_invalid, quotedBytes_invalid] at hbytes
  omega

end Sample

end Portal
