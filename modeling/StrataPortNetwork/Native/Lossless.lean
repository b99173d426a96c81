import StrataPortNetwork.Native.PortDomain
import StrataPortNetwork.Native.Completeness
import StrataPortNetwork.Native.Sample

/-! # Bindings that are kept

A command that replaces the manifest it has read keeps every other binding in it, and signs a
revision that no manifest before it has. So the bindings of the commands that succeeded stay, as
long as no manifest is replaced by a command that has not read it.
-/
namespace Native
open Js Transition

/-! ## What a command writes -/

/-- An entry binds a name to a port. -/
def EntryBinds (name targetPort : JsString) (entry : Json) : Prop :=
  entry.get "name" = some (.str name) ∧ entry.get "targetPort" = some (.str targetPort)

theorem EntryBinds.ordered {name targetPort : JsString} {entry w : Json} (h : EntryBinds name targetPort entry)
    (hw : ordered entry = some w) : EntryBinds name targetPort w := by
  obtain ⟨hname, htarget⟩ := h
  exact ⟨by rw [get_ordered hw, hname]; rfl, by rw [get_ordered hw, htarget]; rfl⟩

theorem exists_orderedItems {items items' : List Json} (h : orderedItems items = some items') {v : Json} (hv : v ∈ items) :
    ∃ w ∈ items', ordered v = some w := by
  induction items generalizing items' with
  | nil => cases hv
  | cons u rest ih =>
    simp only [orderedItems, Option.bind_eq_some_iff, Option.map_eq_some_iff] at h
    obtain ⟨u', hu', rest', hrest, rfl⟩ := h
    rcases List.mem_cons.mp hv with rfl | hv
    · exact ⟨u', List.mem_cons_self, hu'⟩
    · obtain ⟨w, hw, hordered⟩ := ih hrest hv
      exact ⟨w, List.mem_cons_of_mem u' hw, hordered⟩

/-- The revision of a signed manifest. -/
def manifestRevision (record : Json) : ℤ := ((record.get "body").bind (integerField · "revision")).getD 0

section
variable {crypto : Crypto} {place : Place crypto} {action : Action} {content : Bytes} {now : ℤ} {record : Json}

/-- What an identity signs is read back from its file. -/
theorem Identity.bodyIn_manifestFile {body copy : Json} (hcopy : ordered body = some copy)
    (hsign : place.identity.sign body = .ok record) : record.get "body" = some copy ∧ place.bodyIn (manifestFile record) = .ok copy := by
  obtain ⟨copy', hcopy', hrecord⟩ := Identity.sign_eq_ok.mp hsign
  rw [hcopy, Option.some.injEq] at hcopy'
  subst hcopy'
  have hrebuild : record.rebuild = record := by
    have hkeys : ∀ signature : Json, Json.OwnOrdered [(js "body", copy), (js "signature", signature)] := by
      intro signature
      have hbody : Json.arrayIndex? (js "body") = none := by decide
      have hsignature : Json.arrayIndex? (js "signature") = none := by decide
      have hprecedes : Json.Precedes (js "body") (js "signature") := ⟨by decide, by simp [hbody, hsignature]⟩
      simpa [Json.OwnOrdered] using hprecedes
    rw [hrecord, Json.record, Json.rebuild, rebuildFields_of_fixed, List.map_cons, List.map_singleton,
      Json.fromEntries_of_ownOrdered (hkeys _)]
    simp [rebuild_ordered hcopy, Json.rebuild]
  have hspace : ∀ c ∈ [(10 : UInt16)], isSpace c = true := List.forall_mem_singleton.mpr rfl
  have hwell : WellFormed (indented record ++ [10]) := (wellFormed_indented record 0).append (wellFormed_of_ascii (by decide))
  have hparse : parse ((utf8Decode (manifestFile record)).getD (place.malformed (manifestFile record))) = some record := by
    rw [manifestFile, utf8Decode_utf8Encode hwell, Option.getD_some, parse_indented record hspace, hrebuild]
  refine ⟨by rw [hrecord, Json.get_record]; rfl, ?_⟩
  rw [Place.bodyIn, hparse]
  exact verifyEnvelope_sign hcopy hsign

theorem Place.readManifest_eq_ok {revision : ℤ} {entries : List Json} (h : place.readManifest content = .ok (revision, entries)) :
    ∃ body, place.bodyIn content = .ok body ∧ integerField body "revision" = some revision ∧
      body.get "entries" = some (.arr entries) ∧ 1 ≤ revision ∧ revision < 9007199254740991 := by
  simp only [Place.readManifest, bind_eq_ok, ensure_eq_ok, orThrow_eq_ok, pure_eq_ok, Prod.mk.injEq, Bool.and_eq_true,
    decide_eq_true_eq, items?_eq_some] at h
  obtain ⟨-, -, body, hbody, -, -, _, hrevision, -, hbounds, _, hentries, rfl, rfl⟩ := h
  exact ⟨body, hbody, hrevision, hentries, hbounds⟩

/-- The manifest that a command signs: the entries after its action, under the next revision. -/
theorem Place.signNext_ok (h : place.signNext action content now = .ok record) :
    ∃ old body entries entries' items, place.bodyIn content = .ok old ∧ old.get "entries" = some (.arr entries) ∧
      action.apply entries = .ok entries' ∧ orderedItems entries' = some items ∧ record.get "body" = some body ∧
      place.bodyIn (manifestFile record) = .ok body ∧ body.get "entries" = some (.arr items) ∧
      integerField body "revision" = (integerField old "revision").map (· + 1) ∧ (integerField old "revision").isSome = true := by
  simp only [Place.signNext, bind_eq_ok] at h
  obtain ⟨⟨revision, entries⟩, hread, entries', happly, hsigned⟩ := h
  obtain ⟨old, hold, hrevision, hentries, hleast, hmost⟩ := Place.readManifest_eq_ok hread
  simp only [signPortNames, bind_eq_ok] at hsigned
  obtain ⟨⟨⟩, -, ⟨⟩, hverified, hsign⟩ := hsigned
  obtain ⟨body, hbody, -⟩ := Identity.sign_eq_ok.mp hsign
  obtain ⟨hget, hread'⟩ := Identity.bodyIn_manifestFile hbody hsign
  have hentries' : body.get "entries" = (some (Json.arr entries')).bind ordered := get_ordered hbody "entries"
  obtain ⟨copied, hcopied⟩ : ∃ w, ordered (.arr entries') = some w := by
    have hall := ordered_record_isSome.mp (Option.isSome_of_eq_some hbody)
    exact Option.isSome_iff_exists.mp (hall ("entries", .arr entries') (by simp))
  have hnext : integerField body "revision" = some (revision + 1) := by
    rw [integerField_ordered hbody]
    exact integerField_int (Json.get_record _ _) (by omega) (by omega)
  simp only [ordered, Option.map_eq_some_iff] at hcopied
  obtain ⟨items, hitems, rfl⟩ := hcopied
  refine ⟨old, body, entries, entries', items, hold, hentries, happly, hitems, hget, hread', ?_, ?_, by rw [hrevision]; rfl⟩
  · rw [hentries', Option.bind_some, ordered, hitems, Option.map_some]
  · rw [hrevision, Option.map_some, hnext]

/-! ## What an action keeps -/

/-- The new binding is among the entries. -/
theorem Action.apply_bind {name targetPort : JsString} {entries entries' : List Json}
    (h : (Action.bind name targetPort).apply entries = .ok entries') : ∃ entry ∈ entries', EntryBinds name targetPort entry := by
  simp only [Action.apply, bind_eq_ok, pure_eq_ok] at h
  obtain ⟨-, -, -, -, rfl⟩ := h
  exact ⟨_, List.mem_append_right _ List.mem_cons_self, Json.get_record _ _, Json.get_record _ _⟩

/-- Bindings of other names stay. -/
theorem Action.apply_kept {entries entries' : List Json} (h : action.apply entries = .ok entries') {name targetPort : JsString}
    (hother : ∀ port, action ≠ .bind name port) {entry : Json} (hentry : entry ∈ entries) (hbinds : EntryBinds name targetPort entry) :
    entry ∈ entries' := by
  cases action with
  | renew =>
    cases h
    exact hentry
  | bind name' port' =>
    simp only [Action.apply, bind_eq_ok, pure_eq_ok] at h
    obtain ⟨-, -, -, -, rfl⟩ := h
    have hne : name ≠ name' := fun heq => hother port' (heq ▸ rfl)
    refine List.mem_append_left _ (List.mem_filter.mpr ⟨hentry, ?_⟩)
    rw [hbinds.1, Bool.not_eq_true', ← Bool.not_eq_true, Json.some_beq_str_iff]
    simpa using hne

end

/-! ## Runs -/

section
variable {crypto : Crypto} (place : Place crypto)

/-- The manifest in a file binds a name to a port. -/
def Place.Shows (content : Bytes) (name targetPort : JsString) : Prop :=
  ∃ body entries, place.bodyIn content = .ok body ∧ body.get "entries" = some (.arr entries) ∧
    ∃ entry ∈ entries, EntryBinds name targetPort entry

/-- No binding is lost, and no revision is signed twice. -/
structure Lossless (s : Operator) : Prop where
  kept : ∀ earlier later name targetPort record, s.written = earlier ++ (.bind name targetPort, record) :: later →
    (∀ command ∈ later, ∀ port, command.1 ≠ .bind name port) →
    ∃ content, s.files place.manifestPath = some content ∧ place.Shows content name targetPort
  unforked : ∀ command ∈ s.written, ∀ command' ∈ s.written,
    manifestRevision command.2 = manifestRevision command'.2 → command.2 = command'.2

/-- A command replaces the manifest that it has read. -/
def ReplacesRead (s : Operator) : Event → Prop
  | .renames id => ∀ action content record temporary, s.commands id = some ⟨action, .staged content record temporary⟩ →
      s.files place.manifestPath = some content
  | _ => True

/-- The operator before any command. -/
structure Idle (s : Operator) : Prop where
  commands : ∀ id, s.commands id = none
  written : s.written = []

/-- What a command in flight has signed, and where it is. -/
def Place.Holds (files : JsString → Option Bytes) (command : Command) : Prop :=
  match command.stage with
  | .signed content record => ∃ now, place.signNext command.action content now = .ok record
  | .staged content record temporary => (∃ now, place.signNext command.action content now = .ok record) ∧
      files temporary = some (manifestFile record) ∧ temporary ≠ place.manifestPath
  | _ => True

/-- The invariant of runs in which each command replaces the manifest that it has read. -/
structure Sound (s : Operator) : Prop where
  lossless : Lossless place s
  current : ∀ last, s.written.getLast? = some last → s.files place.manifestPath = some (manifestFile last.2) ∧
    ∃ body, place.bodyIn (manifestFile last.2) = .ok body ∧ last.2.get "body" = some body
  increasing : (s.written.map fun command => manifestRevision command.2).Pairwise (· < ·)
  holds : ∀ id command, s.commands id = some command → place.Holds s.files command
  apart : ∀ id id' action action' content content' record record' temporary,
    s.commands id = some ⟨action, .staged content record temporary⟩ →
    s.commands id' = some ⟨action', .staged content' record' temporary⟩ → id = id'

variable {place} {s : Operator} {id : ℕ} {action : Action} {stage : Stage} {files : JsString → Option Bytes} {now : ℤ}
  {uuid : JsString}

theorem setStage_commands (s : Operator) (id : ℕ) (action : Action) (stage : Stage) (other : ℕ) :
    (s.setStage id action stage).commands other = if other = id then some ⟨action, stage⟩ else s.commands other :=
  Function.update_apply ..

theorem Place.temporaryPath_ne (place : Place crypto) (uuid : JsString) : place.temporaryPath uuid ≠ place.manifestPath := by
  intro h
  have hlength := congrArg List.length h
  have hdot : (js ".").length = 1 := by decide
  simp only [Place.temporaryPath, List.length_append, hdot] at hlength
  omega

/-- Files that keep what is staged keep what a command holds. -/
theorem Place.Holds.mono {command : Command} (h : place.Holds s.files command)
    (hstaged : ∀ content record temporary, command.stage = .staged content record temporary → files temporary = s.files temporary) :
    place.Holds files command := by
  obtain ⟨action, stage⟩ := command
  cases stage with
  | staged content record temporary =>
    obtain ⟨hsigned, hfile, hne⟩ := h
    exact ⟨hsigned, (hstaged content record temporary rfl).trans hfile, hne⟩
  | signed content record => exact h
  | started | read content | succeeded | denied => trivial

/-- What is staged is there, apart from what others have staged. -/
theorem Sound.staged_ne (h : Sound place s) {content : Bytes} {record : Json} {temporary path : JsString}
    (hid : s.commands id = some ⟨action, .staged content record temporary⟩) (hfree : s.files path = none) : temporary ≠ path := by
  rintro rfl
  have hfile := (h.holds id _ hid).2.1
  rw [hfree] at hfile
  cases hfile

/-- A command goes on without replacing the manifest, and without touching what others have staged. -/
theorem Sound.setStage (h : Sound place s) (hmanifest : files place.manifestPath = s.files place.manifestPath)
    (hothers : ∀ other action content record temporary, other ≠ id →
      s.commands other = some ⟨action, .staged content record temporary⟩ → files temporary = s.files temporary)
    (hholds : place.Holds files ⟨action, stage⟩)
    (hapart : ∀ content record temporary, stage = .staged content record temporary → s.files temporary = none) :
    Sound place ({ s with files := files }.setStage id action stage) := by
  refine ⟨⟨?_, h.lossless.unforked⟩, ?_, h.increasing, ?_, ?_⟩
  · intro earlier later name targetPort record hwritten hlater
    obtain ⟨content, hcontent, hshows⟩ := h.lossless.kept earlier later name targetPort record hwritten hlater
    exact ⟨content, hmanifest.trans hcontent, hshows⟩
  · intro last hlast
    obtain ⟨hfile, hbody⟩ := h.current last hlast
    exact ⟨hmanifest.trans hfile, hbody⟩
  · intro other command hcommand
    rw [setStage_commands] at hcommand
    split at hcommand
    · cases hcommand
      exact hholds
    · rename_i hne
      refine (h.holds other command hcommand).mono fun content record temporary hstaged => ?_
      exact hothers other command.action content record temporary hne (hcommand.trans (by rw [← hstaged]))
  · intro other other' action' action'' content content' record record' temporary hother hother'
    rw [setStage_commands] at hother hother'
    split at hother <;> split at hother'
    · rename_i heq heq'
      exact heq.trans heq'.symm
    · cases hother
      exact absurd rfl (h.staged_ne hother' (hapart content record temporary rfl))
    · cases hother'
      exact absurd rfl (h.staged_ne hother (hapart content' record' temporary rfl))
    · exact h.apart other other' action' action'' content content' record record' temporary hother hother'

/-- A manifest signed on top of the current one has a higher revision than all before it. -/
theorem Sound.revision_lt (h : Sound place s) {content : Bytes} {now : ℤ} {record : Json}
    (hsign : place.signNext action content now = .ok record) (hread : s.files place.manifestPath = some content) :
    ∀ command ∈ s.written, manifestRevision command.2 < manifestRevision record := by
  obtain ⟨old, body, -, -, -, hold, -, -, -, hget, -, -, hrevision, hsome⟩ := Place.signNext_ok hsign
  obtain ⟨revision, hvalue⟩ := Option.isSome_iff_exists.mp hsome
  have hnext : manifestRevision record = revision + 1 := by
    rw [manifestRevision, hget, Option.bind_some, hrevision, hvalue]
    rfl
  cases hlast : s.written.getLast? with
  | none =>
    rw [List.getLast?_eq_none_iff.mp hlast]
    simp
  | some last =>
    obtain ⟨hfile, body', hbody', hget'⟩ := h.current last hlast
    have hcontent : content = manifestFile last.2 := Option.some.inj (hread.symm.trans hfile)
    rw [hcontent, hbody', Except.ok.injEq] at hold
    have hlastRevision : manifestRevision last.2 = revision := by
      rw [manifestRevision, hget', Option.bind_some, hold, hvalue]
      rfl
    obtain ⟨init, hinit⟩ := List.getLast?_eq_some_iff.mp hlast
    have hincreasing := h.increasing
    rw [hinit, List.map_append, List.pairwise_append] at hincreasing
    intro command hcommand
    rw [hinit, List.mem_append, List.mem_singleton] at hcommand
    rcases hcommand with hcommand | rfl
    · have hlt : manifestRevision command.2 < manifestRevision last.2 :=
        hincreasing.2.2 _ (List.mem_map_of_mem hcommand) _ (List.mem_map_of_mem List.mem_cons_self)
      omega
    · omega

theorem unforked_of_increasing {written : List (Action × Json)}
    (h : (written.map fun command => manifestRevision command.2).Pairwise (· < ·)) : ∀ command ∈ written, ∀ command' ∈ written,
    manifestRevision command.2 = manifestRevision command'.2 → command.2 = command'.2 := by
  intro command hcommand command' hcommand' hsame
  have hinj := List.inj_on_of_nodup_map (h.imp fun hlt => ne_of_lt hlt) hcommand hcommand' hsame
  rw [hinj]

/-- A command replaces the manifest that it has read: the other bindings stay. -/
theorem Sound.shows (h : Sound place s) {content : Bytes} {now : ℤ} {record : Json}
    (hsign : place.signNext action content now = .ok record) (hread : s.files place.manifestPath = some content)
    {earlier later : List (Action × Json)} {name targetPort : JsString} {record' : Json}
    (hwritten : s.written ++ [(action, record)] = earlier ++ (.bind name targetPort, record') :: later)
    (hlater : ∀ command ∈ later, ∀ port, command.1 ≠ .bind name port) : place.Shows (manifestFile record) name targetPort := by
  obtain ⟨old, body, entries, entries', items, hold, hentries, happly, hitems, -, hbody, hget, -⟩ := Place.signNext_ok hsign
  have hbinds : ∃ entry ∈ entries', EntryBinds name targetPort entry := by
    rcases List.eq_nil_or_concat later with rfl | ⟨before, last, rfl⟩
    · obtain ⟨-, hlast⟩ := List.append_inj' hwritten rfl
      obtain ⟨rfl, -⟩ := Prod.mk.inj (List.singleton_injective hlast)
      exact Action.apply_bind happly
    · rw [List.concat_eq_append] at hwritten hlater
      rw [← List.cons_append, ← List.append_assoc] at hwritten
      obtain ⟨hearlier, hlast⟩ := List.append_inj' hwritten rfl
      obtain rfl := List.singleton_injective hlast
      obtain ⟨content', hcontent', body', stored, hbody', hstored, entry, hentry, hbinds⟩ :=
        h.lossless.kept earlier before name targetPort record' hearlier fun command hcommand =>
          hlater command (List.mem_append_left _ hcommand)
      obtain rfl := Option.some.inj (hread.symm.trans hcontent')
      rw [hold, Except.ok.injEq] at hbody'
      subst hbody'
      rw [hentries, Option.some.injEq, Json.arr.injEq] at hstored
      subst hstored
      have hother := hlater (action, record) (List.mem_append_right _ List.mem_cons_self)
      exact ⟨entry, Action.apply_kept happly hother hentry hbinds, hbinds⟩
  obtain ⟨entry, hentry, hbinds⟩ := hbinds
  obtain ⟨item, hitem, hordered⟩ := exists_orderedItems hitems hentry
  exact ⟨body, items, hbody, hget, item, hitem, hbinds.ordered hordered⟩

/-- A command replaces the manifest that it has read. -/
theorem Sound.rename {content : Bytes} {record : Json} {temporary : JsString} (h : Sound place s)
    (hid : s.commands id = some ⟨action, .staged content record temporary⟩)
    (hread : s.files place.manifestPath = some content) :
    Sound place (s.step place (.renames id)) := by
  obtain ⟨⟨now, hsign⟩, hfile, hne⟩ := h.holds id _ hid
  have hincreasing : ((s.written ++ [(action, record)]).map fun command => manifestRevision command.2).Pairwise (· < ·) := by
    rw [List.map_append, List.pairwise_append]
    refine ⟨h.increasing, List.pairwise_singleton _ _, ?_⟩
    rw [List.forall_mem_map]
    intro command hcommand
    simpa using h.revision_lt hsign hread command hcommand
  have hmanifest : Function.update (Function.update s.files place.manifestPath (some (manifestFile record))) temporary none
      place.manifestPath = some (manifestFile record) := by
    rw [Function.update_of_ne hne.symm, Function.update_self]
  simp only [Operator.step, hid, hfile]
  refine ⟨⟨?_, unforked_of_increasing hincreasing⟩, ?_, hincreasing, ?_, ?_⟩
  · intro earlier later name targetPort record' hwritten hlater
    exact ⟨_, hmanifest, h.shows hsign hread hwritten hlater⟩
  · intro last hlast
    obtain rfl : (action, record) = last := Option.some.inj ((List.getLast?_concat ..).symm.trans hlast)
    obtain ⟨-, body, -, -, -, -, -, -, -, hget, hbody, -⟩ := Place.signNext_ok hsign
    exact ⟨hmanifest, body, hbody, hget⟩
  · intro other command hcommand
    rw [setStage_commands] at hcommand
    split at hcommand
    · cases hcommand
      trivial
    · rename_i hother
      refine (h.holds other command hcommand).mono fun content' record' temporary' hstaged => ?_
      have hcommand' : s.commands other = some ⟨command.action, .staged content' record' temporary'⟩ :=
        hcommand.trans (by rw [← hstaged])
      have hapart : temporary' ≠ temporary := by
        rintro rfl
        exact hother (h.apart _ _ _ _ _ _ _ _ _ hcommand' hid)
      have hmanifest' := (h.holds other _ hcommand').2.2
      exact (Function.update_of_ne hapart _ _).trans (Function.update_of_ne hmanifest' _ _)
  · intro other other' action' action'' content' content'' record' record'' temporary' hother hother'
    rw [setStage_commands] at hother hother'
    split at hother
    · cases hother
    · split at hother'
      · cases hother'
      · exact h.apart _ _ _ _ _ _ _ _ _ hother hother'

/-- Each step keeps the invariant. -/
theorem Sound.step (h : Sound place s) {event : Event} (hreplaces : ReplacesRead place s event) :
    Sound place (s.step place event) := by
  have hsame : ∀ {action : Action} {stage : Stage} {id : ℕ}, place.Holds s.files ⟨action, stage⟩ →
      (∀ content record temporary, stage ≠ .staged content record temporary) → Sound place (s.setStage id action stage) := by
    intro action stage id hholds hnot
    exact h.setStage rfl (fun _ _ _ _ _ _ _ => rfl) hholds fun content record temporary hstage =>
      absurd hstage (hnot content record temporary)
  have hdenied : ∀ {action : Action} {id : ℕ}, Sound place (s.setStage id action .denied) :=
    fun {_ _} => hsame trivial (by simp)
  have hcreate : ∀ {id : ℕ} {action : Action} {stage : Stage} {path : JsString} {file : Bytes}, path ≠ place.manifestPath →
      s.files path = none → place.Holds (Function.update s.files path (some file)) ⟨action, stage⟩ →
      (∀ content record temporary, stage = .staged content record temporary → temporary = path) →
      Sound place ((s.setFile path (some file)).setStage id action stage) := by
    intro id action stage path file hne hfree hholds hpath
    refine h.setStage (Function.update_of_ne hne.symm _ _) ?_ hholds ?_
    · intro other action' content record temporary _ hother
      exact Function.update_of_ne (h.staged_ne hother hfree) _ _
    · intro content record temporary hstage
      rw [hpath content record temporary hstage]
      exact hfree
  cases event with
  | starts id action =>
    simp only [Operator.step]
    split
    · exact hsame trivial (by simp)
    · exact h
  | reads id =>
    simp only [Operator.step]
    split
    · split
      · exact hsame trivial (by simp)
      · exact hdenied
    · exact h
  | signs id now =>
    simp only [Operator.step]
    split
    · split
      · rename_i hsigned
        exact hsame ⟨now, hsigned⟩ (by simp)
      · exact hdenied
    · exact h
  | stages id uuid =>
    simp only [Operator.step]
    split
    · rename_i action content record hid
      split
      · rename_i hfree
        have hne := place.temporaryPath_ne uuid
        exact hcreate hne hfree ⟨h.holds id _ hid, Function.update_self .., hne⟩ (by simp)
      · exact hdenied
    · exact h
  | tears id uuid count =>
    simp only [Operator.step]
    split
    · split
      · rename_i hfree
        exact hcreate (place.temporaryPath_ne uuid) hfree trivial (by simp)
      · exact hdenied
    · exact h
  | renames id =>
    cases hid : s.commands id with
    | none => simpa only [Operator.step, hid] using h
    | some command =>
      obtain ⟨action, stage⟩ := command
      cases stage with
      | staged content record temporary => exact h.rename hid (hreplaces action content record temporary hid)
      | started | read content | signed content record | succeeded | denied => simpa only [Operator.step, hid] using h
  | fails id =>
    simp only [Operator.step]
    split
    · rename_i action content record temporary hid
      have hne := (h.holds id _ hid).2.2
      refine h.setStage (Function.update_of_ne hne.symm _ _) ?_ trivial (by simp)
      intro other action' content' record' temporary' hother hstaged
      refine Function.update_of_ne ?_ _ _
      rintro rfl
      exact hother (h.apart _ _ _ _ _ _ _ _ _ hstaged hid)
    · exact hdenied
    · exact hdenied
    · exact hdenied
    · exact h

/-- In every run in which each command replaces the manifest that it has read, the bindings of the commands that succeeded stay,
and no revision is signed twice. -/
theorem commands_lossless (hidle : Idle s) {events : List Event}
    (hreplaces : Steps (Operator.step place) (ReplacesRead place) s events) :
    Lossless place (run (Operator.step place) s events) := by
  have hstart : Sound place s := by
    refine ⟨⟨?_, ?_⟩, ?_, ?_, ?_, ?_⟩
    · simp [hidle.written]
    · simp [hidle.written]
    · simp [hidle.written]
    · simp [hidle.written]
    · simp [hidle.commands]
    · simp [hidle.commands]
  have hstep : ∀ s event, ReplacesRead place s event → Sound place s → Sound place (s.step place event) :=
    fun _ _ hok hsound => hsound.step hok
  exact (run_invariant_of_steps hstep hstart hreplaces).lossless

/-! ## Commands one after the other -/

/-- The manifest that a command in flight has read. -/
def Stage.contentRead : Stage → Option Bytes
  | .read content | .signed content _ | .staged content _ _ => some content
  | .started | .succeeded | .denied => none

/-- The steps of one command. -/
def alone (id : ℕ) (action : Action) (now : ℤ) (uuid : JsString) : List Event :=
  [.starts id action, .reads id, .signs id now, .stages id uuid, .renames id]

/-- The manifest is the one that the command has read. -/
def Current (place : Place crypto) (id : ℕ) (s : Operator) : Prop :=
  ∀ command content, s.commands id = some command → command.stage.contentRead = some content →
    s.files place.manifestPath = some content

theorem Current.setStage (hmanifest : files place.manifestPath = s.files place.manifestPath)
    (hread : ∀ content, stage.contentRead = some content → s.files place.manifestPath = some content) :
    Current place id ({ s with files := files }.setStage id action stage) := by
  intro command content hcommand hcontent
  rw [setStage_commands, if_pos rfl, Option.some.injEq] at hcommand
  subst hcommand
  exact hmanifest.trans (hread content hcontent)

/-- What a command has read stays the manifest while the command goes on to stage its own. -/
theorem Current.step (h : Current place id s) {event : Event}
    (hevent : event ∈ [.starts id action, .reads id, .signs id now, .stages id uuid]) : Current place id (s.step place event) := by
  have hsame : ∀ {action : Action} {stage : Stage},
      (∀ content, stage.contentRead = some content → s.files place.manifestPath = some content) →
      Current place id (s.setStage id action stage) := fun hread => Current.setStage rfl hread
  simp only [List.mem_cons, List.not_mem_nil, or_false] at hevent
  rcases hevent with rfl | rfl | rfl | rfl
  · simp only [Operator.step]
    split
    · exact hsame (by simp [Stage.contentRead])
    · exact h
  · simp only [Operator.step]
    split
    · split
      · rename_i hcontent
        exact hsame (by simpa [Stage.contentRead] using hcontent)
      · exact hsame (by simp [Stage.contentRead])
    · exact h
  · simp only [Operator.step]
    split
    · rename_i hid
      split
      · exact hsame (h _ · hid)
      · exact hsame (by simp [Stage.contentRead])
    · exact h
  · simp only [Operator.step]
    split
    · rename_i hid
      split
      · exact Current.setStage (Function.update_of_ne (place.temporaryPath_ne uuid).symm _ _) (h _ · hid)
      · exact hsame (by simp [Stage.contentRead])
    · exact h

/-- A command that runs alone replaces the manifest that it has read. -/
theorem steps_alone (hid : s.commands id = none) (action : Action) (now : ℤ) (uuid : JsString) :
    Steps (Operator.step place) (ReplacesRead place) s (alone id action now uuid) := by
  have hcurrent : Current place id s := by
    intro command content hcommand
    rw [hid] at hcommand
    cases hcommand
  have hrun : Current place id (run (Operator.step place) s [.starts id action, .reads id, .signs id now, .stages id uuid]) := by
    have hstep : ∀ s event, event ∈ [.starts id action, .reads id, .signs id now, .stages id uuid] → Current place id s →
        Current place id (s.step place event) := fun _ _ hmem hcurrent => hcurrent.step hmem
    exact run_invariant_of_steps hstep hcurrent (steps_of_forall fun _ hmem => hmem)
  refine ⟨trivial, trivial, trivial, trivial, ?_, trivial⟩
  intro action' content record temporary hstaged
  exact hrun _ content hstaged rfl

theorem step_commands {event : Event} {other : ℕ} (hne : other ≠ event.id) : (s.step place event).commands other = s.commands other := by
  have hset : ∀ {s' : Operator} {action : Action} {stage : Stage} {id : ℕ}, other ≠ id →
      (s'.setStage id action stage).commands other = s'.commands other := fun hne => Function.update_of_ne hne _ _
  cases event with
  | starts id action | reads id | signs id now | stages id uuid | tears id uuid count | renames id | fails id =>
    simp only [Operator.step]
    repeat' split
    all_goals first | exact hset hne | rfl

theorem run_commands {other : ℕ} {events : List Event} (h : ∀ event ∈ events, other ≠ event.id) :
    (run (Operator.step place) s events).commands other = s.commands other := by
  induction events generalizing s with
  | nil => rfl
  | cons event rest ih =>
    rw [run_cons, ih fun event hmem => h event (List.mem_cons_of_mem _ hmem), step_commands (h event List.mem_cons_self)]

end

namespace Sample

/-- The directory of the first port, with a manifest that names its root. -/
def operatorPlace : Place crypto := ⟨first, js "port-names.json", fun _ => []⟩

def rootManifest : Bytes := ((signPortNames crypto first (.arr [.record [("name", .text ""), ("targetPort", .str first.id)]])
  (.int 1) 0 300000).toOption.map manifestFile).getD []

def idleOperator : Operator :=
  ⟨fun path => if path = operatorPlace.manifestPath then some rootManifest else none, fun _ => none, []⟩

def bindFirst (name : String) : Action := .bind (js name) first.id

/-- Two bindings made one after the other. -/
theorem in_turn_lossless : Lossless operatorPlace (run (Operator.step operatorPlace) idleOperator
    (alone 0 (bindFirst "api") 1 (js "a") ++ alone 1 (bindFirst "memory") 2 (js "b"))) := by
  refine commands_lossless ⟨fun _ => rfl, rfl⟩ (steps_append.mpr ⟨steps_alone rfl .., steps_alone ?_ ..⟩)
  rw [run_commands (by simp [alone, Event.id])]
  rfl

/-- Two commands that have read the same manifest. -/
def overlapping (action action' : Action) : List Event := [.starts 0 action, .starts 1 action', .reads 0, .reads 1, .signs 0 1,
  .signs 1 2, .stages 0 (js "a"), .stages 1 (js "b"), .renames 0, .renames 1]

/-- Both commands succeed, if the first manifest lets them and their temporary files are apart. -/
theorem run_both {crypto : Crypto} {place : Place crypto} {content : Bytes} {action action' : Action} {record record' : Json}
    (h : place.signNext action content 1 = .ok record) (h' : place.signNext action' content 2 = .ok record')
    (hapart : place.temporaryPath (js "b") ≠ place.temporaryPath (js "a")) {s : Operator}
    (hs : s = ⟨fun path => if path = place.manifestPath then some content else none, fun _ => none, []⟩) :
    (run (Operator.step place) s (overlapping action action')).written = [(action, record), (action', record')] ∧
      (run (Operator.step place) s (overlapping action action')).files place.manifestPath = some (manifestFile record') := by
  have hne := place.temporaryPath_ne (js "a")
  have hne' := place.temporaryPath_ne (js "b")
  simp [hs, overlapping, Operator.step, Operator.setStage, Operator.setFile, h, h', hne, hne', hapart, hne'.symm, hapart.symm]

/-- The names in a manifest. -/
def manifestNames (record : Json) : List JsString :=
  ((((record.get "body").bind (·.get "entries")).bind Json.items?).getD []).map bindingName

theorem both_signed : (operatorPlace.signNext (bindFirst "api") rootManifest 1).isOk = true ∧
    (operatorPlace.signNext (bindFirst "memory") rootManifest 2).toOption.map manifestNames = some [[], js "memory"] := by
  decide +kernel

/-- The binding of the first of two overlapping commands is lost, and both sign the second revision. -/
theorem overlapping_lost : Idle idleOperator ∧ ∃ record record' : Json,
    (run (Operator.step operatorPlace) idleOperator (overlapping (bindFirst "api") (bindFirst "memory"))).written =
      [(bindFirst "api", record), (bindFirst "memory", record')] ∧
    manifestRevision record = manifestRevision record' ∧ record ≠ record' ∧
    ¬ Lossless operatorPlace (run (Operator.step operatorPlace) idleOperator (overlapping (bindFirst "api") (bindFirst "memory"))) := by
  obtain ⟨hsigned, hnames⟩ := both_signed
  cases h : operatorPlace.signNext (bindFirst "api") rootManifest 1 with
  | error e =>
    rw [h] at hsigned
    cases hsigned
  | ok record =>
    cases h' : operatorPlace.signNext (bindFirst "memory") rootManifest 2 with
    | error e =>
      rw [h'] at hnames
      cases hnames
    | ok record' =>
      rw [h', Except.toOption, Option.map_some, Option.some.injEq] at hnames
      obtain ⟨hwritten, hfile⟩ := run_both (s := idleOperator) h h' (by decide) rfl
      obtain ⟨old, body, _, entries, items, hold, -, happly, hitems, hget, hbody, hentries, hrevision, -⟩ := Place.signNext_ok h
      obtain ⟨old', body', _, _, items', hold', -, -, -, hget', hbody', hentries', hrevision', -⟩ := Place.signNext_ok h'
      have hlost : ¬ operatorPlace.Shows (manifestFile record') (js "api") first.id := by
        rintro ⟨shown, stored, hshown, hstored, entry, hentry, hname, -⟩
        rw [hbody', Except.ok.injEq] at hshown
        subst hshown
        have hmem : js "api" ∈ manifestNames record' := by
          rw [manifestNames, hget', Option.bind_some, hstored, Option.bind_some, Json.items?, Option.getD_some]
          refine List.mem_map.mpr ⟨entry, hentry, ?_⟩
          rw [bindingName, hname]
          rfl
        rw [hnames] at hmem
        exact absurd hmem (by decide)
      refine ⟨⟨fun _ => rfl, rfl⟩, record, record', hwritten, ?_, ?_, ?_⟩
      · obtain rfl := Except.ok.inj (hold.symm.trans hold')
        rw [manifestRevision, manifestRevision, hget, hget', Option.bind_some, Option.bind_some, hrevision, hrevision']
      · rintro rfl
        obtain ⟨entry, hentry, hbinds⟩ := Action.apply_bind happly
        obtain ⟨item, hitem, hordered⟩ := exists_orderedItems hitems hentry
        exact hlost ⟨body, items, hbody, hentries, item, hitem, hbinds.ordered hordered⟩
      · intro hlossless
        obtain ⟨content, hcontent, hshows⟩ := hlossless.kept [] [(bindFirst "memory", record')] (js "api") first.id record hwritten (by
          simp [bindFirst, js_injective.eq_iff])
        rw [hfile, Option.some.injEq] at hcontent
        exact hlost (hcontent ▸ hshows)

end Sample

end Native
