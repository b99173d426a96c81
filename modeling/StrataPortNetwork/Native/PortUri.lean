import StrataPortNetwork.Native.PortNames

/-! # The grammar of port addresses

An address is a list of labels, the two halves of a namespace and a path. Its text is what
`makePortUri` makes of its parts, and `parsePortUri` reads the parts back.
-/
namespace Native
open Js

/-! ## Addresses -/

/-- The parts of a `port://` address, within the limits of the grammar. -/
structure Address where
  labels : List JsString
  labels_length : labels.length ≤ 5
  labels_atoms : ∀ label ∈ labels, atom.accepts label = true
  name_length : ([46].intercalate labels).length ≤ 170
  first : JsString
  first_hex : hex32.accepts first = true
  second : JsString
  second_hex : hex32.accepts second = true
  path : JsString
  path_length : path.length ≤ 512
  path_pattern : pathPattern.accepts path = true
  path_ne : path ≠ []

namespace Address
variable (a : Address)

def name : JsString := [46].intercalate a.labels
def ownerPort : JsString := portIdPrefix ++ a.first ++ a.second
def namespaceHost : JsString := a.first ++ 46 :: (a.second ++ js ".sdpn")
def host : JsString := [46].intercalate (a.labels ++ [a.namespaceHost])

/-- The address without its path. -/
def bare : JsString := js "port://" ++ a.host
def uri : JsString := a.bare ++ a.path

def parsed : PortAddress := ⟨a.uri, a.name, a.ownerPort, a.path, a.namespaceHost⟩

end Address

/-! ## Patterns -/

theorem atom_ne_nil {label : JsString} (h : atom.accepts label = true) : label ≠ [] := by
  rintro rfl
  exact absurd h (by decide)

theorem dot_not_mem_atom {label : JsString} (h : atom.accepts label = true) : (46 : UInt16) ∉ label :=
  Regex.not_mem_of_accepts h (by decide)

theorem dot_not_mem_hex {s : JsString} (h : hex32.accepts s = true) : (46 : UInt16) ∉ s :=
  Regex.not_mem_of_accepts h (by decide)

theorem hex32_length {s : JsString} (h : hex32.accepts s = true) : s.length = 32 := by
  rw [hex32, Regex.accepts_iff, Regex.matches_run] at h
  omega

/-! ## What the checks read -/

theorem intercalate_eq_nil {labels : List JsString} (h : ∀ label ∈ labels, label ≠ []) :
    ([46] : JsString).intercalate labels = [] ↔ labels = [] := by
  constructor
  · intro hnil
    cases labels with
    | nil => rfl
    | cons label rest =>
      have hne := h label List.mem_cons_self
      cases rest with
      | nil => simp_all
      | cons next rest => simp [List.intercalate_cons_cons] at hnil
  · rintro rfl
    rfl

theorem nameParts_eq_ok {name : Option Json} {labels : List JsString} :
    nameParts name = .ok labels ↔ name = some (.str ([46].intercalate labels)) ∧ ([46].intercalate labels).length ≤ 170 ∧
      labels.length ≤ 5 ∧ ∀ label ∈ labels, atom.accepts label = true := by
  simp only [nameParts, bind_eq_ok, orThrow_eq_ok, ensure_eq_ok, pure_eq_ok, Json.bind_str?_eq_some, exists_const,
    decide_eq_true_eq, Bool.and_eq_true, List.all_eq_true]
  constructor
  · rintro ⟨text, rfl, hlength, ⟨hcount, hatoms⟩, rfl⟩
    have hback : ([46] : JsString).intercalate (if text.isEmpty then [] else text.splitOn 46) = text := by
      split
      · rename_i hempty
        exact (List.isEmpty_iff.mp hempty).symm
      · exact List.intercalate_splitOn 46
    exact ⟨by rw [hback], by rw [hback]; exact hlength, hcount, hatoms⟩
  · rintro ⟨rfl, hlength, hcount, hatoms⟩
    have hlabels : (if (([46] : JsString).intercalate labels).isEmpty then [] else (([46] : JsString).intercalate labels).splitOn 46) =
        labels := by
      have hempty := intercalate_eq_nil fun label hlabel => atom_ne_nil (hatoms label hlabel)
      split
      · rename_i h
        exact (hempty.mp (List.isEmpty_iff.mp h)).symm
      · rename_i h
        have hne : labels ≠ [] := fun hnil => h (List.isEmpty_iff.mpr (hempty.mpr hnil))
        exact List.splitOn_intercalate 46 (fun label hlabel => dot_not_mem_atom (hatoms label hlabel)) hne
    exact ⟨_, rfl, hlength, by rw [hlabels]; exact ⟨hcount, hatoms⟩, hlabels⟩

theorem safePath_eq_ok {path : Option Json} {text : JsString} :
    safePath path = .ok text ↔ ∃ s, path = some (.str s) ∧ s.length ≤ 512 ∧ pathPattern.accepts s = true ∧
      (if s.isEmpty then [47] else s) = text := by
  simp only [safePath, bind_eq_ok, orThrow_eq_ok, ensure_eq_ok, pure_eq_ok, Json.bind_str?_eq_some, exists_const,
    decide_eq_true_eq, Bool.and_eq_true, and_assoc]

theorem portIdPattern_iff {text : JsString} : portIdPattern.accepts text = true ↔
    ∃ first second, hex32.accepts first = true ∧ hex32.accepts second = true ∧ text = portIdPrefix ++ first ++ second := by
  rw [Regex.accepts_iff, portIdPattern, Regex.matches_seq]
  constructor
  · rintro ⟨lead, hash, rfl, hlead, hhash⟩
    rw [Regex.text, Regex.matches_lit] at hlead
    subst hlead
    rw [hex64, Regex.matches_run] at hhash
    obtain ⟨hall, hl, hm⟩ := hhash
    refine ⟨hash.take 32, hash.drop 32, ?_, ?_, by rw [List.append_assoc, List.take_append_drop]; rfl⟩
    · rw [hex32, Regex.accepts_iff, Regex.matches_run, List.length_take]
      exact ⟨fun u hu => hall u (List.mem_of_mem_take hu), by omega, by omega⟩
    · rw [hex32, Regex.accepts_iff, Regex.matches_run, List.length_drop]
      exact ⟨fun u hu => hall u (List.mem_of_mem_drop hu), by omega, by omega⟩
  · rintro ⟨first, second, hfirst, hsecond, rfl⟩
    rw [hex32, Regex.accepts_iff, Regex.matches_run] at hfirst hsecond
    refine ⟨portIdPrefix, first ++ second, List.append_assoc _ _ _, .lit _, ?_⟩
    rw [hex64, Regex.matches_run, List.length_append]
    refine ⟨fun u hu => ?_, by omega, by omega⟩
    rcases List.mem_append.mp hu with hu | hu
    · exact hfirst.1 u hu
    · exact hsecond.1 u hu

theorem validPortId_eq_ok {value : Option Json} {text : JsString} :
    validPortId value = .ok text ↔ value = some (.str text) ∧ portIdPattern.accepts text = true := by
  simp only [validPortId, bind_eq_ok, orThrow_eq_ok, ensure_eq_ok, pure_eq_ok, Json.bind_str?_eq_some, exists_const]
  constructor
  · rintro ⟨s, hs, hpattern, rfl⟩
    exact ⟨hs, hpattern⟩
  · rintro ⟨hs, hpattern⟩
    exact ⟨text, hs, hpattern, rfl⟩

theorem portNamespaceHost_eq_ok {ownerPort : Option Json} {host : JsString} :
    portNamespaceHost ownerPort = .ok host ↔ ∃ first second, hex32.accepts first = true ∧ hex32.accepts second = true ∧
      ownerPort = some (.str (portIdPrefix ++ first ++ second)) ∧ host = first ++ 46 :: (second ++ js ".sdpn") := by
  have hhalves : ∀ {first : JsString} (second : JsString), hex32.accepts first = true →
      (portIdPrefix ++ first ++ second).drop portIdPrefix.length = first ++ second ∧ (first ++ second).take 32 = first ∧
        (first ++ second).drop 32 = second := by
    intro first second hfirst
    have hlength := hex32_length hfirst
    exact ⟨by rw [List.append_assoc, List.drop_left], List.take_left' hlength, List.drop_left' hlength⟩
  simp only [portNamespaceHost, bind_eq_ok, pure_eq_ok, validPortId_eq_ok, portIdPattern_iff]
  constructor
  · rintro ⟨text, ⟨rfl, first, second, hfirst, hsecond, rfl⟩, rfl⟩
    obtain ⟨hdrop, htake, hrest⟩ := hhalves second hfirst
    exact ⟨first, second, hfirst, hsecond, rfl, by rw [hdrop, htake, hrest]⟩
  · rintro ⟨first, second, hfirst, hsecond, rfl, rfl⟩
    obtain ⟨hdrop, htake, hrest⟩ := hhalves second hfirst
    exact ⟨_, ⟨rfl, first, second, hfirst, hsecond, rfl⟩, by rw [hdrop, htake, hrest]⟩

/-! ## Making an address -/

theorem pathPattern_slash : pathPattern.accepts [47] = true := by decide

/-- The path of an address as `makePortUri` completes it. -/
def orRoot (path : JsString) : JsString := if path.isEmpty then [47] else path

theorem orRoot_ne_nil (path : JsString) : orRoot path ≠ [] := by
  unfold orRoot
  split
  · exact List.cons_ne_nil _ _
  · rename_i h
    exact fun hnil => h (List.isEmpty_iff.mpr hnil)

theorem orRoot_of_ne {path : JsString} (h : path ≠ []) : orRoot path = path :=
  if_neg fun hempty => h (List.isEmpty_iff.mp hempty)

theorem orRoot_ok {path : JsString} (hlength : path.length ≤ 512) (hpattern : pathPattern.accepts path = true) :
    (orRoot path).length ≤ 512 ∧ pathPattern.accepts (orRoot path) = true := by
  unfold orRoot
  split
  · exact ⟨by simp, pathPattern_slash⟩
  · exact ⟨hlength, hpattern⟩

theorem Address.makePortUri (a : Address) {path : JsString} (hlength : path.length ≤ 512)
    (hpattern : pathPattern.accepts path = true) (hpath : a.path = orRoot path) :
    makePortUri (some (.str a.ownerPort)) (some (.str a.name)) (some (.str path)) = .ok a.uri := by
  simp only [Native.makePortUri, bind_eq_ok, pure_eq_ok, Option.getD_some]
  refine ⟨a.labels, nameParts_eq_ok.mpr ⟨rfl, a.name_length, a.labels_length, a.labels_atoms⟩, a.namespaceHost,
    portNamespaceHost_eq_ok.mpr ⟨a.first, a.second, a.first_hex, a.second_hex, rfl, rfl⟩, a.path,
    safePath_eq_ok.mpr ⟨path, rfl, hlength, hpattern, hpath.symm⟩, rfl⟩

theorem Address.portNamespaceHost (a : Address) : portNamespaceHost (some (.str a.ownerPort)) = .ok a.namespaceHost :=
  portNamespaceHost_eq_ok.mpr ⟨a.first, a.second, a.first_hex, a.second_hex, rfl, rfl⟩

/-- What `makePortUri` makes is the text of an address. -/
theorem makePortUri_eq_ok {ownerPort name path : Json} {uri : JsString}
    (h : makePortUri (some ownerPort) (some name) (some path) = .ok uri) :
    ∃ (a : Address) (text : JsString), ownerPort = .str a.ownerPort ∧ name = .str a.name ∧ path = .str text ∧
      a.path = orRoot text ∧ uri = a.uri := by
  simp only [Native.makePortUri, bind_eq_ok, pure_eq_ok, Option.getD_some] at h
  obtain ⟨labels, hname, host, hhost, text, hpath, rfl⟩ := h
  obtain ⟨hname, hname_length, hlabels, hatoms⟩ := nameParts_eq_ok.mp hname
  obtain ⟨first, second, hfirst, hsecond, howner, rfl⟩ := portNamespaceHost_eq_ok.mp hhost
  obtain ⟨s, hs, hlength, hpattern, rfl⟩ := safePath_eq_ok.mp hpath
  obtain ⟨hok_length, hok_pattern⟩ := orRoot_ok hlength hpattern
  exact ⟨⟨labels, hlabels, hatoms, hname_length, first, hfirst, second, hsecond, orRoot s, hok_length, hok_pattern,
    orRoot_ne_nil s⟩, s, Option.some.inj howner, Option.some.inj hname, Option.some.inj hs, rfl, rfl⟩

/-! ## Reading an address -/

theorem path_head {path : JsString} (hpattern : pathPattern.accepts path = true) (hne : path ≠ []) :
    ∃ rest, path = 47 :: rest := by
  rw [Regex.accepts_iff, pathPattern, Regex.matches_seq] at hpattern
  obtain ⟨t, u, rfl, hsegments, htail⟩ := hpattern
  cases t with
  | nil =>
    rw [Regex.matches_alt, Regex.text, Regex.text, Regex.matches_lit, Regex.matches_lit] at htail
    rcases htail with rfl | rfl
    · exact ⟨[], rfl⟩
    · exact absurd rfl hne
  | cons c t =>
    obtain ⟨s, t, rfl, hsegment, -⟩ := Regex.star_cons_iff.mp hsegments
    obtain ⟨v, w, hv, hslash, -⟩ := Regex.matches_seq.mp hsegment
    rw [Regex.text, Regex.matches_lit] at hslash
    subst hslash
    exact ⟨_, congrArg (· :: _) (List.cons.inj hv).1⟩

theorem pathPattern_cases {path : JsString} (h : pathPattern.accepts path = true) : path = [] ∨ ∃ rest, path = 47 :: rest := by
  by_cases hne : path = []
  · exact Or.inl hne
  · exact Or.inr (path_head h hne)

/-- `new URL` reads the host and the path of an address. -/
theorem urlParts_of {host path : JsString} (hhost : (47 : UInt16) ∉ host) (hpath : path = [] ∨ ∃ rest, path = 47 :: rest) :
    urlParts (js "port://" ++ host ++ path) = (host, path) := by
  have hdrop : (js "port://" ++ host ++ path).drop 7 = host ++ path := by
    rw [List.append_assoc]
    exact List.drop_left' (by decide)
  have hall : ∀ u ∈ host, (u != 47) = true := by
    intro u hu
    rw [bne_iff_ne]
    rintro rfl
    exact hhost hu
  have hstop : path.takeWhile (· != 47) = [] ∧ path.dropWhile (· != 47) = path := by
    rcases hpath with rfl | ⟨rest, rfl⟩
    · exact ⟨rfl, rfl⟩
    · exact ⟨rfl, rfl⟩
  rw [urlParts, hdrop, List.takeWhile_append_of_pos hall, List.dropWhile_append_of_pos hall, hstop.1, hstop.2,
    List.append_nil]

theorem intercalate_append_intercalate {tail : List JsString} (htail : tail ≠ []) (labels : List JsString) :
    ([46] : JsString).intercalate (labels ++ [[46].intercalate tail]) = [46].intercalate (labels ++ tail) := by
  induction labels with
  | nil => simp
  | cons label rest ih =>
    have hne : ∀ last : List JsString, last ≠ [] → ([46] : JsString).intercalate (label :: (rest ++ last)) =
        label ++ [46] ++ [46].intercalate (rest ++ last) := by
      intro last hlast
      cases hrest : rest ++ last with
      | nil => exact absurd (List.append_eq_nil_iff.mp hrest).2 hlast
      | cons next more => rw [List.intercalate_cons_cons]
    rw [List.cons_append, List.cons_append, hne _ (List.cons_ne_nil _ _), hne _ htail, ih]

theorem length_intercalate_append_le (labels : List JsString) (last : JsString) :
    last.length ≤ (([46] : JsString).intercalate (labels ++ [last])).length ∧
      (([46] : JsString).intercalate (labels ++ [last])).length ≤
        (([46] : JsString).intercalate labels).length + 1 + last.length := by
  induction labels with
  | nil => simp
  | cons label rest ih =>
    cases rest with
    | nil =>
      simp only [List.cons_append, List.nil_append, List.intercalate_cons_cons, List.intercalate_singleton, List.length_append,
        List.length_singleton]
      omega
    | cons next more =>
      simp only [List.cons_append, List.intercalate_cons_cons, List.length_append, List.length_singleton] at ih ⊢
      omega

theorem forall_mem_intercalate {p : UInt16 → Prop} {x : UInt16} (hx : p x) {parts : List JsString}
    (h : ∀ part ∈ parts, ∀ u ∈ part, p u) : ∀ u ∈ [x].intercalate parts, p u := by
  induction parts with
  | nil => simp
  | cons part rest ih =>
    have hpart := h part List.mem_cons_self
    have hrest := ih fun other hother => h other (List.mem_cons_of_mem part hother)
    cases rest with
    | nil => simpa using hpart
    | cons next more =>
      rw [List.intercalate_cons_cons]
      simp only [List.forall_mem_append, List.forall_mem_cons, List.not_mem_nil, false_implies, implies_true, and_true]
      exact ⟨⟨hpart, hx⟩, hrest⟩

/-- The characters of a host. -/
def hostClass : CharClass := Regex.lower ++ Regex.digits ++ [(46, 46), (45, 45)]

theorem atom_class {label : JsString} (h : atom.accepts label = true) : ∀ u ∈ label, hostClass.has u = true := by
  intro u hu
  have huses := ((Regex.accepts_iff _ _).mp h).uses u hu
  simp only [atom, Regex.uses, hostClass, Regex.lower, Regex.digits, CharClass.has, List.any_append, List.any_cons,
    List.any_nil, Bool.or_false, Bool.or_eq_true, Bool.and_eq_true, decide_eq_true_eq] at huses ⊢
  omega

theorem hex32_class {s : JsString} (h : hex32.accepts s = true) : ∀ u ∈ s, hostClass.has u = true := by
  intro u hu
  have huses := ((Regex.accepts_iff _ _).mp h).uses u hu
  simp only [hex32, Regex.uses, hostClass, Regex.hex, Regex.lower, Regex.digits, CharClass.has, List.any_append, List.any_cons,
    List.any_nil, Bool.or_false, Bool.or_eq_true, Bool.and_eq_true, decide_eq_true_eq] at huses ⊢
  omega

namespace Address
variable (a : Address)

/-- The labels of the whole host. -/
def hostLabels : List JsString := a.labels ++ [a.first, a.second, js "sdpn"]

theorem host_eq : a.host = [46].intercalate a.hostLabels := by
  have hinner : ([46] : JsString).intercalate [a.first, a.second, js "sdpn"] = a.namespaceHost := by
    simp only [List.intercalate_cons_cons, List.intercalate_singleton, namespaceHost, List.append_assoc, List.cons_append,
      List.nil_append]
    rfl
  rw [host, hostLabels, ← hinner, intercalate_append_intercalate (List.cons_ne_nil _ _)]

theorem splitOn_host : a.host.splitOn 46 = a.hostLabels := by
  rw [host_eq]
  refine List.splitOn_intercalate 46 ?_ (by simp [hostLabels])
  simp only [hostLabels, List.forall_mem_append, List.forall_mem_cons, List.not_mem_nil, false_implies, implies_true, and_true]
  exact ⟨fun label hlabel => dot_not_mem_atom (a.labels_atoms label hlabel), dot_not_mem_hex a.first_hex,
    dot_not_mem_hex a.second_hex, by decide⟩

theorem host_class : ∀ u ∈ a.host, hostClass.has u = true := by
  rw [host_eq]
  refine forall_mem_intercalate (by decide) ?_
  simp only [hostLabels, List.forall_mem_append, List.forall_mem_cons, List.not_mem_nil, false_implies, implies_true, and_true]
  exact ⟨fun label hlabel => atom_class (a.labels_atoms label hlabel), hex32_class a.first_hex, hex32_class a.second_hex,
    List.all_eq_true.mp (by decide)⟩

theorem namespaceHost_length : a.namespaceHost.length = 70 := by
  have hsuffix : (js ".sdpn").length = 5 := by decide
  rw [namespaceHost, List.length_append, List.length_cons, List.length_append, hex32_length a.first_hex,
    hex32_length a.second_hex, hsuffix]

theorem host_length : 70 ≤ a.host.length ∧ a.host.length ≤ 241 := by
  have hname := a.name_length
  have hspace := a.namespaceHost_length
  have hbounds := length_intercalate_append_le a.labels a.namespaceHost
  rw [host]
  omega

theorem host_ne_nil : a.host ≠ [] := by
  intro h
  have hlength := a.host_length
  rw [h, List.length_nil] at hlength
  omega

theorem slash_not_mem_host : (47 : UInt16) ∉ a.host := by
  intro hmem
  exact absurd (a.host_class 47 hmem) (by decide)

theorem uriPattern_of_path {path : JsString} (h : pathPattern.accepts path = true) :
    uriPattern.accepts (a.bare ++ path) = true := by
  rw [Regex.accepts_iff] at h ⊢
  rw [bare, List.append_assoc]
  exact .seq (.lit _) (.seq (Regex.matches_plus a.host_ne_nil a.host_class) h)

theorem length_bare : a.bare.length ≤ 248 := by
  have hscheme : (js "port://").length = 7 := by decide
  have hlength := a.host_length
  rw [bare, List.length_append, hscheme]
  omega

theorem urlParts_bare {path : JsString} (h : path = [] ∨ ∃ rest, path = 47 :: rest) :
    urlParts (a.bare ++ path) = (a.host, path) := urlParts_of a.slash_not_mem_host h

/-- What is read of the labels of a host. -/
theorem hostLabels_read : 3 ≤ a.hostLabels.length ∧ a.hostLabels.take (a.hostLabels.length - 3) = a.labels ∧
    a.hostLabels.getD (a.hostLabels.length - 3) [] = a.first ∧ a.hostLabels.getD (a.hostLabels.length - 2) [] = a.second ∧
    (a.hostLabels.getLast? == some (js "sdpn")) = true := by
  have hlabels : a.hostLabels.length = a.labels.length + 3 := by simp [hostLabels]
  rw [hlabels, Nat.add_sub_cancel]
  refine ⟨by omega, List.take_left' rfl, by simp [hostLabels], by simp [hostLabels], ?_⟩
  rw [hostLabels, List.getLast?_append]
  simp

theorem bare_length_le {path : JsString} (h : path.length ≤ 512) : (a.bare ++ path).length ≤ 1024 := by
  have := a.length_bare
  rw [List.length_append]
  omega

/-- The text of an address is the canonical one, or lacks its final slash. -/
theorem canonical {path : JsString} (hpattern : pathPattern.accepts path = true) (hpath : a.path = orRoot path) :
    (a.uri == a.bare ++ path || dropFinalSlash a.uri == a.bare ++ path) = true := by
  rw [Bool.or_eq_true, beq_iff_eq, beq_iff_eq, uri, hpath]
  rcases pathPattern_cases hpattern with rfl | ⟨rest, rfl⟩
  · right
    simp [orRoot, dropFinalSlash]
  · exact Or.inl rfl

/-- Reading an address, with its path or, for the root, without. -/
theorem parsePortUri {path : JsString} (hlength : path.length ≤ 512) (hpattern : pathPattern.accepts path = true)
    (hpath : a.path = orRoot path) : parsePortUri (.str (a.bare ++ path)) = .ok a.parsed := by
  have hhead := pathPattern_cases hpattern
  obtain ⟨hcount, htake, hfirst, hsecond, hlast⟩ := a.hostLabels_read
  have hmade := a.makePortUri a.path_length a.path_pattern (orRoot_of_ne a.path_ne).symm
  simp only [Native.parsePortUri, bind_eq_ok, orThrow_eq_ok, ensure_eq_ok, pure_eq_ok, Json.str?, exists_const,
    urlParts_bare a hhead, splitOn_host, htake, hfirst, hsecond, Option.some.injEq, exists_eq_left', Bool.and_eq_true,
    decide_eq_true_eq]
  refine ⟨⟨a.bare_length_le hlength, a.uriPattern_of_path hpattern⟩, ⟨hcount, hlast⟩, ⟨a.first_hex, a.second_hex⟩, a.labels,
    nameParts_eq_ok.mpr ⟨rfl, a.name_length, a.labels_length, a.labels_atoms⟩, a.path,
    safePath_eq_ok.mpr ⟨path, rfl, hlength, hpattern, hpath.symm⟩, a.uri, hmade, a.canonical hpattern hpath, a.namespaceHost,
    a.portNamespaceHost, rfl⟩

end Address

theorem eq_of_dropFinalSlash {made text : JsString} (h : dropFinalSlash made = text) : made = text ∨ made = text ++ [47] := by
  unfold dropFinalSlash at h
  split at h
  · rename_i hlast
    obtain ⟨lead, rfl⟩ := List.getLast?_eq_some_iff.mp hlast
    rw [List.dropLast_concat] at h
    exact Or.inr (by rw [h])
  · exact Or.inl h

/-- The first pattern splits an address into a host and a path. -/
theorem uriPattern_cases {text : JsString} (h : uriPattern.accepts text = true) :
    ∃ host path, text = js "port://" ++ host ++ path ∧ (47 : UInt16) ∉ host ∧ pathPattern.accepts path = true := by
  rw [Regex.accepts_iff, uriPattern, Regex.matches_seq] at h
  obtain ⟨scheme, rest, rfl, hscheme, hrest⟩ := h
  rw [Regex.text, Regex.matches_lit] at hscheme
  obtain ⟨host, path, rfl, hhost, hpath⟩ := Regex.matches_seq.mp hrest
  refine ⟨host, path, by rw [hscheme, List.append_assoc], fun hmem => ?_, (Regex.accepts_iff _ _).mpr hpath⟩
  exact absurd (hhost.uses 47 hmem) (by decide)

theorem str?_eq_some {v : Json} {s : JsString} : v.str? = some s ↔ v = .str s := by
  cases v <;> simp [Json.str?]

/-- What `parsePortUri` reads is an address: its text, or that text without the slash of the root. -/
theorem parsePortUri_eq_ok {uri : Json} {parsed : PortAddress} (h : parsePortUri uri = .ok parsed) :
    ∃ (a : Address) (path : JsString), parsed = a.parsed ∧ uri = .str (a.bare ++ path) ∧ path.length ≤ 512 ∧
      pathPattern.accepts path = true ∧ a.path = orRoot path := by
  simp only [Native.parsePortUri, bind_eq_ok, orThrow_eq_ok, ensure_eq_ok, pure_eq_ok, exists_const, Bool.and_eq_true,
    Bool.or_eq_true, decide_eq_true_eq, beq_iff_eq] at h
  obtain ⟨text, htext, ⟨-, huri⟩, -, ⟨hfirst, hsecond⟩, labels, hname, path, hpath, made, hmade, hcanonical, namespaceHost,
    hnamespace, rfl⟩ := h
  obtain ⟨host, tail, htext_eq, hhost, htail⟩ := uriPattern_cases huri
  have htail_head := pathPattern_cases htail
  have hparts := urlParts_of hhost htail_head
  rw [← htext_eq] at hparts
  rw [hparts] at hfirst hsecond hname hpath hmade hnamespace ⊢
  obtain ⟨hname_eq, hname_length, hlabels, hatoms⟩ := nameParts_eq_ok.mp hname
  obtain ⟨tail', htail', hlength, hpattern, rfl⟩ := safePath_eq_ok.mp hpath
  rw [Option.some.injEq, Json.str.injEq] at htail' hname_eq
  subst htail'
  obtain ⟨hroot_length, hroot_pattern⟩ := orRoot_ok hlength hpattern
  let a : Address := ⟨labels, hlabels, hatoms, hname_length, _, hfirst, _, hsecond, orRoot tail, hroot_length, hroot_pattern,
    orRoot_ne_nil tail⟩
  have hmade' := a.makePortUri hroot_length hroot_pattern (orRoot_of_ne (orRoot_ne_nil tail)).symm
  have hmade_eq : made = a.uri := by
    rw [hname_eq] at hmade
    exact Except.ok.inj (hmade.symm.trans hmade')
  have hnamespace_eq : namespaceHost = a.namespaceHost := Except.ok.inj (hnamespace.symm.trans a.portNamespaceHost)
  have hsame : a.host = host := by
    have hread := a.urlParts_bare (pathPattern_cases a.path_pattern)
    change urlParts a.uri = _ at hread
    rcases hcanonical with hwhole | hslash
    · rw [← hmade_eq, hwhole, hparts] at hread
      exact (Prod.mk.inj hread).1.symm
    · rcases eq_of_dropFinalSlash hslash with hwhole | hlonger
      · rw [← hmade_eq, hwhole, hparts] at hread
        exact (Prod.mk.inj hread).1.symm
      · have hhead : tail ++ [47] = [] ∨ ∃ rest, tail ++ [47] = 47 :: rest := by
          rcases htail_head with rfl | ⟨rest, rfl⟩
          · exact Or.inr ⟨[], rfl⟩
          · exact Or.inr ⟨rest ++ [47], rfl⟩
        rw [← hmade_eq, hlonger, htext_eq, List.append_assoc, urlParts_of hhost hhead] at hread
        exact (Prod.mk.inj hread).1.symm
  refine ⟨a, tail, ?_, ?_, hlength, hpattern, rfl⟩
  · rw [hmade_eq, hnamespace_eq, hname_eq]
    rfl
  · rw [str?_eq_some.mp htext, htext_eq, Address.bare, hsame]

/-! ## The grammar -/

/-- What `makePortUri` makes is read back into its parts, the empty path as the root; and what
`parsePortUri` reads is what `makePortUri` makes of the parts it returns, or lacks the slash of
the root. -/
theorem port_uri_grammar :
    (∀ ownerPort name path uri, makePortUri (some ownerPort) (some name) (some path) = .ok uri →
      ∃ parsed, parsePortUri (.str uri) = .ok parsed ∧ ownerPort = .str parsed.ownerPort ∧ name = .str parsed.name ∧
        (path = .str parsed.path ∨ path = .str [] ∧ parsed.path = js "/") ∧ parsed.uri = uri ∧
        makePortUri (some (.str parsed.ownerPort)) (some (.str parsed.name)) (some (.str parsed.path)) = .ok parsed.uri) ∧
    (∀ uri parsed, parsePortUri uri = .ok parsed →
      makePortUri (some (.str parsed.ownerPort)) (some (.str parsed.name)) (some (.str parsed.path)) = .ok parsed.uri ∧
        (uri = .str parsed.uri ∨ parsed.path = js "/" ∧ ∃ text, uri = .str text ∧ parsed.uri = text ++ js "/")) := by
  have hslash : js "/" = [47] := by decide
  have hmade : ∀ a : Address, makePortUri (some (.str a.ownerPort)) (some (.str a.name)) (some (.str a.path)) = .ok a.uri :=
    fun a => a.makePortUri a.path_length a.path_pattern (orRoot_of_ne a.path_ne).symm
  constructor
  · intro ownerPort name path uri h
    obtain ⟨a, text, rfl, rfl, rfl, hpath, rfl⟩ := makePortUri_eq_ok h
    refine ⟨a.parsed, a.parsePortUri a.path_length a.path_pattern (orRoot_of_ne a.path_ne).symm, rfl, rfl, ?_, rfl, hmade a⟩
    by_cases hempty : text = []
    · subst hempty
      exact Or.inr ⟨rfl, hpath.trans hslash.symm⟩
    · rw [orRoot_of_ne hempty] at hpath
      exact Or.inl (congrArg Json.str hpath.symm)
  · intro uri parsed h
    obtain ⟨a, path, rfl, rfl, -, -, hpath⟩ := parsePortUri_eq_ok h
    refine ⟨hmade a, ?_⟩
    by_cases hempty : path = []
    · subst hempty
      right
      refine ⟨hpath.trans hslash.symm, a.bare, by rw [List.append_nil], ?_⟩
      change a.bare ++ a.path = _
      rw [hpath, hslash]
      rfl
    · left
      rw [orRoot_of_ne hempty] at hpath
      rw [← hpath]
      rfl

namespace Sample

/-- The root address of a namespace. -/
def rootAddress : Address where
  labels := []
  labels_length := by decide
  labels_atoms := by simp
  name_length := by decide
  first := List.replicate 32 97
  first_hex := by decide
  second := List.replicate 32 48
  second_hex := by decide
  path := [47]
  path_length := by decide
  path_pattern := pathPattern_slash
  path_ne := List.cons_ne_nil _ _

theorem port_uri_grammar_root : ∃ parsed, parsePortUri (.str rootAddress.uri) = .ok parsed ∧
    parsed.uri = rootAddress.uri := by
  have hmade : makePortUri (some (.str rootAddress.ownerPort)) (some (.str rootAddress.name)) (some (.str [])) =
      .ok rootAddress.uri := rootAddress.makePortUri (by decide) (by decide) rfl
  obtain ⟨parsed, hparsed, -, -, -, huri, -⟩ := port_uri_grammar.1 _ _ _ _ hmade
  exact ⟨parsed, hparsed, huri⟩

end Sample

end Native
