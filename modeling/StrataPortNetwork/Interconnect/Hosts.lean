import StrataPortNetwork.Interconnect.Policy

/-! # The host that a navigation reaches

Where the policy finds an IP address in the host of an https URL, the browser finds the same host:
the dotted address or what stands in brackets.
-/
namespace Interconnect
open Py (CodePoint Str point str split rstrip urlsplit SplitResult ipAddress Unicode partition rpartition isDigits isDigitIn
  isDigitIn_val isCaseless number val_point asciiLower)
open Web (Browser Spells Numeral Host dot readHost hostText parseHost splitPort)

/-! ## What the browser reads as an address -/

theorem mem_str_val {s : String} {c : CodePoint} (h : c ∈ str s) : c.val ∈ s.toList.map Char.toNat := by
  obtain ⟨d, hd, rfl⟩ := List.mem_map.mp h
  have hval : (point d.toNat).val = d.toNat := Nat.mod_eq_of_lt (Py.char_toNat_lt d)
  rw [hval]
  exact List.mem_map_of_mem hd

/-- A character that numbers in a host are written with. -/
def IsNumeric (c : CodePoint) : Prop := isDigitIn 16 c = true ∨ c = point 120 ∨ c = point 88 ∨ c = dot

theorem IsNumeric.allowed {c : CodePoint} (h : IsNumeric c) : Web.isForbidden c = false := by
  have hval : c.val = 46 ∨ c.val = 88 ∨ c.val = 120 ∨ (48 ≤ c.val ∧ c.val ≤ 57) ∨ (97 ≤ c.val ∧ c.val ≤ 102) ∨
      (65 ≤ c.val ∧ c.val ≤ 70) := by
    rcases h with h | rfl | rfl | rfl
    · have := isDigitIn_val h
      omega
    · exact .inr (.inr (.inl (val_point (by decide))))
    · exact .inr (.inl (val_point (by decide)))
    · exact .inl (val_point (by decide))
  rw [Web.isForbidden, Bool.or_eq_false_iff, Bool.or_eq_false_iff]
  refine ⟨⟨by simp only [decide_eq_false_iff_not]; omega, by simp only [beq_eq_false_iff_ne]; omega⟩, ?_⟩
  rw [Bool.eq_false_iff]
  intro hmem
  have hforbidden : c.val ∈ [35, 47, 58, 60, 62, 63, 64, 91, 92, 93, 94, 124, 37] := mem_str_val (List.contains_iff_mem.mp hmem)
  simp only [List.mem_cons, List.not_mem_nil, or_false] at hforbidden
  omega

theorem isDigitIn_mono {radix radix' : ℕ} (hle : radix ≤ radix') {c : CodePoint} (h : isDigitIn radix c = true) :
    isDigitIn radix' c = true := by
  rw [isDigitIn] at h ⊢
  cases hvalue : Py.digitValue? c with
  | none =>
    rw [hvalue] at h
    cases h
  | some d =>
    rw [hvalue] at h
    exact decide_eq_true ((of_decide_eq_true h).trans_le hle)

theorem isNumeric_text (numeral : Numeral) : ∀ c ∈ numeral.text, IsNumeric c := by
  have hzero : IsNumeric (point 48) := .inl (by decide)
  have hall : ∀ {radix : ℕ} {digits : Str}, radix ≤ 16 → digits.all (isDigitIn radix) = true → ∀ c ∈ digits, IsNumeric c :=
    fun hradix h c hc => .inl (isDigitIn_mono hradix (List.all_eq_true.mp h c hc))
  cases numeral with
  | decimal digits _ h _ => exact hall (by decide) h
  | octal digits _ h => exact List.forall_mem_cons.mpr ⟨hzero, hall (by decide) h⟩
  | hexadecimal capital digits h =>
    refine List.forall_mem_cons.mpr ⟨hzero, List.forall_mem_cons.mpr ⟨?_, hall le_rfl h⟩⟩
    cases capital
    · exact .inr (.inl rfl)
    · exact .inr (.inr (.inl rfl))

theorem forall_mem_intercalate {P : CodePoint → Prop} {separator : CodePoint} {parts : List Str} (hseparator : P separator)
    (h : ∀ part ∈ parts, ∀ c ∈ part, P c) : ∀ c ∈ [separator].intercalate parts, P c := by
  induction parts with
  | nil => simp
  | cons part rest ih =>
    have hrest := ih fun part hpart => h part (List.mem_cons_of_mem _ hpart)
    by_cases hne : rest = []
    · subst hne
      rw [List.intercalate_singleton]
      exact h part List.mem_cons_self
    · intro c hc
      rw [List.intercalate_cons_of_ne_nil hne, List.mem_append, List.mem_append, List.mem_singleton] at hc
      rcases hc with (hc | rfl) | hc
      · exact h part List.mem_cons_self c hc
      · exact hseparator
      · exact hrest c hc

theorem spells_isNumeric {text : Str} {a : ℕ} (h : Spells text a) : text ≠ [] ∧ ∀ c ∈ text, IsNumeric c := by
  obtain ⟨numerals, hne, -, htext, -⟩ := h
  have hdot : IsNumeric dot := .inr (.inr (.inr rfl))
  have hjoin := forall_mem_intercalate hdot (List.forall_mem_map.mpr fun numeral (_ : numeral ∈ numerals) => isNumeric_text numeral)
  have hjoined : [dot].intercalate (numerals.map Numeral.text) ≠ [] := by
    obtain ⟨numeral, rest, rfl⟩ := List.exists_cons_of_ne_nil hne
    intro hnil
    have hsplit := congrArg (split dot) hnil
    rw [Py.split_intercalate (by simp) (List.forall_mem_map.mpr fun numeral _ => numeral.dot_not_mem)] at hsplit
    exact numeral.text_ne_nil (List.cons.inj hsplit).1
  rcases htext with rfl | rfl
  · exact ⟨hjoined, hjoin⟩
  · refine ⟨by simp, fun c hc => ?_⟩
    rcases List.mem_append.mp hc with hc | hc
    · exact hjoin c hc
    · exact List.mem_singleton.mp hc ▸ hdot

/-- The browser reads an IPv4 address where the ASCII form of the host spells one. -/
theorem readHost_ipv4 {browser : Browser} {uri : Str} {a : ℕ} : readHost browser uri = some (.ipv4 a) ↔
    ∃ text domain, hostText uri = some text ∧ text.head? ≠ some (point 91) ∧ browser.asciiDomain text = some domain ∧
      Spells domain a := by
  constructor
  · intro h
    obtain ⟨text, htext, h⟩ := Option.bind_eq_some_iff.mp h
    rw [parseHost] at h
    split at h
    · split at h <;> cases h
    · rename_i hhead
      split at h
      · cases h
      · rename_i domain hdomain
        split at h
        · cases h
        · split at h
          · obtain ⟨b, hb, heq⟩ := Option.map_eq_some_iff.mp h
            obtain rfl := Host.ipv4.inj heq
            exact ⟨text, domain, htext, hhead, hdomain, Web.ipv4Parse_eq_some.mp hb⟩
          · cases h
  · rintro ⟨text, domain, htext, hhead, hdomain, hspells⟩
    obtain ⟨hne, hnumeric⟩ := spells_isNumeric hspells
    have hallowed : (domain = [] || domain.any Web.isForbidden) = false := by
      rw [Bool.or_eq_false_iff, List.any_eq_false]
      exact ⟨decide_eq_false hne, fun c hc => by rw [(hnumeric c hc).allowed]; exact Bool.false_ne_true⟩
    rw [readHost, htext, Option.bind_some, parseHost, if_neg hhead, hdomain]
    simp only [hallowed, hspells.endsInNumber, Web.ipv4Parse_eq_some.mpr hspells, Bool.false_eq_true, if_false, if_true,
      Option.map_some]

/-! ## What `ipaddress` reads -/

theorem mapM_of_imp {f g : Str → Option ℕ} (h : ∀ part n, f part = some n → g part = some n) {parts : List Str} {ns : List ℕ}
    (hparts : parts.mapM f = some ns) : parts.mapM g = some ns := by
  induction parts generalizing ns with
  | nil => exact hparts
  | cons part rest ih =>
    rw [List.mapM_cons] at hparts ⊢
    obtain ⟨n, hn, hparts⟩ := Option.bind_eq_some_iff.mp hparts
    obtain ⟨ms, hms, hparts⟩ := Option.bind_eq_some_iff.mp hparts
    rw [h part n hn, ih hms]
    exact hparts

theorem forall_mem_of_mapM {f : Str → Option ℕ} {P : ℕ → Prop} {Q : Str → Prop} (h : ∀ part n, f part = some n → P n ∧ Q part)
    {parts : List Str} {ns : List ℕ} (hparts : parts.mapM f = some ns) :
    ns.length = parts.length ∧ (∀ n ∈ ns, P n) ∧ ∀ part ∈ parts, Q part := by
  induction parts generalizing ns with
  | nil =>
    obtain rfl := Option.some.inj hparts
    simp
  | cons part rest ih =>
    rw [List.mapM_cons] at hparts
    obtain ⟨n, hn, hparts⟩ := Option.bind_eq_some_iff.mp hparts
    obtain ⟨ms, hms, hparts⟩ := Option.bind_eq_some_iff.mp hparts
    obtain rfl := Option.some.inj hparts
    obtain ⟨hlength, hP, hQ⟩ := ih hms
    obtain ⟨hn, hpart⟩ := h part n hn
    exact ⟨by simp [hlength], List.forall_mem_cons.mpr ⟨hn, hP⟩, List.forall_mem_cons.mpr ⟨hpart, hQ⟩⟩

/-- An octet of `ipaddress` is a decimal numeral. -/
theorem parseOctet_spec {octet : Str} {n : ℕ} (h : Py.parseOctet octet = some n) :
    Web.ipv4Number octet = some n ∧ n ≤ 255 ∧ octet ≠ [] ∧ ∀ c ∈ octet, isDigitIn 10 c = true := by
  rw [Py.parseOctet] at h
  split at h
  · rename_i hoctet
    split at h
    · rename_i hle
      obtain rfl := Option.some.inj h
      rw [Bool.and_eq_true, Bool.and_eq_true, isDigits, Bool.and_eq_true] at hoctet
      obtain ⟨⟨⟨hne, hdigits⟩, -⟩, hleading⟩ := hoctet
      have hne : octet ≠ [] := of_decide_eq_true hne
      refine ⟨Web.ipv4Number_eq_some.mpr ⟨.decimal octet hne hdigits fun hhead => ?_, rfl, rfl⟩, hle, hne,
        List.all_eq_true.mp hdigits⟩
      by_contra hlength
      have hzero : octet ≠ str "0" := fun heq => hlength (heq ▸ rfl)
      rw [hhead] at hleading
      simp [hzero] at hleading
    · cases h
  · cases h

/-- What `ipaddress` reads as an IPv4 address is digits and full stops, and spells the address. -/
theorem ipv4Address_spec {host : Str} {a : ℕ} (h : Py.ipv4Address host = some a) :
    Spells host a ∧ ∀ c ∈ host, isDigitIn 10 c = true ∨ c = dot := by
  unfold Py.ipv4Address at h
  split at h
  · rename_i n₁ n₂ n₃ n₄ hoctets
    obtain rfl := Option.some.inj h
    have hnumbers : (split dot host).mapM Web.ipv4Number = some [n₁, n₂, n₃, n₄] :=
      mapM_of_imp (fun _ _ hoctet => (parseOctet_spec hoctet).1) hoctets
    obtain ⟨hlength, hbytes, hparts⟩ := forall_mem_of_mapM (fun _ _ hoctet => (parseOctet_spec hoctet).2) hoctets
    have hlast : Web.hostParts host = split dot host := by
      rw [Web.hostParts, if_neg]
      rintro ⟨hempty, -⟩
      exact (hparts [] (List.mem_of_mem_getLast? (Option.mem_def.mpr hempty))).1 rfl
    refine ⟨Web.ipv4Parse_eq_some.mp ?_, fun c hc => ?_⟩
    · simp only [List.forall_mem_cons] at hbytes
      obtain ⟨h₁, h₂, h₃, h₄, -⟩ := hbytes
      have hfour : ¬ 4 < (split dot host).length := hlength ▸ (show ¬ 4 < 4 by decide)
      rw [Web.ipv4Parse, hlast, if_neg hfour, hnumbers, Option.bind_some, if_pos]
      · refine congrArg some ?_
        simp only [Web.address, Py.quad]
        ring
      · simp only [Web.inRange, Bool.and_eq_true, decide_eq_true_eq]
        omega
    · rw [← Py.intercalate_split dot host] at hc
      exact forall_mem_intercalate (P := fun c => isDigitIn 10 c = true ∨ c = dot) (.inr rfl)
        (fun part hpart c hc => .inl ((hparts part hpart).2 c hc)) c hc
  · cases h

theorem ipv6Number_colon {text : Str} {a : ℕ} (h : Py.ipv6Number text = some a) : point 58 ∈ text := by
  by_contra hnot
  have hparts : Py.hextetParts text = none := by
    rw [Py.hextetParts, Py.split_of_not_mem hnot]
    rfl
  rw [Py.ipv6Number, hparts] at h
  cases h

theorem ipv6Address_colon {text : Str} {a : ℕ} (h : Py.ipv6Address text = some a) : point 58 ∈ text := by
  rw [Py.ipv6Address] at h
  split at h
  · cases h
  · rcases Py.partition_spec (point 37) text with ⟨-, hpartition⟩ | ⟨address, scopeId, -, rfl, hpartition⟩
    · rw [hpartition] at h
      exact ipv6Number_colon h
    · rw [hpartition] at h
      dsimp only at h
      split at h
      · cases h
      · exact List.mem_append_left _ (ipv6Number_colon h)

/-! ## Full stops at the end of a host -/

theorem getLast?_intercalate {parts : List Str} {part : Str} (hlast : parts.getLast? = some part) (hne : part ≠ []) :
    ([dot].intercalate parts).getLast? = part.getLast? := by
  induction parts with
  | nil => cases hlast
  | cons first rest ih =>
    by_cases hrest : rest = []
    · subst hrest
      rw [List.getLast?_singleton, Option.some.injEq] at hlast
      rw [List.intercalate_singleton, hlast]
    · obtain ⟨next, rest, rfl⟩ := List.exists_cons_of_ne_nil hrest
      rw [List.getLast?_cons_cons] at hlast
      have hlast := ih hlast
      rw [List.intercalate_cons_of_ne_nil hrest, List.getLast?_append_of_ne_nil, hlast]
      intro hnil
      rw [hnil, List.getLast?_nil] at hlast
      exact hne (List.getLast?_eq_none_iff.mp hlast.symm)

/-- A host spells the same address without the full stops after it. -/
theorem spells_rstrip {text : Str} {a : ℕ} (h : Spells text a) : Spells (rstrip dot text) a := by
  obtain ⟨numerals, hne, hlength, htext, hrange, haddress⟩ := h
  refine ⟨numerals, hne, hlength, .inl ?_, hrange, haddress⟩
  obtain ⟨numeral, hnumeral⟩ := Option.ne_none_iff_exists'.mp (mt List.getLast?_eq_none_iff.mp hne)
  obtain ⟨c, hc⟩ := Option.ne_none_iff_exists'.mp (mt List.getLast?_eq_none_iff.mp numeral.text_ne_nil)
  have hlast : ([dot].intercalate (numerals.map Numeral.text)).getLast? = some c := by
    rw [getLast?_intercalate (by rw [List.getLast?_map, hnumeral]; rfl) numeral.text_ne_nil, hc]
  have hdot : decide (c = dot) = false := by
    refine decide_eq_false ?_
    rintro rfl
    exact numeral.dot_not_mem (List.mem_of_mem_getLast? (Option.mem_def.mpr hc))
  rcases htext with rfl | rfl
  · have := Py.rdropWhile_append_last (p := (· = dot)) hlast hdot []
    rwa [List.append_nil, List.rdropWhile_nil, List.append_nil] at this
  · have := Py.rdropWhile_append_last (p := (· = dot)) hlast hdot [dot]
    rwa [List.rdropWhile_singleton, if_pos (decide_eq_true rfl), List.append_nil] at this

/-! ## The network location -/

variable {unicode : Unicode} {browser : Browser} {parsed : SplitResult} {uri host : Str}

theorem remoteHost_eq_some (h : remoteHost unicode parsed = some host) : ∃ hostname port, parsed.hostname unicode = some hostname ∧
    parsed.scheme = str "https" ∧ parsed.username.getD [] = [] ∧ parsed.password.getD [] = [] ∧ parsed.port = some port ∧
    host = unicode.lower (rstrip dot hostname) := by
  unfold remoteHost at h
  split at h
  · cases h
  · rename_i hostname hhostname
    split at h
    · cases h
    · rename_i hchecks
      simp only [Bool.not_eq_true, Bool.or_eq_false_iff, decide_eq_false_iff_not, not_not] at hchecks
      split at h
      · cases h
      · rename_i port hport
        split at h
        · exact ⟨hostname, port, hhostname, hchecks.1.1, hchecks.1.2, hchecks.2, hport, (Option.some.inj h).symm⟩
        · cases h

/-- What stands before the host where there are no credentials. -/
def NoCredentials (before : Str) : Prop := before = [] ∨ before = [point 64] ∨ before = [point 58, point 64]

theorem netloc_spec (husername : parsed.username.getD [] = []) (hpassword : parsed.password.getD [] = []) :
    ∃ before rest, parsed.netloc = before ++ rest ∧ NoCredentials before ∧ point 64 ∉ rest ∧
      (rpartition (point 64) parsed.netloc).2 = rest := by
  rw [SplitResult.username, SplitResult.userinfo] at husername
  rw [SplitResult.password, SplitResult.userinfo] at hpassword
  rcases Py.rpartition_spec (point 64) parsed.netloc with ⟨hnot, heq⟩ | ⟨userinfo, rest, hrest, hnetloc, heq⟩
  · exact ⟨[], parsed.netloc, rfl, .inl rfl, hnot, by rw [heq]⟩
  · rw [heq] at husername hpassword
    dsimp only at husername hpassword
    have hstart : userinfo = [] ∨ userinfo = [point 58] := by
      rcases Py.partition_spec (point 58) userinfo with ⟨-, hinfo⟩ | ⟨username, password, -, rfl, hinfo⟩
      · rw [hinfo] at husername
        exact .inl husername
      · rw [hinfo] at husername hpassword
        rw [show username = [] from husername, show password = [] from hpassword]
        exact .inr rfl
    refine ⟨userinfo ++ [point 64], rest, by rw [hnetloc]; simp, ?_, hrest, by rw [heq]⟩
    rcases hstart with rfl | rfl
    · exact .inr (.inl rfl)
    · exact .inr (.inr rfl)

/-- The URL of a network location. -/
structure Located (uri : Str) (parsed : SplitResult) (before tail : Str) : Prop where
  url : uri.dropWhile (·.val ≤ 32) = before ++ point 58 :: (str "//" ++ parsed.netloc ++ tail)
  colon : point 58 ∉ before
  alpha : before.head?.any Py.isAlpha = true
  chars : before.all Py.isSchemeChar = true
  scheme : asciiLower before = parsed.scheme
  within : ∀ c ∈ parsed.netloc, ([point 47, point 63, point 35].contains c) = false
  ends : ∀ c ∈ tail.head?, ([point 47, point 63, point 35].contains c) = true

theorem filter_clean {text : Str} (hclean : ∀ c ∈ text, 32 ≤ c.val) :
    text.filter (fun c => !([point 9, point 10, point 13].contains c)) = text := by
  refine List.filter_eq_self.mpr fun c hc => ?_
  have hval := hclean c hc
  rw [Bool.not_eq_true', Bool.eq_false_iff]
  intro hmem
  have hcontrol : c.val ∈ [9, 10, 13] := by
    have := List.mem_map_of_mem (f := Fin.val) (List.contains_iff_mem.mp hmem)
    exact this
  simp only [List.mem_cons, List.not_mem_nil, or_false] at hcontrol
  omega

theorem splitScheme_spec {url scheme rest : Str} (h : Py.splitScheme url = (scheme, rest)) (hne : scheme ≠ []) :
    ∃ before, url = before ++ point 58 :: rest ∧ point 58 ∉ before ∧ before.head?.any Py.isAlpha = true ∧
      before.all Py.isSchemeChar = true ∧ asciiLower before = scheme := by
  rw [Py.splitScheme] at h
  rcases Py.partition_spec (point 58) url with ⟨-, hpartition⟩ | ⟨before, after, hbefore, rfl, hpartition⟩
  · rw [hpartition] at h
    exact absurd (Prod.mk.inj h).1.symm hne
  · rw [hpartition] at h
    dsimp only at h
    split at h
    · rename_i hvalid
      obtain ⟨rfl, rfl⟩ := Prod.mk.inj h
      rw [Bool.and_eq_true] at hvalid
      exact ⟨before, rfl, hbefore, hvalid.1, hvalid.2, rfl⟩
    · exact absurd (Prod.mk.inj h).1.symm hne

theorem splitScheme_append {before : Str} (hcolon : point 58 ∉ before) (halpha : before.head?.any Py.isAlpha = true)
    (hchars : before.all Py.isSchemeChar = true) (rest : Str) :
    Py.splitScheme (before ++ point 58 :: rest) = (asciiLower before, rest) := by
  rw [Py.splitScheme, Py.partition_append hcolon]
  dsimp only
  rw [halpha, hchars, Bool.and_self, if_pos rfl]

theorem located (hclean : ∀ c ∈ uri, 32 ≤ c.val) (h : urlsplit unicode uri = some parsed)
    (hscheme : parsed.scheme = str "https") (hnetloc : parsed.netloc ≠ []) :
    (∃ before tail, Located uri parsed before tail) ∧
      parsed.netloc.contains (point 91) = parsed.netloc.contains (point 93) ∧
      (parsed.netloc.contains (point 91) = true → Py.checkBracketedNetloc parsed.netloc = true) := by
  have hkept : ∀ c ∈ uri.dropWhile (·.val ≤ 32), 32 ≤ c.val := fun c hc => hclean c ((List.dropWhile_suffix _).subset hc)
  rw [urlsplit, filter_clean hkept] at h
  dsimp only at h
  by_cases hbegins : (str "//").isPrefixOf (Py.splitScheme (uri.dropWhile (·.val ≤ 32))).2 = true
  · simp only [hbegins, if_true] at h
    split at h
    · rename_i hchecks
      obtain rfl := Option.some.inj h
      simp only [Bool.and_eq_true, Bool.or_eq_true, Bool.not_eq_true', beq_iff_eq] at hchecks
      obtain ⟨⟨hbrackets, hbracketed⟩, -⟩ := hchecks
      refine ⟨?_, hbrackets, fun hopened => hbracketed.resolve_left fun hnot => by rw [hopened] at hnot; cases hnot⟩
      obtain ⟨rest, hrest⟩ := List.isPrefixOf_iff_prefix.mp hbegins
      have hscheme : (Py.splitScheme (uri.dropWhile (·.val ≤ 32))).1 ≠ [] :=
        fun hnil => absurd (hnil.symm.trans hscheme) (by decide)
      obtain ⟨before, hurl, hcolon, halpha, hchars, hlower⟩ := splitScheme_spec rfl hscheme
      have hdrop : (Py.splitScheme (uri.dropWhile (·.val ≤ 32))).2.drop 2 = rest := by
        rw [← hrest]
        rfl
      rw [hdrop]
      refine ⟨before, rest.dropWhile fun c => !([point 47, point 63, point 35].contains c), ⟨?_, hcolon, halpha, hchars, hlower, ?_, ?_⟩⟩
      · rw [List.append_assoc, List.takeWhile_append_dropWhile, hrest]
        exact hurl
      · intro c hc
        have := List.mem_takeWhile_imp hc
        rwa [Bool.not_eq_true'] at this
      · intro c hc
        have := List.head?_dropWhile_not (fun c => !([point 47, point 63, point 35].contains c)) rest
        rw [Option.mem_def.mp hc] at this
        dsimp only at this
        cases hcontains : [point 47, point 63, point 35].contains c with
        | true => rfl
        | false =>
          rw [hcontains] at this
          cases this
    · cases h
  · rw [Bool.not_eq_true] at hbegins
    simp only [hbegins, Bool.false_eq_true, if_false] at h
    split at h
    · obtain rfl := Option.some.inj h
      exact absurd rfl hnetloc
    · cases h

/-! ## The authority that the browser finds -/

theorem takeWhile_congr {p q : CodePoint → Bool} {l : Str} (h : ∀ c ∈ l, p c = q c) : l.takeWhile p = l.takeWhile q := by
  induction l with
  | nil => rfl
  | cons c rest ih =>
    rw [List.takeWhile_cons, List.takeWhile_cons, h c List.mem_cons_self, ih fun d hd => h d (List.mem_cons_of_mem c hd)]

/-- The browser's authority is the network location up to a backslash. -/
theorem authority_eq {before tail : Str} (h : Located uri parsed before tail) (hclean : ∀ c ∈ uri, 32 ≤ c.val)
    (hscheme : parsed.scheme = str "https") {first last : CodePoint} (hfirst : parsed.netloc.head? = some first)
    (hslash : first ≠ point 92) (hlast : parsed.netloc.getLast? = some last) (hspace : 32 < last.val) :
    Web.authority uri = some (parsed.netloc.takeWhile fun c => !decide (c = point 92)) := by
  have htail : ∃ rest, tail.rdropWhile (·.val ≤ 32) = rest ∧ ∀ c ∈ rest.head?, ([point 47, point 63, point 35].contains c) = true := by
    refine ⟨_, rfl, fun c hc => ?_⟩
    obtain ⟨dropped, hdropped⟩ := List.rdropWhile_prefix (·.val ≤ 32) (l := tail)
    refine h.ends c ?_
    rw [← hdropped, Option.mem_def, List.head?_append_of_ne_nil, Option.mem_def.mp hc]
    intro hnil
    rw [hnil] at hc
    cases hc
  obtain ⟨rest, hrest, hends⟩ := htail
  have hstart : (before ++ point 58 :: (str "//" ++ parsed.netloc)).getLast? = some last := by
    have hne : parsed.netloc ≠ [] := by
      rintro hnil
      rw [hnil] at hlast
      cases hlast
    have happend : before ++ point 58 :: (str "//" ++ parsed.netloc) = (before ++ point 58 :: str "//") ++ parsed.netloc := by simp
    rw [happend, List.getLast?_append_of_ne_nil _ hne, hlast]
  have htrimmed : (uri.dropWhile (·.val ≤ 32)).rdropWhile (·.val ≤ 32) = before ++ point 58 :: (str "//" ++ parsed.netloc ++ rest) := by
    have happend : before ++ point 58 :: (str "//" ++ parsed.netloc ++ tail) =
        (before ++ point 58 :: (str "//" ++ parsed.netloc)) ++ tail := by simp
    rw [h.url, happend, Py.rdropWhile_append_last hstart (decide_eq_false (by omega)), hrest]
    simp
  have hkept : ∀ c ∈ (uri.dropWhile (·.val ≤ 32)).rdropWhile (·.val ≤ 32), 32 ≤ c.val := fun c hc =>
    hclean c ((List.dropWhile_suffix _).subset ((List.rdropWhile_prefix _ _).subset hc))
  have hslashes : (str "//" ++ parsed.netloc ++ rest).dropWhile Web.isSlash = parsed.netloc ++ rest := by
    obtain ⟨netloc, hnetloc⟩ : ∃ netloc, parsed.netloc = first :: netloc := List.head?_eq_some_iff.mp hfirst
    have hwithin := h.within first (hnetloc ▸ List.mem_cons_self)
    have hnot : Web.isSlash first = false := by
      rw [Web.isSlash, Bool.or_eq_false_iff]
      refine ⟨decide_eq_false ?_, decide_eq_false hslash⟩
      rintro rfl
      exact absurd hwithin (by decide)
    have hboth : ∀ c ∈ str "//", Web.isSlash c = true := List.all_eq_true.mp (by decide)
    rw [List.append_assoc, List.dropWhile_append_of_pos hboth, hnetloc, List.cons_append, List.dropWhile_cons_of_neg (by simp [hnot])]
  rw [Web.authority, filter_clean hkept, htrimmed, splitScheme_append h.colon h.alpha h.chars]
  dsimp only
  rw [h.scheme, hscheme, if_pos rfl, hslashes]
  refine congrArg some ?_
  have hends' : rest.takeWhile (fun c => !Web.endsAuthority c) = [] := by
    cases rest with
    | nil => rfl
    | cons c rest =>
      have hc := hends c rfl
      rw [List.takeWhile_cons_of_neg]
      simp only [List.contains_cons, List.contains_nil, Bool.or_false, Bool.or_eq_true, beq_iff_eq] at hc
      rcases hc with rfl | rfl | rfl
      all_goals decide
  have hsame : ∀ c ∈ parsed.netloc, (!Web.endsAuthority c) = !decide (c = point 92) := by
    intro c hc
    have := h.within c hc
    simp only [List.contains_cons, List.contains_nil, Bool.or_false, Bool.or_eq_false_iff, beq_eq_false_iff_ne] at this
    simp [Web.endsAuthority, Web.isSlash, this]
  rw [List.takeWhile_append, hends', List.append_nil, ← takeWhile_congr hsame]
  split
  · rename_i hlength
    exact ((List.takeWhile_prefix _).eq_of_length hlength).symm
  · rfl

theorem NoCredentials.rpartition {before rest : Str} (h : NoCredentials before) (hrest : point 64 ∉ rest) :
    (rpartition (point 64) (before ++ rest)).2 = rest := by
  rcases h with rfl | rfl | rfl
  · rw [List.nil_append, Py.rpartition_of_not_mem hrest]
  · exact congrArg Prod.snd (Py.rpartition_append hrest [])
  · exact congrArg Prod.snd (Py.rpartition_append hrest [point 58])

theorem NoCredentials.mem {before : Str} (h : NoCredentials before) {c : CodePoint} (hc : c ∈ before) :
    c = point 58 ∨ c = point 64 := by
  rcases h with rfl | rfl | rfl
  · cases hc
  · exact .inr (List.mem_singleton.mp hc)
  · simpa using hc

theorem splitPort_plain {text : Str} (h : ∀ c ∈ text, c ≠ point 58 ∧ c ≠ point 91 ∧ c ≠ point 93) :
    splitPort false text = (text, none) ∧ ∀ port, splitPort false (text ++ point 58 :: port) = (text, some port) := by
  induction text with
  | nil => exact ⟨rfl, fun port => by rw [List.nil_append, splitPort, if_pos ⟨rfl, rfl⟩]⟩
  | cons c rest ih =>
    obtain ⟨hcolon, hopen, hclose⟩ := h c List.mem_cons_self
    obtain ⟨hnone, hsome⟩ := ih fun d hd => h d (List.mem_cons_of_mem c hd)
    constructor
    · rw [splitPort, if_neg fun hc => hcolon hc.1, if_neg hopen, if_neg hclose, hnone]
    · intro port
      rw [List.cons_append, splitPort, if_neg fun hc => hcolon hc.1, if_neg hopen, if_neg hclose, hsome]

/-! ## The host of the policy -/

theorem lower_of_caseless {text : Str} (h : ∀ c ∈ unicode.lower text, isCaseless c = true) : unicode.lower text = text := by
  have hkept := unicode.caseless_kept text
  rwa [List.filter_eq_self.mpr h, List.filter_eq_self.mpr (unicode.caseless_only text h)] at hkept

theorem mem_of_mem_lower {text : Str} {c : CodePoint} (hc : isCaseless c = true) (h : c ∈ unicode.lower text) : c ∈ text := by
  have hmem := List.mem_filter.mpr ⟨h, hc⟩
  rw [unicode.caseless_kept] at hmem
  exact (List.mem_filter.mp hmem).1

/-- A digit or a full stop. -/
def IsDotted (c : CodePoint) : Prop := isDigitIn 10 c = true ∨ c = dot

theorem IsDotted.val {c : CodePoint} (h : IsDotted c) : c.val = 46 ∨ (48 ≤ c.val ∧ c.val ≤ 57) := by
  rcases h with h | rfl
  · have := isDigitIn_val h
    omega
  · exact .inl (val_point (by decide))

theorem IsDotted.ne {c : CodePoint} (h : IsDotted c) {n : ℕ} (hn : n < 128) (hne : n ≠ 46 ∧ ¬ (48 ≤ n ∧ n ≤ 57)) : c ≠ point n := by
  rintro rfl
  have := h.val
  rw [val_point hn] at this
  omega

theorem IsDotted.caseless {c : CodePoint} (h : IsDotted c) : isCaseless c = true := by
  have := h.val
  simp only [isCaseless, Bool.and_eq_true, Bool.not_eq_true', decide_eq_true_eq, Bool.and_eq_false_iff, decide_eq_false_iff_not]
  omega

theorem mem_hostname {hostname : Str} (h : parsed.hostname unicode = some hostname) : parsed.hostinfo.1 ≠ [] ∧
    ((point 37 ∉ hostname → hostname = unicode.lower parsed.hostinfo.1) ∧
      (point 58 ∈ hostname → point 58 ∈ parsed.hostinfo.1)) := by
  rw [SplitResult.hostname] at h
  split at h
  · cases h
  · rename_i hne
    refine ⟨hne, ?_⟩
    rcases Py.partition_spec (point 37) parsed.hostinfo.1 with ⟨-, hpartition⟩ | ⟨address, zone, -, haddress, hpartition⟩
    · rw [hpartition] at h
      obtain rfl := Option.some.inj h
      exact ⟨fun _ => rfl, mem_of_mem_lower (by decide)⟩
    · rw [hpartition] at h
      obtain rfl := Option.some.inj h
      refine ⟨fun hnot => absurd (List.mem_append_right _ List.mem_cons_self) hnot, fun hcolon => ?_⟩
      rw [haddress]
      rcases List.mem_append.mp hcolon with hcolon | hcolon
      · exact List.mem_append_left _ (mem_of_mem_lower (by decide) hcolon)
      · exact List.mem_append_right _ hcolon

/-- A host of digits and full stops stands in the network location as it is. -/
theorem hostinfo_of_dotted {hostname : Str} (h : parsed.hostname unicode = some hostname)
    (hdotted : ∀ c ∈ unicode.lower (rstrip dot hostname), IsDotted c) :
    hostname = parsed.hostinfo.1 ∧ unicode.lower (rstrip dot hostname) = rstrip dot hostname ∧ ∀ c ∈ hostname, IsDotted c := by
  have hstripped := lower_of_caseless fun c hc => (hdotted c hc).caseless
  have hall : ∀ c ∈ hostname, IsDotted c := by
    intro c hc
    rw [← List.rdropWhile_append_rtakeWhile (p := (· = dot)) (l := hostname)] at hc
    rcases List.mem_append.mp hc with hc | hc
    · exact hdotted c (hstripped.symm ▸ hc)
    · exact .inr (of_decide_eq_true (List.mem_rtakeWhile_imp (p := fun c => decide (c = dot)) hc))
  obtain ⟨-, hlower, -⟩ := mem_hostname h
  have heq := hlower fun hmem => (hall _ hmem).ne (by decide) (by decide) rfl
  refine ⟨heq.trans (lower_of_caseless ?_), hstripped, hall⟩
  rw [← heq]
  exact fun c hc => (hall c hc).caseless

/-! ## Addresses of the policy in the browser -/

/-- The parts of the host and the port where there are no brackets. -/
theorem hostinfo_plain {rest : Str} (hrest : (rpartition (point 64) parsed.netloc).2 = rest) (hopen : point 91 ∉ rest) :
    point 58 ∉ parsed.hostinfo.1 ∧ ((rest = parsed.hostinfo.1 ∧ parsed.hostinfo.2 = none) ∨
      ∃ port, rest = parsed.hostinfo.1 ++ point 58 :: port ∧ parsed.hostinfo.2 = (if port = [] then none else some port)) := by
  rw [SplitResult.hostinfo, hrest, Py.partition_of_not_mem hopen]
  rcases Py.partition_spec (point 58) rest with ⟨hcolon, hpartition⟩ | ⟨hostname, port, hcolon, htext, hpartition⟩
  · rw [hpartition]
    exact ⟨hcolon, .inl ⟨rfl, rfl⟩⟩
  · rw [hpartition]
    exact ⟨hcolon, .inr ⟨port, htext, rfl⟩⟩

/-- A port of the policy is one that the browser reads, and its text is not blank at the end. -/
theorem port_spec {port : Option ℕ} (h : parsed.port = some port) {text : Str}
    (htext : parsed.hostinfo.2 = if text = [] then none else some text) :
    text.all (isDigitIn 10) = true ∧ number 10 text ≤ 65535 ∧ ∀ c ∈ text.getLast?, 32 < c.val := by
  rw [SplitResult.port, htext] at h
  by_cases hempty : text = []
  · subst hempty
    exact ⟨rfl, by decide, nofun⟩
  · rw [if_neg hempty] at h
    dsimp only at h
    split at h
    · rename_i hchecks
      simp only [isDigits, Bool.and_eq_true, decide_eq_true_eq] at hchecks
      refine ⟨hchecks.1.1.2, hchecks.2, fun c hc => ?_⟩
      have := isDigitIn_val (List.all_eq_true.mp hchecks.1.1.2 c (List.mem_of_mem_getLast? hc))
      omega
    · cases h

/-- What the policy reads as an IPv4 address is the host of the browser, but for full stops at
its end. -/
theorem hostText_of_ipv4 (hclean : ∀ c ∈ uri, 32 ≤ c.val) (hsplit : urlsplit unicode uri = some parsed)
    (hremote : remoteHost unicode parsed = some host) {a : ℕ} (hip : Py.ipv4Address host = some a) :
    ∃ text, hostText uri = some text ∧ text ≠ [] ∧ rstrip dot text = host ∧ ∀ c ∈ text, IsDotted c := by
  obtain ⟨hostname, port, hhostname, hscheme, husername, hpassword, hport, rfl⟩ := remoteHost_eq_some hremote
  obtain ⟨hspells, hdotted⟩ := ipv4Address_spec hip
  obtain ⟨rfl, hstripped, hall⟩ := hostinfo_of_dotted hhostname hdotted
  have hne := (mem_hostname hhostname).1
  obtain ⟨before, rest, hnetloc, hbefore, hat, hrest⟩ := netloc_spec husername hpassword
  have hnetloc_ne : parsed.netloc ≠ [] := by
    intro hnil
    have : rest = [] := (List.append_eq_nil_iff.mp (hnetloc.symm.trans hnil)).2
    rcases (hostinfo_plain hrest (this ▸ List.not_mem_nil)).2 with ⟨h, -⟩ | ⟨_, h, -⟩
    · exact hne (h.symm.trans this)
    · rw [this] at h
      exact absurd h.symm (by simp)
  obtain ⟨⟨schemeText, tail, hlocated⟩, hbrackets, hchecked⟩ := located hclean hsplit hscheme hnetloc_ne
  have hopen : point 91 ∉ rest := by
    intro hmem
    have hopened : parsed.netloc.contains (point 91) = true :=
      List.contains_iff_mem.mpr (hnetloc ▸ List.mem_append_right _ hmem)
    have hcheck := hchecked hopened
    rcases Py.partition_spec (point 91) rest with ⟨hnot, -⟩ | ⟨start, bracketed, -, -, hpartition⟩
    · exact hnot hmem
    · rw [Py.checkBracketedNetloc, hrest, hpartition] at hcheck
      dsimp only at hcheck
      have hraw : parsed.hostinfo.1 = (partition (point 93) bracketed).1 := by
        rw [SplitResult.hostinfo, hrest, hpartition]
      rw [← hraw, Bool.and_eq_true, Py.checkBracketedHost, if_neg] at hcheck
      · have hbracketed := hcheck.2
        split at hbracketed
        · rename_i b hb
          rw [ipAddress] at hb
          split at hb
          · cases hb
          · obtain ⟨b, hb, -⟩ := Option.map_eq_some_iff.mp hb
            exact (hall _ (ipv6Address_colon hb)).ne (by decide) (by decide) rfl
        · cases hbracketed
      · intro hv
        exact (hall _ (List.mem_of_mem_head? hv)).ne (by decide) (by decide) rfl
  have hplain : ∀ c ∈ parsed.hostinfo.1, c ≠ point 58 ∧ c ≠ point 91 ∧ c ≠ point 93 := fun c hc =>
    ⟨(hall c hc).ne (by decide) (by decide), (hall c hc).ne (by decide) (by decide), (hall c hc).ne (by decide) (by decide)⟩
  have hports : ∃ text : Option Str, splitPort false rest = (parsed.hostinfo.1, text) ∧ (text.getD []).all (isDigitIn 10) = true ∧
      number 10 (text.getD []) ≤ 65535 ∧ (∀ c ∈ rest, c ≠ point 92) ∧ ∃ last, rest.getLast? = some last ∧ 32 < last.val := by
    obtain ⟨last, hlast⟩ := Option.ne_none_iff_exists'.mp (mt List.getLast?_eq_none_iff.mp hne)
    have hlastval := (hall last (List.mem_of_mem_getLast? (Option.mem_def.mpr hlast))).val
    have hslashes : ∀ c ∈ parsed.hostinfo.1, c ≠ point 92 := fun c hc => (hall c hc).ne (by decide) (by decide)
    rcases (hostinfo_plain hrest hopen).2 with ⟨hrest, -⟩ | ⟨text, hrest, htext⟩
    · rw [hrest]
      exact ⟨none, (splitPort_plain hplain).1, rfl, by decide, hslashes, last, hlast, by omega⟩
    · obtain ⟨hdigits, hle, hblank⟩ := port_spec hport htext
      refine ⟨some text, hrest ▸ (splitPort_plain hplain).2 text, hdigits, hle, fun c hc => ?_, ?_⟩
      · rw [hrest] at hc
        rcases List.mem_append.mp hc with hc | hc
        · exact hslashes c hc
        · rcases List.mem_cons.mp hc with rfl | hc
          · decide
          · exact IsDotted.ne (.inl (List.all_eq_true.mp hdigits c hc)) (by decide) (by decide)
      · rw [hrest, List.getLast?_append_of_ne_nil _ (List.cons_ne_nil _ _)]
        by_cases hempty : text = []
        · subst hempty
          exact ⟨point 58, rfl, by decide⟩
        · obtain ⟨c, hc⟩ := Option.ne_none_iff_exists'.mp (mt List.getLast?_eq_none_iff.mp hempty)
          obtain ⟨d, text, rfl⟩ := List.exists_cons_of_ne_nil hempty
          exact ⟨c, by rw [List.getLast?_cons_cons, hc], hblank c (Option.mem_def.mpr hc)⟩
  obtain ⟨text, hsplitPort, hdigits, hle, hslashes, last, hlast, hspace⟩ := hports
  have hnoslash : ∀ c ∈ parsed.netloc, c ≠ point 92 := by
    intro c hc
    rw [hnetloc] at hc
    rcases List.mem_append.mp hc with hc | hc
    · rcases hbefore.mem hc with rfl | rfl <;> decide
    · exact hslashes c hc
  obtain ⟨first, hfirst⟩ := Option.ne_none_iff_exists'.mp (mt List.head?_eq_none_iff.mp hnetloc_ne)
  have hlastnet : parsed.netloc.getLast? = some last := by
    rw [hnetloc, List.getLast?_append_of_ne_nil, hlast]
    intro hnil
    rw [hnil] at hlast
    cases hlast
  have hauthority := authority_eq hlocated hclean hscheme hfirst (hnoslash first (List.mem_of_mem_head? hfirst)) hlastnet hspace
  rw [List.takeWhile_eq_self_iff.mpr fun c hc => by rw [decide_eq_false (hnoslash c hc)]; rfl] at hauthority
  refine ⟨parsed.hostinfo.1, ?_, hne, hstripped.symm, hall⟩
  rw [hostText, hauthority, Option.bind_some, hrest]
  dsimp only
  rw [hsplitPort, if_pos ⟨hne, hdigits, hle⟩]

/-- What the policy reads as an IPv6 address stands in brackets for the browser. -/
theorem hostText_of_ipv6 (hclean : ∀ c ∈ uri, 32 ≤ c.val) (hsplit : urlsplit unicode uri = some parsed)
    (hremote : remoteHost unicode parsed = some host) {a : ℕ} (hip : Py.ipv6Address host = some a) {text : Str}
    (htext : hostText uri = some text) : text.head? = some (point 91) := by
  obtain ⟨hostname, port, hhostname, hscheme, husername, hpassword, hport, rfl⟩ := remoteHost_eq_some hremote
  have hcolon : point 58 ∈ parsed.hostinfo.1 := by
    refine (mem_hostname hhostname).2.2 ?_
    exact (List.rdropWhile_prefix _ _).subset (mem_of_mem_lower (by decide) (ipv6Address_colon hip))
  obtain ⟨before, rest, hnetloc, hbefore, hat, hrest⟩ := netloc_spec husername hpassword
  have hnetloc_ne : parsed.netloc ≠ [] := by
    intro hnil
    rw [SplitResult.hostinfo, hnil] at hcolon
    cases hcolon
  obtain ⟨⟨schemeText, tail, hlocated⟩, hbrackets, hchecked⟩ := located hclean hsplit hscheme hnetloc_ne
  obtain ⟨bracketed, rfl⟩ : ∃ bracketed, rest = point 91 :: bracketed := by
    rcases Py.partition_spec (point 91) rest with ⟨hnot, -⟩ | ⟨start, bracketed, -, htext, hpartition⟩
    · exact absurd hcolon (hostinfo_plain hrest hnot).1
    · have hcheck := hchecked (List.contains_iff_mem.mpr (hnetloc ▸ List.mem_append_right _ (htext ▸ List.mem_append_right _
        List.mem_cons_self)))
      rw [Py.checkBracketedNetloc, hrest, hpartition] at hcheck
      simp only [Bool.and_eq_true, decide_eq_true_eq] at hcheck
      rw [hcheck.1.1] at htext
      exact ⟨bracketed, htext⟩
  have hopened : parsed.netloc.contains (point 91) = true :=
    List.contains_iff_mem.mpr (hnetloc ▸ List.mem_append_right _ List.mem_cons_self)
  have hpartition := @Py.partition_append (point 91) [] List.not_mem_nil bracketed
  have hlast : ∃ last, (point 91 :: bracketed).getLast? = some last ∧ 32 < last.val := by
    have hclosed : point 93 ∈ bracketed := by
      have hmem := List.contains_iff_mem.mp (hbrackets.symm.trans hopened)
      rw [hnetloc] at hmem
      rcases List.mem_append.mp hmem with hmem | hmem
      · rcases hbefore.mem hmem with h | h <;> exact absurd h (by decide)
      · exact (List.mem_cons.mp hmem).resolve_left (by decide)
    rcases Py.partition_spec (point 93) bracketed with ⟨hnot, -⟩ | ⟨inner, portText, -, htext, hinner⟩
    · exact absurd hclosed hnot
    · have hcheck := hchecked hopened
      rw [Py.checkBracketedNetloc, hrest] at hcheck
      rw [List.nil_append] at hpartition
      rw [hpartition] at hcheck
      simp only [hinner, Bool.and_eq_true, Option.getD_some] at hcheck
      have hinfo : parsed.hostinfo.2 = if ((partition (point 58) portText).2).getD [] = [] then none else
          some (((partition (point 58) portText).2).getD []) := by
        rw [SplitResult.hostinfo, hrest, hpartition]
        dsimp only
        rw [hinner]
        rfl
      rw [htext, ← List.cons_append, List.getLast?_append_of_ne_nil _ (List.cons_ne_nil _ _)]
      match portText with
      | [] => exact ⟨point 93, rfl, by decide⟩
      | c :: portText =>
        have hc : c = point 58 := of_decide_eq_true hcheck.1.2
        subst hc
        have hportText : parsed.hostinfo.2 = if portText = [] then none else some portText := by
          rw [hinfo, Py.partition, if_pos rfl]
          rfl
        have hport' := port_spec hport hportText
        rw [List.getLast?_cons_cons]
        by_cases hempty : portText = []
        · subst hempty
          exact ⟨point 58, rfl, by decide⟩
        · obtain ⟨d, hd⟩ := Option.ne_none_iff_exists'.mp (mt List.getLast?_eq_none_iff.mp hempty)
          obtain ⟨e, portText, rfl⟩ := List.exists_cons_of_ne_nil hempty
          exact ⟨d, by rw [List.getLast?_cons_cons, hd], hport'.2.2 d (Option.mem_def.mpr hd)⟩
  obtain ⟨last, hlast, hspace⟩ := hlast
  obtain ⟨first, hfirst, hslash⟩ : ∃ first, parsed.netloc.head? = some first ∧ first ≠ point 92 := by
    rw [hnetloc]
    rcases hbefore with rfl | rfl | rfl
    · exact ⟨point 91, rfl, by decide⟩
    · exact ⟨point 64, rfl, by decide⟩
    · exact ⟨point 58, rfl, by decide⟩
  have hlastnet : parsed.netloc.getLast? = some last := by
    rw [hnetloc, List.getLast?_append_of_ne_nil _ (List.cons_ne_nil _ _), hlast]
  have hauthority := authority_eq hlocated hclean hscheme hfirst hslash hlastnet hspace
  have hcut : parsed.netloc.takeWhile (fun c => !decide (c = point 92)) =
      before ++ point 91 :: bracketed.takeWhile fun c => !decide (c = point 92) := by
    rw [hnetloc, List.takeWhile_append_of_pos, List.takeWhile_cons_of_pos (by decide)]
    intro c hc
    rcases hbefore.mem hc with rfl | rfl <;> decide
  have hat' : point 64 ∉ point 91 :: bracketed.takeWhile fun c => !decide (c = point 92) := by
    rw [List.mem_cons, not_or] at hat ⊢
    exact ⟨hat.1, fun hmem => hat.2 ((List.takeWhile_prefix _).subset hmem)⟩
  obtain ⟨inner, port, hbracket⟩ : ∃ inner port, splitPort false (point 91 :: bracketed.takeWhile fun c => !decide (c = point 92)) =
      (point 91 :: inner, port) := by
    rw [splitPort, if_neg fun h => absurd h.1 (by decide)]
    exact ⟨_, _, rfl⟩
  rw [hostText, hauthority, Option.bind_some, hcut, hbefore.rpartition hat', hbracket] at htext
  dsimp only at htext
  split at htext
  · rw [← Option.some.inj htext]
    rfl
  · cases htext

end Interconnect
