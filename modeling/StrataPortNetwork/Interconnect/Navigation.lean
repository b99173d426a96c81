import StrataPortNetwork.Interconnect.Hosts

/-! # Navigation and local addresses

The policy refuses the addresses that `ipaddress` reads and finds not global. What `ipaddress`
refuses passes for a domain name, also where the browser reads an address in it.
-/
namespace Interconnect
open Py (Str point str split rstrip urlsplit SplitResult ipAddress Unicode isCaseless isGlobal4 val_point asciiLower)
open Web (Browser Spells dot readHost hostText)

variable {unicode : Unicode} {browser : Browser} {parsed : SplitResult} {uri host : Str}

/-! ## Navigation stays off local addresses -/

/-- The policy takes the host for a domain name: it is no address to `ipaddress` and no local name. -/
def TakenForName (unicode : Unicode) (uri : Str) : Prop :=
  uri.length ≤ 8192 ∧ (∀ c ∈ uri, 32 ≤ c.val) ∧
    ∃ parsed host, urlsplit unicode uri = some parsed ∧ remoteHost unicode parsed = some host ∧ isLocalName host = false ∧
      ipAddress host = none ∧ looksLikeName host = true

/-- The host passes for a domain name, and numbers that spell a local address for the browser. -/
def Evades (unicode : Unicode) (browser : Browser) (uri : Str) : Prop :=
  TakenForName unicode uri ∧ ∃ text domain a, hostText uri = some text ∧ text.head? ≠ some (point 91) ∧
    browser.asciiDomain text = some domain ∧ Spells domain a ∧ isGlobal4 a = false

/-- An https navigation that the policy allows reaches no IPv4 address but a global one. -/
def StaysGlobal (unicode : Unicode) (browser : Browser) (uri : Str) : Prop :=
  navigationAllowed unicode uri true = true → (∃ parsed, urlsplit unicode uri = some parsed ∧ parsed.scheme = str "https") →
    ∀ a, readHost browser uri = some (.ipv4 a) → isGlobal4 a = true

theorem asciiLower_of_dotted {text : Str} (h : ∀ c ∈ text, IsDotted c) : asciiLower text = text := by
  rw [asciiLower, List.map_congr_left, List.map_id']
  intro c hc
  have := (h c hc).val
  exact if_neg (by omega)

/-- A dotted host stays as it is in a browser. -/
theorem asciiDomain_of_dotted {text : Str} (hne : text ≠ []) (h : ∀ c ∈ text, IsDotted c) :
    browser.asciiDomain text = some text := by
  have hlabels : ∀ label ∈ split dot text, ∀ c ∈ label, IsDotted c := fun label hlabel c hc =>
    h c (Py.mem_of_mem_split hlabel hc)
  have hascii := browser.asciiDomain_ascii text hne (fun c hc => ?_) fun label hlabel => ?_
  · rwa [asciiLower_of_dotted h] at hascii
  · have := (h c hc).val
    exact ⟨by omega, (h c hc).ne (by decide) (by decide)⟩
  · rw [asciiLower_of_dotted (hlabels label hlabel), Bool.eq_false_iff]
    intro hbegins
    have hmem := (List.isPrefixOf_iff_prefix.mp hbegins).subset (List.mem_cons_self : point 120 ∈ str "xn--")
    exact (hlabels label hlabel _ hmem).ne (by decide) (by decide) rfl

theorem TakenForName.allowed (h : TakenForName unicode uri) : navigationAllowed unicode uri true = true ∧
    ∃ parsed, urlsplit unicode uri = some parsed ∧ parsed.scheme = str "https" := by
  obtain ⟨hlength, hclean, parsed, host, hsplit, hremote, hlocal, hip, hname⟩ := h
  obtain ⟨-, -, -, hscheme, -⟩ := remoteHost_eq_some hremote
  refine ⟨?_, parsed, hsplit, hscheme⟩
  have hguard : ¬ (decide (8192 < uri.length) || uri.any fun c => decide (c.val < 32)) = true := by
    rw [Bool.or_eq_true, decide_eq_true_eq, List.any_eq_true, not_or]
    exact ⟨by omega, fun ⟨c, hc, hcontrol⟩ => absurd (of_decide_eq_true hcontrol) (by have := hclean c hc; omega)⟩
  rw [navigationAllowed, if_neg hguard, hsplit]
  simp only [hremote, hostAllowed, hlocal, hip, hname, Bool.not_true, Bool.false_eq_true, if_false, ite_self]

/-- What the policy allows with the network: a local page, or a remote host. -/
theorem navigationAllowed_cases (h : navigationAllowed unicode uri true = true) : uri.length ≤ 8192 ∧ (∀ c ∈ uri, 32 ≤ c.val) ∧
    ∃ parsed, urlsplit unicode uri = some parsed ∧
      (isLocalPage uri parsed = true ∨ ∃ host, remoteHost unicode parsed = some host ∧ hostAllowed host = true) := by
  rw [navigationAllowed] at h
  split at h
  · cases h
  · rename_i hguard
    simp only [Bool.or_eq_true, decide_eq_true_eq, List.any_eq_true, not_or, not_exists, not_and, not_lt] at hguard
    refine ⟨hguard.1, hguard.2, ?_⟩
    split at h
    · cases h
    · rename_i parsed hsplit
      refine ⟨parsed, hsplit, ?_⟩
      split at h
      · rename_i hpage
        exact .inl hpage
      · rw [Bool.not_true, if_neg Bool.false_ne_true] at h
        split at h
        · cases h
        · rename_i host hremote
          exact .inr ⟨host, hremote, h⟩

theorem hostAllowed_cases (h : hostAllowed host = true) : isLocalName host = false ∧
    ((∃ ip, ipAddress host = some ip ∧ ip.isGlobal = true) ∨ (ipAddress host = none ∧ looksLikeName host = true)) := by
  rw [hostAllowed] at h
  split at h
  · cases h
  · rename_i hlocal
    refine ⟨Bool.eq_false_iff.mpr hlocal, ?_⟩
    split at h
    · rename_i ip hip
      exact .inl ⟨ip, hip, h⟩
    · rename_i hip
      exact .inr ⟨hip, h⟩

/-- With the network, the policy keeps an https navigation off IPv4 addresses that are not global
exactly where no such address passes for a domain name. -/
theorem navigation_safe_iff (unicode : Unicode) (browser : Browser) (uri : Str) :
    StaysGlobal unicode browser uri ↔ ¬ Evades unicode browser uri := by
  constructor
  · rintro hstays ⟨htaken, text, domain, a, htext, hhead, hdomain, hspells, hlocal⟩
    have hglobal := hstays htaken.allowed.1 htaken.allowed.2 a (readHost_ipv4.mpr ⟨text, domain, htext, hhead, hdomain, hspells⟩)
    rw [hlocal] at hglobal
    cases hglobal
  · rintro hevades hallowed ⟨parsed, hsplit, hscheme⟩ a hread
    obtain ⟨text, domain, htext, hhead, hdomain, hspells⟩ := readHost_ipv4.mp hread
    obtain ⟨hlength, hclean, parsed', hsplit', hcases⟩ := navigationAllowed_cases hallowed
    obtain rfl := Option.some.inj (hsplit.symm.trans hsplit')
    rcases hcases with hpage | ⟨host, hremote, hhost⟩
    · rw [isLocalPage, hscheme, Bool.or_eq_true, decide_eq_true_eq, decide_eq_false (by decide), Bool.false_and] at hpage
      obtain rfl := hpage.resolve_right Bool.false_ne_true
      have hblank : hostText (str "about:blank") = none := by decide +kernel
      rw [hblank] at htext
      cases htext
    · obtain ⟨hlocal, ⟨ip, hip, hglobal⟩ | ⟨hip, hname⟩⟩ := hostAllowed_cases hhost
      · rw [ipAddress] at hip
        split at hip
        · rename_i b hb
          obtain rfl := Option.some.inj hip
          obtain ⟨text', htext', hne, hstripped, hdotted⟩ := hostText_of_ipv4 hclean hsplit hremote hb
          obtain rfl := Option.some.inj (htext.symm.trans htext')
          obtain rfl := Option.some.inj (hdomain.symm.trans (asciiDomain_of_dotted hne hdotted))
          have hsame := spells_rstrip hspells
          rw [hstripped] at hsame
          rw [hsame.unique (ipv4Address_spec hb).1]
          exact hglobal
        · obtain ⟨b, hb, -⟩ := Option.map_eq_some_iff.mp hip
          exact absurd (hostText_of_ipv6 hclean hsplit hremote hb htext) hhead
      · by_contra hnot
        exact hevades ⟨⟨hlength, hclean, parsed, host, hsplit, hremote, hlocal, hip, hname⟩, text, domain, a, htext, hhead, hdomain,
          hspells, Bool.eq_false_iff.mpr hnot⟩

/-! ## A loopback address among names -/

namespace Sample

theorem asciiLower_caseless (text : Str) : (asciiLower text).filter isCaseless = text.filter isCaseless := by
  induction text with
  | nil => rfl
  | cons c rest ih =>
    rw [asciiLower] at ih
    rw [asciiLower, List.map_cons]
    split
    · rename_i hc
      have hval : (point (c.val + 32)).val = c.val + 32 := val_point (by omega)
      rw [List.filter_cons_of_neg, List.filter_cons_of_neg, ih]
      · simp only [isCaseless, Bool.and_eq_true, Bool.not_eq_true', decide_eq_true_eq, Bool.and_eq_false_iff, decide_eq_false_iff_not]
        omega
      · simp only [isCaseless, hval, Bool.and_eq_true, Bool.not_eq_true', decide_eq_true_eq, Bool.and_eq_false_iff,
          decide_eq_false_iff_not]
        omega
    · rw [List.filter_cons, List.filter_cons, ih]

theorem asciiLower_caseless_only (text : Str) (h : ∀ c ∈ asciiLower text, isCaseless c = true) :
    ∀ c ∈ text, isCaseless c = true := by
  intro c hc
  have hlower := h _ (List.mem_map_of_mem hc)
  split at hlower
  · rename_i hcapital
    have hval : (point (c.val + 32)).val = c.val + 32 := val_point (by omega)
    simp only [isCaseless, hval, Bool.and_eq_true, Bool.not_eq_true', decide_eq_true_eq, Bool.and_eq_false_iff,
      decide_eq_false_iff_not] at hlower
    omega
  · exact hlower

def asciiUnicode : Unicode := ⟨asciiLower, id, asciiLower_caseless, asciiLower_caseless_only⟩

def asciiBrowser : Browser where
  asciiDomain text := if text.all (·.val < 128) then some (asciiLower text) else none
  asciiDomain_ascii _ _ h _ := if_pos (List.all_eq_true.mpr fun c hc => decide_eq_true (h c hc).1)

/-- `127.1` is a domain name for the policy and the loopback address for a browser. -/
theorem loopback_evades : navigationAllowed asciiUnicode (str "https://127.1/") true = true ∧
    readHost asciiBrowser (str "https://127.1/") = some (.ipv4 (Py.quad 127 0 0 1)) ∧
    ¬ StaysGlobal asciiUnicode asciiBrowser (str "https://127.1/") := by
  have hallowed : navigationAllowed asciiUnicode (str "https://127.1/") true = true := by decide +kernel
  have hread : readHost asciiBrowser (str "https://127.1/") = some (.ipv4 (Py.quad 127 0 0 1)) := by decide +kernel
  have hparsed : urlsplit asciiUnicode (str "https://127.1/") = some ⟨str "https", str "127.1"⟩ := by rfl
  refine ⟨hallowed, hread, fun hstays => ?_⟩
  have hglobal := hstays hallowed ⟨_, hparsed, rfl⟩ _ hread
  exact absurd hglobal (by decide +kernel)

end Sample

end Interconnect
