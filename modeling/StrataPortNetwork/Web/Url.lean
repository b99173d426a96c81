import StrataPortNetwork.Py.UrlSplit
import StrataPortNetwork.Web.Ipv4

/-! # The host of an https URL

How a browser finds the host in an https URL and what it takes the host for.
-/
namespace Web
open Py (CodePoint Str point str split partition rpartition number isDigitIn)

/-- Domain to ASCII after percent-decoding, as the browser does them. An ASCII domain without
percent signs and Punycode labels is put in lower case. -/
structure Browser where
  asciiDomain : Str → Option Str
  asciiDomain_ascii : ∀ text, text ≠ [] → (∀ c ∈ text, c.val < 128 ∧ c ≠ point 37) →
    (∀ label ∈ split dot text, (str "xn--").isPrefixOf (Py.asciiLower label) = false) → asciiDomain text = some (Py.asciiLower text)

inductive Host
  | ipv4 (address : ℕ)
  /-- What stands between brackets, which is no IPv4 address. -/
  | bracketed (text : Str)
  | domain (text : Str)
  deriving DecidableEq

def isForbidden (c : CodePoint) : Bool :=
  c.val ≤ 32 || c.val == 127 || (str "#/:<>?@[\\]^|%").contains c

/-- The host parser; `none` is failure. -/
def parseHost (browser : Browser) (text : Str) : Option Host :=
  if text.head? = some (point 91) then
    if text.getLast? = some (point 93) then some (.bracketed text) else none
  else
    match browser.asciiDomain text with
    | none => none
    | some domain =>
      if domain = [] || domain.any isForbidden then none
      else if endsInNumber domain then (ipv4Parse domain).map .ipv4
      else some (.domain domain)

def isSlash (c : CodePoint) : Bool := c = point 47 || c = point 92

/-- Where the authority of a special URL ends. -/
def endsAuthority (c : CodePoint) : Bool := isSlash c || c = point 63 || c = point 35

/-- The host up to a colon outside of brackets, and the port after it. -/
def splitPort : Bool → Str → Str × Option Str
  | _, [] => ([], none)
  | inside, c :: rest =>
    if c = point 58 ∧ inside = false then ([], some rest)
    else
      let (host, port) := splitPort (if c = point 91 then true else if c = point 93 then false else inside) rest
      (c :: host, port)

/-- The authority of an https URL: slashes and backslashes before it are skipped. -/
def authority (url : Str) : Option Str :=
  let trimmed := (url.dropWhile (·.val ≤ 32)).rdropWhile (·.val ≤ 32)
  let (scheme, rest) := Py.splitScheme (trimmed.filter fun c => !([point 9, point 10, point 13].contains c))
  if scheme = str "https" then some ((rest.dropWhile isSlash).takeWhile fun c => !endsAuthority c) else none

/-- The host as the URL parser hands it to the host parser; `none` is failure. -/
def hostText (url : Str) : Option Str :=
  (authority url).bind fun authority =>
    let (host, port) := splitPort false (rpartition (point 64) authority).2
    if host ≠ [] ∧ (port.getD []).all (isDigitIn 10) = true ∧ number 10 (port.getD []) ≤ 65535 then some host else none

/-- The host that a browser reads in an https URL. -/
def readHost (browser : Browser) (url : Str) : Option Host := (hostText url).bind (parseHost browser)

end Web
