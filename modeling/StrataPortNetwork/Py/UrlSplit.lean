import StrataPortNetwork.Py.IpAddress

/-! # `urlsplit`

The scheme and the network location of a URL, and what its attributes take out of the latter.
`none` stands for a ValueError. The path, the query and the fragment are left out.
-/
namespace Py

/-- An ASCII character that is no letter. -/
def isCaseless (c : CodePoint) : Bool := c.val < 128 && !(65 ≤ c.val && c.val ≤ 90) && !(97 ≤ c.val && c.val ≤ 122)

/-- What is read off the Unicode database: `str.lower` and the normal form NFKC. Only letters have
a lower case, and it consists of letters. -/
structure Unicode where
  lower : Str → Str
  nfkc : Str → Str
  caseless_kept : ∀ text, (lower text).filter isCaseless = text.filter isCaseless
  caseless_only : ∀ text, (∀ c ∈ lower text, isCaseless c = true) → ∀ c ∈ text, isCaseless c = true

structure SplitResult where
  scheme : Str
  netloc : Str

def isAlpha (c : CodePoint) : Bool := (65 ≤ c.val && c.val ≤ 90) || (97 ≤ c.val && c.val ≤ 122)

/-- `scheme_chars` -/
def isSchemeChar (c : CodePoint) : Bool :=
  isAlpha c || (48 ≤ c.val && c.val ≤ 57) || c.val == 43 || c.val == 45 || c.val == 46

/-- The scheme before the first colon, if it is one, and what follows. -/
def splitScheme (url : Str) : Str × Str :=
  match partition (point 58) url with
  | (before, some after) =>
    if before.head?.any isAlpha && before.all isSchemeChar then (asciiLower before, after) else ([], url)
  | (_, none) => ([], url)

/-- `_check_bracketed_host` -/
def checkBracketedHost (hostname : Str) : Bool :=
  if hostname.head? = some (point 118) then
    let version := hostname.tail.takeWhile (isDigitIn 16)
    let rest := hostname.tail.dropWhile (isDigitIn 16)
    version ≠ [] && rest.head? = some (point 46) && rest.tail ≠ [] && !(rest.tail.contains (point 10))
  else
    match ipAddress hostname with
    | some (.v6 _) => true
    | _ => false

/-- `_check_bracketed_netloc` -/
def checkBracketedNetloc (netloc : Str) : Bool :=
  let hostnameAndPort := (rpartition (point 64) netloc).2
  match partition (point 91) hostnameAndPort with
  | (before, some bracketed) =>
    let (hostname, port) := partition (point 93) bracketed
    before = [] && (port.getD []).head?.all (· = point 58) && checkBracketedHost hostname
  | (_, none) => checkBracketedHost (partition (point 58) hostnameAndPort).1

/-- `_checknetloc` -/
def checkNetloc (unicode : Unicode) (netloc : Str) : Bool :=
  let n := netloc.filter fun c => !([point 64, point 58, point 35, point 63].contains c)
  let netloc2 := unicode.nfkc n
  netloc.all (·.val < 128) || n = netloc2 || [point 47, point 63, point 35, point 64, point 58].all fun c => !netloc2.contains c

/-- `urlsplit(url)`. -/
def urlsplit (unicode : Unicode) (url : Str) : Option SplitResult :=
  let url := (url.dropWhile (·.val ≤ 32)).filter fun c => !([point 9, point 10, point 13].contains c)
  let (scheme, rest) := splitScheme url
  let netloc := if (str "//").isPrefixOf rest then
    (rest.drop 2).takeWhile fun c => !([point 47, point 63, point 35].contains c) else []
  let opened := netloc.contains (point 91)
  let closed := netloc.contains (point 93)
  if opened == closed && (!opened || checkBracketedNetloc netloc) && checkNetloc unicode netloc then some ⟨scheme, netloc⟩
  else none

namespace SplitResult
variable (parsed : SplitResult)

/-- `_userinfo`: the username and the password. -/
def userinfo : Option Str × Option Str :=
  match (rpartition (point 64) parsed.netloc).1 with
  | none => (none, none)
  | some userinfo =>
    let (username, password) := partition (point 58) userinfo
    (some username, password)

/-- `_hostinfo`: the host as it is written and the port. -/
def hostinfo : Str × Option Str :=
  let hostinfo := (rpartition (point 64) parsed.netloc).2
  let (hostname, port) := match partition (point 91) hostinfo with
    | (_, some bracketed) =>
      let (hostname, rest) := partition (point 93) bracketed
      (hostname, ((partition (point 58) (rest.getD [])).2).getD [])
    | (_, none) =>
      let (hostname, port) := partition (point 58) hostinfo
      (hostname, port.getD [])
  (hostname, if port = [] then none else some port)

def username : Option Str := parsed.userinfo.1

def password : Option Str := parsed.userinfo.2

/-- `hostname`: a zone after a percent sign keeps its case. -/
def hostname (unicode : Unicode) : Option Str :=
  if parsed.hostinfo.1 = [] then none
  else
    match partition (point 37) parsed.hostinfo.1 with
    | (host, none) => some (unicode.lower host)
    | (host, some zone) => some (unicode.lower host ++ point 37 :: zone)

/-- `port`; `int` refuses more than 4300 digits. -/
def port : Option (Option ℕ) :=
  match parsed.hostinfo.2 with
  | none => some none
  | some port =>
    if isDigits port && port.length ≤ 4300 && number 10 port ≤ 65535 then some (some (number 10 port)) else none

end SplitResult

end Py
