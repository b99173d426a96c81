import StrataPortNetwork.Web.Url

/-! # The navigation policy

`interconnect/policy.py`: what the browser window may open. Without the network that is the local
pages alone; with it, https hosts that are not known to be local.
-/
namespace Interconnect
open Py (Str point str split rstrip endsWith urlsplit SplitResult ipAddress Unicode)
open Web (Browser)

/-- A host that looks like a domain name: parts between full stops, none of which is empty or
begins with a hyphen. -/
def looksLikeName (host : Str) : Bool :=
  host.contains (point 46) && (split (point 46) host).all fun part => part ≠ [] && part.head? ≠ some (point 45)

def isLocalName (host : Str) : Bool :=
  host = str "localhost" || endsWith (str ".local") host || endsWith (str ".localhost") host || endsWith (str ".internal") host

/-- What the policy says of a host. -/
def hostAllowed (host : Str) : Bool :=
  if isLocalName host then false
  else
    match ipAddress host with
    | some ip => ip.isGlobal
    | none => looksLikeName host

/-- `parsed.hostname.rstrip(".").lower()` of an https URL without credentials and on the default
port. -/
def remoteHost (unicode : Unicode) (parsed : SplitResult) : Option Str :=
  match parsed.hostname unicode with
  | none => none
  | some hostname =>
    if parsed.scheme ≠ str "https" || (parsed.username.getD [] ≠ []) || (parsed.password.getD [] ≠ []) then none
    else
      match parsed.port with
      | none => none
      | some port => if port = none ∨ port = some 443 then some (unicode.lower (rstrip (point 46) hostname)) else none

def isLocalPage (uri : Str) (parsed : SplitResult) : Bool :=
  uri = str "about:blank" ||
    (parsed.scheme = str "interconnect" && (parsed.netloc = str "home" || parsed.netloc = str "evidence"))

/-- `navigation_allowed(uri, network_enabled)`; a ValueError refuses. -/
def navigationAllowed (unicode : Unicode) (uri : Str) (networkEnabled : Bool) : Bool :=
  if 8192 < uri.length || uri.any (·.val < 32) then false
  else
    match urlsplit unicode uri with
    | none => false
    | some parsed =>
      if isLocalPage uri parsed then true
      else if !networkEnabled then false
      else
        match remoteHost unicode parsed with
        | none => false
        | some host => hostAllowed host

end Interconnect
