import ScholarshipFinder.Lib.UrlText
import ScholarshipFinder.PythonUrl

/-!
# Return URLs (`domain/return_urls.py`)

A visitor who is handed over comes back to a return URL, which is compared with the allowed prefix
part by part, not as a text.
-/

namespace ScholarshipFinder

open Lib UrlSplit

/-- `_DEFAULT_PORTS` -/
def returnPorts : List (String × ℕ) := [("http", 80), ("https", 443)]

/-- `_port` -/
def returnPort (scheme : String) : Option ℕ → Option ℕ
  | some port => some port
  | none => returnPorts.lookup scheme

/-- `SplitResult.username` -/
def SplitResult.username (parts : SplitResult) : Option String :=
  (userinfo parts.netloc.toList).map fun info => String.ofList info.1

/-- `SplitResult.password` -/
def SplitResult.password (parts : SplitResult) : Option String :=
  (userinfo parts.netloc.toList).bind fun info => info.2.map String.ofList

/-- `path or "/"`, with a slash at the end. -/
def withSlash (path : String) : String :=
  let path := if path = "" then "/" else path
  if path.toList.getLast? = some '/' then path else path ++ "/"

/-- `is_allowed_return_url` -/
def isAllowedReturnUrl (py : Py) (candidate allowedPrefix : String) : Except PyErr Bool :=
  if allowedPrefix = "" then .ok false
  else do
    let allowed ← py.urlsplit allowedPrefix
    let target ← py.urlsplit candidate
    let allowedScheme := py.lower allowed.scheme
    if returnPorts.lookup allowedScheme = none ∨ py.lower target.scheme ≠ allowedScheme then
      return false
    -- Credentials in the authority let the real host hide after an "@".
    else if target.username.getD "" ≠ "" ∨ target.password.getD "" ≠ "" then return false
    else if py.lower (target.hostname.getD "") ≠ py.lower (allowed.hostname.getD "") then
      return false
    else if target.hostname.getD "" = "" then return false
    else
      let targetPort ← target.port
      let allowedPort ← allowed.port
      if returnPort allowedScheme targetPort ≠ returnPort allowedScheme allowedPort then
        return false
      else return (withSlash allowed.path).toList.isPrefixOf (withSlash target.path).toList

end ScholarshipFinder
