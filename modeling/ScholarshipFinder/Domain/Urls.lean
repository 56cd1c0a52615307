import ScholarshipFinder.Python

/-!
# URL identity (`domain/urls.py`)
-/

namespace ScholarshipFinder

/-- `path.rstrip("/")` -/
def rstripSlashes (path : String) : String :=
  String.ofList (path.toList.reverse.dropWhile (· = '/')).reverse

/-- Whether a query parameter only tracks where a visitor came from. -/
def isTracking (py : Py) (key : String) : Bool :=
  (py.lower key).startsWith "utm_" || py.lower key ∈ ["fbclid", "gclid"]

/-- Normalize an HTTP(S) URL for identity; tracking parameters are discarded. -/
def canonicalizeUrl (py : Py) (value : String) : Except PyErr String := do
  let parts ← py.urlsplit (py.strip value)
  let scheme := py.lower parts.scheme
  if scheme ∉ ["http", "https"] ∨ parts.netloc = "" then
    valueError "Only absolute HTTP(S) URLs are allowed"
  let host := py.lower (parts.hostname.getD "")
  let port ← parts.port
  let netloc := match port with
    | none => host
    | some port =>
      if port = 0 ∨ (scheme = "http" ∧ port = 80) ∨ (scheme = "https" ∧ port = 443) then host
      else host ++ ":" ++ toString port
  let query := (← py.parseQsl parts.query).filter fun pair => !isTracking py pair.1
  let path := if parts.path = "" then "/" else parts.path
  let path := if path = "/" then path else rstripSlashes path
  return py.urlunsplit scheme netloc path (py.urlencode query)

end ScholarshipFinder
