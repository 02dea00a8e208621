import Xygo.Model.EmailQueue

/-!
# URLs

What `new URL` keeps of a URL, as the URL standard has it, and what its properties and its
`toString` give. A fragment that is empty is a fragment: `hash` is empty for it as it is for none, and
`toString` writes its `#`.
-/

set_option autoImplicit false

namespace Xygo.Model

/-- The schemes of the web. -/
def webSchemes : List String := ["http", "https"]

/-- A character that ends the authority of a URL. -/
def endsAuthority (c : Char) : Bool := c = '/' || c = '?' || c = '#'

/-- A URL that was parsed: in a host, a path or a query, the characters that end it are not there or
are percent-encoded. -/
structure UrlRecord where
  scheme : String
  username : String
  password : String
  host : Option String
  port : Option Nat
  path : String
  query : Option String
  fragment : Option String
  webHost : scheme ∈ webSchemes → ∃ name, host = some name ∧ name ≠ ""
  hostPlain : ∀ name, host = some name → ∀ c ∈ name.toList, endsAuthority c = false ∧ c ≠ '@'
  pathPlain : ∀ c ∈ path.toList, c ≠ '?' ∧ c ≠ '#'
  pathRooted : host.isSome → path = "" ∨ ∃ rest, path.toList = '/' :: rest
  queryPlain : ∀ text, query = some text → '#' ∉ text.toList

namespace UrlRecord

/-- The credentials in front of the host. -/
def credentials (url : UrlRecord) : String :=
  if url.username = "" ∧ url.password = "" then ""
  else url.username ++ (if url.password = "" then "" else ":" ++ url.password) ++ "@"

/-- The host with what is around it. -/
def authority (url : UrlRecord) (name : String) : String :=
  url.credentials ++ name ++ (match url.port with
    | none => ""
    | some port => ":" ++ toString port)

/-- A component behind its mark. -/
def marked (mark : String) : Option String → String
  | none => ""
  | some text => mark ++ text

/-- `url.toString()`, which is `url.href` -/
def href (url : UrlRecord) : String :=
  url.scheme ++ ":" ++ (match url.host with
    | some name => "//" ++ url.authority name
    | none => if "//".toList <+: url.path.toList then "/." else "") ++
    url.path ++ marked "?" url.query ++ marked "#" url.fragment

/-- `url.hash` -/
def hash (url : UrlRecord) : String :=
  match url.fragment with
  | none => ""
  | some text => if text = "" then "" else "#" ++ text

/-- The properties the source reads. -/
def parsed (url : UrlRecord) : ParsedUrl where
  protocol := url.scheme ++ ":"
  username := url.username
  password := url.password
  hash := url.hash
  href := url.href

end UrlRecord

end Xygo.Model
