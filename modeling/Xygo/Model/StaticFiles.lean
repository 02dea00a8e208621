import Xygo.Model.Paths

/-!
# The static branch of the web server

`apps/web/src/server.js`, where no route of the server answers a request: the path of the URL leads
to a file below `public` or `src`, which is read as a whole. The files and directories are those of
a tree; what `fs` throws rejects the promise of the request handler.
-/

set_option autoImplicit false

namespace Xygo.Model.StaticFiles

/-! ### Files and directories -/

/-- What a path leads to. -/
inductive Entry
  | file (body : List UInt8)
  | directory
  deriving DecidableEq

/-- A tree of files: what lies in something lies in a directory. -/
structure FileTree where
  entries : AbsolutePath → Option Entry
  closed : ∀ path name, entries (path ++ [name]) ≠ none → entries path = some .directory

/-- The path of a file as a text has it, with the slash at its end where there is one. -/
structure FilePath where
  path : AbsolutePath
  slash : Bool
  deriving DecidableEq

namespace FilePath

/-- The text. -/
def text (file : FilePath) : String := if file.slash then file.path.text ++ "/" else file.path.text

/-- `path.join(root, text)` -/
def join (root : AbsolutePath) (text : String) : FilePath where
  path := joinPath root text
  slash := text.toList.getLast? = some '/'

/-- The text with `.html` at its end. -/
def html (file : FilePath) : FilePath where
  path := if file.slash then file.path ++ [".html"] else file.path.withSuffix ".html"
  slash := false

end FilePath

/-- `path.extname` of a name: what begins with the last dot, unless that is its first character. -/
def extensionOf (name : String) : String :=
  match name.toList.reverse.dropWhile (· ≠ '.') with
  | [] | [_] => ""
  | _ :: before =>
    if name = ".." then "" else String.ofList (name.toList.drop before.length)

/-- `path.extname(file)` -/
def extname (file : FilePath) : String := extensionOf (file.path.getLastD "")

/-- `fs.existsSync(file)` -/
def existsSync (tree : FileTree) (file : FilePath) : Bool :=
  match tree.entries file.path with
  | none => false
  | some (.file _) => !file.slash
  | some .directory => true

/-- An error of a call of the file system. -/
def systemError (code message : String) (file : FilePath) : JsError where
  message := code ++ ": " ++ message ++ ", open '" ++ file.text ++ "'"
  code := some code

/-- `fs.readFileSync(file)` -/
def readFileSync (tree : FileTree) (file : FilePath) : Except JsError (List UInt8) :=
  match tree.entries file.path with
  | none => .error (systemError "ENOENT" "no such file or directory" file)
  | some (.file body) =>
    if file.slash then .error (systemError "ENOTDIR" "not a directory" file) else .ok body
  | some .directory =>
    .error { message := "EISDIR: illegal operation on a directory, read", code := some "EISDIR" }

/-! ### The branch -/

section

variable (cwd : AbsolutePath)

/-- `appRoot`
SOURCE: apps/web/src/server.js:9 -/
def appRoot : AbsolutePath := cwd ++ ["apps", "web"]

/-- `publicDir`
SOURCE: apps/web/src/server.js:10 -/
def publicDir : AbsolutePath := appRoot cwd ++ ["public"]

/-- `srcDir`
SOURCE: apps/web/src/server.js:11 -/
def srcDir : AbsolutePath := appRoot cwd ++ ["src"]

/-- `mimeTypes`
SOURCE: apps/web/src/server.js:13-26 -/
def mimeTypes : List (String × String) :=
  [(".html", "text/html; charset=utf-8"), (".css", "text/css; charset=utf-8"),
    (".js", "application/javascript; charset=utf-8"),
    (".json", "application/json; charset=utf-8"),
    (".webmanifest", "application/manifest+json; charset=utf-8"),
    (".txt", "text/plain; charset=utf-8"), (".xml", "application/xml; charset=utf-8"),
    (".png", "image/png"), (".jpg", "image/jpeg"), (".jpeg", "image/jpeg"),
    (".webp", "image/webp"), (".svg", "image/svg+xml")]

/-- `text.startsWith(start)` -/
def startsWith (text start : String) : Bool := start.toList.isPrefixOf text.toList

/-- `resolveFile`
SOURCE: apps/web/src/server.js:28-48 -/
def resolveFile (tree : FileTree) (urlPath : String) : FilePath :=
  if urlPath = "/" ∨ urlPath = "" then FilePath.join (publicDir cwd) "index.html"
  else if startsWith urlPath "/src/" then
    FilePath.join (srcDir cwd) (String.ofList (urlPath.toList.drop 5))
  else
    let publicPath :=
      FilePath.join (publicDir cwd) (String.ofList (urlPath.toList.dropWhile (· = '/')))
    if extname publicPath = "" ∧ existsSync tree publicPath.html then publicPath.html
    else publicPath

/-- What the branch writes to a response. -/
structure StaticResponse where
  status : ℕ
  contentType : String
  cacheControl : Option String
  body : List UInt8
  deriving DecidableEq

/-- What the branch does for a path: the file it reads, and the response or what it throws. -/
structure StaticRun where
  read : FilePath
  answer : Except JsError StaticResponse

/-- The static branch of the request handler.
SOURCE: apps/web/src/server.js:124-141 -/
def staticBranch (tree : FileTree) (pathname : String) : StaticRun :=
  let filePath := resolveFile cwd tree pathname
  if !(startsWith filePath.text (publicDir cwd).text ||
      startsWith filePath.text (srcDir cwd).text) || !existsSync tree filePath then
    let notFoundPath := FilePath.join (publicDir cwd) "404.html"
    { read := notFoundPath
      answer := do
        let body ← readFileSync tree notFoundPath
        return {
          status := 404
          contentType := "text/html; charset=utf-8"
          cacheControl := none
          body := body } }
  else
    let ext := extname filePath
    let noStore := startsWith pathname "/auth/" || pathname = "/runtime-config.json"
    let revalidate := ext = ".html" || ext = ".js" || ext = ".css" || ext = ".webmanifest"
    { read := filePath
      answer := do
        let body ← readFileSync tree filePath
        return {
          status := 200
          contentType := (mimeTypes.lookup ext).getD "application/octet-stream"
          cacheControl := some
            (if noStore then "no-store"
            else if revalidate then "no-cache"
            else "public, max-age=86400")
          body := body } }

end

/-- The path of a URL of the web: `new URL` has resolved its dots. -/
structure UrlPath where
  text : String
  absolute : text.toList.head? = some '/'
  resolved : ∀ name ∈ namesOf text, name ≠ "." ∧ name ≠ ".."

end Xygo.Model.StaticFiles
