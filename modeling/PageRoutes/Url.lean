import PageRoutes.Text.Percent
import PageRoutes.Text.Split
/-!
Application-relative URLs: decoded path segments and decoded query parameters.

Reading cuts the text at its first `?`. The path loses one leading slash and all
trailing slashes and is cut at every `/`, so empty segments inside it stay; the query
is cut at every `&`, empty pieces are dropped, and each piece is cut at its first `=`.
Writing joins the encoded segments with `/` (no leading slash) and appends the query
as `?name=value&...`, leaving out `=value` when the value is empty. Both escape each
component with a `PercentCodec`; a component whose escapes do not read as text is kept
as written.
-/
namespace PageRoutes

namespace PercentCodec

variable (c : PercentCodec)

/-- Reads a component; one whose escapes do not read as text is kept as written. -/
def decode (raw : String) : String :=
  (c.decode? raw).getD raw

/-- Reads a query name or value: every `+` is a blank, then the escapes are read. -/
def decodeQuery (raw : String) : String :=
  c.decode (String.ofList (raw.toList.map fun ch => if ch = '+' then ' ' else ch))

end PercentCodec

/-- Decoded path segments and query parameters, in order. -/
structure Url where
  segments : List String := []
  query : List (String × String) := []
deriving DecidableEq, Inhabited

namespace Url

variable (c : PercentCodec)

/-- The segments of a path: one leading slash and every trailing slash are dropped,
and an empty path has no segments. -/
def pathSegments (path : List Char) : List String :=
  let body := match path with
    | '/' :: rest => rest
    | rest => rest
  let body := (body.reverse.dropWhile (· = '/')).reverse
  if body.isEmpty then []
  else (body.splitOn '/').map fun seg => c.decode (String.ofList seg)

/-- One query piece: the name before its first `=` and the value after it. -/
def queryParam (piece : List Char) : String × String :=
  match Text.splitOnce '=' piece with
  | some (name, value) =>
    (c.decodeQuery (String.ofList name), c.decodeQuery (String.ofList value))
  | none => (c.decodeQuery (String.ofList piece), "")

/-- The parameters of a query text; empty pieces between `&` are dropped. -/
def queryParams (query : List Char) : List (String × String) :=
  ((query.splitOn '&').filter (!·.isEmpty)).map (queryParam c)

/-- Reads `path[?query]`. -/
def parse (input : String) : Url :=
  match Text.splitOnce '?' input.toList with
  | some (path, query) => { segments := pathSegments c path, query := queryParams c query }
  | none => { segments := pathSegments c input.toList }

/-- How one query parameter is written. -/
def renderParam (param : String × String) : String :=
  c.encode param.1 ++ (if param.2.isEmpty then "" else "=" ++ c.encode param.2)

/-- The written form: encoded segments joined by `/`, then the query. -/
def render (u : Url) : String :=
  "/".intercalate (u.segments.map c.encode) ++
    match u.query with
    | [] => ""
    | params => "?" ++ "&".intercalate (params.map (renderParam c))

/-- A URL of segments only. -/
def ofSegments (segments : List String) : Url := { segments }

/-- Adds a query parameter after all others. -/
def addQuery (u : Url) (name value : String) : Url :=
  { u with query := u.query ++ [(name, value)] }

/-- The value of the first query parameter of a name. -/
def queryValue? (u : Url) (name : String) : Option String :=
  (u.query.find? (·.1 == name)).map (·.2)

/-- The URL without its first `n` segments; the query stays. -/
def dropSegments (u : Url) (n : Nat) : Url :=
  { u with segments := u.segments.drop n }

/-- Segments and query parameters of `v` after those of `u`. -/
def append (u v : Url) : Url :=
  { segments := u.segments ++ v.segments, query := u.query ++ v.query }

end Url

end PageRoutes
