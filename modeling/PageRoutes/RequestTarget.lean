import PageRoutes.Url
/-!
HTTP request targets, and the URL a request target gives.

A target is `*`, a path with an optional query (`/a/b?q`), an authority alone
(`example.com:80`), or an absolute URI with a scheme and an authority
(`http://host/a?q`). Only the path and the query reach the URL; a fragment after `#`
is dropped. The characters allowed differ between authority, path and query, and a
target that breaks a rule fails with the reason.
-/
namespace PageRoutes

/-- Why a text is no request target. -/
inductive TargetError where
  | empty
  | badChar
  | badFormat
  | badAuthority
  | schemeTooLong
  | tooLong
deriving DecidableEq, Inhabited, Repr

/-- The error's text. -/
def TargetError.message : TargetError → String
  | .empty => "empty string"
  | .badChar => "invalid uri character"
  | .badFormat => "invalid format"
  | .badAuthority => "invalid authority"
  | .schemeTooLong => "scheme too long"
  | .tooLong => "uri too long"

/-- The path and query of a request target. -/
structure RequestTarget where
  /-- The path: `/` for an empty path after a scheme, empty for an authority alone. -/
  path : String
  query : Option String := none
deriving DecidableEq, Inhabited, Repr

namespace RequestTarget

/-- The longest target, in bytes. -/
def maxLength : Nat := 65534

/-- The longest scheme name. -/
def maxSchemeLength : Nat := 64

/-- Whether an ASCII code lies in an inclusive range. -/
def within (c : Char) (lo hi : Nat) : Bool := lo ≤ c.toNat && c.toNat ≤ hi

/-- Characters allowed in an authority besides the percent sign: ASCII letters and
digits and `! # $ & ' ( ) * + , - . / : ; = ? @ [ ] _ ~`. -/
def isUriChar (c : Char) : Bool :=
  c.isAlphanum || c = '!' || c = '#' || c = '$' || within c 0x26 0x2F || c = ':' || c = ';' ||
    c = '=' || c = '?' || c = '@' || c = '[' || c = ']' || c = '_' || c = '~'

/-- Characters allowed in a path: `!`, `$` to `;`, `=`, `@` to `_`, `a` to `z`, `|`,
`~`, the double quote, the braces, and every non-ASCII character. -/
def isPathChar (c : Char) : Bool :=
  c.toNat = 0x21 || within c 0x24 0x3B || c.toNat = 0x3D || within c 0x40 0x5F ||
    within c 0x61 0x7A || c.toNat = 0x7C || c.toNat = 0x7E || c = '"' || c = '\x7b' ||
    c = '\x7d' || 0x80 ≤ c.toNat

/-- Characters allowed in a query: `!`, `$` to `;`, `=`, `?` to `~`, and every
non-ASCII character. -/
def isQueryChar (c : Char) : Bool :=
  c.toNat = 0x21 || within c 0x24 0x3B || c.toNat = 0x3D || within c 0x3F 0x7E || 0x80 ≤ c.toNat

/-- Characters of a scheme name: ASCII letters and digits, `+`, `-`, `.` and `~`. -/
def isSchemeChar (c : Char) : Bool := c.isAlphanum || c = '+' || c = '-' || c = '.' || c = '~'

/-- What has been seen of an authority so far. -/
structure AuthorityScan where
  colons : Nat := 0
  openBracket : Bool := false
  closeBracket : Bool := false
  percent : Bool := false
  lastAt : Option Nat := none

/-- Scans an authority from character `i` on: where it ends (at `/`, `?`, `#` or the
end) and what it holds. -/
def scanAuthority (st : AuthorityScan) (i : Nat) : List Char → Except TargetError (AuthorityScan × Nat)
  | [] => .ok (st, i)
  | c :: cs =>
    if c = '/' || c = '?' || c = '#' then .ok (st, i)
    else if c = ':' then
      if 8 ≤ st.colons then .error .badAuthority
      else scanAuthority { st with colons := st.colons + 1 } (i + 1) cs
    else if c = '[' then
      if st.percent || st.openBracket then .error .badAuthority
      else scanAuthority { st with openBracket := true } (i + 1) cs
    else if c = ']' then
      if !st.openBracket || st.closeBracket then .error .badAuthority
      else scanAuthority { st with closeBracket := true, colons := 0, percent := false } (i + 1) cs
    else if c = '@' then
      scanAuthority { st with lastAt := some i, colons := 0, percent := false } (i + 1) cs
    else if c = '%' then scanAuthority { st with percent := true } (i + 1) cs
    else if isUriChar c then scanAuthority st (i + 1) cs
    else .error .badChar

/-- Where the authority at the start of the text ends. Brackets must pair, at most one
colon may stand after the last `@` outside brackets, something must follow a last `@`,
and a `%` may stand only before an `@` or inside brackets. -/
def authorityEnd (cs : List Char) : Except TargetError Nat := do
  let (st, stop) ← scanAuthority {} 0 cs
  if st.openBracket != st.closeBracket then throw .badAuthority
  if 1 < st.colons then throw .badAuthority
  if 0 < stop && st.lastAt == some (stop - 1) then throw .badAuthority
  if st.percent then throw .badAuthority
  pure stop

/-- The query after a `?`, up to a `#`. -/
def scanQuery : List Char → Except TargetError (List Char)
  | [] => .ok []
  | c :: cs =>
    if c = '#' then .ok []
    else if isQueryChar c then (c :: ·) <$> scanQuery cs
    else .error .badChar

/-- The path, up to `?` or `#`, and the query after a `?`. -/
def scanPath : List Char → Except TargetError (List Char × Option (List Char))
  | [] => .ok ([], none)
  | c :: cs =>
    if c = '?' then do pure ([], some (← scanQuery cs))
    else if c = '#' then .ok ([], none)
    else if isPathChar c then (fun r => (c :: r.1, r.2)) <$> scanPath cs
    else .error .badChar

/-- The target of a path and query. An empty path is `/`. -/
def ofPathAndQuery (cs : List Char) : Except TargetError RequestTarget := do
  let (path, query) ← scanPath cs
  pure { path := if path.isEmpty then "/" else String.ofList path, query := query.map String.ofList }

/-- A target of an authority alone: it has no path. -/
def authorityOnly : RequestTarget := { path := "" }

/-- Whether two character lists are equal up to ASCII case. -/
def eqIgnoreCase (a b : List Char) : Bool := a.map Char.toLower == b.map Char.toLower

/-- How many characters the scheme at the start takes, `://` included; none without a
scheme. `http://` and `https://` are recognised in any case; another scheme is a run
of scheme characters before `://`. -/
def schemeLength (cs : List Char) (bytes : Nat) : Except TargetError (Option Nat) :=
  if 7 ≤ cs.length && eqIgnoreCase (cs.take 7) "http://".toList then .ok (some 7)
  else if 8 ≤ cs.length && eqIgnoreCase (cs.take 8) "https://".toList then .ok (some 8)
  else if 3 < bytes then
    let name := cs.takeWhile isSchemeChar
    let i := name.length
    match cs.drop i with
    | ':' :: '/' :: '/' :: _ => if maxSchemeLength < i then .error .schemeTooLong else .ok (some (i + 3))
    | _ => .ok none
  else .ok none

/-- Reads a target that does not start with `/` and is longer than one character. -/
def parseFull (cs : List Char) (bytes : Nat) : Except TargetError RequestTarget := do
  match ← schemeLength cs bytes with
  | none =>
    if (← authorityEnd cs) ≠ cs.length then throw .badFormat
    pure authorityOnly
  | some n =>
    let rest := cs.drop n
    if rest.isEmpty then throw .empty
    let stop ← authorityEnd rest
    if stop = 0 then throw .badFormat
    ofPathAndQuery (rest.drop stop)

/-- Reads a request target. -/
def parse (s : String) : Except TargetError RequestTarget :=
  if maxLength < s.utf8ByteSize then .error .tooLong
  else
    match s.toList with
    | [] => .error .empty
    | ['/'] => .ok { path := "/" }
    | ['*'] => .ok { path := "*" }
    | [c] => do
      if (← authorityEnd [c]) ≠ 1 then throw .badChar
      pure authorityOnly
    | '/' :: rest => ofPathAndQuery ('/' :: rest)
    | cs => parseFull cs s.utf8ByteSize

end RequestTarget

/-- The URL of a request target: the segments of its path and the parameters of its
query, read with the codec `c`. -/
def Url.ofTarget (c : PercentCodec) (t : RequestTarget) : Url :=
  { segments := pathSegments c t.path.toList,
    query := (t.query.map fun q => queryParams c q.toList).getD [] }

end PageRoutes
