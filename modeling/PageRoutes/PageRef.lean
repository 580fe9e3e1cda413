import PageRoutes.Url
/-!
Page reference tokens.

A token names a page instance and, optionally, a listener on one of its components.
It travels as the name of the first query parameter, with no value:

    token     : page-id ( '-' component )?
    component : ( render-count '.' )? listener ( '.' behavior )? '-' path
    page-id   : DIGIT+

The numbers are decimal and fit in 32 bits; a listener name starts with an ASCII
letter, `_` or `$` and goes on with those and digits. In the path a `:` is written as
`-` and a `-` as `~`, so a path holding `~` cannot be written.
-/
namespace PageRoutes

/-- A listener on a component of a page, as rendered `renderCount` times. -/
structure ListenerRef where
  renderCount : Option UInt32 := none
  listener : String
  behaviorIndex : Option UInt32 := none
  componentPath : String
deriving DecidableEq, Inhabited, Repr

/-- A reference to a page instance and possibly a listener on it. -/
structure PageRef where
  pageId : Option UInt32 := none
  component : Option ListenerRef := none
deriving DecidableEq, Inhabited, Repr

namespace PageRef

/-- A decimal number of ASCII digits that fits in 32 bits. -/
def parseNumber? (cs : List Char) : Option UInt32 :=
  if cs.isEmpty || !cs.all Char.isDigit then none
  else
    let n := cs.foldl (fun acc c => acc * 10 + (c.toNat - 48)) 0
    if n < 4294967296 then some n.toUInt32 else none

/-- Whether a text is a listener name: an ASCII letter, `_` or `$`, then ASCII
letters, digits, `_` or `$`. -/
def isListenerName (name : String) : Bool :=
  match name.toList with
  | [] => false
  | c :: cs =>
    (c.isAlpha || c = '_' || c = '$') && cs.all fun d => d.isAlphanum || d = '_' || d = '$'

/-- How a component path is written: `:` as `-` and `-` as `~`. -/
def encodePath (path : List Char) : List Char :=
  path.map fun c => if c = ':' then '-' else if c = '-' then '~' else c

/-- How a written component path is read: `-` as `:` and `~` as `-`. -/
def decodePath (path : List Char) : List Char :=
  path.map fun c => if c = '-' then ':' else if c = '~' then '-' else c

/-- The written form of a listener reference, if it can be written. -/
def encodeListener (l : ListenerRef) : Option String :=
  if !isListenerName l.listener || l.componentPath.isEmpty || '~' ∈ l.componentPath.toList then
    none
  else
    some ((match l.renderCount with
        | some n => toString n ++ "."
        | none => "") ++
      l.listener ++
      (match l.behaviorIndex with
        | some n => "." ++ toString n
        | none => "") ++
      "-" ++ String.ofList (encodePath l.componentPath.toList))

/-- Reads the fields before the path: a listener, with a render count before it or a
behavior index after it, or both. -/
def decodeHead (fields : List (List Char)) :
    Option (Option UInt32 × List Char × Option UInt32) :=
  match fields with
  | [listener] => some (none, listener, none)
  | [first, second] =>
    match parseNumber? first with
    | some rc => some (some rc, second, none)
    | none => (parseNumber? second).map fun bi => (none, first, some bi)
  | [rc, listener, bi] => do
    let rc ← parseNumber? rc
    let bi ← parseNumber? bi
    pure (some rc, listener, some bi)
  | _ => none

/-- Reads the component part of a token. -/
def decodeListener (s : List Char) : Option ListenerRef := do
  let (head, path) ← Text.splitOnce '-' s
  if path.isEmpty then none
  let (renderCount, listener, behaviorIndex) ← decodeHead (head.splitOn '.')
  let listener := String.ofList listener
  if !isListenerName listener then none
  pure { renderCount, listener, behaviorIndex, componentPath := String.ofList (decodePath path) }

/-- The token of a reference; a reference without a page id, or with a listener that
cannot be written, has none. -/
def encode (r : PageRef) : Option String := do
  let id ← r.pageId
  match r.component with
  | none => pure (toString id)
  | some l => pure (toString id ++ "-" ++ (← encodeListener l))

/-- Reads a token. -/
def decode (s : String) : Option PageRef :=
  match Text.splitOnce '-' s.toList with
  | none => (parseNumber? s.toList).map fun id => { pageId := some id }
  | some (page, component) => do
    let id ← parseNumber? page
    let l ← decodeListener component
    pure { pageId := some id, component := some l }

/-- The reference carried by a URL: the first query parameter, when its value is
empty. -/
def ofUrl (u : Url) : Option PageRef :=
  match u.query with
  | (name, value) :: _ => if value.isEmpty then decode name else none
  | [] => none

/-- Puts the token first in the query of a URL, when the reference has one. -/
def writeTo (r : PageRef) (u : Url) : Url :=
  match r.encode with
  | some token => { u with query := (token, "") :: u.query }
  | none => u

end PageRef

end PageRoutes
