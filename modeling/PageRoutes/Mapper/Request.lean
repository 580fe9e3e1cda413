import PageRoutes.Mapper.Basic
/-!
From requests to handlers.

A mapper first claims a request URL and reads from it the page class, the page
parameters and the page reference token. Without a token the handler renders a fresh
page. A token with only a page id renders the stored page when its class and
parameters are those read, a fresh page when the parameters differ or the page is gone
and may be rebuilt, and fails as expired otherwise. A token with a listener invokes
that listener, if it is registered, on the stored page of that class; it fails as
stale when it names another render of the page, and a missing page is rebuilt or
fails as expired as before.
-/
namespace PageRoutes

/-- The parameters after the first `skip` segments, without the first query
parameter when that was read as the page reference token. -/
def Mapper.decodeRest (encoding : Encoding) (u : Url) (skip : Nat) (hasRef : Bool) : Params :=
  let rest := u.dropSegments skip
  encoding.decode (if hasRef then { rest with query := rest.query.drop 1 } else rest)

/-- Whether a mounted mapper of the home page also claims the empty URL: redirection
is on and its template does not already match no segments. -/
def Mount.redirectsHome (m : Mount) (ctx : Context) (u : Url) : Bool :=
  u.segments.isEmpty && ctx.settings.redirectFromHomePage && ctx.homePage == some m.cls &&
    (m.template.matchWidths [] ctx.settings.caseSensitive).isNone

/-- What a mount claims of a URL: the placeholder values of the matched segments, then
the parameters after them. -/
def Mount.read (m : Mount) (ctx : Context) (u : Url) : Option Target := do
  let ref := PageRef.ofUrl u
  let ws ← m.template.matchWidths u.segments ctx.settings.caseSensitive
  pure ⟨ref, m.cls,
    (m.template.extract u.segments ws).append
      (Mapper.decodeRest m.encoding u (Template.total ws) ref.isSome)⟩

/-- The full name of a simple name in the package. -/
def PackageMount.qualify (p : PackageMount) (simple : String) : String :=
  if p.package.isEmpty then simple else p.package ++ "." ++ simple

/-- What a package mount claims of a URL: after the matched segments the simple name
of a registered class of the package, then the parameters. -/
def PackageMount.read (p : PackageMount) (ctx : Context) (u : Url) : Option Target := do
  let ws ← p.template.matchWidths u.segments ctx.settings.caseSensitive
  let simple ← u.segments[Template.total ws]?
  if simple.isEmpty || '.' ∈ simple.toList then none
  let cls ← ctx.registry.resolve? (p.qualify simple)
  let ref := PageRef.ofUrl u
  pure ⟨ref, cls,
    (p.template.extract u.segments ws).append
      (Mapper.decodeRest p.encoding u (Template.total ws + 1) ref.isSome)⟩

namespace Mapper

/-- A generic bookmarkable segment compared with its setting: exactly, or up to ASCII
case. -/
def sameSegment (caseSensitive : Bool) (segment expected : String) : Bool :=
  if caseSensitive then segment == expected else Text.eqIgnoreAsciiCase segment expected

/-- Whether a URL has a class segment after the bookmarkable namespace and identifier. -/
def bookmarkablePrefix (s : Settings) (u : Url) : Bool :=
  match u.segments with
  | ns :: ident :: _ :: _ =>
    sameSegment s.caseSensitive ns s.urlNamespace &&
      sameSegment s.caseSensitive ident s.bookmarkableIdentifier
  | _ => false

/-- What a mapper reads from a request URL it claims. -/
def read (ctx : Context) (u : Url) : Mapper → Option Target
  | bookmarkable encoding => do
    if !bookmarkablePrefix ctx.settings u then none
    let cls ← ctx.registry.resolve? (← u.segments[2]?)
    let ref := PageRef.ofUrl u
    pure ⟨ref, cls, decodeRest encoding u 3 ref.isSome⟩
  | mounted m =>
    if m.redirectsHome ctx u then
      let ref := PageRef.ofUrl u
      some ⟨ref, m.cls, decodeRest m.encoding u 0 ref.isSome⟩
    else m.read ctx u
  | package p => p.read ctx u
  | home m => if u.segments.isEmpty then m.read ctx u else none

/-- The largest score, of a bookmarkable URL. -/
def topScore : Int := 2147483647

/-- The score of the home mapper, below every other. -/
def homeScore : Int := -2147483647

/-- How well a mapper fits a request; the higher score wins. A mount that matches
scores its template's specificity, a package mount only when a segment follows the
match, and a mapper that does not fit scores zero. -/
def score (ctx : Context) (u : Url) : Mapper → Int
  | bookmarkable _ => if bookmarkablePrefix ctx.settings u then topScore else 0
  | mounted m =>
    if (m.template.matchWidths u.segments ctx.settings.caseSensitive).isSome then
      m.template.specificity
    else 0
  | package p =>
    match p.template.matchWidths u.segments ctx.settings.caseSensitive with
    | some ws => if Template.total ws < u.segments.length then p.template.specificity else 0
    | none => 0
  | home _ => homeScore

/-- The stored page of an id, if it is of the class. -/
def storedPage (ctx : Context) (id : UInt32) (cls : PageClass) : Option Page :=
  (ctx.pages id).filter (·.cls == cls)

/-- A fresh page of the class, if a missing page may be rebuilt. -/
def rebuild (ctx : Context) (id : UInt32) (cls : PageClass) (params : Params) :
    Except MapError Provider :=
  if ctx.settings.recreateMountedPagesAfterExpiry then .ok (.fresh cls params)
  else .error (.expired id)

/-- The page rendered for a token with a page id and no listener. -/
def renderStored (ctx : Context) (id : UInt32) (cls : PageClass) (params : Params) :
    Except MapError Handler :=
  match storedPage ctx id cls with
  | some page => .ok (.render (if page.params.equiv params then .existing page else .fresh cls params))
  | none => .render <$> rebuild ctx id cls params

/-- The listener invocation for a token with a listener; none for a listener that is
not registered. -/
def invoke (ctx : Context) (pageId : Option UInt32) (l : ListenerRef) (cls : PageClass)
    (params : Params) : Except MapError (Option Handler) :=
  match ctx.listeners.byName? l.listener with
  | none => .ok none
  | some listener => do
    let provider ← match pageId with
      | some id =>
        match storedPage ctx id cls with
        | some page =>
          match l.renderCount with
          | some rc =>
            if rc ≠ page.renderCount then .error (.stale id rc page.renderCount)
            else .ok (.existing page)
          | none => .ok (.existing page)
        | none => rebuild ctx id cls params
      | none => .ok (.fresh cls params)
    let call : ListenerCall :=
      { provider, componentPath := l.componentPath, listener, behaviorIndex := l.behaviorIndex,
        renderCount := l.renderCount }
    pure (some (.listener call))

/-- The handler of a request URL, none when the mapper does not claim it. -/
def mapRequest (m : Mapper) (ctx : Context) (u : Url) : Except MapError (Option Handler) :=
  match m.read ctx u with
  | none => .ok none
  | some t =>
    match t.ref with
    | some { pageId, component := some l } => invoke ctx pageId l t.cls t.params
    | some { pageId := some id, component := none } => some <$> renderStored ctx id t.cls t.params
    | _ => .ok (some (.render (.fresh t.cls t.params)))

end Mapper

end PageRoutes
