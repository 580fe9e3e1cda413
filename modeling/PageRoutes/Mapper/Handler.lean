import PageRoutes.Mapper.Basic
/-!
From handlers to URLs.

A mapper writes a URL only for page classes it serves: registered classes for the
bookmarkable mapper, its own class for a mount, registered classes of its package for
a package mount. A stored page is referenced by its id unless it is stateless; the
bookmarkable mapper references only pages that were themselves built from a
bookmarkable URL. A listener is written only on a stored, stateful page and only if
exactly that listener is registered, with the page's render count when the listener
asks for it. The URL is the mapper's segments, the encoded parameters, and the token
as the first query parameter.
-/
namespace PageRoutes

namespace Mapper

/-- Whether a mapper serves a page class. -/
def serves (ctx : Context) (cls : PageClass) : Mapper → Bool
  | bookmarkable _ => (ctx.registry.resolve? cls.name).isSome
  | mounted m => m.cls == cls
  | package p => cls.package == p.package && (ctx.registry.resolve? cls.name).isSome
  | home m => m.cls == cls

/-- The id under which a page may be referenced: none for a stateless page. -/
def addressableId (page : Page) : Option UInt32 :=
  if page.stateless then none else some page.id

/-- What a mapper writes for a handler. -/
def targetOf (ctx : Context) (m : Mapper) : Handler → Option Target
  | .bookmarkable cls params => some ⟨none, cls, params⟩
  | .render (.fresh cls params) => some ⟨none, cls, params⟩
  | .render (.existing page) =>
    match m with
    | bookmarkable _ =>
      if page.createdBookmarkable then some ⟨some { pageId := addressableId page }, page.cls, page.params⟩
      else none
    | _ => some ⟨some { pageId := addressableId page }, page.cls, page.params⟩
  | .listener call =>
    match call.provider with
    | .fresh .. => none
    | .existing page => do
      let id ← addressableId page
      let name ← ctx.listeners.nameOf? call.listener
      let renderCount := if call.listener.includeRenderCount then some page.renderCount else none
      let l : ListenerRef :=
        { renderCount, listener := name, behaviorIndex := call.behaviorIndex,
          componentPath := call.componentPath }
      pure ⟨some { pageId := some id, component := some l }, page.cls, page.params⟩

/-- The mapper's segments followed by the encoded parameters, with the token first in
the query. -/
def finishUrl (u : Url) (encoding : Encoding) (params : Params) (ref : Option PageRef) : Url :=
  let u := u.append (encoding.encode params)
  match ref with
  | some r => r.writeTo u
  | none => u

/-- The URL a mapper writes for a target, none when the template cannot be built. -/
def urlOf (ctx : Context) (t : Target) : Mapper → Option Url
  | bookmarkable encoding =>
    some (finishUrl (Url.ofSegments
      [ctx.settings.urlNamespace, ctx.settings.bookmarkableIdentifier, t.cls.name])
      encoding t.params t.ref)
  | mounted m | home m =>
    match m.template.build t.params with
    | .ok b => some (finishUrl (Url.ofSegments b.segments) m.encoding b.remaining t.ref)
    | .error _ => none
  | package p =>
    match p.template.build t.params with
    | .ok b =>
      some (finishUrl (Url.ofSegments (b.segments ++ [t.cls.simpleName])) p.encoding b.remaining t.ref)
    | .error _ => none

/-- The URL of a handler, none when the mapper cannot write it. -/
def mapHandler (m : Mapper) (ctx : Context) (h : Handler) : Option Url :=
  if m.serves ctx h.pageClass then do
    let t ← targetOf ctx m h
    urlOf ctx t m
  else none

end Mapper

end PageRoutes
