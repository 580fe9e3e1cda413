import PageRoutes.Page
/-!
Request handlers: what a request resolves to and what a URL is generated for.

A handler links to a page class (bookmarkable), renders a page, or invokes a listener
on a component of a page. The page comes from a provider: a stored instance, or a
fresh page still to be built from its class and parameters.
-/
namespace PageRoutes

/-- Where the page of a handler comes from. -/
inductive Provider where
  /-- An instance found in the page store. -/
  | existing (page : Page)
  /-- A page still to be built from its class and parameters. -/
  | fresh (cls : PageClass) (params : Params)
deriving Inhabited

namespace Provider

/-- The class of the provided page. -/
def cls : Provider → PageClass
  | existing page => page.cls
  | fresh cls _ => cls

/-- The parameters of the provided page. -/
def params : Provider → Params
  | existing page => page.params
  | fresh _ params => params

/-- Whether the page is still to be built. -/
def isFresh : Provider → Bool
  | existing _ => false
  | fresh .. => true

/-- The provided page: the stored instance, or a page the store creates. -/
def realize (s : PageStore) : Provider → Page × PageStore
  | existing page => (page, s)
  | fresh cls params => s.create cls params

/-- Sameness of providers, pages and parameters compared as such. -/
def same : Provider → Provider → Bool
  | existing p, existing q => p.same q
  | fresh c p, fresh d q => c == d && p.equiv q
  | _, _ => false

end Provider

/-- A listener invocation on the component at `componentPath` of the provided page. -/
structure ListenerCall where
  provider : Provider
  componentPath : String
  listener : Listener
  behaviorIndex : Option UInt32 := none
  /-- The render count the request was issued for, if the URL carried one. -/
  renderCount : Option UInt32 := none
deriving Inhabited

/-- What a request resolves to. -/
inductive Handler where
  /-- A link to a page class without instance information. -/
  | bookmarkable (cls : PageClass) (params : Params)
  /-- Render a page. -/
  | render (provider : Provider)
  /-- Invoke a listener on a component. -/
  | listener (call : ListenerCall)
deriving Inhabited

namespace Handler

/-- The class of the page the handler is about. -/
def pageClass : Handler → PageClass
  | bookmarkable cls _ => cls
  | render provider => provider.cls
  | listener call => call.provider.cls

/-- The provider of the page a handler renders or invokes a listener on. -/
def provider? : Handler → Option Provider
  | bookmarkable .. => none
  | render provider => some provider
  | listener call => some call.provider

/-- Sameness of handlers: same kind and same fields, pages and parameters compared
as such. -/
def same : Handler → Handler → Bool
  | bookmarkable c p, bookmarkable d q => c == d && p.equiv q
  | render p, render q => p.same q
  | listener a, listener b =>
    a.provider.same b.provider && a.componentPath == b.componentPath && a.listener == b.listener &&
      a.behaviorIndex == b.behaviorIndex && a.renderCount == b.renderCount
  | _, _ => false

end Handler

end PageRoutes
