import PageRoutes.Params
/-!
Pages and what mappers consult about them: page classes, page instances, listeners,
the registry of page classes and a store of page instances.

A page class is a dotted name such as `org.example.HomePage`: its simple name is the
part after the last `.` and its package the part before it (empty without a `.`).
-/
namespace PageRoutes

/-- A page type, named by its fully qualified dotted name. -/
structure PageClass where
  name : String
deriving DecidableEq, Inhabited, Repr

namespace PageClass

/-- The name cut at its last `.`, if it has one. -/
def splitLast? (c : PageClass) : Option (String × String) :=
  let cs := c.name.toList
  match cs.reverse.span (· ≠ '.') with
  | (_, []) => none
  | (simple, _ :: pkg) => some (String.ofList pkg.reverse, String.ofList simple.reverse)

/-- The part after the last `.`, or the whole name. -/
def simpleName (c : PageClass) : String :=
  match c.splitLast? with
  | some (_, simple) => simple
  | none => c.name

/-- The part before the last `.`, or empty. -/
def package (c : PageClass) : String :=
  match c.splitLast? with
  | some (pkg, _) => pkg
  | none => ""

end PageClass

/-- A live page instance as held by a page store. -/
structure Page where
  id : UInt32
  cls : PageClass
  params : Params
  renderCount : UInt32 := 0
  /-- A stateless page is never referenced by id. -/
  stateless : Bool := false
  /-- Whether the page was built from a bookmarkable URL. -/
  createdBookmarkable : Bool := false
deriving Inhabited

/-- Sameness of page instances: every field equal, the parameters as parameter
sets. -/
def Page.same (p q : Page) : Bool :=
  p.id == q.id && p.cls == q.cls && p.params.equiv q.params && p.renderCount == q.renderCount &&
    p.stateless == q.stateless && p.createdBookmarkable == q.createdBookmarkable

/-- A named callback on a component. -/
structure Listener where
  name : String
  /-- Whether URLs for this listener carry the page's render count. -/
  includeRenderCount : Bool
deriving DecidableEq, Inhabited, Repr

/-- The registered listeners; a later registration of a name replaces an earlier one. -/
structure ListenerTable where
  listeners : List Listener := []
deriving Inhabited

namespace ListenerTable

/-- Registers a listener. -/
def register (t : ListenerTable) (l : Listener) : ListenerTable :=
  ⟨t.listeners.filter (·.name != l.name) ++ [l]⟩

/-- The listener registered under a name. -/
def byName? (t : ListenerTable) (name : String) : Option Listener :=
  t.listeners.find? (·.name == name)

/-- The name of a listener, if exactly that listener is registered. -/
def nameOf? (t : ListenerTable) (l : Listener) : Option String :=
  match t.byName? l.name with
  | some r => if r = l then some r.name else none
  | none => none

end ListenerTable

/-- The page classes known by name. -/
structure PageRegistry where
  names : List String := []
deriving Inhabited

/-- The class registered under a name. -/
def PageRegistry.resolve? (r : PageRegistry) (name : String) : Option PageClass :=
  if name ∈ r.names then some ⟨name⟩ else none

/-- Page instances by id, and how many pages it has created. A created page gets
the id `1000 + n` for the `n`-th creation. -/
structure PageStore where
  pages : List Page := []
  created : Nat := 0
deriving Inhabited

namespace PageStore

/-- The page stored under an id. -/
def get? (s : PageStore) (id : UInt32) : Option Page :=
  s.pages.find? (·.id == id)

/-- Stores a page, replacing any page with its id. -/
def put (s : PageStore) (p : Page) : PageStore :=
  { s with pages := s.pages.filter (·.id != p.id) ++ [p] }

/-- Creates and stores a page of a class built from parameters. -/
def create (s : PageStore) (cls : PageClass) (params : Params) : Page × PageStore :=
  let page : Page := { id := (1000 + s.created).toUInt32, cls, params, createdBookmarkable := true }
  (page, { s.put page with created := s.created + 1 })

end PageStore

end PageRoutes
