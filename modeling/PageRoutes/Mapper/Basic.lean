import PageRoutes.Template.Compile
import PageRoutes.Template.Match
import PageRoutes.Template.Extract
import PageRoutes.Template.Build
import PageRoutes.PageRef
import PageRoutes.Encoding
import PageRoutes.Handler
import PageRoutes.Settings
/-!
Mappers: the URL layouts that requests and handlers are mapped between.

* The bookmarkable mapper serves `namespace/identifier/fully.qualified.Page` for every
  registered page class.
* A mounted mapper serves one page class at a templated mount path.
* A package mapper serves every registered page of one package under a mount path,
  by simple name.
* The home mapper serves the home page at the empty path.

After a mapper's own segments the page parameters follow, in the mapper's encoding,
and a page reference token may stand as the first query parameter.
-/
namespace PageRoutes

/-- Settings and collaborators shared by all mappers. -/
structure Context where
  settings : Settings := {}
  homePage : Option PageClass := none
  /-- The page store's lookup by id. -/
  pages : UInt32 → Option Page := fun _ => none
  listeners : ListenerTable := {}
  registry : PageRegistry := {}

/-- One page class at a mount path. -/
structure Mount where
  template : Template
  cls : PageClass
  encoding : Encoding := .query
deriving Inhabited

/-- The pages of one package under a mount path. -/
structure PackageMount where
  template : Template
  package : String
  encoding : Encoding := .query
deriving Inhabited

/-- A URL layout. -/
inductive Mapper where
  | bookmarkable (encoding : Encoding)
  | mounted (mount : Mount)
  | package (mount : PackageMount)
  | home (mount : Mount)
deriving Inhabited

/-- Why a request that a mapper claims cannot be served. -/
inductive MapError where
  /-- The referenced page is gone and may not be rebuilt. -/
  | expired (pageId : UInt32)
  /-- A listener URL issued for render `renderCount` of a page now at render `current`. -/
  | stale (pageId renderCount current : UInt32)
deriving DecidableEq, Inhabited, Repr

/-- The error's text. -/
def MapError.message : MapError → String
  | .expired id => "page with id " ++ toString id ++ " has expired"
  | .stale id rc current =>
    "page with id " ++ toString id ++ " is at render " ++ toString current ++
      ", listener targets render " ++ toString rc

/-- What a mapper read from a URL, or is about to write into one: the page reference,
the page class and the page parameters. -/
structure Target where
  ref : Option PageRef
  cls : PageClass
  params : Params
deriving Inhabited

namespace Mapper

/-- The home mapper of a page class, at the empty mount path. -/
def homeOf (cls : PageClass) : Mapper := .home { template := Template.root, cls }

/-- A mapper of a page class at a mount path. -/
def mountAt (path : String) (cls : PageClass) (encoding : Encoding) :
    Except ParseError Mapper := do
  return .mounted { template := ← Template.compile path, cls, encoding }

/-- A mapper of a package at a mount path. -/
def packageAt (path : String) (package : String) (encoding : Encoding) :
    Except ParseError Mapper := do
  return .package { template := ← Template.compile path, package, encoding }

/-- How a mapper is named in listings. -/
def render : Mapper → String
  | bookmarkable _ => "BookmarkableMapper"
  | mounted m => "MountedMapper [" ++ m.template.render ++ "]"
  | package p => "PackageMapper [" ++ p.template.render ++ " => " ++ p.package ++ "]"
  | home m => "HomePageMapper [" ++ m.cls.name ++ "]"

end Mapper

end PageRoutes
