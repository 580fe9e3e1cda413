import PageRoutes.Mapper.Request
import PageRoutes.Mapper.Handler
/-!
An application: an ordered list of mappers sharing one context.

It starts with the bookmarkable mapper and, when the context names a home page, the
home mapper; mounts are added after them. A request is offered to the mappers in order
of decreasing score, the later mounted first among equal scores, and the first
handler or error wins. A handler is written by the latest mounted mapper that can
write it.
-/
namespace PageRoutes

/-- Mappers in mount order and their shared context. -/
structure App where
  mappers : List Mapper
  context : Context

namespace App

/-- A new application on a context. -/
def new (ctx : Context) : App :=
  { mappers := .bookmarkable .query :: (ctx.homePage.map Mapper.homeOf).toList, context := ctx }

/-- Adds a mapper after all others. -/
def mount (a : App) (m : Mapper) : App :=
  { a with mappers := a.mappers ++ [m] }

/-- Mounts a page class at a mount path. -/
def mountPage (a : App) (path : String) (cls : PageClass) : Except ParseError App :=
  a.mount <$> Mapper.mountAt path cls .query

/-- Mounts the registered pages of a package under a mount path. -/
def mountPackage (a : App) (path : String) (package : String) : Except ParseError App :=
  a.mount <$> Mapper.packageAt path package .query

/-- The scores of the mappers for a request, in mount order. -/
def scores (a : App) (u : Url) : List Int :=
  a.mappers.map (Mapper.score a.context u)

/-- The mappers in the order a request is offered to them: decreasing score, the
later mounted first among equal scores. -/
def candidates (a : App) (u : Url) : List Mapper :=
  ((a.mappers.reverse.map fun m => (m.score a.context u, m)).mergeSort
    fun x y => y.1 ≤ x.1).map (·.2)

/-- Offers a request to mappers in order: the first handler or error wins. -/
def firstHandler (ctx : Context) (u : Url) : List Mapper → Except MapError (Option Handler)
  | [] => .ok none
  | m :: ms => do
    match ← m.mapRequest ctx u with
    | some h => pure (some h)
    | none => firstHandler ctx u ms

/-- The handler of a request. -/
def mapRequest (a : App) (u : Url) : Except MapError (Option Handler) :=
  firstHandler a.context u (a.candidates u)

/-- The URL of a handler, by the latest mounted mapper that can write it. -/
def mapHandler (a : App) (h : Handler) : Option Url :=
  a.mappers.reverse.findSome? fun m => m.mapHandler a.context h

end App

end PageRoutes
