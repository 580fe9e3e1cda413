import PageRoutes.App
/-!
Inspection texts: how applications, mappers, templates, handlers and parameters show
themselves when inspected.

A record is its type name and its fields, `Name { field: value, .. }`; a wrapped value
is `Name(value)`; a list is `[a, b]`; an absent value is `None` and a present one
`Some(v)`; texts are quoted and escaped. Mappers and the mapping context show only
some fields and end in `..`. A page class shows its name unquoted.
-/
namespace PageRoutes

namespace Inspect

/-- A list of shown items. -/
def list (items : List String) : String := "[" ++ ", ".intercalate items ++ "]"

/-- A record of named fields; `more` marks fields left out. -/
def record (name : String) (fields : List (String × String)) (more : Bool) : String :=
  let shown := fields.map fun f => f.1 ++ ": " ++ f.2
  let shown := if more then shown ++ [".."] else shown
  match shown with
  | [] => name
  | _ => name ++ " \x7b " ++ ", ".intercalate shown ++ " \x7d"

/-- A wrapped value. -/
def wrap (name value : String) : String := name ++ "(" ++ value ++ ")"

/-- An optional value. -/
def option (shown : Option String) : String :=
  match shown with
  | some v => wrap "Some" v
  | none => "None"

/-- A truth value. -/
def bool (b : Bool) : String := if b then "true" else "false"

end Inspect

open Inspect

/-- The inspection text of parameters. -/
def Params.inspect (p : Params) : String :=
  record "PageParameters"
    [("indexed", list (p.indexed.map Text.quote)),
     ("named", list (p.named.map fun kv =>
        record "NamedPair" [("key", Text.quote kv.1), ("value", Text.quote kv.2)] false))] false

/-- The inspection text of a page class: its name, unquoted. -/
def PageClass.inspect (c : PageClass) : String := wrap "PageClass" c.name

/-- The inspection text of a page instance. -/
def Page.inspect (p : Page) : String :=
  record "PageInstance"
    [("id", toString p.id), ("class", p.cls.inspect), ("parameters", p.params.inspect),
     ("render_count", toString p.renderCount), ("stateless", bool p.stateless),
     ("created_bookmarkable", bool p.createdBookmarkable)] false

/-- The inspection text of a provider. -/
def Provider.inspect : Provider → String
  | .existing page => wrap "Existing" page.inspect
  | .fresh cls params => record "New" [("class", cls.inspect), ("parameters", params.inspect)] false

/-- The inspection text of a listener. -/
def Listener.inspect (l : Listener) : String :=
  record "Listener" [("name", Text.quote l.name), ("include_render_count", bool l.includeRenderCount)] false

/-- The inspection text of a handler. -/
def Handler.inspect : Handler → String
  | .bookmarkable cls params =>
    record "Bookmarkable" [("class", cls.inspect), ("parameters", params.inspect)] false
  | .render provider => wrap "RenderPage" provider.inspect
  | .listener call =>
    wrap "Listener" (record "ListenerHandler"
      [("provider", call.provider.inspect), ("component_path", Text.quote call.componentPath),
       ("listener", call.listener.inspect),
       ("behavior_index", option (call.behaviorIndex.map toString)),
       ("render_count", option (call.renderCount.map toString))] false)

/-- The inspection text of a template part. -/
def Part.inspect : Part → String
  | .literal text => wrap "Literal" (Text.quote text)
  | .required name => record "Required" [("name", Text.quote name)] false
  | .optional name => record "Optional" [("name", Text.quote name)] false

/-- The inspection text of a segment group. -/
def Group.inspect (g : Group) : String :=
  record "SegmentGroup"
    [("fixed", option (g.fixed.map Text.quote)), ("required", toString g.required),
     ("optional", toString g.optional), ("start", toString g.start)] false

/-- The inspection text of a template. -/
def Template.inspect (t : Template) : String :=
  record "PathTemplate"
    [("parts", list (t.parts.map Part.inspect)), ("groups", list (t.groups.map Group.inspect))] false

/-- The inspection text of settings. -/
def Settings.inspect (s : Settings) : String :=
  record "MapperSettings"
    [("recreate_mounted_pages_after_expiry", bool s.recreateMountedPagesAfterExpiry),
     ("case_sensitive", bool s.caseSensitive), ("namespace", Text.quote s.urlNamespace),
     ("bookmarkable_identifier", Text.quote s.bookmarkableIdentifier),
     ("redirect_from_home_page", bool s.redirectFromHomePage)] false

/-- The inspection text of a mount, `home` telling whether it serves the home page. -/
def Mount.inspect (m : Mount) (home : Bool) : String :=
  record "MountedMapper"
    [("template", m.template.inspect), ("class", m.cls.inspect), ("home", bool home)] true

/-- The inspection text of a mapper. -/
def Mapper.inspect : Mapper → String
  | .bookmarkable _ => wrap "Bookmarkable" (record "BookmarkableMapper" [] true)
  | .mounted m => wrap "Mounted" (m.inspect false)
  | .package p =>
    wrap "Package" (record "PackageMapper"
      [("template", p.template.inspect), ("package", Text.quote p.package)] true)
  | .home m => wrap "Home" (m.inspect true)

/-- The inspection text of a context: its settings and home page. -/
def Context.inspect (ctx : Context) : String :=
  record "MapperContext"
    [("settings", ctx.settings.inspect), ("home_page", option (ctx.homePage.map PageClass.inspect))] true

/-- The inspection text of an application. -/
def App.inspect (a : App) : String :=
  record "App" [("mappers", list (a.mappers.map Mapper.inspect)), ("context", a.context.inspect)] false

end PageRoutes
