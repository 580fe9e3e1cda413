import PageRoutes.Template.Basic
import PageRoutes.Params
/-!
Reading placeholder values out of matched request segments.

Within a group the placeholders are bound in order: required ones always, optional
ones while the group's width still has room for them. Every optional placeholder left
out shifts all later segments one place to the left; `skipped` counts those shifts.
-/
namespace PageRoutes

namespace Template

/-- The bindings of a group's placeholders `parts`, with `left` optional ones
present, reading from segment `pos` on. A position past the segments binds nothing. -/
def groupBindings (segments : List String) : List Part → Nat → Nat → List (String × String)
  | [], _, _ => []
  | .required name :: ps, left, pos =>
    (segments[pos]?.map (name, ·)).toList ++ groupBindings segments ps left (pos + 1)
  | .optional name :: ps, left + 1, pos =>
    (segments[pos]?.map (name, ·)).toList ++ groupBindings segments ps left (pos + 1)
  | _ :: ps, left, pos => groupBindings segments ps left pos

/-- The bindings of the groups, each paired with its width, after `skipped` optional
placeholders of earlier groups were left out. -/
def bindingsFrom (t : Template) (segments : List String) :
    Nat → List (Group × Nat) → List (String × String)
  | _, [] => []
  | skipped, (g, width) :: rest =>
    let present := width - g.fixedWidth
    groupBindings segments ((t.parts.drop g.start).take g.maxCount) (present - g.required)
        (g.start - skipped) ++
      bindingsFrom t segments (skipped + (g.maxCount - min present g.maxCount)) rest

/-- The placeholder values of matched segments, as named parameters in template
order. -/
def extract (t : Template) (segments : List String) (widths : List Nat) : Params :=
  { named := bindingsFrom t segments 0 (t.groups.zip widths) }

end Template

end PageRoutes
