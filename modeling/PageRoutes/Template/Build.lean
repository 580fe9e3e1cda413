import PageRoutes.Template.Basic
import PageRoutes.Params
/-!
Building request segments from a template and parameters.

Each placeholder takes every value of its name out of the parameters and writes the
first one. A required placeholder without a non-empty value fails the build; an
optional one without it writes nothing, so the later segments close the gap.
-/
namespace PageRoutes

/-- Why a template cannot be built. -/
inductive BuildError where
  /-- The required placeholder `name` has no non-empty value. -/
  | missingRequired (name : String)
deriving DecidableEq, Inhabited, Repr

/-- The error's text. -/
def BuildError.message : BuildError → String
  | .missingRequired name => "no value for required placeholder \x60" ++ name ++ "\x60"

/-- Built segments and the parameters no placeholder took. -/
structure Built where
  segments : List String
  remaining : Params
deriving Inhabited

namespace Template

/-- Builds the parts in order from the parameters `p`. -/
def buildParts : List Part → Params → Except BuildError Built
  | [], p => .ok ⟨[], p⟩
  | .literal text :: ps, p => (buildParts ps p).map fun b => { b with segments := text :: b.segments }
  | .required name :: ps, p =>
    match p.remove name with
    | (some value, p') =>
      if value.isEmpty then .error (.missingRequired name)
      else (buildParts ps p').map fun b => { b with segments := value :: b.segments }
    | (none, _) => .error (.missingRequired name)
  | .optional name :: ps, p =>
    match p.remove name with
    | (some value, p') =>
      if value.isEmpty then buildParts ps p'
      else (buildParts ps p').map fun b => { b with segments := value :: b.segments }
    | (none, p') => buildParts ps p'

/-- The segments of the template filled from the parameters. -/
def build (t : Template) (p : Params) : Except BuildError Built :=
  buildParts t.parts p

end Template

end PageRoutes
