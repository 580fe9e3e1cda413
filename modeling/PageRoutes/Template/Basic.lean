/-!
Mount-path templates such as `/blog/${year}/#{slug}`.

A template is a list of parts: literal segments, required placeholders `${name}` and
optional placeholders `#{name}`. The parts fall into segment groups: each group is a
run of placeholders closed by a literal, and the last group is the open tail without
a literal. Matching, extraction and building all walk these groups.
-/
namespace PageRoutes

/-- One segment of a mount path. -/
inductive Part where
  | literal (text : String)
  | required (name : String)
  | optional (name : String)
deriving DecidableEq, Inhabited, Repr

namespace Part

/-- The placeholder name of a part, if it is a placeholder. -/
def name? : Part → Option String
  | literal _ => none
  | required name => some name
  | optional name => some name

/-- How a part is written in a mount path. -/
def render : Part → String
  | literal text => text
  | required name => "$\x7b" ++ name ++ "\x7d"
  | optional name => "#\x7b" ++ name ++ "\x7d"

end Part

/-- A run of placeholders starting at part `start`, with `required` required and
`optional` optional ones, closed by the literal `fixed` or open when that is `none`. -/
structure Group where
  fixed : Option String := none
  required : Nat := 0
  optional : Nat := 0
  start : Nat
deriving DecidableEq, Inhabited, Repr

namespace Group

/-- The number of placeholders of the group. -/
def maxCount (g : Group) : Nat := g.required + g.optional

/-- One for a group closed by a literal, zero for the open tail. -/
def fixedWidth (g : Group) : Nat := if g.fixed.isSome then 1 else 0

/-- The groups of the parts from index `i` on, the open group so far being `g`. -/
def collect (g : Group) (i : Nat) : List Part → List Group
  | [] => [g]
  | .literal text :: rest => { g with fixed := some text } :: collect { start := i + 1 } (i + 1) rest
  | .required _ :: rest => collect { g with required := g.required + 1 } (i + 1) rest
  | .optional _ :: rest => collect { g with optional := g.optional + 1 } (i + 1) rest

/-- The segment groups of a list of parts. -/
def ofParts (parts : List Part) : List Group :=
  collect { start := 0 } 0 parts

end Group

/-- A compiled mount path. -/
structure Template where
  parts : List Part
deriving DecidableEq, Inhabited, Repr

namespace Template

/-- The empty mount path `/`, which matches only where no segment is owned. -/
def root : Template := ⟨[]⟩

/-- The segment groups of the template. -/
def groups (t : Template) : List Group := Group.ofParts t.parts

/-- The mount path written back: `/` and each part, or `/` alone. -/
def render (t : Template) : String :=
  match t.parts with
  | [] => "/"
  | parts => String.join (parts.map fun p => "/" ++ p.render)

/-- The number of parts. -/
def rawSegmentCount (t : Template) : Nat := t.parts.length

/-- The number of groups closed by a literal. -/
def literalCount (t : Template) : Nat := (t.groups.map Group.fixedWidth).foldr (· + ·) 0

/-- The number of optional placeholders. -/
def optionalCount (t : Template) : Nat := (t.groups.map Group.optional).foldr (· + ·) 0

/-- The largest score a template can have. -/
def maxScore : Nat := 2147483647

/-- How specific a template is: literals count twice, required placeholders once and
optional placeholders not at all, capped at `maxScore`. -/
def specificity (t : Template) : Nat :=
  min (t.rawSegmentCount - t.optionalCount + t.literalCount) maxScore

end Template

end PageRoutes
