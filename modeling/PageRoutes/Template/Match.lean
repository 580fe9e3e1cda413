import PageRoutes.Template.Basic
import PageRoutes.Text.Lowercase
/-!
Matching request segments against a template.

The groups are visited in order and never revisited. A closed group takes one segment
for each required placeholder and then looks for its literal among the next
`optional + 1` segments from right to left, so as many optional placeholders as
possible count as present; a literal not found fails the match. The open tail must be
able to fill its required placeholders and takes what is left up to its size. The
answer is the number of segments each group took, its literal included.
-/
namespace PageRoutes

namespace Template

/-- Whether a request segment stands for a literal: equal, or, when case does not
count, equal up to ASCII case or with both sides in lowercase. -/
def segmentMatches (caseSensitive : Bool) (literal segment : String) : Bool :=
  if caseSensitive then literal == segment
  else Text.eqIgnoreAsciiCase literal segment || Text.lowercase literal == Text.lowercase segment

/-- The largest `k < n` with `p k`. -/
def searchBack (p : Nat → Bool) : Nat → Option Nat
  | 0 => none
  | n + 1 => if p n then some n else searchBack p n

/-- Where the literal of a closed group with `optional` optional placeholders stands
among `rest`, the segments after its required ones: the number of optional
placeholders present. -/
def literalOffset (caseSensitive : Bool) (literal : String) (optional : Nat)
    (rest : List String) : Option Nat :=
  searchBack (fun k => (rest[k]?.map (segmentMatches caseSensitive literal)).getD false)
    (min (optional + 1) rest.length)

/-- The widths of the groups over the segments `rest` not yet taken. -/
def widthsFrom (caseSensitive : Bool) : List Group → List String → Option (List Nat)
  | [], _ => none
  | [tail], rest =>
    if rest.length < tail.required then none else some [min tail.maxCount rest.length]
  | g :: gs@(_ :: _), rest =>
    match g.fixed with
    | none => none
    | some literal =>
      let after := rest.drop g.required
      match literalOffset caseSensitive literal g.optional after with
      | none => none
      | some k => (widthsFrom caseSensitive gs (after.drop (k + 1))).map ((g.required + k + 1) :: ·)

/-- The number of leading segments a match owns: the sum of its widths. -/
def total (widths : List Nat) : Nat := widths.foldr (· + ·) 0

/-- The number of segments each group takes, if the segments start with the
template. -/
def matchWidths (t : Template) (segments : List String) (caseSensitive : Bool) :
    Option (List Nat) :=
  widthsFrom caseSensitive t.groups segments

end Template

end PageRoutes
