/-!
Sets of characters given as ranges of code points, the form in which the tables of
the Unicode character database are kept here.
-/
namespace PageRoutes.Text

/-- Whether a code point lies in one of the inclusive ranges. -/
def inRanges (ranges : List (Nat × Nat)) (n : Nat) : Bool :=
  ranges.any fun r => r.1 ≤ n && n ≤ r.2

end PageRoutes.Text
