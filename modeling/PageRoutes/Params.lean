/-!
Page parameters: positional (indexed) values and named values.

A name may carry several values, kept in the order they were added; `get?` answers
the first. Two parameter sets are the same (`equiv`) when their indexed values are
equal and their named values agree after a stable sort by name, so the relative
order of different names does not count but the order of one name's values does.
-/
namespace PageRoutes

/-- Indexed values and named values, each in insertion order. -/
structure Params where
  indexed : List String := []
  named : List (String × String) := []
deriving Inhabited

namespace Params

/-- No values at all. -/
def empty : Params := {}

/-- Adds a named value after all others. -/
def add (p : Params) (key value : String) : Params :=
  { p with named := p.named ++ [(key, value)] }

/-- Adds an indexed value after all others. -/
def pushIndexed (p : Params) (value : String) : Params :=
  { p with indexed := p.indexed ++ [value] }

/-- Indexed and named values of `q` after those of `p`. -/
def append (p q : Params) : Params :=
  { indexed := p.indexed ++ q.indexed, named := p.named ++ q.named }

/-- The first value of a name. -/
def get? (p : Params) (key : String) : Option String :=
  (p.named.find? (·.1 == key)).map (·.2)

/-- All values of a name, in order. -/
def values (p : Params) (key : String) : List String :=
  (p.named.filter (·.1 == key)).map (·.2)

/-- Whether a name has a value. -/
def contains (p : Params) (key : String) : Bool :=
  p.named.any (·.1 == key)

/-- Drops every value of a name. -/
def erase (p : Params) (key : String) : Params :=
  { p with named := p.named.filter (·.1 != key) }

/-- Takes a name out: its first value, and the parameters without any of its
values. -/
def remove (p : Params) (key : String) : Option String × Params :=
  (p.get? key, p.erase key)

/-- The distinct names, in order of first occurrence. -/
def keys (p : Params) : List String :=
  (p.named.map (·.1)).eraseDups

/-- The named values in a stable sort by name. -/
def sortedNamed (p : Params) : List (String × String) :=
  p.named.mergeSort fun a b => a.1 ≤ b.1

/-- Sameness of parameter sets: equal indexed values and equal named values after
a stable sort by name. -/
def equiv (p q : Params) : Bool :=
  p.indexed == q.indexed && p.sortedNamed == q.sortedNamed

end Params

end PageRoutes
