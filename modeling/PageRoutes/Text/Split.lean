/-!
Cutting character lists at a separator: `splitOnce` cuts at the first occurrence
and keeps the rest whole.
-/
namespace PageRoutes.Text

/-- The characters before the first `sep` and those after it, if `sep` occurs. -/
def splitOnce (sep : Char) : List Char → Option (List Char × List Char)
  | [] => none
  | c :: cs => if c = sep then some ([], cs) else (splitOnce sep cs).map fun r => (c :: r.1, r.2)

/-- The number of bytes of the UTF-8 form of characters. -/
def byteLength (cs : List Char) : Nat :=
  (cs.map Char.utf8Size).foldr (· + ·) 0

@[simp] theorem byteLength_nil : byteLength [] = 0 := rfl

@[simp] theorem byteLength_cons (c : Char) (cs : List Char) :
    byteLength (c :: cs) = c.utf8Size + byteLength cs := rfl

@[simp] theorem byteLength_append (as bs : List Char) :
    byteLength (as ++ bs) = byteLength as + byteLength bs := by
  induction as with
  | nil => simp
  | cons c cs ih => simp only [List.cons_append, byteLength_cons, ih]; omega

end PageRoutes.Text
