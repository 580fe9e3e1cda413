import Mathlib
import PageRoutes.Text.Split
/-!
Cutting at a separator undoes joining with it, for pieces that do not hold the separator.
These are the steps every reader of a token or a URL takes.
-/
namespace PageRoutes.Text

theorem splitOnce_eq_none {sep : Char} {cs : List Char} (absent : sep ∉ cs) :
    splitOnce sep cs = none := by
  induction cs with
  | nil => rfl
  | cons c cs ih =>
    have different : c ≠ sep := fun same => absent (same ▸ List.mem_cons_self)
    simp [splitOnce, different, ih (fun later => absent (List.mem_cons_of_mem c later))]

theorem splitOnce_append_cons {sep : Char} {before : List Char} (absent : sep ∉ before)
    (after : List Char) : splitOnce sep (before ++ sep :: after) = some (before, after) := by
  induction before with
  | nil => simp [splitOnce]
  | cons c cs ih =>
    have different : c ≠ sep := fun same => absent (same ▸ List.mem_cons_self)
    simp [splitOnce, different, ih (fun later => absent (List.mem_cons_of_mem c later))]

/-- A cut is at the first separator: the text is the part before it, the separator and the
rest. -/
theorem eq_append_of_splitOnce {sep : Char} {cs before after : List Char}
    (split : splitOnce sep cs = some (before, after)) :
    sep ∉ before ∧ cs = before ++ sep :: after := by
  induction cs generalizing before with
  | nil => cases split
  | cons c cs ih =>
    unfold splitOnce at split
    split at split
    · rename_i found
      simp only [Option.some.injEq, Prod.mk.injEq] at split
      obtain ⟨rfl, rfl⟩ := split
      simp [found]
    · rename_i different
      obtain ⟨⟨first, rest⟩, later, cut⟩ := Option.map_eq_some_iff.1 split
      simp only [Prod.mk.injEq] at cut
      obtain ⟨rfl, rfl⟩ := cut
      obtain ⟨absent, whole⟩ := ih later
      exact ⟨by simp [absent, Ne.symm different], by simp [whole]⟩

end PageRoutes.Text
