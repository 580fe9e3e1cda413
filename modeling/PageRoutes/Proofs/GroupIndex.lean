import Mathlib.Data.List.Chain
import PageRoutes.Proofs.TemplateLayout
/-!
The segment groups of a template read as indices into its parts.

`Group.ofParts` seals the open group at each literal and opens the next one just past it.
Read as indices, the groups it returns satisfy `IndexesParts`: the first starts at part 0 and
each next one right after the previous group's placeholders and literal; every group but the
last is closed by the literal standing right after its placeholders; each group's placeholders
are the parts from its start, as many as it counts, all within the parts; and the last group is
open and ends with the parts (`groups_index_parts`). Hence the groups' widths add up to the
number of parts, the closed groups are as many as the literal parts, and the matcher, which
needs a literal for every group but the last, always finds one.
-/
namespace PageRoutes

namespace Template

/-- How the groups `gs` index the parts of `t` from part `start` on: the first group starts
there and each next one one past the previous group's placeholders; every group but the last is
closed by the literal right after its placeholders; the placeholders of each group lie within
the parts, as its counts say; the last group is open and ends with the parts. -/
structure IndexesParts (t : Template) (start : Nat) (gs : List Group) : Prop where
  first_start : gs.head?.map Group.start = some start
  next_start : gs.IsChain fun g g' => g'.start = g.start + g.maxCount + 1
  closed : ∀ g ∈ gs.dropLast, ∃ text, g.fixed = some text ∧
    t.parts[g.start + g.maxCount]? = some (.literal text)
  placeholders : ∀ g ∈ gs,
    g.start + g.maxCount ≤ t.parts.length ∧ Placeholders g (t.slice g)
  last_open : ∃ g, gs.getLast? = some g ∧ g.fixed = none ∧
    g.start + g.maxCount = t.parts.length

/-- The groups laid out from part `start` index the parts from there on. -/
theorem laysOut_indexesParts (t : Template) :
    ∀ (gs : List Group) (ps : List Part) (start : Nat),
      LaysOut start gs ps → t.parts.drop start = ps → start ≤ t.parts.length →
      IndexesParts t start gs
  | [], _, _, layout, _, _ => by simp [LaysOut] at layout
  | [g], ps, start, layout, placed, within => by
    simp only [LaysOut] at layout
    obtain ⟨starts, openGroup, held⟩ := layout
    have sliced : t.slice g = ps := @slice_eq t g ps [] (by simpa [starts] using placed) held
    have ends : g.start + g.maxCount = t.parts.length := by
      have counted := congrArg List.length placed
      rw [List.length_drop, held.length] at counted
      omega
    refine ⟨by simp [starts], by simp, by simp, ?_, ⟨g, rfl, openGroup, ends⟩⟩
    intro g' member
    rw [List.mem_singleton.1 member, sliced]
    exact ⟨ends.le, held⟩
  | g :: g₂ :: gs, ps, start, layout, placed, within => by
    simp only [LaysOut] at layout
    obtain ⟨phs, text, rest, split, starts, closed, held, later⟩ := layout
    have count := held.length
    have sliced : t.slice g = phs := slice_eq (by rw [starts, placed, split]) held
    have length : t.parts.length = start + phs.length + 1 + rest.length := by
      have counted := congrArg List.length (placed.trans split)
      simp only [List.length_drop, List.length_append, List.length_cons] at counted
      omega
    have literal : t.parts[g.start + g.maxCount]? = some (.literal text) := by
      rw [starts, ← count, ← List.getElem?_drop, placed, split]
      simp
    obtain ⟨first, chain, closedLater, placeholdersLater, lastOpen⟩ :=
      laysOut_indexesParts t (g₂ :: gs) rest (start + phs.length + 1) later
        (drop_after_closed (placed.trans split)) (by omega)
    refine ⟨by simp [starts], ?_, ?_, ?_, by simpa [List.getLast?_cons_cons] using lastOpen⟩
    · -- the next group starts one past this group's placeholders, at its literal's successor
      refine List.isChain_cons_cons.2 ⟨?_, chain⟩
      simp only [List.head?_cons, Option.map_some, Option.some.injEq] at first
      omega
    · intro g' member
      rw [List.dropLast_cons_cons, List.mem_cons] at member
      rcases member with rfl | member
      · exact ⟨text, closed, literal⟩
      · exact closedLater g' member
    · intro g' member
      rcases List.mem_cons.1 member with rfl | member
      · exact ⟨by omega, sliced ▸ held⟩
      · exact placeholdersLater g' member

/-- Dropping the first group: the rest index the parts from one past its placeholders. -/
theorem IndexesParts.tail {t : Template} {start : Nat} {g g₂ : Group} {gs : List Group}
    (indexes : IndexesParts t start (g :: g₂ :: gs)) :
    IndexesParts t (g.start + g.maxCount + 1) (g₂ :: gs) where
  first_start := by simpa using (List.isChain_cons_cons.1 indexes.next_start).1
  next_start := (List.isChain_cons_cons.1 indexes.next_start).2
  closed g' member := indexes.closed g' (by
    rw [List.dropLast_cons_cons]
    exact List.mem_cons_of_mem g member)
  placeholders g' member := indexes.placeholders g' (List.mem_cons_of_mem g member)
  last_open := by simpa [List.getLast?_cons_cons] using indexes.last_open

/-- A group starts after all parts of the groups before it, their placeholders and literals. -/
theorem IndexesParts.start_eq_sum {t : Template} :
    ∀ {start : Nat} (before : List Group) {g : Group} {after : List Group},
      IndexesParts t start (before ++ g :: after) →
      g.start = start + (before.map fun g => g.maxCount + g.fixedWidth).sum
  | start, [], g, after, indexes => by simpa using indexes.first_start
  | start, b :: before, g, after, indexes => by
    obtain ⟨c, rest, split⟩ := List.exists_cons_of_ne_nil
      (List.append_ne_nil_of_right_ne_nil before (List.cons_ne_nil g after))
    rw [List.cons_append, split] at indexes
    have first : b.start = start := by simpa using indexes.first_start
    obtain ⟨text, closed, -⟩ := indexes.closed b (by simp [List.dropLast_cons_cons])
    have next := IndexesParts.start_eq_sum before (split ▸ indexes.tail)
    rw [next, first]
    simp [fixedWidth_closed closed]
    omega

/-- Groups laid out over parts take all of them, between placeholders and literals. -/
theorem laysOut_width_sum :
    ∀ (gs : List Group) (ps : List Part) (start : Nat), LaysOut start gs ps →
      (gs.map fun g => g.maxCount + g.fixedWidth).sum = ps.length
  | [], _, _, layout => by simp [LaysOut] at layout
  | [g], ps, start, layout => by
    simp only [LaysOut] at layout
    obtain ⟨-, openGroup, held⟩ := layout
    simp [fixedWidth_open openGroup, held.length]
  | g :: g₂ :: gs, ps, start, layout => by
    simp only [LaysOut] at layout
    obtain ⟨phs, text, rest, split, -, closed, held, later⟩ := layout
    have rest_sum := laysOut_width_sum (g₂ :: gs) rest _ later
    rw [List.map_cons, List.sum_cons, rest_sum, split, fixedWidth_closed closed, ← held.length]
    simp only [List.length_append, List.length_cons]
    omega

/-- Over parts that start an open group, the closed groups are as many as the literals. -/
theorem collect_fixedWidth_sum (ps : List Part) : ∀ (g : Group) (i : Nat), g.fixed = none →
    ((Group.collect g i ps).map Group.fixedWidth).sum = ps.countP Part.isLiteral := by
  induction ps with
  | nil => intro g i openGroup; simp [Group.collect, fixedWidth_open openGroup]
  | cons p ps ih =>
    intro g i openGroup
    cases p with
    | literal text =>
      simp [Group.collect, ih { start := i + 1 } (i + 1) rfl, Group.fixedWidth, List.countP_cons,
        Part.isLiteral, Nat.add_comm]
    | required name =>
      simp [Group.collect, ih { g with required := g.required + 1 } (i + 1) openGroup,
        Part.isLiteral]
    | optional name =>
      simp [Group.collect, ih { g with optional := g.optional + 1 } (i + 1) openGroup,
        Part.isLiteral]

theorem literalCount_eq (t : Template) : t.literalCount = t.parts.countP Part.isLiteral :=
  collect_fixedWidth_sum t.parts { start := 0 } 0 rfl

/-- The groups of every template index its parts from part 0 on, so their widths add up to the
parts, the closed groups count the literal parts, and every group the matcher looks for a
literal in, all but the last, has one. -/
theorem groups_index_parts (t : Template) :
    IndexesParts t 0 t.groups ∧
      (t.groups.map fun g => g.maxCount + g.fixedWidth).sum = t.rawSegmentCount ∧
      t.literalCount = t.parts.countP Part.isLiteral ∧
      ∀ g ∈ t.groups.dropLast, g.fixed.isSome := by
  have layout := ofParts_laysOut t.parts
  have indexes := laysOut_indexesParts t t.groups t.parts 0 layout rfl (Nat.zero_le _)
  refine ⟨indexes, laysOut_width_sum _ _ _ layout, literalCount_eq t, ?_⟩
  intro g member
  obtain ⟨text, closed, -⟩ := indexes.closed g member
  simp [closed]

end Template

end PageRoutes
