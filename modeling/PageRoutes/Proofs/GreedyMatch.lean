import PageRoutes.Proofs.TemplateMatch
/-!
Which split of the segments the matcher picks.

A split gives every group of a template a width: a closed group takes its required
placeholders, at most all of its optional ones, and last a segment that stands for its literal;
the open tail can fill its required placeholders and takes what is left, up to its size
(`Splits`). The matcher never backtracks, so it does not find a split whenever there is one; but
the widths it returns are a split, and the lexicographically greatest of all splits
(`matchWidths_greatest_split`): each closed group's search from the right finds the last place
its literal may stand, so no split gives that group more, and a split that gives it as much
leaves the later groups the same segments.
-/
namespace PageRoutes.Template

/-- The matcher's step over a group that other groups follow: the group must be closed by a
literal, found `k` segments after its required ones, and the later groups match what follows
that literal. -/
theorem widthsFrom_cons_cons_eq_some {cs : Bool} {g g₂ : Group} {gs : List Group}
    {rest : List String} {ws : List Nat} :
    widthsFrom cs (g :: g₂ :: gs) rest = some ws ↔
      ∃ literal k ws', g.fixed = some literal ∧
        literalOffset cs literal g.optional (rest.drop g.required) = some k ∧
        widthsFrom cs (g₂ :: gs) (rest.drop (g.required + k + 1)) = some ws' ∧
        ws = (g.required + k + 1) :: ws' := by
  rw [widthsFrom.eq_3]
  cases closed : g.fixed with
  | none => simp
  | some literal =>
    cases found : literalOffset cs literal g.optional (rest.drop g.required) with
    | none => simp [found]
    | some k =>
      simp only [found, List.drop_drop, Option.map_eq_some_iff, Option.some.injEq,
        exists_and_left, exists_eq_left']
      rw [show g.required + (k + 1) = g.required + k + 1 by omega]
      constructor
      · rintro ⟨ws', later, rfl⟩
        exact ⟨ws', later, rfl⟩
      · rintro ⟨ws', later, rfl⟩
        exact ⟨ws', later, rfl⟩

/-- The widths `ws` split the segments `segs` from offset `o` on among the groups `gs`. A closed
group of width `w` at offset `o` takes its required placeholders, at most all its optional ones
and one segment more, the last of which, `segs[o + w - 1]`, stands for its literal; the open
tail can fill its required placeholders and takes what is left, up to its size. -/
def Splits (cs : Bool) (segs : List String) : Nat → List Group → List Nat → Prop
  | o, [tail], [w] => tail.required ≤ segs.length - o ∧ w = min tail.maxCount (segs.length - o)
  | o, g :: gs@(_ :: _), w :: ws =>
    (∃ literal, g.fixed = some literal ∧
      g.required + 1 ≤ w ∧ w ≤ g.required + g.optional + 1 ∧ o + w ≤ segs.length ∧
      ∃ seg, segs[o + w - 1]? = some seg ∧ segmentMatches cs literal seg = true) ∧
    Splits cs segs (o + w) gs ws
  | _, _, _ => False

/-- A split never runs past the segments. -/
theorem Splits.sum_le {cs : Bool} {segs : List String} :
    ∀ {o : Nat} {gs : List Group} {ws : List Nat}, Splits cs segs o gs ws →
      ws.sum ≤ segs.length - o
  | _, [], _, split => by simp [Splits] at split
  | _, [_], [], split => by simp [Splits] at split
  | _, [_], [_], split => by
    simp only [Splits] at split
    simp only [List.sum_cons, List.sum_nil]
    omega
  | _, [_], _ :: _ :: _, split => by simp [Splits] at split
  | _, _ :: _ :: _, [], split => by simp [Splits] at split
  | o, g :: g₂ :: gs, w :: ws, split => by
    obtain ⟨⟨-, -, -, -, fits, -⟩, later⟩ := split
    have := Splits.sum_le later
    simp only [List.sum_cons]
    omega

/-- Whatever the matcher returns is a split. -/
theorem widthsFrom_splits (cs : Bool) (segs : List String) :
    ∀ (gs : List Group) (o : Nat) (ws : List Nat),
      widthsFrom cs gs (segs.drop o) = some ws → Splits cs segs o gs ws
  | [], _, _, matched => by simp [widthsFrom] at matched
  | [tail], o, ws, matched => by
    rw [widthsFrom.eq_2] at matched
    split at matched
    · cases matched
    · rename_i enough
      cases matched
      rw [List.length_drop] at enough
      simp only [Splits, List.length_drop]
      exact ⟨by omega, trivial⟩
  | g :: g₂ :: gs, o, ws, matched => by
    obtain ⟨literal, k, ws', closed, found, later, rfl⟩ :=
      widthsFrom_cons_cons_eq_some.1 matched
    obtain ⟨upto, seg, at_k, hit, -⟩ := literalOffset_eq_some_iff.1 found
    -- the literal stands `k` segments after the required ones, that is at `o + w - 1`
    have at_lit : segs[o + (g.required + k + 1) - 1]? = some seg := by
      rw [List.drop_drop, List.getElem?_drop] at at_k
      rw [← at_k]
      congr 1
      omega
    have inside : o + (g.required + k + 1) - 1 < segs.length :=
      (List.getElem?_eq_some_iff.1 at_lit).1
    rw [List.drop_drop] at later
    exact ⟨⟨literal, closed, by omega, by omega, by omega, seg, at_lit, hit⟩,
      widthsFrom_splits cs segs (g₂ :: gs) _ ws' later⟩

/-- No split is lexicographically greater than the matcher's widths. The first group where a
split differs gets less from it: the literal a split puts at the group's end is one the
matcher's search from the right saw, so it stands no further right than the one the matcher
found. -/
theorem not_lex_widthsFrom (cs : Bool) (segs : List String) :
    ∀ (gs : List Group) (o : Nat) (ws ws' : List Nat),
      widthsFrom cs gs (segs.drop o) = some ws → Splits cs segs o gs ws' →
        ¬ List.Lex (· < ·) ws ws'
  | [], _, _, _, matched, _ => by simp [widthsFrom] at matched
  | [tail], o, ws, ws', matched, split => by
    rw [widthsFrom.eq_2] at matched
    split at matched
    · cases matched
    · cases matched
      rcases ws' with _ | ⟨w', _ | ⟨_, _⟩⟩
      · simp [Splits] at split
      · simp only [Splits] at split
        rw [split.2, List.length_drop]
        exact List.lex_irrefl Nat.lt_irrefl _
      · simp [Splits] at split
  | g :: g₂ :: gs, o, ws, ws', matched, split => by
    obtain ⟨literal, k, ws, closed, found, later, rfl⟩ := widthsFrom_cons_cons_eq_some.1 matched
    obtain ⟨-, -, -, -, last⟩ := literalOffset_eq_some_iff.1 found
    cases ws' with
    | nil => simp [Splits] at split
    | cons w' ws' =>
      obtain ⟨⟨literal', closed', low, high, fits, seg', at', hit'⟩, later'⟩ := split
      have same : literal' = literal := Option.some.inj (closed'.symm.trans closed)
      subst same
      -- the split's literal sits `w' - required - 1` segments after the required ones
      have notPast : w' - g.required - 1 ≤ k := by
        apply Nat.le_of_not_lt
        intro past
        have seen : (segs.drop o |>.drop g.required)[w' - g.required - 1]? = some seg' := by
          rw [List.drop_drop, List.getElem?_drop, ← at']
          congr 1
          omega
        have missed := last (w' - g.required - 1) past (by omega) seg' seen
        simp [hit'] at missed
      intro above
      rcases List.cons_lex_cons_iff.1 above with wider | ⟨width, laterAbove⟩
      · omega
      · rw [← width] at later'
        rw [List.drop_drop] at later
        exact not_lex_widthsFrom cs segs (g₂ :: gs) _ ws ws' later later' laterAbove

/-- The matcher's widths are a split of the segments among the template's groups, the
lexicographically greatest one, and cover no more segments than there are; where there is no
split, the matcher finds nothing. -/
theorem matchWidths_greatest_split (t : Template) (segs : List String) (cs : Bool) :
    (∀ ws, t.matchWidths segs cs = some ws →
      Splits cs segs 0 t.groups ws ∧
        (∀ ws', Splits cs segs 0 t.groups ws' → ¬ List.Lex (· < ·) ws ws') ∧
        ws.sum ≤ segs.length) ∧
    ((∀ ws, ¬ Splits cs segs 0 t.groups ws) → t.matchWidths segs cs = none) := by
  have fromStart : ∀ ws, t.matchWidths segs cs = some ws →
      widthsFrom cs t.groups (segs.drop 0) = some ws := by
    intro ws matched
    rw [List.drop_zero]
    exact matched
  have sound : ∀ ws, t.matchWidths segs cs = some ws → Splits cs segs 0 t.groups ws :=
    fun ws matched => widthsFrom_splits cs segs t.groups 0 ws (fromStart ws matched)
  refine ⟨fun ws matched => ⟨sound ws matched, fun ws' split => ?_, ?_⟩, fun none => ?_⟩
  · exact not_lex_widthsFrom cs segs t.groups 0 ws ws' (fromStart ws matched) split
  · simpa using (sound ws matched).sum_le
  · cases matched : t.matchWidths segs cs with
    | none => rfl
    | some ws => exact absurd (sound ws matched) (none ws)

/-- With two places for the literal, the matcher takes the later one: `fixed/fixed` against
`/#{a}/fixed` gives the optional placeholder the first segment, and the split that leaves it
out is lexicographically smaller. -/
theorem rightmost_literal_split_wins :
    (Template.mk [.optional "a", .literal "fixed"]).matchWidths ["fixed", "fixed"] true =
        some [2, 0] ∧
      Splits true ["fixed", "fixed"] 0 (Template.mk [.optional "a", .literal "fixed"]).groups
        [1, 0] ∧ ¬ List.Lex (· < ·) [2, 0] [1, 0] := by
  have matched : (Template.mk [.optional "a", .literal "fixed"]).matchWidths ["fixed", "fixed"]
      true = some [2, 0] := by
    simp [matchWidths, groups, Group.ofParts, Group.collect, widthsFrom, literalOffset,
      searchBack, segmentMatches, Group.maxCount]
  have split : Splits true ["fixed", "fixed"] 0
      (Template.mk [.optional "a", .literal "fixed"]).groups [1, 0] := by
    simp [Splits, groups, Group.ofParts, Group.collect, segmentMatches, Group.maxCount]
  exact ⟨matched, split,
    ((matchWidths_greatest_split _ _ _).1 [2, 0] matched).2.1 [1, 0] split⟩

end PageRoutes.Template
