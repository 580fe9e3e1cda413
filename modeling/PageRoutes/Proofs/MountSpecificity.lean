import PageRoutes.Proofs.GreedyMatch
import PageRoutes.Proofs.GroupIndex
import PageRoutes.Mapper.Request
/-!
Longer mount paths are more specific.

A template's specificity counts its literals twice and its required placeholders once
(`specificity_eq`). Extending a mount path turns the open tail of the shorter one into a group
of the longer one that has at least the tail's required placeholders (`collect_append`,
`collect_head`); matching that group needs at least as many segments as the tail's check asks
for, and the groups before it are matched alike (`widthsFrom_front_isSome`). So a request the
longer mount path matches is matched by the shorter one too, and there the longer one scores at
least as high, strictly so when what it adds holds a literal or a required placeholder
(`extended_mount_scores_higher`).
-/
namespace PageRoutes

namespace Part

/-- Every part is of exactly one kind. -/
theorem kind_count (p : Part) :
    (if p.isLiteral then 1 else 0) + (if p.isRequired then 1 else 0) +
      (if p.isOptional then 1 else 0) = 1 := by
  cases p <;> rfl

end Part

namespace Template

/-! ## Groups of an extended template -/

/-- Collecting groups over parts in two pieces: the groups of the first piece up to its open
last group, then the groups that this open group grows into over the second piece. -/
theorem collect_append (ps : List Part) : ∀ (g : Group) (i : Nat), g.fixed = none →
    ∃ front last, last.fixed = none ∧ Group.collect g i ps = front ++ [last] ∧
      ∀ qs, Group.collect g i (ps ++ qs) = front ++ Group.collect last (i + ps.length) qs := by
  induction ps with
  | nil => exact fun g i openGroup => ⟨[], g, openGroup, rfl, fun qs => by simp⟩
  | cons p ps ih =>
    intro g i openGroup
    cases p with
    | literal text =>
      obtain ⟨front, last, openLast, groups, extended⟩ := ih { start := i + 1 } (i + 1) rfl
      refine ⟨{ g with fixed := some text } :: front, last, openLast,
        by simp [Group.collect, groups], fun qs => ?_⟩
      simp only [List.cons_append, Group.collect, extended, List.length_cons]
      rw [show i + 1 + ps.length = i + (ps.length + 1) by omega]
    | required name =>
      obtain ⟨front, last, openLast, groups, extended⟩ :=
        ih { g with required := g.required + 1 } (i + 1) openGroup
      refine ⟨front, last, openLast, by simp [Group.collect, groups], fun qs => ?_⟩
      simp only [List.cons_append, Group.collect, extended, List.length_cons]
      rw [show i + 1 + ps.length = i + (ps.length + 1) by omega]
    | optional name =>
      obtain ⟨front, last, openLast, groups, extended⟩ :=
        ih { g with optional := g.optional + 1 } (i + 1) openGroup
      refine ⟨front, last, openLast, by simp [Group.collect, groups], fun qs => ?_⟩
      simp only [List.cons_append, Group.collect, extended, List.length_cons]
      rw [show i + 1 + ps.length = i + (ps.length + 1) by omega]

/-- Collecting on from a group, the first group is that group grown by the placeholders before
the next literal, so it has at least its required placeholders. -/
theorem collect_head (qs : List Part) : ∀ (g : Group) (j : Nat),
    ∃ first rest, Group.collect g j qs = first :: rest ∧ g.required ≤ first.required := by
  induction qs with
  | nil => exact fun g j => ⟨g, [], rfl, Nat.le_refl _⟩
  | cons q qs ih =>
    intro g j
    cases q with
    | literal text => exact ⟨_, _, rfl, Nat.le_refl _⟩
    | required name =>
      obtain ⟨first, rest, grown, more⟩ := ih { g with required := g.required + 1 } (j + 1)
      exact ⟨first, rest, grown, by simp at more; omega⟩
    | optional name =>
      obtain ⟨first, rest, grown, more⟩ := ih { g with optional := g.optional + 1 } (j + 1)
      exact ⟨first, rest, grown, more⟩

/-! ## Matching an extended template -/

/-- A group the matcher gets past had its required placeholders' worth of segments. -/
theorem required_le_of_widthsFrom {cs : Bool} {g : Group} {gs : List Group}
    {rest : List String} {ws : List Nat} (matched : widthsFrom cs (g :: gs) rest = some ws) :
    g.required ≤ rest.length := by
  match gs, matched with
  | [], matched =>
    rw [widthsFrom.eq_2] at matched
    split at matched
    · cases matched
    · omega
  | g₂ :: gs, matched =>
    obtain ⟨literal, k, ws', closed, found, -, -⟩ := widthsFrom_cons_cons_eq_some.1 matched
    obtain ⟨-, seg, at_k, -⟩ := literalOffset_eq_some_iff.1 found
    have inside := (List.getElem?_eq_some_iff.1 at_k).1
    simp only [List.length_drop] at inside
    omega

/-- Matching groups that go on past the open tail `tail` with a group `last` having at least
its required placeholders succeeds only where matching up to the tail does: the groups before
it are matched alike, and `last` needs at least the segments the tail's check asks for. -/
theorem widthsFrom_front_isSome {cs : Bool} {tail last : Group} {later : List Group}
    (more : tail.required ≤ last.required) :
    ∀ (front : List Group) (rest : List String),
      (widthsFrom cs (front ++ last :: later) rest).isSome →
        (widthsFrom cs (front ++ [tail]) rest).isSome
  | [], rest, matched => by
    obtain ⟨ws, matched⟩ := Option.isSome_iff_exists.1 matched
    have enough := required_le_of_widthsFrom matched
    rw [List.nil_append, widthsFrom.eq_2, if_neg (by omega)]
    rfl
  | g :: front, rest, matched => by
    obtain ⟨ws, matched⟩ := Option.isSome_iff_exists.1 matched
    -- past `g`, both group lists go on, so `g` is matched as a closed group in both
    obtain ⟨g₂, gs, longer⟩ := List.exists_cons_of_ne_nil
      (List.append_ne_nil_of_right_ne_nil front (List.cons_ne_nil last later))
    obtain ⟨h₂, hs, shorter⟩ := List.exists_cons_of_ne_nil
      (List.append_ne_nil_of_right_ne_nil front (List.cons_ne_nil tail []))
    rw [List.cons_append, longer] at matched
    obtain ⟨literal, k, ws', closed, found, laterMatched, -⟩ :=
      widthsFrom_cons_cons_eq_some.1 matched
    have next := widthsFrom_front_isSome more front (rest.drop (g.required + k + 1))
      (by rw [longer, laterMatched]; rfl)
    obtain ⟨ws'', next⟩ := Option.isSome_iff_exists.1 next
    rw [shorter] at next
    rw [List.cons_append, shorter]
    exact Option.isSome_iff_exists.2
      ⟨_, widthsFrom_cons_cons_eq_some.2 ⟨literal, k, ws'', closed, found, next, rfl⟩⟩

/-- A request that a template matches is matched by every template whose parts are a prefix of
its parts. -/
theorem matchWidths_of_extended {t₁ t₂ : Template} (extended : t₁.parts <+: t₂.parts)
    (segs : List String) (cs : Bool) :
    (t₂.matchWidths segs cs).isSome → (t₁.matchWidths segs cs).isSome := by
  obtain ⟨extra, parts⟩ := extended
  obtain ⟨front, tail, -, groups, grown⟩ := collect_append t₁.parts { start := 0 } 0 rfl
  obtain ⟨first, rest, head, more⟩ := collect_head extra tail (0 + t₁.parts.length)
  have groups₁ : t₁.groups = front ++ [tail] := groups
  have groups₂ : t₂.groups = front ++ first :: rest := by
    rw [Template.groups, Group.ofParts, ← parts, grown, head]
  simp only [matchWidths, groups₁, groups₂]
  exact widthsFrom_front_isSome more front segs

/-! ## Specificity -/

/-- Over parts, the groups hold the optional placeholders between them. -/
theorem collect_optional_sum (ps : List Part) : ∀ (g : Group) (i : Nat),
    ((Group.collect g i ps).map Group.optional).sum = g.optional + ps.countP Part.isOptional := by
  induction ps with
  | nil => simp [Group.collect]
  | cons p ps ih =>
    intro g i
    cases p with
    | literal text =>
      simp [Group.collect, ih { start := i + 1 } (i + 1), Part.isOptional]
    | required name =>
      simp [Group.collect, ih { g with required := g.required + 1 } (i + 1), Part.isOptional]
    | optional name =>
      simp [Group.collect, ih { g with optional := g.optional + 1 } (i + 1), List.countP_cons,
        Part.isOptional]
      omega

theorem optionalCount_eq (t : Template) : t.optionalCount = t.parts.countP Part.isOptional :=
  (collect_optional_sum t.parts { start := 0 } 0).trans (Nat.zero_add _)

/-- Parts are literals, required placeholders and optional placeholders. -/
theorem length_eq_kinds (ps : List Part) :
    ps.length = ps.countP Part.isLiteral + ps.countP Part.isRequired +
      ps.countP Part.isOptional := by
  induction ps with
  | nil => rfl
  | cons p ps ih =>
    have kinds := Part.kind_count p
    simp only [List.countP_cons, List.length_cons]
    omega

/-- Specificity counts literals twice and required placeholders once, up to the cap. -/
theorem specificity_eq (t : Template) :
    t.specificity =
      min (2 * t.parts.countP Part.isLiteral + t.parts.countP Part.isRequired) maxScore := by
  have kinds := length_eq_kinds t.parts
  rw [specificity, rawSegmentCount, literalCount_eq, optionalCount_eq]
  congr 1
  omega

/-- Extending a template's parts never lowers its specificity, and raises it by a literal or a
required placeholder while no cap is reached. -/
theorem specificity_extend (ps extra : List Part) :
    (Template.mk ps).specificity ≤ (Template.mk (ps ++ extra)).specificity ∧
      ((ps ++ extra).length < 2 ^ 30 →
        (∃ p ∈ extra, (∃ text, p = .literal text) ∨ ∃ name, p = .required name) →
        (Template.mk ps).specificity < (Template.mk (ps ++ extra)).specificity) := by
  simp only [specificity_eq, List.countP_append]
  refine ⟨by omega, fun short added => ?_⟩
  -- what is added counts, and the longer template stays under the cap
  have gain : 0 < extra.countP Part.isLiteral + extra.countP Part.isRequired := by
    obtain ⟨p, member, (⟨text, rfl⟩ | ⟨name, rfl⟩)⟩ := added
    · have : 0 < extra.countP Part.isLiteral := List.countP_pos_iff.2 ⟨_, member, rfl⟩
      omega
    · have : 0 < extra.countP Part.isRequired := List.countP_pos_iff.2 ⟨_, member, rfl⟩
      omega
  have kinds := length_eq_kinds (ps ++ extra)
  simp only [List.countP_append] at kinds
  simp only [maxScore]
  omega

/-- A mounted mapper whose template matches a request scores the template's specificity. -/
theorem score_mounted_of_match {ctx : Context} {u : Url} {m : Mount}
    (matched : (m.template.matchWidths u.segments ctx.settings.caseSensitive).isSome) :
    Mapper.score ctx u (.mounted m) = m.template.specificity := by
  simp [Mapper.score, matched]

/-- Extending a mount path never gains matches: whatever the longer template matches, the
shorter one matches too. On a request the longer one matches, a mounted mapper on it scores at
least as high as one on the shorter, and strictly higher when the added parts hold a literal or
a required placeholder and the template has fewer than `2 ^ 30` parts. -/
theorem extended_mount_scores_higher {t₁ t₂ : Template} (extended : t₁.parts <+: t₂.parts) :
    (∀ segs cs, (t₂.matchWidths segs cs).isSome → (t₁.matchWidths segs cs).isSome) ∧
    ∀ (ctx : Context) (u : Url) (cls₁ cls₂ : PageClass) (enc₁ enc₂ : Encoding),
      (t₂.matchWidths u.segments ctx.settings.caseSensitive).isSome →
      Mapper.score ctx u (.mounted ⟨t₁, cls₁, enc₁⟩) ≤
          Mapper.score ctx u (.mounted ⟨t₂, cls₂, enc₂⟩) ∧
        (t₂.parts.length < 2 ^ 30 →
          (∃ p ∈ t₂.parts.drop t₁.parts.length,
            (∃ text, p = .literal text) ∨ ∃ name, p = .required name) →
          Mapper.score ctx u (.mounted ⟨t₁, cls₁, enc₁⟩) <
            Mapper.score ctx u (.mounted ⟨t₂, cls₂, enc₂⟩)) := by
  refine ⟨matchWidths_of_extended extended, fun ctx u cls₁ cls₂ enc₁ enc₂ matched => ?_⟩
  have matched₁ := matchWidths_of_extended extended _ _ matched
  rw [score_mounted_of_match matched₁, score_mounted_of_match matched]
  obtain ⟨extra, parts⟩ := extended
  obtain ⟨ps₁⟩ := t₁
  obtain ⟨ps₂⟩ := t₂
  subst parts
  obtain ⟨atLeast, above⟩ := specificity_extend ps₁ extra
  refine ⟨by exact_mod_cast atLeast, fun short added => ?_⟩
  rw [List.drop_left] at added
  exact_mod_cast above short added

/-- Mounted at `/a/b`, a mapper outscores one mounted at `/a` on the request `a/b`. -/
theorem longer_literal_mount_outscores :
    [Part.literal "a"] <+: [Part.literal "a", .literal "b"] ∧
      Mapper.score {} ⟨["a", "b"], []⟩
          (.mounted ⟨⟨[.literal "a"]⟩, ⟨"Short"⟩, .query⟩) <
        Mapper.score {} ⟨["a", "b"], []⟩
          (.mounted ⟨⟨[.literal "a", .literal "b"]⟩, ⟨"Long"⟩, .query⟩) := by
  have extended : [Part.literal "a"] <+: [Part.literal "a", .literal "b"] :=
    ⟨[.literal "b"], rfl⟩
  have matched : ((Template.mk [.literal "a", .literal "b"]).matchWidths ["a", "b"]
      ({} : Context).settings.caseSensitive).isSome := by
    simp [matchWidths, groups, Group.ofParts, Group.collect, widthsFrom, literalOffset,
      searchBack, segmentMatches, Group.maxCount]
  have scores := (@extended_mount_scores_higher ⟨[.literal "a"]⟩
    ⟨[.literal "a", .literal "b"]⟩ extended).2 {} ⟨["a", "b"], []⟩
      ⟨"Short"⟩ ⟨"Long"⟩ .query .query matched
  exact ⟨extended, scores.2 (by decide) ⟨.literal "b", by simp, .inl ⟨"b", rfl⟩⟩⟩

end Template

end PageRoutes
