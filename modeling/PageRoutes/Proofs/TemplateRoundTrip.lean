import Mathlib.Data.List.Sort
import PageRoutes.Proofs.ParamsEquiv
import PageRoutes.Proofs.TemplateMatch
/-!
Building a template and reading the built segments back.

A part writes a segment when it is a literal, or a placeholder whose name has a non-empty first
value (`writes`). Over the segments built from parameters, the matcher and the extractor give the
placeholder values back exactly when two conditions on the groups hold (`match_built_iff`): in
each group the optional placeholders with a value come first (`OptionalsFirst`), so that the
extractor's rule of binding the first optional ones binds those; and no closed group's literal
stands among the segments after it that the matcher's right-to-left search looks at
(`LiteralsClear`), so that the search stops at the literal the group wrote. Both directions go
group by group (`widthsFrom_written`, `built_of_widthsFrom`) through two facts about one group: a
match keeps exactly the placeholders that wrote when those come first (`kept_eq_filter_iff`),
and the search stops at the written literal when nothing in its view past it stands for the
literal (`literalOffset_written_iff`).

The forward direction holds more generally, as a request reads it (`read_built_append`): literals
compared up to case when case does not count (`LiteralsUnmatched`), and further segments after the
built ones, which the matcher leaves alone when they find the last group full.
-/
namespace PageRoutes.Template

variable {p : Params}

/-! ## Parts that write a segment -/

/-- Whether a part writes a segment: a literal always, a placeholder when its name has a
non-empty first value. -/
def writes (p : Params) (q : Part) : Bool := (written p q).isSome

@[simp] theorem writes_literal (text : String) : writes p (.literal text) = true := rfl

@[simp] theorem writes_required (name : String) :
    writes p (.required name) = (p.value? name).isSome := rfl

@[simp] theorem writes_optional (name : String) :
    writes p (.optional name) = (p.value? name).isSome := rfl

theorem kept_sublist : ∀ (phs : List Part) (k : Nat), (kept phs k).Sublist phs
  | [], _ => .slnil
  | .literal _ :: phs, k => (kept_sublist phs k).cons _
  | .required _ :: phs, k => (kept_sublist phs k).cons_cons _
  | .optional _ :: phs, 0 => (kept_sublist phs 0).cons _
  | .optional _ :: phs, k + 1 => (kept_sublist phs k).cons_cons _

/-- The parts that write a segment are the parts less some optional placeholders, once every
required placeholder has a value. -/
theorem filter_writes_drops {ps : List Part} (complete : firstMissing p ps = none) :
    DropsOptionals ps (ps.filter (writes p)) := by
  induction ps with
  | nil => exact .nil
  | cons q ps ih =>
    cases q with
    | literal text => simpa [List.filter_cons] using DropsOptionals.keep _ (ih (by simpa [firstMissing] using complete))
    | required name =>
      simp only [firstMissing] at complete
      split at complete
      · rename_i present
        simpa [List.filter_cons, present] using DropsOptionals.keep _ (ih complete)
      · cases complete
    | optional name =>
      by_cases present : (p.value? name).isSome
      · simpa [List.filter_cons, present] using DropsOptionals.keep _ (ih (by simpa [firstMissing] using complete))
      · simpa [List.filter_cons, present] using DropsOptionals.skip name (ih (by simpa [firstMissing] using complete))

/-- Two ways of leaving out optional placeholders that keep the same names are one way, when no
name repeats. -/
theorem DropsOptionals.eq_of_names {ps a b : List Part} (left : DropsOptionals ps a)
    (right : DropsOptionals ps b) (distinct : (names ps).Nodup)
    (same : ∀ n, n ∈ names a ↔ n ∈ names b) : a = b := by
  induction left generalizing b with
  | nil => cases right; rfl
  | keep q left ih =>
    rename_i ps a
    cases right with
    | keep _ right =>
      rename_i b
      -- the head's name, if any, is in neither tail
      have fresh : ∀ n, q.name? = some n → n ∉ names a ∧ n ∉ names b := by
        intro n named
        have outside : n ∉ names ps := by
          cases q <;> simp_all [Part.name?]
        exact ⟨fun inA => outside (left.names_sublist.subset inA),
          fun inB => outside (right.names_sublist.subset inB)⟩
      have tails : ∀ n, n ∈ names a ↔ n ∈ names b := by
        intro n
        have both := same n
        cases q with
        | literal text => simpa using both
        | required m =>
          by_cases head : n = m
          · subst head
            simp [(fresh n rfl).1, (fresh n rfl).2]
          · simpa [head] using both
        | optional m =>
          by_cases head : n = m
          · subst head
            simp [(fresh n rfl).1, (fresh n rfl).2]
          · simpa [head] using both
      have distinctTail : (names ps).Nodup := by
        cases q <;> simp_all
      rw [ih right distinctTail tails]
    | skip name right =>
      rename_i b
      simp only [names_cons_optional, List.nodup_cons] at distinct
      have inB := (same name).1 (by simp)
      exact absurd (right.names_sublist.subset inB) distinct.1
  | skip name left ih =>
    rename_i ps a
    simp only [names_cons_optional, List.nodup_cons] at distinct
    cases right with
    | keep _ right =>
      rename_i b
      have inA := (same name).2 (by simp)
      exact absurd (left.names_sublist.subset inA) distinct.1
    | skip _ right => exact ih right distinct.2 same

/-! ## One group -/

/-- Within a group, a match keeps exactly the placeholders that write a segment when the optional
ones that write come before those that do not, and it keeps as many optional ones as write. -/
theorem kept_eq_filter_iff {phs : List Part} (placeholders : ∀ q ∈ phs, q.name?.isSome)
    (distinct : (names phs).Nodup) (complete : firstMissing p phs = none) (k : Nat)
    (upto : k ≤ phs.countP Part.isOptional) :
    kept phs k = phs.filter (writes p) ↔
      (phs.filter Part.isOptional).Pairwise (fun a b => writes p b → writes p a) ∧
        k = (phs.filter Part.isOptional).countP (writes p) := by
  induction phs generalizing k with
  | nil =>
    simp only [List.countP_nil, Nat.le_zero] at upto
    simp [kept, upto]
  | cons q phs ih =>
    have rest : ∀ r ∈ phs, r.name?.isSome := fun r member =>
      placeholders r (List.mem_cons_of_mem q member)
    cases q with
    | literal text => simp [Part.name?] at placeholders
    | required name =>
      simp only [firstMissing] at complete
      split at complete
      · rename_i present
        simp only [names_cons_required, List.nodup_cons] at distinct
        have upto' : k ≤ phs.countP Part.isOptional := by simpa [Part.isOptional] using upto
        simpa [kept, List.filter_cons, present, Part.isOptional] using
          ih rest distinct.2 complete k upto'
      · cases complete
    | optional name =>
      simp only [names_cons_optional, List.nodup_cons] at distinct
      -- the head is in no list made from the tail
      have absent : Part.optional name ∉ phs := fun member =>
        distinct.1 (List.mem_filterMap.2 ⟨_, member, rfl⟩)
      have complete' : firstMissing p phs = none := by simpa [firstMissing] using complete
      cases k with
      | zero =>
        by_cases present : (p.value? name).isSome
        · simp only [kept, List.filter_cons, writes_optional, present, if_true, Part.isOptional,
            List.countP_cons]
          constructor
          · intro same
            exact absurd ((kept_sublist phs 0).subset (same ▸ List.mem_cons_self)) absent
          · rintro ⟨-, count⟩
            simp at count
        · simp only [kept, List.filter_cons, writes_optional, present, Part.isOptional]
          simp only [Bool.false_eq_true, if_false, if_true, List.countP_cons]
          rw [ih rest distinct.2 complete' 0 (Nat.zero_le _)]
          constructor
          · rintro ⟨pairwise, count⟩
            refine ⟨List.pairwise_cons.2 ⟨fun b member writesB => ?_, pairwise⟩,
              by simpa [present] using count⟩
            -- no optional placeholder of the tail writes
            exact absurd (List.countP_pos_iff.2 ⟨b, member, writesB⟩) (by omega)
          · rintro ⟨pairwise, count⟩
            exact ⟨(List.pairwise_cons.1 pairwise).2, by simpa [present] using count⟩
      | succ k =>
        have upto' : k ≤ phs.countP Part.isOptional := by
          simp [Part.isOptional, List.countP_cons] at upto
          omega
        by_cases present : (p.value? name).isSome
        · simp only [kept, List.filter_cons, writes_optional, present, Part.isOptional, if_true,
            List.countP_cons, List.cons.injEq, true_and]
          rw [ih rest distinct.2 complete' k upto']
          constructor
          · rintro ⟨pairwise, count⟩
            exact ⟨List.pairwise_cons.2 ⟨fun b _ _ => present, pairwise⟩, by omega⟩
          · rintro ⟨pairwise, count⟩
            exact ⟨(List.pairwise_cons.1 pairwise).2, by omega⟩
        · simp only [kept, List.filter_cons, writes_optional, present, Part.isOptional,
            Bool.false_eq_true, if_false, if_true, List.countP_cons]
          constructor
          · intro same
            exact absurd (List.mem_filter.1 (same ▸ List.mem_cons_self)).1 absent
          · rintro ⟨pairwise, count⟩
            obtain ⟨b, member, writesB⟩ := List.countP_pos_iff.1 (by omega :
              0 < (phs.filter Part.isOptional).countP (writes p))
            exact absurd ((List.pairwise_cons.1 pairwise).1 b member writesB) present

/-- Placeholders, a literal, and more parts split one way only at that literal. -/
theorem placeholders_append_literal_inj {a b c d : List Part} {text : String}
    (inA : ∀ q ∈ a, q.name?.isSome) (inC : ∀ q ∈ c, q.name?.isSome)
    (same : a ++ .literal text :: b = c ++ .literal text :: d) : a = c ∧ b = d := by
  induction a generalizing c with
  | nil =>
    cases c with
    | nil => simpa using same
    | cons q c =>
      simp only [List.nil_append, List.cons_append, List.cons.injEq] at same
      have named := inC q List.mem_cons_self
      simp [← same.1, Part.name?] at named
  | cons q a ih =>
    cases c with
    | nil =>
      simp only [List.nil_append, List.cons_append, List.cons.injEq] at same
      have named := inA q List.mem_cons_self
      simp [same.1, Part.name?] at named
    | cons r c =>
      simp only [List.cons_append, List.cons.injEq] at same
      obtain ⟨rfl, tails⟩ := same
      obtain ⟨heads, rests⟩ := ih (fun r member => inA r (List.mem_cons_of_mem _ member))
        (fun r member => inC r (List.mem_cons_of_mem _ member)) tails
      exact ⟨by rw [heads], rests⟩

theorem length_filter_writes (ps : List Part) :
    (ps.filter (writes p)).length = (ps.filterMap (written p)).length := by
  simp only [List.length_filterMap_eq_countP, List.countP_eq_length_filter]
  rfl

/-- A group's placeholders write a segment for each required one and for each optional one
with a value. -/
theorem length_filterMap_written {phs : List Part} (placeholders : ∀ q ∈ phs, q.name?.isSome)
    (complete : firstMissing p phs = none) :
    (phs.filterMap (written p)).length =
      phs.countP Part.isRequired + (phs.filter Part.isOptional).countP (writes p) := by
  induction phs with
  | nil => rfl
  | cons q phs ih =>
    have rest : ∀ r ∈ phs, r.name?.isSome := fun r member =>
      placeholders r (List.mem_cons_of_mem q member)
    cases q with
    | literal text => simp [Part.name?] at placeholders
    | required name =>
      simp only [firstMissing] at complete
      split at complete
      · rename_i present
        obtain ⟨v, value⟩ := Option.isSome_iff_exists.1 present
        simp [value, List.countP_cons, Part.isRequired, Part.isOptional, ih rest complete]
        omega
      · cases complete
    | optional name =>
      have counted := ih rest (by simpa [firstMissing] using complete)
      cases value : p.value? name
      · simp [value, List.filter_cons, Part.isRequired, Part.isOptional, counted]
      · simp [value, List.filter_cons, Part.isRequired, Part.isOptional, counted]
        omega

/-- Over built segments, the search for a closed group's literal stops at the literal the group
wrote exactly when none of the segments after it that the search may look at is that literal. -/
theorem segmentMatches_self (cs : Bool) (text : String) : segmentMatches cs text text = true := by
  cases cs <;> simp [segmentMatches]

/-- Past a group's required segments, its present optional ones and its literal come the later
segments. -/
theorem drop_past_literal {before after : List String} {text : String} {r c : Nat}
    (len : before.length = r + c) : ((before ++ text :: after).drop r).drop (c + 1) = after := by
  rw [List.drop_drop, ← Nat.add_assoc, ← len]
  simp

/-- Past the segments of a group's placeholders, the search for the group's literal stops at the
literal written there exactly when no later segment in its view stands for the literal. -/
theorem literalOffset_written_iff {cs : Bool} {before after : List String} {text : String}
    {r c o : Nat} (len : before.length = r + c) (upto : c ≤ o) :
    literalOffset cs text o ((before ++ text :: after).drop r) = some c ↔
      ∀ seg ∈ after.take (o - c), segmentMatches cs text seg = false := by
  have dropped : (before ++ text :: after).drop r = before.drop r ++ text :: after :=
    List.drop_append_of_le_length (by omega)
  have droppedLength : (before.drop r).length = c := by simp [len]
  have atLiteral : (before.drop r ++ text :: after)[c]? = some text := by
    rw [List.getElem?_append_right (by omega)]
    simp [droppedLength]
  have later : ∀ i, (before.drop r ++ text :: after)[c + 1 + i]? = after[i]? := by
    intro i
    rw [List.getElem?_append_right (by omega), droppedLength,
      show c + 1 + i - c = i + 1 by omega]
    simp
  rw [literalOffset_eq_some_iff, dropped]
  simp only [List.mem_iff_getElem?, List.getElem?_take, forall_exists_index]
  constructor
  · rintro ⟨-, seg, -, -, none⟩ seg' i found
    split at found
    · exact none (c + 1 + i) (by omega) (by omega) seg' (by rw [later]; exact found)
    · cases found
  · intro clear
    refine ⟨upto, text, atLiteral, segmentMatches_self cs text, fun j above below seg atJ => ?_⟩
    obtain ⟨i, rfl⟩ : ∃ i, j = c + 1 + i := ⟨j - c - 1, by omega⟩
    rw [later] at atJ
    exact clear seg i (by rw [if_pos (by omega)]; exact atJ)

theorem firstMissing_append_eq_none {ps qs : List Part}
    (complete : firstMissing p (ps ++ qs) = none) :
    firstMissing p ps = none ∧ firstMissing p qs = none := by
  have each := (firstMissing_eq_none_iff p _).1 complete
  exact ⟨(firstMissing_eq_none_iff p _).2 fun n member => each n (List.mem_append_left _ member),
    (firstMissing_eq_none_iff p _).2 fun n member => each n (List.mem_append_right _ member)⟩

theorem countP_writes_le (p : Params) {g : Group} {phs : List Part} (held : Placeholders g phs) :
    (phs.filter Part.isOptional).countP (writes p) ≤ g.optional :=
  calc (phs.filter Part.isOptional).countP (writes p)
      _ ≤ (phs.filter Part.isOptional).length := List.countP_le_length
      _ = g.optional := by rw [← List.countP_eq_length_filter, held.optional]

/-! ## The conditions on the groups -/

/-- In every group, the optional placeholders that write a segment come before those that do
not. -/
def OptionalsFirst (t : Template) (p : Params) : Prop :=
  ∀ g ∈ t.groups, ((t.slice g).filter Part.isOptional).Pairwise fun a b => writes p b → writes p a

/-- The number of segments a group's placeholders write. -/
def present (t : Template) (p : Params) (g : Group) : Nat :=
  ((t.slice g).filterMap (written p)).length

/-- No closed group's literal is among the built segments right after it, as many as the group
has placeholders that write nothing: the segments the matcher's search may look at past it.
`segs` are the built segments from the group's first one on. -/
def LiteralsClear (t : Template) (p : Params) : List Group → List String → Prop
  | [], _ => True
  | g :: gs, segs =>
    (∀ text, g.fixed = some text →
      text ∉ (segs.drop (t.present p g + 1)).take (g.maxCount - t.present p g)) ∧
    LiteralsClear t p gs (segs.drop (t.present p g + g.fixedWidth))

/-- No closed group's literal stands, in the comparison `cs`, for a segment right after it, as
many as the group has placeholders that write nothing: the segments the matcher's search may
look at past it. `segs` are the segments from the group's first one on. -/
def LiteralsUnmatched (t : Template) (p : Params) (cs : Bool) : List Group → List String → Prop
  | [], _ => True
  | g :: gs, segs =>
    (∀ text, g.fixed = some text →
      ∀ seg ∈ (segs.drop (t.present p g + 1)).take (g.maxCount - t.present p g),
        segmentMatches cs text seg = false) ∧
    LiteralsUnmatched t p cs gs (segs.drop (t.present p g + g.fixedWidth))

/-- With case counting, standing for a literal is being it. -/
theorem literalsClear_iff_unmatched (t : Template) (p : Params) :
    ∀ (gs : List Group) (segs : List String),
      t.LiteralsClear p gs segs ↔ t.LiteralsUnmatched p true gs segs
  | [], _ => Iff.rfl
  | g :: gs, segs => by
    rw [LiteralsClear, LiteralsUnmatched, literalsClear_iff_unmatched t p gs]
    simp [segmentMatches, List.forall_mem_ne]

/-- The condition on a closed group, read over the segments it and the later groups wrote. -/
theorem literalsUnmatched_closed_iff {t : Template} {cs : Bool} {g : Group} {gs : List Group}
    {phs : List Part} {text : String} {c : Nat} {rest : List String} (sliced : t.slice g = phs)
    (closed : g.fixed = some text) (length : (phs.filterMap (written p)).length = g.required + c) :
    t.LiteralsUnmatched p cs (g :: gs) (phs.filterMap (written p) ++ text :: rest) ↔
      (∀ seg ∈ rest.take (g.optional - c), segmentMatches cs text seg = false) ∧
        t.LiteralsUnmatched p cs gs rest := by
  have count : t.present p g = g.required + c := by rw [present, sliced, length]
  have after : (phs.filterMap (written p) ++ text :: rest).drop (g.required + c + 1) = rest := by
    rw [← length]
    simp
  simp only [LiteralsUnmatched, count, closed, Option.some.injEq, forall_eq',
    fixedWidth_closed closed, after, Group.maxCount,
    show g.required + g.optional - (g.required + c) = g.optional - c by omega]

/-- Over the segments built from parts laid out in groups, followed by any further segments,
the matcher takes the built ones with the widths they were written in and covers exactly the
parts that wrote, when each group's optional placeholders that write come first, no literal
stands where the search could take something else for it, and further segments, if any, find
the last group full. -/
theorem widthsFrom_written (t : Template) (p : Params) (cs : Bool) (trailing : List String) :
    ∀ (gs : List Group) (ps : List Part) (start : Nat),
      LaysOut start gs ps → t.parts.drop start = ps → (names ps).Nodup →
      firstMissing p ps = none →
      (∀ g ∈ gs, ((t.slice g).filter Part.isOptional).Pairwise fun a b => writes p b → writes p a) →
      t.LiteralsUnmatched p cs gs (ps.filterMap (written p) ++ trailing) →
      (trailing = [] ∨ ∀ g ∈ gs.getLast?, t.present p g = g.maxCount) →
      ∃ ws, widthsFrom cs gs (ps.filterMap (written p) ++ trailing) = some ws ∧
        t.coveredFrom gs ws = ps.filter (writes p)
  | [], _, _, layout, _, _, _, _, _, _ => by simp [LaysOut] at layout
  | [g], ps, start, layout, placed, distinct, complete, first, _, tail => by
    simp only [LaysOut] at layout
    obtain ⟨starts, openGroup, held⟩ := layout
    have sliced : t.slice g = ps := @slice_eq t g ps [] (by simpa [starts] using placed) held
    have length := length_filterMap_written held.no_literal complete
    rw [held.required] at length
    have upto := countP_writes_le p held
    have pairwise := first g List.mem_cons_self
    rw [sliced] at pairwise
    have kept := (kept_eq_filter_iff held.no_literal distinct complete _
      (by rw [held.optional]; exact upto)).2 ⟨pairwise, rfl⟩
    -- the tail group takes the written segments: all there are, or as many as it holds
    have takes : min g.maxCount (ps.filterMap (written p) ++ trailing).length =
        (ps.filterMap (written p)).length := by
      rcases tail with noMore | full
      · simp only [noMore, List.append_nil, length, Group.maxCount]
        omega
      · have count : (ps.filterMap (written p)).length = g.maxCount := by
          rw [← full g rfl, present, sliced]
        rw [List.length_append, count]
        omega
    refine ⟨[(ps.filterMap (written p)).length], ?_, ?_⟩
    · rw [widthsFrom, if_neg (by rw [List.length_append]; omega), takes]
    · simp [coveredFrom, sliced, Group.literalParts, openGroup, length, kept]
  | g :: g₂ :: gs, ps, start, layout, placed, distinct, complete, first, clear, tail => by
    simp only [LaysOut] at layout
    obtain ⟨phs, text, rest, split, starts, closed, held, later⟩ := layout
    have sliced : t.slice g = phs := slice_eq (by rw [starts, placed, split]) held
    have restPlaced := drop_after_closed (placed.trans split)
    subst split
    simp only [names_append, names_cons_literal, List.nodup_append] at distinct
    obtain ⟨completeHere, completeRest⟩ := firstMissing_append_eq_none complete
    have completeRest : firstMissing p rest = none := by simpa [firstMissing] using completeRest
    have length := length_filterMap_written held.no_literal completeHere
    rw [held.required] at length
    have upto := countP_writes_le p held
    have pairwise := first g List.mem_cons_self
    rw [sliced] at pairwise
    have kept := (kept_eq_filter_iff held.no_literal distinct.1 completeHere _
      (by rw [held.optional]; exact upto)).2 ⟨pairwise, rfl⟩
    have segs : (phs ++ .literal text :: rest).filterMap (written p) ++ trailing =
        phs.filterMap (written p) ++ text :: (rest.filterMap (written p) ++ trailing) := by simp
    rw [segs, literalsUnmatched_closed_iff sliced closed length] at clear
    obtain ⟨clearHere, clearLater⟩ := clear
    have found := (literalOffset_written_iff length upto).2 clearHere
    rw [List.getLast?_cons_cons] at tail
    obtain ⟨ws, matched, covers⟩ := widthsFrom_written t p cs trailing (g₂ :: gs) rest _ later
      restPlaced distinct.2.1 completeRest (fun g' member => first g' (List.mem_cons_of_mem _ member))
      clearLater tail
    refine ⟨(g.required + (phs.filter Part.isOptional).countP (writes p) + 1) :: ws, ?_, ?_⟩
    · simp only [segs, widthsFrom, closed, found, drop_past_literal length, matched,
        Option.map_some]
    · rw [coveredFrom_cons, covers, sliced, fixedWidth_closed closed,
        show g.required + (phs.filter Part.isOptional).countP (writes p) + 1 - 1 - g.required =
          (phs.filter Part.isOptional).countP (writes p) by omega, kept]
      simp [Group.literalParts, closed, List.filter_append, List.filter_cons]

/-- Conversely, when the matcher's widths over the built segments cover exactly the parts that
wrote, each group's optional placeholders that write come first and no literal stands where the
search could take it for its own. -/
theorem built_of_widthsFrom (t : Template) (p : Params) :
    ∀ (gs : List Group) (ps : List Part) (start : Nat) (ws : List Nat),
      LaysOut start gs ps → t.parts.drop start = ps → (names ps).Nodup →
      firstMissing p ps = none →
      widthsFrom true gs (ps.filterMap (written p)) = some ws →
      t.coveredFrom gs ws = ps.filter (writes p) →
      (∀ g ∈ gs, ((t.slice g).filter Part.isOptional).Pairwise fun a b => writes p b → writes p a) ∧
        t.LiteralsClear p gs (ps.filterMap (written p))
  | [], _, _, _, layout, _, _, _, _, _ => by simp [LaysOut] at layout
  | [g], ps, start, ws, layout, placed, distinct, complete, matched, covers => by
    simp only [LaysOut] at layout
    obtain ⟨starts, openGroup, held⟩ := layout
    have sliced : t.slice g = ps := @slice_eq t g ps [] (by simpa [starts] using placed) held
    simp only [widthsFrom] at matched
    split at matched
    · cases matched
    · simp only [Option.some.injEq] at matched
      subst matched
      rw [coveredFrom_cons, sliced, fixedWidth_open openGroup] at covers
      simp only [Group.literalParts, openGroup, coveredFrom, List.zip_nil_left, List.flatMap_nil,
        Option.map_none, Option.toList_none, List.append_nil, Nat.sub_zero] at covers
      have upto : min g.maxCount (ps.filterMap (written p)).length - g.required ≤
          ps.countP Part.isOptional := by
        rw [held.optional, Group.maxCount]
        omega
      obtain ⟨pairwise, -⟩ :=
        (kept_eq_filter_iff held.no_literal distinct complete _ upto).1 covers
      refine ⟨fun g' member => ?_, by simp [LiteralsClear, openGroup]⟩
      rw [List.mem_singleton.1 member, sliced]
      exact pairwise
  | g :: g₂ :: gs, ps, start, ws, layout, placed, distinct, complete, matched, covers => by
    simp only [LaysOut] at layout
    obtain ⟨phs, text, rest, split, starts, closed, held, later⟩ := layout
    have sliced : t.slice g = phs := slice_eq (by rw [starts, placed, split]) held
    have restPlaced := drop_after_closed (placed.trans split)
    subst split
    simp only [names_append, names_cons_literal, List.nodup_append] at distinct
    obtain ⟨completeHere, completeRest⟩ := firstMissing_append_eq_none complete
    have completeRest : firstMissing p rest = none := by simpa [firstMissing] using completeRest
    have length := length_filterMap_written held.no_literal completeHere
    rw [held.required] at length
    have segs : (phs ++ .literal text :: rest).filterMap (written p) =
        phs.filterMap (written p) ++ text :: rest.filterMap (written p) := by simp
    rw [segs] at matched
    simp only [widthsFrom, closed] at matched
    cases found : literalOffset true text g.optional
        ((phs.filterMap (written p) ++ text :: rest.filterMap (written p)).drop g.required) with
    | none => simp [found] at matched
    | some k =>
      simp only [found, Option.map_eq_some_iff] at matched
      obtain ⟨ws', matchedLater, rfl⟩ := matched
      have upto : k ≤ g.optional := (literalOffset_eq_some_iff.1 found).1
      -- the covered parts split at the group's literal like the parts that wrote
      rw [coveredFrom_cons, sliced, fixedWidth_closed closed,
        show g.required + k + 1 - 1 - g.required = k by omega] at covers
      simp only [Group.literalParts, closed, Option.map_some, Option.toList_some,
        List.append_assoc, List.singleton_append, List.filter_append, List.filter_cons,
        writes_literal, if_true] at covers
      obtain ⟨keptHere, coversLater⟩ := placeholders_append_literal_inj (kept_placeholders phs k)
        (fun q member => held.no_literal q (List.mem_filter.1 member).1) covers
      obtain ⟨pairwise, rfl⟩ := (kept_eq_filter_iff held.no_literal distinct.1 completeHere k
        (by rw [held.optional]; exact upto)).1 keptHere
      have clearHere := (literalOffset_written_iff length upto).1 found
      rw [drop_past_literal length] at matchedLater
      obtain ⟨firstLater, clearLater⟩ := built_of_widthsFrom t p (g₂ :: gs) rest _ ws' later
        restPlaced distinct.2.1 completeRest matchedLater coversLater
      refine ⟨fun g' member => ?_, ?_⟩
      · rcases List.mem_cons.1 member with here | further
        · rw [here, sliced]
          exact pairwise
        · exact firstLater g' further
      · rw [segs, literalsClear_iff_unmatched, literalsUnmatched_closed_iff sliced closed length,
          ← literalsClear_iff_unmatched]
        exact ⟨clearHere, clearLater⟩

/-! ## Extracted pairs and the parameters' own -/

theorem bindings_keys : ∀ (cov : List Part) (segs : List String), cov.length ≤ segs.length →
    (bindings cov segs).map Prod.fst = names cov
  | [], _, _ => rfl
  | q :: cov, seg :: segs, long => by
    have rest := bindings_keys cov segs (by simpa using long)
    rw [bindings_cons_cons]
    cases q <;> simp [Part.name?, rest]
  | _ :: _, [], long => by simp at long

theorem mem_names_filter_writes {ps : List Part} {n : String} :
    n ∈ names (ps.filter (writes p)) ↔ n ∈ names ps ∧ (p.value? n).isSome := by
  induction ps with
  | nil => simp
  | cons q ps ih =>
    cases q with
    | literal text => simpa [List.filter_cons] using ih
    | required m =>
      by_cases same : n = m
      · subst same
        by_cases present : (p.value? n).isSome <;> simp [present, ih]
      · by_cases present : (p.value? m).isSome <;> simp [present, same, ih]
    | optional m =>
      by_cases same : n = m
      · subst same
        by_cases present : (p.value? n).isSome <;> simp [present, ih]
      · by_cases present : (p.value? m).isSome <;> simp [present, same, ih]

/-- Bound to the segments they wrote, the parts that wrote give each placeholder with a value
that value. -/
theorem bindings_filter_writes (ps : List Part) :
    bindings (ps.filter (writes p)) (ps.filterMap (written p)) =
      ps.filterMap fun q => q.name?.bind fun n => (p.value? n).map (n, ·) := by
  induction ps with
  | nil => rfl
  | cons q ps ih =>
    cases q with
    | literal text => simp [List.filter_cons, bindings_cons_cons, Part.name?, ih]
    | required n =>
      cases value : p.value? n <;> simp [bindings_cons_cons, Part.name?, value, ih]
    | optional n =>
      cases value : p.value? n <;> simp [bindings_cons_cons, Part.name?, value, ih]

/-- The template's placeholder values of `p` that are not empty. -/
def placeholderPairs (t : Template) (p : Params) : Params :=
  { named := p.named.filter fun kv => kv.1 ∈ names t.parts ∧ kv.2 ≠ "" }

section OneValue

variable {t : Template} (single : ∀ n ∈ names t.parts, (p.values n).length ≤ 1)
include single

theorem mem_placeholderPairs {kv : String × String} :
    kv ∈ (t.placeholderPairs p).named ↔ kv.1 ∈ names t.parts ∧ p.value? kv.1 = some kv.2 := by
  obtain ⟨n, v⟩ := kv
  simp only [placeholderPairs, List.mem_filter, decide_eq_true_eq]
  constructor
  · rintro ⟨stored, named, nonempty⟩
    exact ⟨named, Params.value?_eq_some_iff.2
      ⟨(Params.get?_eq_some_iff_mem (single n named)).2 stored, String.isEmpty_eq_false_iff.2 nonempty⟩⟩
  · rintro ⟨named, value⟩
    obtain ⟨got, nonempty⟩ := Params.value?_eq_some_iff.1 value
    exact ⟨(Params.get?_eq_some_iff_mem (single n named)).1 got, named,
      String.isEmpty_eq_false_iff.1 nonempty⟩

theorem placeholderPairs_keys_nodup : ((t.placeholderPairs p).named.map Prod.fst).Nodup := by
  rw [List.nodup_iff_count_le_one]
  intro n
  rw [List.count_eq_countP, List.countP_map]
  by_cases named : n ∈ names t.parts
  · -- no more pairs of the name than the parameters hold
    calc (t.placeholderPairs p).named.countP ((· == n) ∘ Prod.fst)
        _ ≤ p.named.countP ((· == n) ∘ Prod.fst) := (List.filter_sublist).countP_le
        _ = (p.values n).length := by
          simp [Params.values, List.countP_eq_length_filter, Function.comp_def]
        _ ≤ 1 := single n named
  · have none : (t.placeholderPairs p).named.countP ((· == n) ∘ Prod.fst) = 0 := by
      rw [List.countP_eq_zero]
      intro kv member
      have := ((mem_placeholderPairs single).1 member).1
      simp only [Function.comp_apply, beq_iff_eq]
      rintro rfl
      exact named this
    omega

/-- The pairs of the placeholders with a value, in template order, are the template's
placeholder values of the parameters. -/
theorem pairs_perm_placeholderPairs (distinct : (names t.parts).Nodup) :
    (t.parts.filterMap fun q => q.name?.bind fun n => (p.value? n).map (n, ·)).Perm
      (t.placeholderPairs p).named := by
  have pairsDistinct : ((t.parts.filterMap fun q =>
      q.name?.bind fun n => (p.value? n).map (n, ·)).map Prod.fst).Nodup := by
    rw [← bindings_filter_writes, bindings_keys _ _ (by rw [length_filter_writes])]
    exact (List.filter_sublist.filterMap _).nodup distinct
  refine (List.perm_ext_iff_of_nodup pairsDistinct.of_map
    (placeholderPairs_keys_nodup single).of_map).2 fun kv => ?_
  obtain ⟨n, v⟩ := kv
  rw [mem_placeholderPairs single]
  simp only [List.mem_filterMap, names, Option.bind_eq_some_iff, Option.map_eq_some_iff,
    Prod.mk.injEq]
  constructor
  · rintro ⟨q, member, m, named, w, value, rfl, rfl⟩
    exact ⟨⟨q, member, named⟩, value⟩
  · rintro ⟨⟨q, member, named⟩, value⟩
    exact ⟨q, member, n, named, v, value, rfl, rfl⟩

end OneValue

/-! ## The round trip from parameters through the built segments -/

/-- What a match of the built segments gives the extractor: widths that fit the groups, covered
parts as many as the widths add up to, and bindings of distinct names. -/
theorem built_match_facts {t : Template} (distinct : (names t.parts).Nodup) {ws : List Nat}
    (matched : t.matchWidths (t.parts.filterMap (written p)) true = some ws) :
    DropsOptionals t.parts (t.covered ws) ∧ (t.covered ws).length = ws.sum ∧
      ws.sum ≤ (t.parts.filterMap (written p)).length ∧
      (t.extract (t.parts.filterMap (written p)) ws).named =
        bindings (t.covered ws) (t.parts.filterMap (written p)) ∧
      ((t.extract (t.parts.filterMap (written p)) ws).named.map Prod.fst).Nodup := by
  have layout := ofParts_laysOut t.parts
  obtain ⟨fits, within, length, -⟩ :=
    widthsFrom_covers t true t.groups t.parts 0 _ ws layout rfl matched
  have bound : (t.extract (t.parts.filterMap (written p)) ws).named =
      bindings (t.covered ws) (t.parts.filterMap (written p)) :=
    bindingsFrom_eq t _ t.groups t.parts 0 0 ws layout rfl (Nat.le_refl 0) fits
  have drops := coveredFrom_drops t t.groups t.parts 0 ws layout rfl fits
  refine ⟨drops, length, within, bound, ?_⟩
  rw [bound]
  exact ((bindings_keys_sublist _ _).trans drops.names_sublist).nodup distinct

/-- Over the segments built from parameters that give each placeholder at most one value, the
matcher takes all of them and the extractor gives back exactly the placeholder values that are
not empty when, and only when, each group's optional placeholders with a value come first and
no literal stands where the matcher's search could take it for its own. -/
theorem match_built_iff {t : Template} (distinct : (names t.parts).Nodup)
    (complete : firstMissing p t.parts = none)
    (single : ∀ n ∈ names t.parts, (p.values n).length ≤ 1) :
    (∃ ws, t.matchWidths (t.parts.filterMap (written p)) true = some ws ∧
        ws.sum = (t.parts.filterMap (written p)).length ∧
        (t.extract (t.parts.filterMap (written p)) ws).equiv (t.placeholderPairs p) = true) ↔
      t.OptionalsFirst p ∧ t.LiteralsClear p t.groups (t.parts.filterMap (written p)) := by
  have layout := ofParts_laysOut t.parts
  constructor
  · rintro ⟨ws, matched, -, same⟩
    obtain ⟨drops, length, within, bound, keysDistinct⟩ := built_match_facts distinct matched
    obtain ⟨-, perm⟩ := (Params.equiv_iff_perm keysDistinct).1 same
    -- the match binds the names that have values, so it covers the parts that wrote
    have sameNames : ∀ n, n ∈ names (t.covered ws) ↔ n ∈ names (t.parts.filter (writes p)) := by
      intro n
      rw [← bindings_keys (t.covered ws) (t.parts.filterMap (written p)) (by omega), ← bound,
        (perm.map Prod.fst).mem_iff,
        mem_names_filter_writes]
      simp [mem_placeholderPairs single, Option.isSome_iff_exists]
    have covers := drops.eq_of_names (filter_writes_drops complete) distinct sameNames
    exact built_of_widthsFrom t p t.groups t.parts 0 ws layout rfl distinct complete matched covers
  · rintro ⟨first, clear⟩
    obtain ⟨ws, matched, covers⟩ := widthsFrom_written t p true [] t.groups t.parts 0 layout rfl
      distinct complete first ((literalsClear_iff_unmatched t p _ _).1 (by simpa using clear)) (.inl rfl)
    rw [List.append_nil] at matched
    obtain ⟨-, length, -, bound, keysDistinct⟩ := built_match_facts distinct matched
    refine ⟨ws, matched, ?_, ?_⟩
    · rw [← length, covered, covers, length_filter_writes]
    · rw [Params.equiv_iff_perm keysDistinct, bound, covered, covers, bindings_filter_writes]
      exact ⟨rfl, pairs_perm_placeholderPairs single distinct⟩

/-- A build that succeeds has a value for every required placeholder, writes the segments of the
parts that write, and leaves the parameters of the other names. -/
theorem build_eq_ok {t : Template} (distinct : (names t.parts).Nodup) {built : Built}
    (building : t.build p = .ok built) :
    firstMissing p t.parts = none ∧ built.segments = t.parts.filterMap (written p) ∧
      built.remaining = p.eraseAll (names t.parts) := by
  rw [build, buildParts_eq t.parts distinct p] at building
  cases missing : firstMissing p t.parts with
  | some name => simp [missing] at building
  | none =>
    simp only [missing, Except.ok.injEq] at building
    subst building
    exact ⟨rfl, rfl, rfl⟩

/-- Building a compiled template from any parameters fails exactly when some required
placeholder has no non-empty first value, and then on the leftmost such placeholder. A build
that succeeds takes every value of the placeholder names out of the parameters and keeps the
rest in order. When the parameters give each placeholder name at most one value, the matcher
takes all the built segments back and the extractor returns exactly the placeholder values that
are not empty if, and only if, in every group the optional placeholders with a value come
before those without, and no closed group's literal stands among the segments right after it
that its left-out optional placeholders leave in the matcher's view. -/
theorem build_match_extract_iff {path : String} {t : Template} (compiled : compile path = .ok t)
    (p : Params) :
    (∀ name, t.build p = .error (.missingRequired name) ↔
      ∃ pre post, t.parts = pre ++ .required name :: post ∧ p.value? name = none ∧
        ∀ n, .required n ∈ pre → (p.value? n).isSome) ∧
    ∀ built, t.build p = .ok built →
      built.remaining = p.eraseAll (names t.parts) ∧
      ((∀ n ∈ names t.parts, (p.values n).length ≤ 1) →
        ((∃ ws, t.matchWidths built.segments true = some ws ∧
            ws.sum = built.segments.length ∧
            (t.extract built.segments ws).equiv (t.placeholderPairs p) = true) ↔
          t.OptionalsFirst p ∧ t.LiteralsClear p t.groups built.segments)) := by
  have distinct := compile_names_nodup compiled
  refine ⟨fun name => ?_, fun built success => ?_⟩
  · rw [build, buildParts_eq t.parts distinct p, ← firstMissing_eq_some_iff]
    cases firstMissing p t.parts <;> simp
  · obtain ⟨complete, segments, remaining⟩ := build_eq_ok distinct success
    rw [segments]
    exact ⟨remaining, match_built_iff distinct complete⟩

/-- A value equal to the literal after a left-out optional placeholder: the matcher takes that
value for the literal, and the segments do not come back. -/
theorem literal_value_breaks_round_trip :
    ¬ ∃ ws, (Template.mk [.optional "a", .literal "one", .required "c"]).matchWidths
        ["one", "one"] true = some ws ∧ ws.sum = 2 ∧
      ((Template.mk [.optional "a", .literal "one", .required "c"]).extract ["one", "one"]
        ws).equiv ((Template.mk [.optional "a", .literal "one", .required "c"]).placeholderPairs
          ⟨[], [("c", "one")]⟩) = true := by
  obtain ⟨-, built⟩ := @build_match_extract_iff "/#{a}/one/${c}"
    ⟨[.optional "a", .literal "one", .required "c"]⟩ (by rfl) ⟨[], [("c", "one")]⟩
  have conditions := (built ⟨["one", "one"], ⟨[], []⟩⟩ (by rfl)).2 (by decide)
  rintro ⟨ws, matched, total, same⟩
  obtain ⟨-, clear⟩ := conditions.1 ⟨ws, matched, total, same⟩
  simp [LiteralsClear, present, slice, groups, Group.ofParts, Group.collect, Group.maxCount] at clear
  exact clear (by decide)

/-! ## Further segments after the built ones -/

/-- The placeholder values and the parameters a build leaves make up the parameters again, when
no placeholder name has an empty value. -/
theorem placeholderPairs_append_eraseAll {t : Template}
    (filled : ∀ kv ∈ p.named, kv.1 ∈ names t.parts → kv.2 ≠ "") :
    ((t.placeholderPairs p).named ++ (p.eraseAll (names t.parts)).named).Perm p.named := by
  have placed : (t.placeholderPairs p).named = p.named.filter fun kv => kv.1 ∈ names t.parts := by
    simp only [placeholderPairs]
    refine List.filter_congr fun kv member => ?_
    by_cases named : kv.1 ∈ names t.parts <;> simp [named, filled kv member]
  rw [placed]
  simpa [Params.eraseAll] using List.filter_append_perm (fun kv => decide (kv.1 ∈ names t.parts)) p.named

/-- When segments that start with those built from `p` read back through the template, in the
comparison `cs`: in each group the optional placeholders with a value come first, no closed
group's literal stands for a segment its search looks at, and segments past the built ones find
the last group full, so that the matcher leaves them. -/
structure ReadsBack (t : Template) (p : Params) (cs : Bool) (segs : List String) : Prop where
  optionalsFirst : t.OptionalsFirst p
  unmatched : t.LiteralsUnmatched p cs t.groups segs
  lastFull : (t.parts.filterMap (written p)).length < segs.length →
    ∀ g ∈ t.groups.getLast?, t.present p g = g.maxCount

/-- Over the segments built from parameters that give each placeholder name at most one value,
followed by any further segments, the matcher takes exactly the built segments and the extractor
gives back the placeholder values that are not empty, when the segments read back through the
template. -/
theorem read_built_append {path : String} {t : Template} (compiled : compile path = .ok t)
    {built : Built} (building : t.build p = .ok built) {cs : Bool} {trailing : List String}
    (single : ∀ n ∈ names t.parts, (p.values n).length ≤ 1)
    (reads : t.ReadsBack p cs (built.segments ++ trailing)) :
    ∃ ws, t.matchWidths (built.segments ++ trailing) cs = some ws ∧
      ws.sum = built.segments.length ∧
      (t.extract (built.segments ++ trailing) ws).indexed = [] ∧
      (t.extract (built.segments ++ trailing) ws).named.Perm (t.placeholderPairs p).named := by
  have distinct := compile_names_nodup compiled
  have layout := ofParts_laysOut t.parts
  obtain ⟨complete, segments, -⟩ := build_eq_ok distinct building
  rw [segments] at reads ⊢
  -- further segments exist only where the last group is full
  have tail : trailing = [] ∨ ∀ g ∈ t.groups.getLast?, t.present p g = g.maxCount := by
    cases trailing with
    | nil => exact .inl rfl
    | cons seg more => exact .inr (reads.lastFull (by simp))
  obtain ⟨ws, matched, covers⟩ := widthsFrom_written t p cs trailing t.groups t.parts 0 layout rfl
    distinct complete reads.optionalsFirst reads.unmatched tail
  obtain ⟨fits, -, length, -⟩ := widthsFrom_covers t cs t.groups t.parts 0 _ ws layout rfl matched
  refine ⟨ws, matched, by rw [← length, covers, length_filter_writes], rfl, ?_⟩
  have bound : (t.extract (t.parts.filterMap (written p) ++ trailing) ws).named =
      bindings (t.parts.filter (writes p)) (t.parts.filterMap (written p)) := by
    simp only [extract]
    rw [bindingsFrom_eq t _ t.groups t.parts 0 0 ws layout rfl (Nat.le_refl 0) fits, covers,
      Nat.sub_self, List.drop_zero, bindings_append_right (by rw [length_filter_writes])]
  rw [bound, bindings_filter_writes]
  exact pairs_perm_placeholderPairs single distinct

end PageRoutes.Template
