import Mathlib.Algebra.BigOperators.Group.List.Basic
import Mathlib.Data.List.Induction
import PageRoutes.Proofs.GroupIndex
import PageRoutes.Proofs.TemplateMatch
/-!
The extractor's loop and the indices it keeps.

The extractor walks the groups with their widths, carrying the bindings made so far and the
count `skipped` of optional placeholders left out so far (`ExtractState`, one pass
`extractStep`); its result is that walk (`extract_named_eq_foldl`). On a match, the loop enters
every group with `skipped` the number of optional placeholders the earlier groups left out, a
group start that `skipped` does not exceed and that less `skipped` is the number of segments the
earlier groups took, placeholders within the parts and reads within the segments; so every
placeholder the group keeps is bound, and the extractor makes one binding for each segment the
groups took that is not a literal (`extract_loop_bookkeeping`).
-/
namespace PageRoutes

/-- The optional placeholders of a group that a width `w` leaves out: those not among the `w`
segments past its literal and its required placeholders. -/
def Group.absent (g : Group) (w : Nat) : Nat := g.optional - (w - g.fixedWidth - g.required)

/-- A width a group admits: its literal and required placeholders, and no more than all its
parts. -/
def Group.Admits (g : Group) (w : Nat) : Prop :=
  g.fixedWidth + g.required ≤ w ∧ w ≤ g.fixedWidth + g.maxCount

namespace Template

/-- What the extractor carries from one group to the next: the bindings made so far and the
number of optional placeholders left out so far. -/
structure ExtractState where
  bound : List (String × String)
  skipped : Nat

/-- The state before the first group. -/
def ExtractState.init : ExtractState := ⟨[], 0⟩

@[simp] theorem ExtractState.init_bound : ExtractState.init.bound = [] := rfl

@[simp] theorem ExtractState.init_skipped : ExtractState.init.skipped = 0 := rfl

/-- One pass of the extractor over group `g` of width `w`: bind its placeholders from segment
`g.start - skipped` on and count the optional ones the width leaves out. -/
def extractStep (t : Template) (segs : List String) (st : ExtractState) :
    Group × Nat → ExtractState
  | (g, w) =>
    let present := w - g.fixedWidth
    { bound := st.bound ++
        groupBindings segs (t.slice g) (present - g.required) (g.start - st.skipped)
      skipped := st.skipped + (g.maxCount - min present g.maxCount) }

theorem foldl_extractStep_bound (t : Template) (segs : List String) :
    ∀ (gws : List (Group × Nat)) (st : ExtractState),
      (gws.foldl (extractStep t segs) st).bound = st.bound ++ bindingsFrom t segs st.skipped gws
  | [], st => by simp [bindingsFrom]
  | (g, w) :: gws, st => by
    rw [List.foldl_cons, foldl_extractStep_bound t segs gws]
    simp [extractStep, bindingsFrom, slice]

/-- The extractor is its loop run over the groups with their widths. -/
theorem extract_named_eq_foldl (t : Template) (segs : List String) (ws : List Nat) :
    (t.extract segs ws).named = ((t.groups.zip ws).foldl (extractStep t segs) .init).bound := by
  simp [foldl_extractStep_bound, extract, ExtractState.init]

/-! ## Widths that fit their groups -/

theorem Fits.length_eq : ∀ {gs : List Group} {ws : List Nat}, Fits gs ws → ws.length = gs.length
  | [], [], _ => rfl
  | _ :: _, _ :: _, ⟨_, _, rest⟩ => by simp [Fits.length_eq rest]

theorem Fits.of_mem_zip : ∀ {gs : List Group} {ws : List Nat}, Fits gs ws →
    ∀ {g : Group} {w : Nat}, (g, w) ∈ gs.zip ws → g.Admits w
  | [], [], _, _, _, member => by simp at member
  | g :: gs, w :: ws, ⟨least, most, rest⟩, g', w', member => by
    rcases List.mem_cons.1 member with same | member
    · cases same
      exact ⟨least, most⟩
    · exact Fits.of_mem_zip rest member

/-- The groups and widths on either side of one group in their pairing. -/
theorem zip_eq_append_cons {gs : List Group} {ws : List Nat} (same : ws.length = gs.length)
    {before after : List (Group × Nat)} {g : Group} {w : Nat}
    (split : gs.zip ws = before ++ (g, w) :: after) :
    gs = before.map Prod.fst ++ g :: after.map Prod.fst ∧
      ws = before.map Prod.snd ++ w :: after.map Prod.snd := by
  constructor
  · calc gs = (gs.zip ws).map Prod.fst := (List.map_fst_zip (by omega)).symm
      _ = _ := by simp [split]
  · calc ws = (gs.zip ws).map Prod.snd := (List.map_snd_zip (by omega)).symm
      _ = _ := by simp [split]

/-- A width that fits its group leaves out as many optional placeholders as the group's parts
outnumber it. -/
theorem absent_add_width {g : Group} {w : Nat} (fits : g.Admits w) :
    g.absent w + w = g.maxCount + g.fixedWidth := by
  simp only [Group.Admits, Group.absent, Group.maxCount] at *
  omega

/-- Over groups whose widths they admit, the optional placeholders left out and the segments
taken make up all the groups' parts. -/
theorem absent_add_width_sum {gws : List (Group × Nat)} (fits : ∀ gw ∈ gws, gw.1.Admits gw.2) :
    (gws.map fun gw => gw.1.absent gw.2).sum + (gws.map Prod.snd).sum =
      ((gws.map Prod.fst).map fun g => g.maxCount + g.fixedWidth).sum := by
  rw [← List.sum_map_add, List.map_map]
  congr 1
  apply List.map_congr_left
  intro gw member
  exact absent_add_width (fits gw member)

/-! ## One pass and a run of passes -/

/-- One pass adds the optional placeholders the group's width leaves out to `skipped`. -/
theorem extractStep_skipped (t : Template) (segs : List String) (st : ExtractState) {g : Group}
    {w : Nat} (fits : g.Admits w) :
    (extractStep t segs st (g, w)).skipped = st.skipped + g.absent w := by
  simp only [extractStep, Group.Admits, Group.absent, Group.maxCount] at *
  omega

/-- Placeholders bound from `segs`: one binding each, while segments last. -/
theorem bindings_length {ps : List Part} (placeholders : ∀ p ∈ ps, p.name?.isSome) :
    ∀ segs : List String, (bindings ps segs).length = min ps.length segs.length := by
  induction ps with
  | nil => simp
  | cons p ps ih =>
    intro segs
    cases segs with
    | nil => simp
    | cons seg segs =>
      obtain ⟨name, named⟩ := Option.isSome_iff_exists.1 (placeholders p List.mem_cons_self)
      rw [bindings_cons_cons, named, List.length_append,
        ih (fun q member => placeholders q (List.mem_cons_of_mem p member))]
      simp only [Option.map_some, Option.toList_some, List.length_cons, List.length_nil]
      omega

/-- A pass whose reads stay within the segments binds every placeholder the width keeps: as many
as the width has segments past the group's literal. -/
theorem extractStep_bound_length (t : Template) (segs : List String) (st : ExtractState)
    {g : Group} {w : Nat} (held : Placeholders g (t.slice g)) (fits : g.Admits w)
    (reads : g.start - st.skipped + (w - g.fixedWidth) ≤ segs.length) :
    (extractStep t segs st (g, w)).bound.length = st.bound.length + (w - g.fixedWidth) := by
  have kept_count :
      (kept (t.slice g) (w - g.fixedWidth - g.required)).length = w - g.fixedWidth := by
    rw [kept_length, held.required, held.optional]
    simp only [Group.Admits, Group.maxCount] at fits
    omega
  simp only [extractStep, List.length_append, groupBindings_eq,
    bindings_length (kept_placeholders _ _), kept_count, List.length_drop]
  omega

/-- The run's `skipped` counts the optional placeholders its groups left out. -/
theorem foldl_extractStep_skipped (t : Template) (segs : List String) :
    ∀ (gws : List (Group × Nat)) (st : ExtractState),
      (∀ gw ∈ gws, gw.1.Admits gw.2) →
      (gws.foldl (extractStep t segs) st).skipped =
        st.skipped + (gws.map fun gw => gw.1.absent gw.2).sum
  | [], st, _ => by simp
  | (g, w) :: gws, st, fits => by
    rw [List.foldl_cons, foldl_extractStep_skipped t segs gws _ (fun gw member =>
        fits gw (List.mem_cons_of_mem _ member)),
      extractStep_skipped t segs st (fits _ List.mem_cons_self)]
    simp only [List.map_cons, List.sum_cons]
    omega

/-- A run makes one binding for each segment past a literal, if every pass does so where the run
enters it. -/
theorem foldl_extractStep_bound_length (t : Template) (segs : List String)
    (gws : List (Group × Nat))
    (adds : ∀ before g w after, gws = before ++ (g, w) :: after →
      (extractStep t segs (before.foldl (extractStep t segs) .init) (g, w)).bound.length =
        (before.foldl (extractStep t segs) .init).bound.length + (w - g.fixedWidth)) :
    (gws.foldl (extractStep t segs) .init).bound.length =
      (gws.map fun gw => gw.2 - gw.1.fixedWidth).sum := by
  induction gws using List.reverseRecOn with
  | nil => simp [ExtractState.init]
  | append_singleton gws last ih =>
    -- the passes over `gws` are entered as within the longer run
    have earlier := ih fun before g w after split =>
      adds before g w (after ++ [last]) (by simp [split])
    obtain ⟨g, w⟩ := last
    rw [List.foldl_append, List.foldl_cons, List.foldl_nil, adds gws g w [] rfl, earlier]
    simp

/-! ## The loop on a match -/

/-- What the extractor finds on entering group `g` of width `w` in state `st`, after the groups
`before` with their widths: `skipped` is the number of optional placeholders they left out; it
does not exceed the group's start, and the start less it is the number of segments they took;
the group's placeholders lie within the parts; its reads lie within the segments; and the pass
binds every placeholder it keeps. -/
structure EntersGroup (t : Template) (segs : List String) (before : List (Group × Nat))
    (st : ExtractState) (g : Group) (w : Nat) : Prop where
  skipped_eq : st.skipped = (before.map fun gw => gw.1.absent gw.2).sum
  skipped_le : st.skipped ≤ g.start
  position : g.start - st.skipped = (before.map Prod.snd).sum
  slice_within : g.start + g.maxCount ≤ t.parts.length
  reads_within : (before.map Prod.snd).sum + (w - g.fixedWidth) ≤ segs.length
  binds_all : (extractStep t segs st (g, w)).bound.length = st.bound.length + (w - g.fixedWidth)

/-- On the matcher's widths the extractor enters each group as `EntersGroup` says. -/
theorem entersGroup_of_match {t : Template} {segs : List String} {cs : Bool} {ws : List Nat}
    (matched : t.matchWidths segs cs = some ws) {before after : List (Group × Nat)} {g : Group}
    {w : Nat} (split : t.groups.zip ws = before ++ (g, w) :: after) :
    EntersGroup t segs before (before.foldl (extractStep t segs) .init) g w := by
  have layout := ofParts_laysOut t.parts
  obtain ⟨fits, within, -, -⟩ :=
    widthsFrom_covers t cs t.groups t.parts 0 segs ws layout rfl matched
  have indexes := laysOut_indexesParts t t.groups t.parts 0 layout rfl (Nat.zero_le _)
  obtain ⟨groups, widths⟩ := zip_eq_append_cons fits.length_eq split
  have admits : ∀ gw ∈ before ++ (g, w) :: after, gw.1.Admits gw.2 :=
    fun gw member => fits.of_mem_zip (split ▸ member)
  have earlier : ∀ gw ∈ before, gw.1.Admits gw.2 :=
    fun gw member => admits gw (List.mem_append_left _ member)
  have skipped := foldl_extractStep_skipped t segs before .init earlier
  -- the earlier groups' left-out placeholders and widths make up their parts
  have parts := absent_add_width_sum earlier
  have start := IndexesParts.start_eq_sum (before.map Prod.fst) (groups ▸ indexes)
  have taken : (before.map Prod.snd).sum + w ≤ segs.length := by
    have total : ws.sum = (before.map Prod.snd).sum + w + (after.map Prod.snd).sum := by
      rw [widths, List.sum_append, List.sum_cons]
      omega
    omega
  have admitsHere : g.Admits w := admits (g, w) (by simp)
  have inGroups : g ∈ t.groups := by
    rw [groups]
    simp
  obtain ⟨sliceWithin, held⟩ := indexes.placeholders g inGroups
  simp only [ExtractState.init_skipped, Nat.zero_add] at skipped start
  have position : g.start - (before.foldl (extractStep t segs) .init).skipped =
      (before.map Prod.snd).sum := by
    omega
  refine ⟨skipped, by omega, position, sliceWithin, by omega, ?_⟩
  exact extractStep_bound_length t segs _ held admitsHere (by omega)

/-- The extractor's loop on the matcher's widths: it runs over every group; it enters each one
with `skipped` the optional placeholders left out before it, a start index that `skipped` does
not exceed and that less `skipped` is the segments the earlier groups took, placeholders within
the parts and reads within the segments, so each pass binds every placeholder it keeps; and in
all the extractor binds one segment for each one the groups took past their literals. -/
theorem extract_loop_bookkeeping {t : Template} {segs : List String} {cs : Bool} {ws : List Nat}
    (matched : t.matchWidths segs cs = some ws) :
    (t.extract segs ws).named = ((t.groups.zip ws).foldl (extractStep t segs) .init).bound ∧
      ws.length = t.groups.length ∧
      (∀ before g w after, t.groups.zip ws = before ++ (g, w) :: after →
        EntersGroup t segs before (before.foldl (extractStep t segs) .init) g w) ∧
      (t.extract segs ws).named.length =
        ((t.groups.zip ws).map fun gw => gw.2 - gw.1.fixedWidth).sum := by
  obtain ⟨fits, -, -, -⟩ :=
    widthsFrom_covers t cs t.groups t.parts 0 segs ws (ofParts_laysOut t.parts) rfl matched
  have enters : ∀ before g w after, t.groups.zip ws = before ++ (g, w) :: after →
      EntersGroup t segs before (before.foldl (extractStep t segs) .init) g w :=
    fun _ _ _ _ split => entersGroup_of_match matched split
  refine ⟨extract_named_eq_foldl t segs ws, fits.length_eq, enters, ?_⟩
  rw [extract_named_eq_foldl]
  exact foldl_extractStep_bound_length t segs _ fun before g w after split =>
    (enters before g w after split).binds_all

/-- On `/#{a}/one/#{b}/two/${c}` with `a` left out, the loop still binds `b` and `c`: two
bindings, one for each segment the groups took past their literals. -/
theorem extract_binds_past_left_out_optional :
    (Template.mk [.optional "a", .literal "one", .optional "b", .literal "two",
        .required "c"]).matchWidths ["one", "b", "two", "c"] true = some [1, 2, 1] ∧
      ((Template.mk [.optional "a", .literal "one", .optional "b", .literal "two",
        .required "c"]).extract ["one", "b", "two", "c"] [1, 2, 1]).named.length = 2 := by
  have matched : (Template.mk [.optional "a", .literal "one", .optional "b", .literal "two",
      .required "c"]).matchWidths ["one", "b", "two", "c"] true = some [1, 2, 1] := by
    simp [matchWidths, groups, Group.ofParts, Group.collect, widthsFrom, literalOffset,
      searchBack, Group.maxCount, segmentMatches]
  refine ⟨matched, ?_⟩
  rw [(extract_loop_bookkeeping matched).2.2.2]
  decide

end Template

end PageRoutes
