import Mathlib.Data.List.Forall2
import PageRoutes.Template.Match
import PageRoutes.Proofs.TemplateBuild
/-!
What the matcher's widths mean, and the round trip from matched segments through the extractor
back to the builder.

The right-to-left search for a closed group's literal finds the last matching place among the
segments it may look at (`literalOffset_eq_some_iff`). From that, every list of widths the matcher
returns fits the groups, covers no more segments than there are, and puts each literal of the
template over a segment that matches it (`widthsFrom_covers`). Extracting from those widths and
building again writes the matched segments back (`extract_build_round_trip`).
-/
namespace PageRoutes.Template

@[simp] theorem total_eq_sum (ws : List Nat) : total ws = ws.sum := List.sum_eq_foldr.symm

theorem searchBack_eq_some_iff (p : Nat → Bool) (n k : Nat) :
    searchBack p n = some k ↔ k < n ∧ p k = true ∧ ∀ j, k < j → j < n → p j = false := by
  induction n with
  | zero => simp [searchBack]
  | succ n ih =>
    by_cases top : p n = true
    · simp only [searchBack, top, if_true, Option.some.injEq]
      constructor
      · rintro rfl
        exact ⟨by omega, top, fun j above below => by omega⟩
      · rintro ⟨below, found, none⟩
        rcases Nat.lt_or_ge k n with earlier | last
        · simp [none n earlier (by omega)] at top
        · omega
    · simp only [searchBack, top, Bool.false_eq_true, if_false, ih]
      constructor
      · rintro ⟨below, found, none⟩
        refine ⟨by omega, found, fun j above bound => ?_⟩
        by_cases last : j = n
        · subst last; simpa using top
        · exact none j above (by omega)
      · rintro ⟨below, found, none⟩
        have : k ≠ n := fun same => top (same ▸ found)
        exact ⟨by omega, found, fun j above bound => none j above (by omega)⟩

theorem searchBack_eq_none_iff (p : Nat → Bool) (n : Nat) :
    searchBack p n = none ↔ ∀ j, j < n → p j = false := by
  induction n with
  | zero => simp [searchBack]
  | succ n ih =>
    by_cases top : p n = true
    · simp only [searchBack, top, if_true, reduceCtorEq, false_iff]
      intro below
      simp [below n (by omega)] at top
    · simp only [searchBack, top, Bool.false_eq_true, if_false, ih]
      constructor
      · intro below j bound
        by_cases last : j = n
        · subst last; simpa using top
        · exact below j (by omega)
      · intro below j bound
        exact below j (by omega)

/-- Where the literal of a closed group stands among the segments after its required ones:
the last place, among the first `optional + 1`, where a segment matches it. -/
theorem literalOffset_eq_some_iff {cs : Bool} {literal : String} {optional k : Nat}
    {rest : List String} :
    literalOffset cs literal optional rest = some k ↔
      k ≤ optional ∧ ∃ seg, rest[k]? = some seg ∧ segmentMatches cs literal seg = true ∧
        ∀ j, k < j → j ≤ optional → ∀ later, rest[j]? = some later →
          segmentMatches cs literal later = false := by
  rw [literalOffset, searchBack_eq_some_iff]
  constructor
  · rintro ⟨below, found, none⟩
    have inside : k < rest.length := by omega
    refine ⟨by omega, rest[k], by simp [inside], by simpa [inside] using found, ?_⟩
    intro j above upto later at_j
    have inside_j : j < rest.length := (List.getElem?_eq_some_iff.1 at_j).1
    have := none j above (by omega)
    simp_all
  · rintro ⟨upto, seg, at_k, hit, none⟩
    have inside : k < rest.length := (List.getElem?_eq_some_iff.1 at_k).1
    refine ⟨by omega, by simp [at_k, hit], fun j above below => ?_⟩
    have inside_j : j < rest.length := by omega
    simpa [inside_j] using none j above (by omega) rest[j] (by simp [inside_j])

/-- A covered part stands for a segment: a literal for a segment that matches it, a placeholder
for any segment. -/
def standsFor (cs : Bool) : Part → String → Prop
  | .literal text, seg => segmentMatches cs text seg = true
  | _, _ => True

theorem standsFor_placeholders (cs : Bool) :
    ∀ (ps : List Part) (segs : List String), (∀ p ∈ ps, p.name?.isSome) →
      ps.length = segs.length → List.Forall₂ (standsFor cs) ps segs
  | [], [], _, _ => .nil
  | p :: ps, seg :: segs, placeholders, same => by
    refine .cons ?_ (standsFor_placeholders cs ps segs
      (fun q member => placeholders q (List.mem_cons_of_mem p member)) (by simpa using same))
    have named := placeholders p List.mem_cons_self
    cases p with
    | literal text => simp [Part.name?] at named
    | required name => trivial
    | optional name => trivial
  | [], _ :: _, _, same => by simp at same
  | _ :: _, [], _, same => by simp at same

/-- Compared with case, a segment stands for a literal only when it is that literal, so the
written literals are the matched segments themselves. -/
theorem fill_of_standsFor {ps : List Part} {segs : List String}
    (stand : List.Forall₂ (standsFor true) ps segs) : fill ps segs = segs := by
  induction stand with
  | nil => rfl
  | @cons p seg ps segs head _ ih =>
    cases p with
    | literal text =>
      simp only [standsFor, segmentMatches, if_true, beq_iff_eq] at head
      simp [head, ih]
    | required name => simp [ih]
    | optional name => simp [ih]

/-- What the matcher's widths say about the groups laid out over the parts: each width fits its
group, they add up to no more than the segments, the covered parts are as many as the widths
add up to, and each literal stands where a segment matches it. -/
theorem widthsFrom_covers (t : Template) (cs : Bool) :
    ∀ (gs : List Group) (ps : List Part) (start : Nat) (segs : List String) (ws : List Nat),
      LaysOut start gs ps → t.parts.drop start = ps → widthsFrom cs gs segs = some ws →
      Fits gs ws ∧ ws.sum ≤ segs.length ∧ (t.coveredFrom gs ws).length = ws.sum ∧
        List.Forall₂ (standsFor cs) (t.coveredFrom gs ws) (segs.take ws.sum)
  | [], _, _, _, _, layout, _, _ => by simp [LaysOut] at layout
  | [g], ps, start, segs, ws, layout, placed, matched => by
    simp only [LaysOut] at layout
    obtain ⟨starts, openGroup, held⟩ := layout
    have sliced : t.slice g = ps := @slice_eq t g ps [] (by simpa [starts] using placed) held
    simp only [widthsFrom] at matched
    split at matched
    · cases matched
    · rename_i enough
      simp only [Option.some.injEq] at matched
      subst matched
      have width : (kept ps (min g.maxCount segs.length - g.required)).length =
          min g.maxCount segs.length := by
        rw [kept_length, held.required, held.optional]
        simp only [Group.maxCount] at *
        omega
      have covers : t.coveredFrom [g] [min g.maxCount segs.length] =
          kept ps (min g.maxCount segs.length - g.required) := by
        simp [coveredFrom, sliced, Group.literalParts, openGroup]
      have least : g.required ≤ min g.maxCount segs.length := by
        simp only [Group.maxCount]
        omega
      refine ⟨⟨by simp [fixedWidth_open openGroup, least], by simp only [fixedWidth_open openGroup]; omega,
        trivial⟩, by simp only [List.sum_cons, List.sum_nil]; omega, by simp [covers, width], ?_⟩
      rw [covers]
      exact standsFor_placeholders cs _ _ (kept_placeholders ps _) (by simp [width])
  | g :: g₂ :: gs, ps, start, segs, ws, layout, placed, matched => by
    simp only [LaysOut] at layout
    obtain ⟨phs, text, rest, split, starts, closed, held, later⟩ := layout
    have count := held.length
    have sliced : t.slice g = phs := slice_eq (by rw [starts, placed, split]) held
    have restPlaced := drop_after_closed (placed.trans split)
    simp only [widthsFrom, closed] at matched
    cases found : literalOffset cs text g.optional (segs.drop g.required) with
    | none => simp [found] at matched
    | some k =>
      simp only [found] at matched
      obtain ⟨ws', matchedLater, rfl⟩ := Option.map_eq_some_iff.1 matched
      obtain ⟨upto, seg, at_k, hit, -⟩ := literalOffset_eq_some_iff.1 found
      have at_lit : segs[g.required + k]? = some seg := by simpa using at_k
      have inside : g.required + k < segs.length := (List.getElem?_eq_some_iff.1 at_lit).1
      rw [List.drop_drop, show g.required + (k + 1) = g.required + k + 1 by omega] at matchedLater
      obtain ⟨fitsLater, sumLater, lengthLater, standLater⟩ :=
        widthsFrom_covers t cs (g₂ :: gs) rest _ _ ws' later restPlaced matchedLater
      simp only [List.length_drop] at sumLater
      have width : (kept phs k).length = g.required + k := by
        rw [kept_length, held.required, held.optional]
        omega
      have covers : t.coveredFrom (g :: g₂ :: gs) ((g.required + k + 1) :: ws') =
          kept phs k ++ [.literal text] ++ t.coveredFrom (g₂ :: gs) ws' := by
        simp [coveredFrom, sliced, Group.literalParts, closed]
      -- the segments the group takes: its placeholders, then the one matching its literal
      have takes : segs.take ((g.required + k + 1) :: ws').sum =
          segs.take (g.required + k) ++ [seg] ++
            (segs.drop (g.required + k + 1)).take ws'.sum := by
        have dropAt : segs.drop (g.required + k) = seg :: segs.drop (g.required + k + 1) := by
          rw [List.drop_eq_getElem_cons inside]
          simp [(List.getElem?_eq_some_iff.1 at_lit).2]
        rw [List.sum_cons, show g.required + k + 1 + ws'.sum = (g.required + k) + (ws'.sum + 1) by omega,
          List.take_add, dropAt, List.take_succ_cons]
        simp
      refine ⟨⟨by simp only [fixedWidth_closed closed]; omega,
        by simp only [fixedWidth_closed closed, Group.maxCount]; omega, fitsLater⟩, by simp; omega, by simp [covers, width, lengthLater]; omega, ?_⟩
      rw [covers, takes]
      refine List.rel_append (List.rel_append ?_ ?_) standLater
      · exact standsFor_placeholders cs _ _ (kept_placeholders phs k) (by simp [width]; omega)
      · exact .cons hit .nil

/-- Segments the template matched, read by the extractor and built again. The extractor binds
each covered placeholder (every required one, and in each group the first optional ones its
width leaves room for) to the segment at its place, no name twice; building from those bindings
takes all of them and writes the matched segments back, with the template's own spelling at
each literal, which is the segment itself when case counts. -/
theorem extract_build_round_trip {path : String} {t : Template} (compiled : compile path = .ok t)
    {segs : List String} (nonempty : ∀ seg ∈ segs, seg ≠ "") (cs : Bool) {ws : List Nat}
    (matched : t.matchWidths segs cs = some ws) :
    ws.sum ≤ segs.length ∧ (t.covered ws).length = ws.sum ∧
      (t.extract segs ws).named = bindings (t.covered ws) segs ∧
      ((t.extract segs ws).named.map Prod.fst).Nodup ∧
      ∃ built, t.build (t.extract segs ws) = .ok built ∧
        built.remaining.indexed = [] ∧ built.remaining.named = [] ∧
        built.segments = fill (t.covered ws) (segs.take ws.sum) ∧
        (cs = true → built.segments = segs.take ws.sum) := by
  have distinct := compile_names_nodup compiled
  have layout := ofParts_laysOut t.parts
  obtain ⟨fits, within, length, stand⟩ : Fits t.groups ws ∧ ws.sum ≤ segs.length ∧
      (t.covered ws).length = ws.sum ∧
      List.Forall₂ (standsFor cs) (t.covered ws) (segs.take ws.sum) :=
    widthsFrom_covers t cs t.groups t.parts 0 segs ws layout rfl matched
  have bound : (t.extract segs ws).named = bindings (t.covered ws) segs := by
    exact bindingsFrom_eq t segs t.groups t.parts 0 0 ws layout rfl (Nat.le_refl 0) fits
  have params : t.extract segs ws = ⟨[], bindings (t.covered ws) segs⟩ := by
    rw [← bound]
    rfl
  have drops : DropsOptionals t.parts (t.covered ws) :=
    coveredFrom_drops t t.groups t.parts 0 ws layout rfl fits
  -- every bound name is a placeholder name of the template, so the build takes them all
  have keys : ((bindings (t.covered ws) segs).map Prod.fst).Sublist (names t.parts) :=
    (bindings_keys_sublist _ segs).trans drops.names_sublist
  obtain ⟨complete, filled⟩ :=
    written_bindings drops distinct [] segs [] (by omega) nonempty (by simp)
  simp only [List.nil_append] at complete filled
  have taken : (bindings (t.covered ws) segs).filter (fun kv => decide (kv.1 ∉ names t.parts)) =
      [] := by
    rw [List.filter_eq_nil_iff]
    intro kv member
    simpa using keys.subset (List.mem_map_of_mem member)
  have spelled : fill (t.covered ws) (segs.take ws.sum) = fill (t.covered ws) segs := by
    rw [← length, fill_take]
  have building : t.build (t.extract segs ws) =
      .ok ⟨t.parts.filterMap (written ⟨[], bindings (t.covered ws) segs⟩),
        Params.eraseAll ⟨[], bindings (t.covered ws) segs⟩ (names t.parts)⟩ := by
    rw [params, build, buildParts_eq _ distinct, complete]
  refine ⟨within, length, bound, bound ▸ keys.nodup distinct, _, building, rfl, taken, ?_, ?_⟩
  · rw [spelled, filled]
  · rintro rfl
    rw [filled, ← spelled]
    exact fill_of_standsFor stand

/-- Matched without regard to case, a segment comes back in the template's spelling. -/
theorem extract_build_restores_literal_spelling :
    ∃ built, (Template.mk [.optional "a", .literal "one", .optional "b", .literal "two",
        .required "c"]).build ((Template.mk [.optional "a", .literal "one", .optional "b",
        .literal "two", .required "c"]).extract ["ONE", "b", "TWO", "c"] [1, 2, 1]) = .ok built ∧
      built.segments = ["one", "b", "two", "c"] := by
  obtain ⟨-, -, -, -, built, building, -, -, segments, -⟩ :=
    @extract_build_round_trip "/#{a}/one/#{b}/two/${c}"
      ⟨[.optional "a", .literal "one", .optional "b", .literal "two", .required "c"]⟩ (by rfl)
      ["ONE", "b", "TWO", "c"] (by decide) false [1, 2, 1]
      (by simp [matchWidths, groups, Group.ofParts, Group.collect, widthsFrom, literalOffset,
            searchBack, Group.maxCount]
          decide)
  exact ⟨built, building, segments.trans (by rfl)⟩

end PageRoutes.Template
