import Mathlib.Data.List.Sort
import PageRoutes.App
import PageRoutes.Proofs.MountSpecificity
/-!
The order in which an application offers a request to its mappers.

A mapper, taken with its mount position, is offered a request before another when it scores
higher, or scores the same and was mounted later (`OfferedBefore`). This is a strict order on
the mount positions, so exactly one arrangement of the mappers follows it; the stable sort of
the reversed mount list by descending score is that arrangement (`candidates_eq_of_order`):
sorting the reversed list puts a mapper after everything that scores higher and before
everything else, which was mounted earlier (`pairwise_offeredBefore_mergeSort`). The
application's answer is the first answer of the mappers in that order that is an error or a
handler (`firstHandler_eq_firstAnswer`). A handler is written by the last mounted mapper that
can write it (`mapHandler_eq_some_iff`), and a mount whose path does not compile fails with the
path's error and adds no mapper (`mountPage_eq`, `mountPackage_eq`).
-/
namespace PageRoutes.App

/-! ## Mounting -/

/-- Mounting a page at a path fails exactly where the path does not compile, and otherwise adds
one mounted mapper after all others. -/
theorem mountPage_eq (a : App) (path : String) (cls : PageClass) :
    a.mountPage path cls =
      (Template.compile path).map fun t =>
        { a with mappers := a.mappers ++ [.mounted ⟨t, cls, .query⟩] } := by
  cases compiled : Template.compile path <;>
    simp [mountPage, Mapper.mountAt, mount, compiled, Functor.map, Except.map, bind, Except.bind,
      pure, Except.pure]

/-- Mounting a package at a path fails exactly where the path does not compile, and otherwise
adds one package mapper after all others. -/
theorem mountPackage_eq (a : App) (path package : String) :
    a.mountPackage path package =
      (Template.compile path).map fun t =>
        { a with mappers := a.mappers ++ [.package ⟨t, package, .query⟩] } := by
  cases compiled : Template.compile path <;>
    simp [mountPackage, Mapper.packageAt, mount, compiled, Functor.map, Except.map, bind,
      Except.bind, pure, Except.pure]

/-! ## Offering a request -/

/-- Whether an answer to a request declines it. -/
def declines : Except MapError (Option Handler) → Bool
  | .ok none => true
  | _ => false

/-- The first of a list of answers that is an error or a handler, or no handler when all
decline. -/
def firstAnswer (answers : List (Except MapError (Option Handler))) :
    Except MapError (Option Handler) :=
  (answers.find? fun r => !declines r).getD (.ok none)

/-- Offering a request to mappers in a row answers with the first of their answers that is an
error or a handler. -/
theorem firstHandler_eq_firstAnswer (ctx : Context) (u : Url) (ms : List Mapper) :
    firstHandler ctx u ms = firstAnswer (ms.map fun m => m.mapRequest ctx u) := by
  induction ms with
  | nil => rfl
  | cons m ms ih =>
    simp only [firstHandler, List.map_cons, firstAnswer, List.find?_cons]
    cases answer : m.mapRequest ctx u with
    | error e => simp [declines, bind, Except.bind]
    | ok r =>
      cases r with
      | none => simp [declines, bind, Except.bind, ih, firstAnswer]
      | some h => simp [declines, bind, Except.bind, pure, Except.pure]

/-- Mapper `x`, with its mount position, is offered a request before mapper `y`: it scores
higher, or it scores the same and was mounted later. -/
def OfferedBefore (ctx : Context) (u : Url) (x y : Mapper × Nat) : Prop :=
  y.1.score ctx u < x.1.score ctx u ∨ (x.1.score ctx u = y.1.score ctx u ∧ y.2 < x.2)

/-- The comparison the stable sort is given: descending score. -/
def byScore (ctx : Context) (u : Url) (x y : Mapper × Nat) : Bool :=
  decide (y.1.score ctx u ≤ x.1.score ctx u)

theorem byScore_trans (ctx : Context) (u : Url) (x y z : Mapper × Nat)
    (first : byScore ctx u x y = true) (second : byScore ctx u y z = true) :
    byScore ctx u x z = true := by
  simp only [byScore, decide_eq_true_eq] at *
  omega

theorem byScore_total (ctx : Context) (u : Url) (x y : Mapper × Nat) :
    (byScore ctx u x y || byScore ctx u y x) = true := by
  simp only [byScore, Bool.or_eq_true, decide_eq_true_eq]
  omega

/-- Sorting mappers listed from the latest mounted to the earliest by descending score offers
them in order. The sort puts a mapper after all that score higher and before the rest, and
the rest were all mounted earlier. -/
theorem pairwise_offeredBefore_mergeSort (ctx : Context) (u : Url) :
    ∀ (ms : List (Mapper × Nat)), ms.Pairwise (fun x y => y.2 < x.2) →
      (ms.mergeSort (byScore ctx u)).Pairwise (OfferedBefore ctx u)
  | [], _ => by simp
  | m :: ms, latestFirst => by
    obtain ⟨before, after, sorted, sortedRest, higher⟩ :=
      List.mergeSort_cons (byScore_trans ctx u) (byScore_total ctx u) m ms
    have rest := pairwise_offeredBefore_mergeSort ctx u ms latestFirst.of_cons
    have descending := List.pairwise_mergeSort (byScore_trans ctx u) (byScore_total ctx u) (m :: ms)
    rw [sortedRest, List.pairwise_append] at rest
    rw [sorted, List.pairwise_append, List.pairwise_cons] at descending ⊢
    obtain ⟨restBefore, restAfter, restAcross⟩ := rest
    refine ⟨restBefore, ⟨fun y later => ?_, restAfter⟩, fun x early y inTail => ?_⟩
    · -- what follows `m` scores no higher and was mounted earlier
      have atMost : y.1.score ctx u ≤ m.1.score ctx u := by
        simpa [byScore] using descending.2.1.1 y later
      have earlier : y.2 < m.2 := by
        have inRest : y ∈ ms.mergeSort (byScore ctx u) := by rw [sortedRest]; simp [later]
        exact List.rel_of_pairwise_cons latestFirst (List.mem_mergeSort.1 inRest)
      rcases lt_or_eq_of_le atMost with below | same
      · exact .inl below
      · exact .inr ⟨same.symm, earlier⟩
    · rcases List.mem_cons.1 inTail with rfl | later
      · -- what precedes `m` scores strictly higher
        have above := higher x early
        simp only [byScore, Bool.not_eq_true', decide_eq_false_iff_not, not_le] at above
        exact .inl above
      · exact restAcross x early y later

/-- Two mappers are never each offered before the other. -/
theorem offeredBefore_asymm (ctx : Context) (u : Url) (x y : Mapper × Nat)
    (first : OfferedBefore ctx u x y) (second : OfferedBefore ctx u y x) : False := by
  simp only [OfferedBefore] at first second
  omega

/-- The mappers, each with its mount position, listed from the latest mounted to the earliest. -/
theorem zipIdx_reverse_latestFirst (ms : List Mapper) :
    ms.zipIdx.reverse.Pairwise fun x y => y.2 < x.2 := by
  rw [List.pairwise_reverse]
  have positions := @List.pairwise_lt_range' 0 ms.length 1 (by omega)
  rw [← List.zipIdx_map_snd, List.pairwise_map] at positions
  exact positions

/-- The application offers a request to its mappers in the one order that puts every mapper
after those that score higher and, among equal scores, after those mounted later. -/
theorem candidates_eq_of_order {a : App} {u : Url} {order : List (Mapper × Nat)}
    (perm : order.Perm a.mappers.zipIdx) (ranked : order.Pairwise (OfferedBefore a.context u)) :
    a.candidates u = order.map Prod.fst := by
  set sorted := a.mappers.zipIdx.reverse.mergeSort (byScore a.context u)
  -- the mappers the application sorts are the mount list read from its end
  have reversed : a.mappers.reverse = a.mappers.zipIdx.reverse.map Prod.fst := by
    rw [List.map_reverse, List.zipIdx_map_fst]
  have unzipped : a.candidates u = sorted.map Prod.fst := by
    rw [candidates, reversed, List.map_map, ← List.map_mergeSort, List.map_map]
    · rfl
    · intro x _ y _
      rfl
  have same : sorted = order := by
    apply List.Perm.eq_of_pairwise
      (fun x y _ _ first second => (offeredBefore_asymm _ _ x y first second).elim)
      (pairwise_offeredBefore_mergeSort _ _ _ (zipIdx_reverse_latestFirst a.mappers)) ranked
    exact (List.mergeSort_perm _ _).trans ((List.reverse_perm _).trans perm.symm)
  rw [unzipped, same]

/-- There is an order of the mappers that puts every mapper after those that score higher and,
among equal scores, after those mounted later. -/
theorem exists_offer_order (a : App) (u : Url) :
    ∃ order : List (Mapper × Nat),
      order.Perm a.mappers.zipIdx ∧ order.Pairwise (OfferedBefore a.context u) :=
  ⟨_, (List.mergeSort_perm _ _).trans (List.reverse_perm _),
    pairwise_offeredBefore_mergeSort _ _ _ (zipIdx_reverse_latestFirst a.mappers)⟩

/-! ## Writing a handler -/

/-- A handler is written by the last mounted mapper that writes it. -/
theorem mapHandler_eq_some_iff (a : App) (h : Handler) (url : Url) :
    a.mapHandler h = some url ↔
      ∃ earlier m later, a.mappers = earlier ++ m :: later ∧
        m.mapHandler a.context h = some url ∧
        ∀ m' ∈ later, m'.mapHandler a.context h = none := by
  rw [mapHandler, List.findSome?_eq_some_iff]
  constructor
  · rintro ⟨l₁, m, l₂, split, writes, none⟩
    refine ⟨l₂.reverse, m, l₁.reverse, ?_, writes,
      fun m' inLater => none m' (by simpa using inLater)⟩
    simpa using congrArg List.reverse split
  · rintro ⟨earlier, m, later, split, writes, none⟩
    exact ⟨later.reverse, m, earlier.reverse, by simp [split], writes,
      fun m' inLater => none m' (by simpa using inLater)⟩

theorem mapHandler_eq_none_iff (a : App) (h : Handler) :
    a.mapHandler h = none ↔ ∀ m ∈ a.mappers, m.mapHandler a.context h = none := by
  simp [mapHandler, List.findSome?_eq_none_iff]

/-! ## Dispatch -/

/-- How an application dispatches. Mounting at a path fails exactly where the path does not
compile, with the path's error, and adds no mapper; otherwise it adds one mapper after all
others. A request is offered to the mappers in the one order that puts every mapper after those
that score higher and, among equal scores, after those mounted later; the first answer that is
an error or a handler is the application's, and no handler when all decline. A handler is
written by the last mounted mapper that writes it. -/
theorem app_dispatch_order (a : App) :
    (∀ path cls, a.mountPage path cls = (Template.compile path).map fun t =>
      { a with mappers := a.mappers ++ [.mounted ⟨t, cls, .query⟩] }) ∧
    (∀ path package, a.mountPackage path package = (Template.compile path).map fun t =>
      { a with mappers := a.mappers ++ [.package ⟨t, package, .query⟩] }) ∧
    (∀ u, (∃ order : List (Mapper × Nat),
        order.Perm a.mappers.zipIdx ∧ order.Pairwise (OfferedBefore a.context u)) ∧
      ∀ order : List (Mapper × Nat), order.Perm a.mappers.zipIdx →
        order.Pairwise (OfferedBefore a.context u) →
        a.mapRequest u = firstAnswer (order.map fun x => x.1.mapRequest a.context u)) ∧
    ∀ h, (∀ url, a.mapHandler h = some url ↔
        ∃ earlier m later, a.mappers = earlier ++ m :: later ∧
          m.mapHandler a.context h = some url ∧
          ∀ m' ∈ later, m'.mapHandler a.context h = none) ∧
      (a.mapHandler h = none ↔ ∀ m ∈ a.mappers, m.mapHandler a.context h = none) := by
  refine ⟨mountPage_eq a, mountPackage_eq a, fun u => ⟨exists_offer_order a u,
    fun order perm ranked => ?_⟩,
    fun h => ⟨mapHandler_eq_some_iff a h, mapHandler_eq_none_iff a h⟩⟩
  rw [mapRequest, firstHandler_eq_firstAnswer, candidates_eq_of_order perm ranked, List.map_map]
  rfl

/-- Two mounts at one path: a request for it goes to the later mount first, then to the earlier
one, and last to the bookmarkable mapper, which does not score on it. -/
theorem later_same_mount_offered_first :
    ((App.new {}).mount (.mounted ⟨⟨[.literal "same"]⟩, ⟨"First"⟩, .query⟩)
        |>.mount (.mounted ⟨⟨[.literal "same"]⟩, ⟨"Second"⟩, .query⟩)).mapRequest
        ⟨["same"], []⟩ =
      firstAnswer ([Mapper.mounted ⟨⟨[.literal "same"]⟩, ⟨"Second"⟩, .query⟩,
        .mounted ⟨⟨[.literal "same"]⟩, ⟨"First"⟩, .query⟩, .bookmarkable .query].map
          fun m => m.mapRequest {} ⟨["same"], []⟩) := by
  have specific : ∀ cls : PageClass,
      Mapper.score {} ⟨["same"], []⟩
        (.mounted ⟨⟨[.literal "same"]⟩, cls, .query⟩) = 2 := by
    intro cls
    simp [Mapper.score, Template.matchWidths, Template.groups, Group.ofParts, Group.collect,
      Template.widthsFrom, Template.literalOffset, Template.searchBack,
      Template.segmentMatches, Group.maxCount, Template.specificity_eq, Part.isLiteral,
      Part.isRequired, Template.maxScore]
  have unclaimed : Mapper.score {} ⟨["same"], []⟩ (.bookmarkable .query) = 0 := by
    simp [Mapper.score, Mapper.bookmarkablePrefix]
  -- the order is the mount list read from its end, since the two mounts tie
  have offered := (app_dispatch_order ((App.new {}).mount
      (.mounted ⟨⟨[.literal "same"]⟩, ⟨"First"⟩, .query⟩) |>.mount
        (.mounted ⟨⟨[.literal "same"]⟩, ⟨"Second"⟩, .query⟩))).2.2.1 ⟨["same"], []⟩
  have answer := offered.2 _ (List.reverse_perm _)
    (by simp [App.new, mount, OfferedBefore, specific, unclaimed])
  simpa [App.new, mount] using answer

end PageRoutes.App
