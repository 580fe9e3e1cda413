import Mathlib
import PageRoutes.Template.Compile
import PageRoutes.Template.Extract
/-!
How a template's groups lie over its parts, and what a match with given widths covers.

`Group.ofParts` cuts the parts into groups that `LaysOut` describes: each group holds the
placeholders from its start, closed by the literal after them, and the last group is open
(`ofParts_laysOut`). A compiled template never repeats a placeholder name
(`compile_names_nodup`).

A match gives each group a width. Within a group of width `w` the covered parts are the
required placeholders and the first `w - fixedWidth - required` optional ones, in template
order, then the literal (`covered`). The extractor walks the groups with a running count of
left-out optional placeholders; `bindingsFrom_eq` shows that this count puts every group's
first segment where the widths before it end, so extraction binds each covered placeholder
to the segment at its position in the covered parts.
-/
namespace PageRoutes

namespace Part

/-- Whether a part is a required placeholder. -/
def isRequired : Part → Bool
  | required _ => true
  | _ => false

/-- Whether a part is an optional placeholder. -/
def isOptional : Part → Bool
  | optional _ => true
  | _ => false

/-- Whether a part is a literal segment. -/
def isLiteral : Part → Bool
  | literal _ => true
  | _ => false

theorem placeholder_kind {p : Part} (placeholder : p.name?.isSome) :
    (if p.isRequired then 1 else 0) + (if p.isOptional then 1 else 0) = 1 := by
  cases p <;> simp_all [isRequired, isOptional, name?]

end Part

/-- The literal closing a group, as a part. -/
def Group.literalParts (g : Group) : List Part := (g.fixed.map Part.literal).toList

namespace Template

/-! ## Placeholder names -/

/-- The placeholder names of parts, in order. -/
def names (ps : List Part) : List String := ps.filterMap Part.name?

@[simp] theorem names_append (ps qs : List Part) : names (ps ++ qs) = names ps ++ names qs :=
  List.filterMap_append

@[simp] theorem names_nil : names [] = [] := rfl

@[simp] theorem names_cons_literal (text : String) (ps : List Part) :
    names (.literal text :: ps) = names ps := rfl

@[simp] theorem names_cons_required (name : String) (ps : List Part) :
    names (.required name :: ps) = name :: names ps := rfl

@[simp] theorem names_cons_optional (name : String) (ps : List Part) :
    names (.optional name :: ps) = name :: names ps := rfl

/-- Reading placed pieces keeps the names read so far distinct: a piece whose name an earlier
part has is refused. -/
theorem readParts_names_nodup : ∀ (pieces : List (Nat × List Char)) (done parts : List Part),
    (names done).Nodup → readParts done pieces = .ok parts → (names parts).Nodup
  | [], done, parts, distinct, read => by
    simp only [readParts, Except.ok.injEq] at read
    exact read ▸ distinct
  | (pos, piece) :: rest, done, parts, distinct, read => by
    simp only [readParts] at read
    cases part : readPart pos piece with
    | error e =>
      simp [part] at read
      cases read
    | ok p =>
      simp only [part, bind, Except.bind] at read
      cases named : p.name? with
      | none =>
        simp only [named] at read
        apply readParts_names_nodup rest (done ++ [p]) parts _ read
        simpa [names, named] using distinct
      | some name =>
        simp only [named] at read
        split at read
        · cases read
        · rename_i fresh
          apply readParts_names_nodup rest (done ++ [p]) parts _ read
          have absent : name ∉ names done := fun mem => by
            obtain ⟨q, member, hq⟩ := List.mem_filterMap.1 mem
            exact fresh (List.any_eq_true.2 ⟨q, member, by simp [hq]⟩)
          have single : names [p] = [name] := by simp [names, named]
          rw [names_append, single, List.nodup_append]
          refine ⟨distinct, by simp, fun a mem b single => ?_⟩
          rw [List.mem_singleton.1 single]
          exact fun same => absent (same ▸ mem)

theorem compile_names_nodup {path : String} {t : Template} (compiled : compile path = .ok t) :
    (names t.parts).Nodup := by
  simp only [compile] at compiled
  cases read : readParts [] (place 0 (path.toList.splitOn '/')) with
  | error e => simp [read, Functor.map, Except.map] at compiled
  | ok parts =>
    simp only [read, Functor.map, Except.map, Except.ok.injEq] at compiled
    subst compiled
    exact readParts_names_nodup _ [] parts (by simp) read

/-! ## Groups over the parts -/

/-- The parts `phs` are the placeholders of the group `g`: no literal among them, and as many
required and optional ones as the group counts. -/
structure Placeholders (g : Group) (phs : List Part) : Prop where
  no_literal : ∀ p ∈ phs, p.name?.isSome
  required : phs.countP Part.isRequired = g.required
  optional : phs.countP Part.isOptional = g.optional

/-- The groups `gs` lay out the parts `ps`, the first of them being part `start`: each group
starts where the previous one's literal ended and holds its placeholders; every group but the
last is closed by the literal after them, and the last is open and ends with the parts. -/
def LaysOut : Nat → List Group → List Part → Prop
  | _, [], _ => False
  | start, [g], ps => g.start = start ∧ g.fixed = none ∧ Placeholders g ps
  | start, g :: gs@(_ :: _), ps =>
    ∃ phs text rest, ps = phs ++ .literal text :: rest ∧ g.start = start ∧ g.fixed = some text ∧
      Placeholders g phs ∧ LaysOut (start + phs.length + 1) gs rest

theorem Placeholders.length {g : Group} {phs : List Part} (held : Placeholders g phs) :
    phs.length = g.maxCount := by
  have count : ∀ qs : List Part, (∀ p ∈ qs, p.name?.isSome) →
      qs.length = qs.countP Part.isRequired + qs.countP Part.isOptional := by
    intro qs
    induction qs with
    | nil => simp
    | cons q qs ih =>
      intro placeholders
      have kind := Part.placeholder_kind (placeholders q List.mem_cons_self)
      have rest := ih (fun p mem => placeholders p (List.mem_cons_of_mem q mem))
      simp only [List.countP_cons, List.length_cons]
      omega
  rw [count phs held.no_literal, held.required, held.optional, Group.maxCount]

theorem Placeholders.push_required {g : Group} {phs : List Part} (held : Placeholders g phs)
    (name : String) :
    Placeholders { g with required := g.required + 1 } (phs ++ [.required name]) where
  no_literal p member := by
    rcases List.mem_append.1 member with old | new
    · exact held.no_literal p old
    · rw [List.mem_singleton.1 new]
      rfl
  required := by simp [List.countP_append, held.required, Part.isRequired]
  optional := by simp [List.countP_append, held.optional, Part.isOptional]

theorem Placeholders.push_optional {g : Group} {phs : List Part} (held : Placeholders g phs)
    (name : String) :
    Placeholders { g with optional := g.optional + 1 } (phs ++ [.optional name]) where
  no_literal p member := by
    rcases List.mem_append.1 member with old | new
    · exact held.no_literal p old
    · rw [List.mem_singleton.1 new]
      rfl
  required := by simp [List.countP_append, held.required, Part.isRequired]
  optional := by simp [List.countP_append, held.optional, Part.isOptional]

theorem collect_ne_nil (g : Group) (i : Nat) (ps : List Part) : Group.collect g i ps ≠ [] := by
  induction ps generalizing g i with
  | nil => simp [Group.collect]
  | cons p ps ih => cases p <;> simp [Group.collect, ih]

/-- The grouping step: the open group `g` has gathered the placeholders `pending`, and `i` is
the index of the next part. -/
theorem collect_laysOut (ps pending : List Part) (g : Group) (i : Nat)
    (openGroup : g.fixed = none) (held : Placeholders g pending)
    (position : i = g.start + pending.length) :
    LaysOut g.start (Group.collect g i ps) (pending ++ ps) := by
  induction ps generalizing pending g i with
  | nil => simpa [Group.collect, LaysOut, openGroup] using held
  | cons p ps ih =>
    cases p with
    | literal text =>
      have next := ih [] { start := i + 1 } (i + 1) rfl ⟨by simp, by simp, by simp⟩ (by simp)
      obtain ⟨g', gs', split⟩ :=
        List.exists_cons_of_ne_nil (collect_ne_nil { start := i + 1 } (i + 1) ps)
      rw [Group.collect, split]
      rw [split] at next
      simp only [LaysOut]
      refine ⟨pending, text, ps, rfl, trivial, rfl, ⟨held.no_literal, held.required, held.optional⟩, ?_⟩
      simpa [position] using next
    | required name =>
      have next := ih (pending ++ [.required name]) { g with required := g.required + 1 } (i + 1)
        openGroup (held.push_required name) (by simp [position]; omega)
      simpa [Group.collect] using next
    | optional name =>
      have next := ih (pending ++ [.optional name]) { g with optional := g.optional + 1 } (i + 1)
        openGroup (held.push_optional name) (by simp [position]; omega)
      simpa [Group.collect] using next

theorem ofParts_laysOut (ps : List Part) : LaysOut 0 (Group.ofParts ps) ps :=
  collect_laysOut ps [] { start := 0 } 0 rfl ⟨by simp, by simp, by simp⟩ rfl

/-- The placeholders of a group: the parts from its start, as many as it has. -/
def slice (t : Template) (g : Group) : List Part := (t.parts.drop g.start).take g.maxCount

theorem slice_eq {t : Template} {g : Group} {phs rest : List Part}
    (placed : t.parts.drop g.start = phs ++ rest) (held : Placeholders g phs) : t.slice g = phs := by
  rw [slice, placed, ← held.length, List.take_left]

/-- After a closed group's placeholders and literal come the parts of the groups that follow. -/
theorem drop_after_closed {t : Template} {start : Nat} {phs rest : List Part} {text : String}
    (placed : t.parts.drop start = phs ++ .literal text :: rest) :
    t.parts.drop (start + phs.length + 1) = rest := by
  rw [show start + phs.length + 1 = start + (phs.length + 1) by omega, ← List.drop_drop, placed]
  simp

@[simp] theorem fixedWidth_closed {g : Group} {text : String} (closed : g.fixed = some text) :
    g.fixedWidth = 1 := by
  simp [Group.fixedWidth, closed]

@[simp] theorem fixedWidth_open {g : Group} (openGroup : g.fixed = none) : g.fixedWidth = 0 := by
  simp [Group.fixedWidth, openGroup]

/-! ## What a match covers -/

/-- The placeholders of `phs` that a match keeps when `k` of its optional ones are present:
every required one and the first `k` optional ones, in order. -/
def kept : List Part → Nat → List Part
  | [], _ => []
  | .required name :: ps, k => .required name :: kept ps k
  | .optional name :: ps, k + 1 => .optional name :: kept ps k
  | _ :: ps, k => kept ps k

/-- The parts that groups with widths `ws` cover, in order: in each group its kept
placeholders, then its literal. -/
def coveredFrom (t : Template) (gs : List Group) (ws : List Nat) : List Part :=
  (gs.zip ws).flatMap fun (g, w) => kept (t.slice g) (w - g.fixedWidth - g.required) ++ g.literalParts

/-- The parts a match with widths `ws` covers. -/
def covered (t : Template) (ws : List Nat) : List Part := t.coveredFrom t.groups ws

theorem coveredFrom_cons (t : Template) (g : Group) (gs : List Group) (w : Nat) (ws : List Nat) :
    t.coveredFrom (g :: gs) (w :: ws) =
      kept (t.slice g) (w - g.fixedWidth - g.required) ++ g.literalParts ++ t.coveredFrom gs ws := by
  simp [coveredFrom]

/-- Each placeholder among `parts` bound to the segment at its position; a part past the last
segment binds nothing. -/
def bindings (parts : List Part) (segs : List String) : List (String × String) :=
  (parts.zip segs).filterMap fun (p, seg) => p.name?.map (·, seg)

/-- Each group's width lies between its literal with its required placeholders, and all of
its parts. -/
def Fits : List Group → List Nat → Prop
  | [], [] => True
  | g :: gs, w :: ws => g.fixedWidth + g.required ≤ w ∧ w ≤ g.fixedWidth + g.maxCount ∧ Fits gs ws
  | _, _ => False

theorem kept_length (phs : List Part) (k : Nat) :
    (kept phs k).length = phs.countP Part.isRequired + min k (phs.countP Part.isOptional) := by
  induction phs generalizing k with
  | nil => simp [kept]
  | cons p phs ih =>
    cases p with
    | literal text => simp [kept, ih, Part.isRequired, Part.isOptional]
    | required name =>
      simp only [kept, List.length_cons, ih, List.countP_cons, Part.isRequired, Part.isOptional]
      simp
      omega
    | optional name =>
      cases k with
      | zero => simp [kept, ih, Part.isRequired]
      | succ k =>
        simp only [kept, List.length_cons, ih, List.countP_cons, Part.isRequired, Part.isOptional]
        simp
        omega

theorem kept_placeholders (phs : List Part) (k : Nat) : ∀ p ∈ kept phs k, p.name?.isSome := by
  induction phs generalizing k with
  | nil => simp [kept]
  | cons q phs ih =>
    cases q with
    | literal text => simpa [kept] using ih k
    | required name =>
      simp only [kept, List.mem_cons, forall_eq_or_imp]
      exact ⟨rfl, ih k⟩
    | optional name =>
      cases k with
      | zero => simpa [kept] using ih 0
      | succ k =>
        simp only [kept, List.mem_cons, forall_eq_or_imp]
        exact ⟨rfl, ih k⟩

@[simp] theorem bindings_nil (segs : List String) : bindings [] segs = [] := rfl

@[simp] theorem bindings_nil_right (ps : List Part) : bindings ps [] = [] := by
  simp [bindings]

theorem bindings_cons_cons (p : Part) (ps : List Part) (seg : String) (segs : List String) :
    bindings (p :: ps) (seg :: segs) = (p.name?.map (·, seg)).toList ++ bindings ps segs := by
  cases named : p.name? <;> simp [bindings, named]

theorem bindings_append (ps qs : List Part) (segs : List String) :
    bindings (ps ++ qs) segs = bindings ps segs ++ bindings qs (segs.drop ps.length) := by
  induction ps generalizing segs with
  | nil => simp
  | cons p ps ih =>
    cases segs with
    | nil => simp
    | cons seg segs => simp [bindings_cons_cons, ih]

/-- Segments past the last part bind nothing. -/
theorem bindings_append_right {ps : List Part} {segs : List String} (short : ps.length ≤ segs.length)
    (more : List String) : bindings ps (segs ++ more) = bindings ps segs := by
  induction ps generalizing segs with
  | nil => simp
  | cons p ps ih =>
    cases segs with
    | nil => simp at short
    | cons seg segs => simp [bindings_cons_cons, ih (by simpa using short)]

@[simp] theorem bindings_literal (text : String) (segs : List String) :
    bindings [.literal text] segs = [] := by
  cases segs <;> simp [bindings, Part.name?]

theorem bindings_placeholder_cons {p : Part} {name : String} (named : p.name? = some name)
    (ps : List Part) (segs : List String) :
    bindings (p :: ps) segs = (segs.head?.map (name, ·)).toList ++ bindings ps segs.tail := by
  cases segs <;> simp [bindings, named]

/-- A group's bindings are its kept placeholders bound from its first segment on. -/
theorem groupBindings_eq (segs : List String) (phs : List Part) (left pos : Nat) :
    groupBindings segs phs left pos = bindings (kept phs left) (segs.drop pos) := by
  induction phs generalizing left pos with
  | nil => simp [groupBindings, kept]
  | cons p phs ih =>
    cases p with
    | literal text => simpa [groupBindings, kept] using ih left pos
    | required name =>
      rw [groupBindings, kept, bindings_placeholder_cons rfl, ih, List.head?_drop, List.tail_drop]
    | optional name =>
      cases left with
      | zero => simpa [groupBindings, kept] using ih 0 pos
      | succ left =>
        rw [groupBindings, kept, bindings_placeholder_cons rfl, ih, List.head?_drop, List.tail_drop]

/-- The extractor's running count of left-out optional placeholders keeps each group's first
segment where the match put it: the bindings of groups laid out from part `start` are those of
the parts they cover, read from segment `start - skipped` on. -/
theorem bindingsFrom_eq (t : Template) (segs : List String) :
    ∀ (gs : List Group) (ps : List Part) (start skipped : Nat) (ws : List Nat),
      LaysOut start gs ps → t.parts.drop start = ps → skipped ≤ start → Fits gs ws →
      bindingsFrom t segs skipped (gs.zip ws) =
        bindings (t.coveredFrom gs ws) (segs.drop (start - skipped))
  | [], _, _, _, _, layout, _, _, _ => by simp [LaysOut] at layout
  | [g], ps, start, skipped, ws, layout, placed, _, fits => by
    simp only [LaysOut] at layout
    obtain ⟨starts, openGroup, held⟩ := layout
    match ws, fits with
    | [w], _ =>
      have sliced : (t.parts.drop start).take g.maxCount = ps := by
        rw [placed, ← held.length, List.take_length]
      simp [bindingsFrom, coveredFrom, slice, groupBindings_eq, sliced, starts, Group.literalParts,
        openGroup]
  | g :: g₂ :: gs, ps, start, skipped, ws, layout, placed, below, fits => by
    simp only [LaysOut] at layout
    obtain ⟨phs, text, rest, split, starts, closed, held, later⟩ := layout
    match ws, fits with
    | w :: ws, ⟨least, most, fitsLater⟩ =>
      have count := held.length
      have sliced : (t.parts.drop start).take g.maxCount = phs := by
        rw [placed, split, ← count, List.take_left]
      have width : (kept phs (w - 1 - g.required)).length = w - 1 := by
        rw [kept_length, held.required, held.optional]
        simp only [fixedWidth_closed closed, Group.maxCount] at least most
        omega
      have restPlaced := drop_after_closed (placed.trans split)
      simp only [fixedWidth_closed closed] at least most
      -- the group left out `maxCount - (w - 1)` optional placeholders
      have next := bindingsFrom_eq t segs (g₂ :: gs) rest (start + phs.length + 1)
        (skipped + (g.maxCount - min (w - 1) g.maxCount)) ws later restPlaced (by omega) fitsLater
      have cursor : start + phs.length + 1 - (skipped + (g.maxCount - min (w - 1) g.maxCount)) =
          (start - skipped) + (w - 1) + 1 := by omega
      rw [cursor] at next
      simp only [bindingsFrom, List.zip_cons_cons, coveredFrom, List.flatMap_cons]
      rw [← coveredFrom, fixedWidth_closed closed, groupBindings_eq, slice, starts, sliced, next,
        List.append_assoc, bindings_append, bindings_append, width]
      simp [Group.literalParts, closed, List.drop_drop]

/-! ## Covered parts are the template's parts less some optional placeholders -/

/-- `cov` is `ps` with some of its optional placeholders left out. -/
inductive DropsOptionals : List Part → List Part → Prop
  | nil : DropsOptionals [] []
  | keep (p : Part) {ps cov : List Part} : DropsOptionals ps cov → DropsOptionals (p :: ps) (p :: cov)
  | skip (name : String) {ps cov : List Part} :
      DropsOptionals ps cov → DropsOptionals (.optional name :: ps) cov

theorem DropsOptionals.append {ps cov qs cov' : List Part} (first : DropsOptionals ps cov)
    (second : DropsOptionals qs cov') : DropsOptionals (ps ++ qs) (cov ++ cov') := by
  induction first with
  | nil => simpa using second
  | keep p _ ih => exact .keep p ih
  | skip name _ ih => exact .skip name ih

theorem DropsOptionals.refl : ∀ ps : List Part, DropsOptionals ps ps
  | [] => .nil
  | p :: ps => .keep p (DropsOptionals.refl ps)

theorem kept_drops (phs : List Part) (k : Nat) (placeholders : ∀ p ∈ phs, p.name?.isSome) :
    DropsOptionals phs (kept phs k) := by
  induction phs generalizing k with
  | nil => exact .nil
  | cons q phs ih =>
    have rest := fun k => ih k (fun p mem => placeholders p (List.mem_cons_of_mem q mem))
    cases q with
    | literal text => simp [Part.name?] at placeholders
    | required name => exact .keep _ (rest k)
    | optional name =>
      cases k with
      | zero => exact .skip name (rest 0)
      | succ k => exact .keep _ (rest k)

theorem coveredFrom_drops (t : Template) :
    ∀ (gs : List Group) (ps : List Part) (start : Nat) (ws : List Nat),
      LaysOut start gs ps → t.parts.drop start = ps → Fits gs ws →
      DropsOptionals ps (t.coveredFrom gs ws)
  | [], _, _, _, layout, _, _ => by simp [LaysOut] at layout
  | [g], ps, start, ws, layout, placed, fits => by
    simp only [LaysOut] at layout
    obtain ⟨starts, openGroup, held⟩ := layout
    match ws, fits with
    | [w], _ =>
      have sliced : t.slice g = ps := @slice_eq t g ps [] (by simpa [starts] using placed) held
      simpa [coveredFrom, sliced, Group.literalParts, openGroup] using
        kept_drops ps (w - g.fixedWidth - g.required) held.no_literal
  | g :: g₂ :: gs, ps, start, ws, layout, placed, fits => by
    simp only [LaysOut] at layout
    obtain ⟨phs, text, rest, split, starts, closed, held, later⟩ := layout
    match ws, fits with
    | w :: ws, ⟨_, _, fitsLater⟩ =>
      have sliced : t.slice g = phs := slice_eq (by rw [starts, placed, split]) held
      have restPlaced := drop_after_closed (placed.trans split)
      have next := coveredFrom_drops t (g₂ :: gs) rest _ ws later restPlaced fitsLater
      have group := (kept_drops phs (w - g.fixedWidth - g.required) held.no_literal).append
        ((DropsOptionals.refl [.literal text]).append next)
      simpa [coveredFrom, sliced, Group.literalParts, closed, split] using group

end Template

end PageRoutes
