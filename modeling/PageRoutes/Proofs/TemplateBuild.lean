import Mathlib.Data.List.Basic
import PageRoutes.Template.Build
import PageRoutes.Proofs.TemplateLayout
/-!
What building a template writes, for every parameter set.

A placeholder writes the first value of its name when that value is not empty
(`Params.value?`). When no name repeats among the parts, building fails exactly on the first
required placeholder without such a value, and otherwise writes each part's segment in order
and leaves the parameters without any value of a placeholder name (`buildParts_eq`,
`firstMissing_eq_some_iff`).

Building from extracted bindings: when the bound parts are the template's parts with some
optional placeholders left out, every bound placeholder finds its own segment, every left-out
one finds nothing, and the written segments are the bound ones with the template's literals in
place (`written_bindings`).
-/
namespace PageRoutes

namespace Params

/-- The first value of a name, when it is not empty: what a placeholder of that name writes. -/
def value? (p : Params) (name : String) : Option String :=
  (p.get? name).filter fun v => !v.isEmpty

/-- The parameters without any value of the names `ns`. -/
def eraseAll (p : Params) (ns : List String) : Params :=
  { p with named := p.named.filter fun kv => kv.1 ∉ ns }

theorem value?_eq_some_iff {p : Params} {name v : String} :
    p.value? name = some v ↔ p.get? name = some v ∧ v.isEmpty = false := by
  simp [value?, Option.filter_eq_some_iff]

theorem value?_eq_none_iff {p : Params} {name : String} :
    p.value? name = none ↔ ∀ v, p.get? name = some v → v.isEmpty = true := by
  cases found : p.get? name <;> simp [value?, found]

theorem get?_erase_of_ne {p : Params} {key name : String} (different : key ≠ name) :
    (p.erase name).get? key = p.get? key := by
  simp only [get?, erase, List.find?_filter]
  congr 2
  funext kv
  by_cases hit : kv.1 = key
  · simp [hit, different]
  · simp [hit]

theorem value?_erase_of_ne {p : Params} {key name : String} (different : key ≠ name) :
    (p.erase name).value? key = p.value? key := by
  simp [value?, get?_erase_of_ne different]

/-- Values stored before a name's first occurrence do not change what it reads. -/
theorem get?_append_of_not_mem {indexed : List String} {pre rest : List (String × String)}
    {key : String} (absent : ∀ kv ∈ pre, kv.1 ≠ key) :
    (⟨indexed, pre ++ rest⟩ : Params).get? key = (⟨indexed, rest⟩ : Params).get? key := by
  have missing : pre.find? (·.1 == key) = none :=
    List.find?_eq_none.2 fun kv member => by simpa using absent kv member
  simp [get?, List.find?_append, missing]

theorem eraseAll_erase (p : Params) (name : String) (ns : List String) :
    (p.erase name).eraseAll ns = p.eraseAll (name :: ns) := by
  simp only [eraseAll, erase, List.filter_filter, List.mem_cons, not_or]
  congr 2
  funext kv
  by_cases same : kv.1 = name <;> simp [same]

@[simp] theorem eraseAll_nil (p : Params) : p.eraseAll [] = p := by
  obtain ⟨indexed, named⟩ := p
  simp [eraseAll]

end Params

namespace Template

/-! ## Building from any parameters -/

/-- The segment a part writes from the parameters `p`: a literal its text, a placeholder its
name's first value when that is not empty. -/
def written (p : Params) : Part → Option String
  | .literal text => some text
  | .required name => p.value? name
  | .optional name => p.value? name

@[simp] theorem written_literal (p : Params) (text : String) :
    written p (.literal text) = some text := rfl

@[simp] theorem written_required (p : Params) (name : String) :
    written p (.required name) = p.value? name := rfl

@[simp] theorem written_optional (p : Params) (name : String) :
    written p (.optional name) = p.value? name := rfl

/-- The first required placeholder of `ps` whose name has no non-empty value in `p`. -/
def firstMissing (p : Params) : List Part → Option String
  | [] => none
  | .required name :: ps => if (p.value? name).isSome then firstMissing p ps else some name
  | _ :: ps => firstMissing p ps

theorem written_erase {p : Params} {name : String} {q : Part} (other : q.name? ≠ some name) :
    written (p.erase name) q = written p q := by
  cases q with
  | literal text => rfl
  | required n => exact Params.value?_erase_of_ne (fun same => other (by simp [same, Part.name?]))
  | optional n => exact Params.value?_erase_of_ne (fun same => other (by simp [same, Part.name?]))

theorem filterMap_written_erase {p : Params} {name : String} {ps : List Part}
    (absent : name ∉ names ps) :
    ps.filterMap (written (p.erase name)) = ps.filterMap (written p) := by
  apply List.filterMap_congr
  intro q member
  exact written_erase fun same => absent (List.mem_filterMap.2 ⟨q, member, same⟩)

theorem firstMissing_erase {p : Params} {name : String} {ps : List Part}
    (absent : name ∉ names ps) : firstMissing (p.erase name) ps = firstMissing p ps := by
  induction ps with
  | nil => rfl
  | cons q ps ih =>
    cases q with
    | literal text => exact ih absent
    | required n =>
      simp only [names_cons_required, List.mem_cons, not_or] at absent
      simp [firstMissing, Params.value?_erase_of_ne (Ne.symm absent.1), ih absent.2]
    | optional n =>
      simp only [names_cons_optional, List.mem_cons, not_or] at absent
      exact ih absent.2

/-- Building succeeds exactly when every required placeholder has a non-empty value; it then
writes each part's segment and leaves the parameters without the placeholder names. Otherwise
it fails on the first required placeholder without one. Each placeholder takes its name out of
the parameters, so the names must not repeat for later placeholders to read the original
values. -/
theorem buildParts_eq (ps : List Part) (distinct : (names ps).Nodup) (p : Params) :
    buildParts ps p =
      match firstMissing p ps with
      | none => .ok ⟨ps.filterMap (written p), p.eraseAll (names ps)⟩
      | some name => .error (.missingRequired name) := by
  induction ps generalizing p with
  | nil => simp [buildParts, firstMissing]
  | cons q ps ih =>
    cases q with
    | literal text =>
      rw [buildParts, ih distinct p]
      cases missing : firstMissing p ps <;> simp [firstMissing, missing, written, Except.map]
    | required name =>
      simp only [names_cons_required, List.nodup_cons] at distinct
      have later := ih distinct.2 (p.erase name)
      rw [firstMissing_erase distinct.1, filterMap_written_erase distinct.1,
        Params.eraseAll_erase] at later
      rw [buildParts]
      cases value : p.value? name with
      | none =>
        have unusable := Params.value?_eq_none_iff.1 value
        cases found : p.get? name with
        | none => simp [Params.remove, found, firstMissing, value]
        | some v => simp [Params.remove, found, unusable v found, firstMissing, value]
      | some v =>
        obtain ⟨found, nonempty⟩ := Params.value?_eq_some_iff.1 value
        simp only [Params.remove, found, nonempty, Bool.false_eq_true, if_false, later]
        cases missing : firstMissing p ps <;>
          simp [firstMissing, missing, value, written, Except.map]
    | optional name =>
      simp only [names_cons_optional, List.nodup_cons] at distinct
      have later := ih distinct.2 (p.erase name)
      rw [firstMissing_erase distinct.1, filterMap_written_erase distinct.1,
        Params.eraseAll_erase] at later
      rw [buildParts]
      cases value : p.value? name with
      | none =>
        have unusable := Params.value?_eq_none_iff.1 value
        -- an absent or empty value writes nothing and the build goes on
        cases found : p.get? name with
        | none =>
          simp only [Params.remove, found, later]
          cases missing : firstMissing p ps <;> simp [firstMissing, missing, value, written]
        | some v =>
          simp only [Params.remove, found, unusable v found, if_true, later]
          cases missing : firstMissing p ps <;> simp [firstMissing, missing, value, written]
      | some v =>
        obtain ⟨found, nonempty⟩ := Params.value?_eq_some_iff.1 value
        simp only [Params.remove, found, nonempty, Bool.false_eq_true, if_false, later]
        cases missing : firstMissing p ps <;>
          simp [firstMissing, missing, value, written, Except.map]

/-- The placeholder the build fails on is the leftmost required one without a value. -/
theorem firstMissing_eq_some_iff (p : Params) (ps : List Part) (name : String) :
    firstMissing p ps = some name ↔
      ∃ pre post, ps = pre ++ .required name :: post ∧ p.value? name = none ∧
        ∀ n, .required n ∈ pre → (p.value? n).isSome := by
  induction ps with
  | nil => simp [firstMissing]
  | cons q ps ih =>
    -- a part before the failing one must not fail itself
    have passOver : (∀ n, q = .required n → (p.value? n).isSome = true) →
        ((∃ pre post, q :: ps = pre ++ .required name :: post ∧ p.value? name = none ∧
            ∀ n, .required n ∈ pre → (p.value? n).isSome) ↔
          ∃ pre post, ps = pre ++ .required name :: post ∧ p.value? name = none ∧
            ∀ n, .required n ∈ pre → (p.value? n).isSome) := by
      intro passes
      constructor
      · rintro ⟨pre, post, split, missing, before⟩
        cases pre with
        | nil =>
          simp only [List.nil_append, List.cons.injEq] at split
          obtain ⟨rfl, rfl⟩ := split
          simp [missing] at passes
        | cons r pre =>
          simp only [List.cons_append, List.cons.injEq] at split
          obtain ⟨rfl, rfl⟩ := split
          exact ⟨pre, post, rfl, missing, fun n member => before n (List.mem_cons_of_mem _ member)⟩
      · rintro ⟨pre, post, split, missing, before⟩
        refine ⟨q :: pre, post, by simp [split], missing, fun n member => ?_⟩
        rcases List.mem_cons.1 member with same | earlier
        · exact passes n same.symm
        · exact before n earlier
    cases q with
    | literal text => simpa [firstMissing] using (ih.trans (passOver (by simp)).symm)
    | optional n => simpa [firstMissing] using (ih.trans (passOver (by simp)).symm)
    | required n =>
      cases value : p.value? n with
      | some v =>
        have passes : ∀ n', Part.required n = .required n' → (p.value? n').isSome = true := by
          simp [value]
        simpa [firstMissing, value] using (ih.trans (passOver passes).symm)
      | none =>
        simp only [firstMissing, value, Option.isSome_none, Bool.false_eq_true, if_false,
          Option.some.injEq]
        constructor
        · rintro rfl
          exact ⟨[], ps, rfl, value, by simp⟩
        · rintro ⟨pre, post, split, missing, before⟩
          cases pre with
          | nil =>
            simp only [List.nil_append, List.cons.injEq, Part.required.injEq] at split
            exact split.1
          | cons r pre =>
            simp only [List.cons_append, List.cons.injEq] at split
            have passes := before n (by simp [split.1])
            simp [value] at passes

theorem firstMissing_eq_none_iff (p : Params) (ps : List Part) :
    firstMissing p ps = none ↔ ∀ n, .required n ∈ ps → (p.value? n).isSome := by
  induction ps with
  | nil => simp [firstMissing]
  | cons q ps ih =>
    cases q with
    | literal text => simpa [firstMissing] using ih
    | optional n => simpa [firstMissing] using ih
    | required n =>
      cases value : p.value? n <;> simp [firstMissing, value, ih]

/-! ## Building from extracted bindings -/

/-- The segments with the template's own literal written at each literal position. -/
def fill (parts : List Part) (segs : List String) : List String :=
  List.zipWith (fun p seg => match p with | .literal text => text | _ => seg) parts segs

@[simp] theorem fill_nil (segs : List String) : fill [] segs = [] := rfl

@[simp] theorem fill_cons_literal (text : String) (cov : List Part) (seg : String)
    (segs : List String) : fill (.literal text :: cov) (seg :: segs) = text :: fill cov segs := rfl

@[simp] theorem fill_cons_required (name : String) (cov : List Part) (seg : String)
    (segs : List String) : fill (.required name :: cov) (seg :: segs) = seg :: fill cov segs := rfl

@[simp] theorem fill_cons_optional (name : String) (cov : List Part) (seg : String)
    (segs : List String) : fill (.optional name :: cov) (seg :: segs) = seg :: fill cov segs := rfl

/-- Only as many segments as parts are read. -/
theorem fill_take (cov : List Part) (segs : List String) :
    fill cov (segs.take cov.length) = fill cov segs := by
  induction cov generalizing segs with
  | nil => rfl
  | cons p cov ih =>
    cases segs with
    | nil => rfl
    | cons seg segs => cases p <;> simp [ih]

theorem DropsOptionals.names_sublist {ps cov : List Part} (drops : DropsOptionals ps cov) :
    (names cov).Sublist (names ps) := by
  induction drops with
  | nil => exact .slnil
  | keep p _ ih =>
    cases p with
    | literal text => simpa using ih
    | required name => simpa using ih.cons_cons name
    | optional name => simpa using ih.cons_cons name
  | skip name _ ih => simpa using ih.cons name

theorem bindings_keys_sublist (cov : List Part) (segs : List String) :
    ((bindings cov segs).map Prod.fst).Sublist (names cov) := by
  induction cov generalizing segs with
  | nil => simp
  | cons p cov ih =>
    cases segs with
    | nil => simp
    | cons seg segs =>
      rw [bindings_cons_cons]
      cases p with
      | literal text => simpa [Part.name?] using ih segs
      | required name => simpa [Part.name?] using (ih segs).cons_cons name
      | optional name => simpa [Part.name?] using (ih segs).cons_cons name

/-- Parameters bound to the covered parts of `ps`, after values `pre` of other names: no
required placeholder misses its value, and the parts write the bound segments with the
literals in place. -/
theorem written_bindings {ps cov : List Part} (drops : DropsOptionals ps cov)
    (distinct : (names ps).Nodup) (indexed : List String) :
    ∀ (segs : List String) (pre : List (String × String)),
      cov.length ≤ segs.length → (∀ seg ∈ segs, seg ≠ "") → (∀ kv ∈ pre, kv.1 ∉ names ps) →
      firstMissing ⟨indexed, pre ++ bindings cov segs⟩ ps = none ∧
        ps.filterMap (written ⟨indexed, pre ++ bindings cov segs⟩) = fill cov segs := by
  induction drops with
  | nil => simp [firstMissing]
  | keep p drops ih =>
    rename_i ps cov
    intro segs pre long filled fresh
    obtain ⟨seg, segs, rfl⟩ : ∃ seg rest, segs = seg :: rest := by
      cases segs with
      | nil => simp at long
      | cons seg rest => exact ⟨seg, rest, rfl⟩
    have filledRest : ∀ s ∈ segs, s ≠ "" := fun s member => filled s (List.mem_cons_of_mem _ member)
    have nonempty : seg.isEmpty = false := String.isEmpty_eq_false_iff.2 (filled seg (by simp))
    cases p with
    | literal text =>
      obtain ⟨missing, filledIn⟩ := ih distinct segs pre (by simpa using long) filledRest
        (by simpa using fresh)
      simp only [bindings_cons_cons, Part.name?, Option.map_none, Option.toList_none,
        List.nil_append] at missing filledIn ⊢
      simp [firstMissing, missing, filledIn]
    | required name =>
      simp only [names_cons_required, List.nodup_cons] at distinct
      have otherKeys : ∀ kv ∈ pre, kv.1 ≠ name := fun kv member same =>
        fresh kv member (by simp [same])
      have found : (⟨indexed, pre ++ bindings (.required name :: cov) (seg :: segs)⟩ : Params).value?
          name = some seg := by
        rw [Params.value?_eq_some_iff, Params.get?_append_of_not_mem otherKeys]
        simp [bindings_cons_cons, Part.name?, Params.get?, nonempty]
      obtain ⟨missing, filledIn⟩ := ih distinct.2 segs (pre ++ [(name, seg)]) (by simpa using long)
        filledRest (by
          intro kv member
          rcases List.mem_append.1 member with old | new
          · exact fun later => fresh kv old (by simp [later])
          · simp only [List.mem_singleton] at new
            exact new ▸ distinct.1)
      simp only [bindings_cons_cons, Part.name?, Option.map_some, Option.toList_some,
        List.append_assoc, List.singleton_append] at missing filledIn found ⊢
      simp [firstMissing, found, missing, filledIn]
    | optional name =>
      simp only [names_cons_optional, List.nodup_cons] at distinct
      have otherKeys : ∀ kv ∈ pre, kv.1 ≠ name := fun kv member same =>
        fresh kv member (by simp [same])
      have found : (⟨indexed, pre ++ bindings (.optional name :: cov) (seg :: segs)⟩ : Params).value?
          name = some seg := by
        rw [Params.value?_eq_some_iff, Params.get?_append_of_not_mem otherKeys]
        simp [bindings_cons_cons, Part.name?, Params.get?, nonempty]
      obtain ⟨missing, filledIn⟩ := ih distinct.2 segs (pre ++ [(name, seg)]) (by simpa using long)
        filledRest (by
          intro kv member
          rcases List.mem_append.1 member with old | new
          · exact fun later => fresh kv old (by simp [later])
          · simp only [List.mem_singleton] at new
            exact new ▸ distinct.1)
      simp only [bindings_cons_cons, Part.name?, Option.map_some, Option.toList_some,
        List.append_assoc, List.singleton_append] at missing filledIn found ⊢
      simp [firstMissing, found, missing, filledIn]
  | skip name drops ih =>
    rename_i ps cov
    intro segs pre long filled fresh
    simp only [names_cons_optional, List.nodup_cons] at distinct
    -- a left-out optional placeholder's name is bound nowhere
    have unbound : (⟨indexed, pre ++ bindings cov segs⟩ : Params).value? name = none := by
      have otherKeys : ∀ kv ∈ pre, kv.1 ≠ name := fun kv member same =>
        fresh kv member (by simp [same])
      have notBound : ∀ kv ∈ bindings cov segs, kv.1 ≠ name := fun kv member same =>
        distinct.1 ((bindings_keys_sublist cov segs).trans drops.names_sublist |>.subset
          (List.mem_map.2 ⟨kv, member, same⟩))
      have absent : (bindings cov segs).find? (·.1 == name) = none :=
        List.find?_eq_none.2 fun kv member => by simpa using notBound kv member
      rw [Params.value?, Params.get?_append_of_not_mem otherKeys]
      simp [Params.get?, absent]
    obtain ⟨missing, filledIn⟩ := ih distinct.2 segs pre long filled
      (fun kv member later => fresh kv member (by simp [later]))
    simp [firstMissing, unbound, missing, filledIn]

end Template

end PageRoutes
