import PageRoutes.Proofs.ParamsEquiv
import PageRoutes.Template.Build
/-!
Sameness of parameter sets, name by name.

`Params.equiv` compares the named values after a stable sort by name. The stable sort keeps the
values of each name in their order (`filter_sortedNamed`), and two lists sorted by name that
hold the same pairs for every name are one list (`eq_of_sorted_of_filter_eq`). So two parameter
sets are the same exactly when their indexed values are equal and every name has the same values
in the same order (`equiv_iff_values_eq`), whatever the order between different names. Sameness
is then an equivalence that every operation reading or changing a parameter set respects, and
building a template from the same parameters writes the same segments or fails alike
(`equiv_per_key_congruence`). Only the order of the distinct names (`keys`) can tell same
parameter sets apart.
-/
namespace PageRoutes.Params

/-! ## Values of a name -/

/-- The pairs of one name are its values paired with it. -/
theorem filter_key_eq (p : Params) (key : String) :
    p.named.filter (·.1 == key) = (p.values key).map (key, ·) := by
  rw [values, List.map_map]
  conv => lhs; rw [← List.map_id (p.named.filter (·.1 == key))]
  apply List.map_congr_left
  intro kv kept
  have sameKey : kv.1 = key := by simpa using (List.mem_filter.1 kept).2
  simp [← sameKey]

@[simp] theorem values_add (p : Params) (k v key : String) :
    (p.add k v).values key = p.values key ++ if k = key then [v] else [] := by
  by_cases same : k = key <;> simp [add, values, List.filter_append, same]

@[simp] theorem values_append (p q : Params) (key : String) :
    (p.append q).values key = p.values key ++ q.values key := by
  simp [append, values, List.filter_append]

@[simp] theorem values_erase (p : Params) (k key : String) :
    (p.erase k).values key = if k = key then [] else p.values key := by
  by_cases same : k = key
  · subst same
    simp [erase, values, List.filter_filter]
  · simp only [erase, values, List.filter_filter, same, if_false]
    congr 1
    apply List.filter_congr
    intro kv _
    by_cases named : kv.1 = key
    · simp [named, Ne.symm same]
    · simp [named]

/-- The first value of a name. -/
theorem get?_eq_head? (p : Params) (key : String) : p.get? key = (p.values key).head? := by
  rw [get?, values, List.head?_map, List.head?_filter]

theorem contains_eq (p : Params) (key : String) : p.contains key = !(p.values key).isEmpty := by
  rw [Bool.eq_iff_iff]
  simp [contains, values, List.filter_eq_nil_iff]

/-! ## The stable sort by name -/

/-- The stable sort by name keeps the values of each name in their order. -/
theorem filter_sortedNamed (p : Params) (key : String) :
    p.sortedNamed.filter (·.1 == key) = p.named.filter (·.1 == key) := by
  -- one name's pairs are sorted already, so the stable sort keeps them in their order
  have sorted : (p.named.filter (·.1 == key)).Pairwise fun a b => decide (a.1 ≤ b.1) := by
    apply List.pairwise_of_forall_mem_list
    intro a inA b inB
    have keyA : a.1 = key := by simpa using (List.mem_filter.1 inA).2
    have keyB : b.1 = key := by simpa using (List.mem_filter.1 inB).2
    simp [keyA, keyB]
  have kept : List.Sublist (p.named.filter (·.1 == key)) p.sortedNamed :=
    List.sublist_mergeSort byName_trans byName_total sorted List.filter_sublist
  have inOrder := kept.filter (·.1 == key)
  simp only [List.filter_filter, Bool.and_self] at inOrder
  have perm := p.sortedNamed_perm.filter (·.1 == key)
  exact (inOrder.eq_of_length perm.length_eq.symm).symm

/-- Two lists sorted by name are one list when they hold the same pairs, in the same order, for
every name. -/
theorem eq_of_sorted_of_filter_eq : ∀ {xs ys : List (String × String)},
    xs.Pairwise (fun a b => a.1 ≤ b.1) → ys.Pairwise (fun a b => a.1 ≤ b.1) →
    (∀ key, xs.filter (·.1 == key) = ys.filter (·.1 == key)) → xs = ys
  | [], [], _, _, _ => rfl
  | [], b :: ys, _, _, same => by simpa using same b.1
  | a :: xs, [], _, _, same => by simpa using same a.1
  | a :: xs, b :: ys, sortedX, sortedY, same => by
    -- each list starts with its least name, and the two hold the same names
    have least : ∀ {c : String × String} {cs : List (String × String)} {d},
        (c :: cs).Pairwise (fun a b => a.1 ≤ b.1) → d ∈ (c :: cs).filter (·.1 == d.1) →
          c.1 ≤ d.1 := by
      intro c cs d sorted member
      rcases List.mem_cons.1 (List.mem_filter.1 member).1 with rfl | later
      · exact le_refl _
      · exact List.rel_of_pairwise_cons sorted later
    have below : a.1 ≤ b.1 := least sortedX (by rw [same]; simp)
    have above : b.1 ≤ a.1 := least sortedY (by rw [← same]; simp)
    have firstName : b.1 = a.1 := le_antisymm above below
    have heads := same a.1
    simp only [List.filter_cons, beq_self_eq_true, if_true, firstName] at heads
    obtain ⟨rfl, tails⟩ := List.cons.inj heads
    have rest : ∀ key, xs.filter (·.1 == key) = ys.filter (·.1 == key) := by
      intro key
      by_cases named : a.1 = key
      · subst named
        exact tails
      · simpa [List.filter_cons, named] using same key
    rw [eq_of_sorted_of_filter_eq sortedX.of_cons sortedY.of_cons rest]

/-- Two parameter sets are the same exactly when their indexed values are equal and every name
has the same values in the same order. -/
theorem equiv_iff_values_eq (p q : Params) :
    p.equiv q = true ↔ p.indexed = q.indexed ∧ ∀ key, p.values key = q.values key := by
  simp only [equiv, Bool.and_eq_true, beq_iff_eq]
  refine and_congr_right fun _ => ⟨fun sorted key => ?_, fun same => ?_⟩
  · have byKey := congrArg (List.filter (·.1 == key)) sorted
    rw [filter_sortedNamed, filter_sortedNamed, filter_key_eq, filter_key_eq] at byKey
    exact List.map_injective_iff.2 (Prod.mk_right_injective key) byKey
  · apply eq_of_sorted_of_filter_eq p.sortedNamed_pairwise q.sortedNamed_pairwise
    intro key
    rw [filter_sortedNamed, filter_sortedNamed, filter_key_eq, filter_key_eq, same key]

/-- Sameness of parameter sets is an equivalence. -/
theorem equiv_equivalence : Equivalence fun p q : Params => p.equiv q = true where
  refl p := equiv_refl p
  symm same := by rwa [equiv_comm]
  trans first second := by
    rw [equiv_iff_values_eq] at first second ⊢
    exact ⟨first.1.trans second.1, fun key => (first.2 key).trans (second.2 key)⟩

/-! ## Operations respect sameness -/

section Respect

variable {p q : Params}

theorem values_eq_of_equiv (same : p.equiv q = true) (key : String) :
    p.values key = q.values key :=
  ((equiv_iff_values_eq p q).1 same).2 key

theorem get?_eq_of_equiv (same : p.equiv q = true) (key : String) : p.get? key = q.get? key := by
  rw [get?_eq_head?, get?_eq_head?, values_eq_of_equiv same]

theorem contains_eq_of_equiv (same : p.equiv q = true) (key : String) :
    p.contains key = q.contains key := by
  rw [contains_eq, contains_eq, values_eq_of_equiv same]

theorem add_equiv (same : p.equiv q = true) (k v : String) :
    (p.add k v).equiv (q.add k v) = true := by
  rw [equiv_iff_values_eq] at same ⊢
  exact ⟨same.1, fun key => by simp [same.2 key]⟩

theorem pushIndexed_equiv (same : p.equiv q = true) (value : String) :
    (p.pushIndexed value).equiv (q.pushIndexed value) = true := by
  rw [equiv_iff_values_eq] at same ⊢
  exact ⟨by simp [pushIndexed, same.1], same.2⟩

theorem append_equiv {r s : Params} (first : p.equiv q = true) (second : r.equiv s = true) :
    (p.append r).equiv (q.append s) = true := by
  rw [equiv_iff_values_eq] at first second ⊢
  exact ⟨by simp [append, first.1, second.1], fun key => by simp [first.2 key, second.2 key]⟩

theorem erase_equiv (same : p.equiv q = true) (k : String) :
    (p.erase k).equiv (q.erase k) = true := by
  rw [equiv_iff_values_eq] at same ⊢
  exact ⟨same.1, fun key => by simp [same.2 key]⟩

/-- Taking a name out of same parameter sets gives the same value and leaves the same sets. -/
theorem remove_equiv (same : p.equiv q = true) (k : String) :
    (p.remove k).1 = (q.remove k).1 ∧ (p.remove k).2.equiv (q.remove k).2 = true :=
  ⟨get?_eq_of_equiv same k, erase_equiv same k⟩

end Respect

end PageRoutes.Params

namespace PageRoutes.Template

/-- Two build results agree: the same error, or the same segments with the same remaining
parameters. -/
def BuildAgrees : Except BuildError Built → Except BuildError Built → Prop
  | .error e, .error e' => e = e'
  | .ok b, .ok b' => b.segments = b'.segments ∧ b.remaining.equiv b'.remaining = true
  | _, _ => False

/-- Writing one more segment in front keeps two build results in agreement. -/
theorem BuildAgrees.write {r r' : Except BuildError Built} (agree : BuildAgrees r r')
    (seg : String) :
    BuildAgrees (r.map fun b => { b with segments := seg :: b.segments })
      (r'.map fun b => { b with segments := seg :: b.segments }) := by
  match r, r', agree with
  | .error e, .error _, rfl => exact rfl
  | .ok b, .ok b', ⟨segments, remaining⟩ => exact ⟨by simp [segments], remaining⟩

/-- Same parameter sets give up the same value of a name and leave same parameter sets. -/
theorem remove_cases {p q : Params} (same : p.equiv q = true) (name : String) :
    ∃ value p' q', p.remove name = (value, p') ∧ q.remove name = (value, q') ∧
      p'.equiv q' = true := by
  obtain ⟨first, rest⟩ := Params.remove_equiv same name
  exact ⟨(p.remove name).1, (p.remove name).2, (q.remove name).2, rfl, Prod.ext first.symm rfl,
    rest⟩

/-- Building from same parameter sets writes the same segments and leaves the same parameters,
or fails on the same placeholder: each placeholder takes the same value out of both. -/
theorem buildParts_agrees (ps : List Part) : ∀ {p q : Params}, p.equiv q = true →
    BuildAgrees (buildParts ps p) (buildParts ps q) := by
  induction ps with
  | nil => exact fun same => ⟨rfl, same⟩
  | cons part ps ih =>
    intro p q same
    cases part with
    | literal text => exact (ih same).write text
    | required name =>
      obtain ⟨value, p', q', taken, taken', rest⟩ := remove_cases same name
      simp only [buildParts, taken, taken']
      cases value with
      | none => exact rfl
      | some value =>
        by_cases empty : value.isEmpty
        · simp only [empty, if_true]
          exact rfl
        · simp only [empty]
          exact (ih rest).write value
    | optional name =>
      obtain ⟨value, p', q', taken, taken', rest⟩ := remove_cases same name
      simp only [buildParts, taken, taken']
      cases value with
      | none => exact ih rest
      | some value =>
        by_cases empty : value.isEmpty
        · simp only [empty, if_true]
          exact ih rest
        · simp only [empty]
          exact (ih rest).write value

end PageRoutes.Template

namespace PageRoutes.Params

/-- Two parameter sets are the same exactly when their indexed values are equal and every name
has the same values in the same order. Sameness is an equivalence, and same parameter sets give
the same answers to `get?`, `values` and `contains`, the same value and the same rest on
`remove`, stay the same under `add`, `pushIndexed` and `append`, and build every template alike:
the same segments and the same remaining parameters, or the same error. -/
theorem equiv_per_key_congruence :
    (∀ p q : Params,
      p.equiv q = true ↔ p.indexed = q.indexed ∧ ∀ key, p.values key = q.values key) ∧
    Equivalence (fun p q : Params => p.equiv q = true) ∧
    ∀ p q : Params, p.equiv q = true →
      (∀ key, p.get? key = q.get? key ∧ p.values key = q.values key ∧
        p.contains key = q.contains key) ∧
      (∀ key, (p.remove key).1 = (q.remove key).1 ∧
        (p.remove key).2.equiv (q.remove key).2 = true) ∧
      (∀ key value, (p.add key value).equiv (q.add key value) = true) ∧
      (∀ value, (p.pushIndexed value).equiv (q.pushIndexed value) = true) ∧
      (∀ r s : Params, r.equiv s = true →
        (p.append r).equiv (q.append s) = true ∧ (r.append p).equiv (s.append q) = true) ∧
      ∀ t : Template, Template.BuildAgrees (t.build p) (t.build q) := by
  refine ⟨equiv_iff_values_eq, equiv_equivalence, fun p q same => ?_⟩
  refine ⟨fun key => ⟨get?_eq_of_equiv same key, values_eq_of_equiv same key,
    contains_eq_of_equiv same key⟩, remove_equiv same, add_equiv same, pushIndexed_equiv same,
    fun r s other => ⟨append_equiv same other, append_equiv other same⟩,
    fun t => Template.buildParts_agrees t.parts same⟩

/-- Swapping two names keeps a parameter set the same and its first values with it, while
`keys` tells the two orders apart. -/
theorem swapped_names_same :
    (Params.mk [] [("a", "1"), ("b", "2")]).equiv ⟨[], [("b", "2"), ("a", "1")]⟩ = true ∧
      (Params.mk [] [("a", "1"), ("b", "2")]).get? "a" =
        (Params.mk [] [("b", "2"), ("a", "1")]).get? "a" ∧
      (Params.mk [] [("a", "1"), ("b", "2")]).keys ≠
        (Params.mk [] [("b", "2"), ("a", "1")]).keys := by
  have same : (Params.mk [] [("a", "1"), ("b", "2")]).equiv ⟨[], [("b", "2"), ("a", "1")]⟩ =
      true := by
    refine (equiv_per_key_congruence.1 _ _).2 ⟨rfl, fun key => ?_⟩
    by_cases a : key = "a"
    · subst a
      simp [values]
    · by_cases b : key = "b"
      · subst b
        simp [values]
      · simp [values, Ne.symm a, Ne.symm b]
  exact ⟨same, ((equiv_per_key_congruence.2.2 _ _ same).1 "a").1, by decide⟩

end PageRoutes.Params
