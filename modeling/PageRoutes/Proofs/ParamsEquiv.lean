import Mathlib
import PageRoutes.Params
/-!
When two parameter sets are the same.

`Params.equiv` compares the named values after a stable sort by name. When no name repeats,
the sort puts any two orders of the same values into one, so two parameter sets are the same
exactly when their indexed values are equal and their named values are a permutation of each
other (`equiv_iff_perm`). A name with at most one value reads back exactly the pair stored for
it (`get?_eq_some_iff_mem`).
-/
namespace PageRoutes.Params

theorem sortedNamed_perm (p : Params) : p.sortedNamed.Perm p.named :=
  List.mergeSort_perm _ _

/-- The comparison by name is transitive. -/
theorem byName_trans (a b c : String × String) (first : decide (a.1 ≤ b.1) = true)
    (second : decide (b.1 ≤ c.1) = true) : decide (a.1 ≤ c.1) = true := by
  simpa using le_trans (by simpa using first) (by simpa using second)

/-- The comparison by name is total. -/
theorem byName_total (a b : String × String) :
    (decide (a.1 ≤ b.1) || decide (b.1 ≤ a.1)) = true := by
  simpa using le_total a.1 b.1

theorem sortedNamed_pairwise (p : Params) : p.sortedNamed.Pairwise fun a b => a.1 ≤ b.1 := by
  have sorted := List.pairwise_mergeSort byName_trans byName_total p.named
  simpa [sortedNamed] using sorted

theorem equiv_refl (p : Params) : p.equiv p = true := by
  simp [equiv]

theorem equiv_comm (p q : Params) : p.equiv q = q.equiv p := by
  simp only [equiv, Bool.beq_comm]

/-- No name repeats exactly when every name has at most one value. -/
theorem named_keys_nodup_iff (p : Params) :
    (p.named.map Prod.fst).Nodup ↔ ∀ key, (p.values key).length ≤ 1 := by
  rw [List.nodup_iff_count_le_one]
  refine forall_congr' fun key => ?_
  rw [List.count_eq_countP, List.countP_map]
  simp [values, List.countP_eq_length_filter, Function.comp_def]

/-- Parameter sets are the same when their indexed values are equal and their named values are
one permutation apart; when no name repeats, only then. -/
theorem equiv_iff_perm {p q : Params} (distinct : (p.named.map Prod.fst).Nodup) :
    p.equiv q = true ↔ p.indexed = q.indexed ∧ p.named.Perm q.named := by
  simp only [equiv, Bool.and_eq_true, beq_iff_eq]
  constructor
  · rintro ⟨indexed, sorted⟩
    exact ⟨indexed, (p.sortedNamed_perm.symm.trans (sorted ▸ q.sortedNamed_perm))⟩
  · rintro ⟨indexed, perm⟩
    refine ⟨indexed, List.Perm.eq_of_pairwise ?_ p.sortedNamed_pairwise q.sortedNamed_pairwise
      (p.sortedNamed_perm.trans (perm.trans q.sortedNamed_perm.symm))⟩
    -- two pairs with the same name are one pair, since no name repeats
    intro a b fromP fromQ below above
    have inP : a ∈ p.named := p.sortedNamed_perm.subset fromP
    have inP' : b ∈ p.named := perm.symm.subset (q.sortedNamed_perm.subset fromQ)
    exact List.inj_on_of_nodup_map distinct inP inP' (le_antisymm below above)

/-- A name with at most one value reads back the pair stored for it. -/
theorem get?_eq_some_iff_mem {p : Params} {key value : String} (single : (p.values key).length ≤ 1) :
    p.get? key = some value ↔ (key, value) ∈ p.named := by
  have first : p.get? key = ((p.named.filter (·.1 == key)).head?).map (·.2) := by
    rw [get?, List.head?_filter]
  have stored : (key, value) ∈ p.named ↔ (key, value) ∈ p.named.filter (·.1 == key) := by
    simp
  simp only [values, List.length_map] at single
  obtain ⟨found, named⟩ : ∃ found, p.named.filter (·.1 == key) = found := ⟨_, rfl⟩
  rw [first, stored, named]
  rw [named] at single
  match found, named, single with
  | [], _, _ => simp
  | [kv], named, _ =>
    have sameKey : kv.1 = key := by
      have kept : kv ∈ p.named.filter (·.1 == key) := by simp [named]
      simpa using (List.mem_filter.1 kept).2
    obtain ⟨k, v⟩ := kv
    simp only at sameKey
    subst sameKey
    simp [eq_comm]
  | _ :: _ :: _, _, single => simp at single

end PageRoutes.Params
