import PageRoutes.Encoding
import PageRoutes.Proofs.UrlText
import PageRoutes.Proofs.ParamsEquiv
/-!
# Page parameters through URL text

Both encodings write page parameters into a URL that, written as text and read back with a lawful
codec, decodes to the same parameters, as long as every named key is non-empty: both decoders
drop a pair with an empty key.

The query form writes the indexed values as segments and the named values as query parameters.
Reading the text loses a first or last empty segment, so the round trip holds when the indexed
values are none or have non-empty ends (`decode_parse_render_query`). The path form writes each
named value as a key segment and a value segment and no indexed values. A last empty value
leaves a trailing slash that reading trims, and the decoder gives the key that is then last the
empty value, so that value comes back too (`segmentPairs_parse_render`,
`decode_parse_render_path`). Main statement: `encoders_round_trip`.
-/
namespace PageRoutes.Encoding

open Url

variable {c : PercentCodec}

/-! ## Reading the named query parameters -/

theorem namedQuery_of_keys {u : Url} (keys : ∀ kv ∈ u.query, kv.1 ≠ "") :
    namedQuery u = u.query :=
  List.filter_eq_self.2 fun kv member => by simpa [String.isEmpty_iff] using keys kv member

/-! ## Key and value segments -/

/-- The segments the path form writes for named values: each key, then its value. -/
def pairSegments (named : List (String × String)) : List String :=
  named.flatMap fun kv => [kv.1, kv.2]

theorem segmentPairs_pairSegments_append {named : List (String × String)}
    (keys : ∀ kv ∈ named, kv.1 ≠ "") (rest : List String) :
    segmentPairs (pairSegments named ++ rest) = named ++ segmentPairs rest := by
  induction named with
  | nil => rfl
  | cons kv named ih =>
    have key : kv.1.isEmpty = false := by
      simpa [String.isEmpty_iff] using keys kv List.mem_cons_self
    rw [pairSegments, List.flatMap_cons, List.append_assoc, List.cons_append, List.cons_append,
      List.nil_append, segmentPairs, key]
    simp only [Bool.false_eq_true, if_false, List.singleton_append]
    rw [← pairSegments, ih fun kv' member => keys kv' (List.mem_cons_of_mem _ member)]
    rfl

/-- The written key and value segments start with the first key, which is not empty. -/
theorem head?_pairSegments_append {init : List (String × String)} {key : String}
    (keys : ∀ kv ∈ init, kv.1 ≠ "") (keyed : key ≠ "") (more : List String) :
    (pairSegments init ++ key :: more).head? ≠ some "" := by
  cases init with
  | nil => simpa [pairSegments] using keyed
  | cons kv init => simpa [pairSegments] using keys kv List.mem_cons_self

/-- Reading a path cuts nothing more after one trailing slash: reading trims it. -/
theorem pathSegments_append_slash {text : List Char} (nonempty : text ≠ []) :
    pathSegments c (text ++ ['/']) = pathSegments c text := by
  have trim : ∀ body : List Char,
      ((body ++ ['/']).reverse.dropWhile (· = '/')).reverse =
        (body.reverse.dropWhile (· = '/')).reverse := by
    intro body
    rw [List.reverse_append, List.reverse_singleton, List.singleton_append,
      List.dropWhile_cons_of_pos (by simp)]
  obtain ⟨c, rest, rfl⟩ := List.exists_cons_of_ne_nil nonempty
  by_cases slash : c = '/'
  · subst slash
    simp only [pathSegments_eq_trimmed, trimmed, List.cons_append, trim]
  · have kept : trimmed (c :: rest ++ ['/']) = trimmed (c :: rest) := by
      simp only [trimmed, List.cons_append]
      split
      · rename_i same
        exact absurd (List.cons.inj same).1 slash
      · split
        · rename_i same
          exact absurd (List.cons.inj same).1 slash
        · rw [← List.cons_append, trim]
    rw [pathSegments_eq_trimmed, kept, ← pathSegments_eq_trimmed]

/-- The segments read from the written key and value segments decode to the named values: a
last empty value is trimmed away by reading and given back by the decoder. -/
theorem segmentPairs_parse_render (lawful : c.Lawful) {named : List (String × String)}
    (keys : ∀ kv ∈ named, kv.1 ≠ "") :
    segmentPairs (pathSegments c ("/".intercalate ((pairSegments named).map c.encode)).toList) =
      named := by
  rcases List.eq_nil_or_concat named with rfl | ⟨init, ⟨key, value⟩, rfl⟩
  · simp [pairSegments, pathSegments, segmentPairs]
  have initKeys : ∀ kv ∈ init, kv.1 ≠ "" := fun kv member => keys kv (by simp [member])
  have keyed : key ≠ "" := keys (key, value) (by simp)
  have written : pairSegments (init.concat (key, value)) = pairSegments init ++ [key, value] := by
    simp [pairSegments]
  have first := head?_pairSegments_append initKeys keyed []
  by_cases empty : value = ""
  · subst empty
    have text : ("/".intercalate ((pairSegments init ++ [key, ""]).map c.encode)).toList =
        ("/".intercalate ((pairSegments init ++ [key]).map c.encode)).toList ++ ['/'] := by
      rw [show pairSegments init ++ [key, ""] = (pairSegments init ++ [key]) ++ [""] by simp,
        List.map_append, String.intercalate_append_of_ne_nil (by simp) (by simp)]
      simp [lawful.encode_empty]
    have nonempty :
        ("/".intercalate ((pairSegments init ++ [key]).map c.encode)).toList ≠ [] := by
      intro blank
      have none := pathSegments_render lawful first (by simpa using keyed)
      rw [blank] at none
      simp [pathSegments] at none
    rw [written, text, pathSegments_append_slash nonempty,
      pathSegments_render lawful first (by simpa using keyed),
      segmentPairs_pairSegments_append initKeys]
    simp [segmentPairs, String.isEmpty_iff, keyed]
  · have last : (pairSegments init ++ [key, value]).getLast? ≠ some "" := by simpa using empty
    rw [written,
      pathSegments_render lawful (head?_pairSegments_append initKeys keyed [value]) last,
      segmentPairs_pairSegments_append initKeys]
    simp [segmentPairs, String.isEmpty_iff, keyed]

/-! ## The two round trips -/

/-- The query form reads back what it wrote, when the indexed values are none or have
non-empty ends and every key is non-empty. -/
theorem decode_parse_render_query (lawful : c.Lawful) {p : Params}
    (keys : ∀ kv ∈ p.named, kv.1 ≠ "")
    (ends : p.indexed = [] ∨ p.indexed.head? ≠ some "" ∧ p.indexed.getLast? ≠ some "") :
    decode .query (Url.parse c ((encode .query p).render c)) = p := by
  obtain ⟨indexed, named⟩ := p
  have readable :
      Url.parse c ((encode .query ⟨indexed, named⟩).render c) = ⟨indexed, named⟩ :=
    (parse_render_eq_iff lawful _).2 ⟨ends, fun kv member blank => keys kv member blank.1⟩
  rw [readable, decode, namedQuery_of_keys keys]

/-- The path form reads back what it wrote, when there are no indexed values and every key is
non-empty. -/
theorem decode_parse_render_path (lawful : c.Lawful) {p : Params}
    (keys : ∀ kv ∈ p.named, kv.1 ≠ "")
    (noIndexed : p.indexed = []) :
    decode .path (Url.parse c ((encode .path p).render c)) = p := by
  obtain ⟨indexed, named⟩ := p
  subst noIndexed
  rw [parse_render_eq lawful]
  simp only [encode, decode, namedQuery, List.map_nil]
  rw [show (named.flatMap fun kv => [kv.1, kv.2]) = pairSegments named from rfl,
    segmentPairs_parse_render lawful keys]
  simp [queryParams]

/-- Both encodings round-trip through URL text, over every lawful codec, for parameters whose named
keys are all non-empty: the query form when the indexed values are none or have non-empty ends,
the path form when there are no indexed values. -/
theorem encoders_round_trip (lawful : c.Lawful) (p : Params)
    (keys : ∀ kv ∈ p.named, kv.1 ≠ "") :
    ((p.indexed = [] ∨ p.indexed.head? ≠ some "" ∧ p.indexed.getLast? ≠ some "") →
      (decode .query (Url.parse c ((encode .query p).render c))).equiv p = true) ∧
    (p.indexed = [] →
      (decode .path (Url.parse c ((encode .path p).render c))).equiv p = true) := by
  constructor
  · intro ends
    rw [decode_parse_render_query lawful keys ends]
    exact Params.equiv_refl p
  · intro noIndexed
    rw [decode_parse_render_path lawful keys noIndexed]
    exact Params.equiv_refl p

/-- Named values with an empty middle value and an empty last value come back through both
forms, written with the standard codec. -/
theorem encoders_keep_empty_values :
    Percent.standard.Lawful ∧ (∀ kv ∈ [("a", ""), ("b", "2"), ("c", "")], kv.1 ≠ "") ∧
      (decode .query (Url.parse Percent.standard
          ((encode .query ⟨[], [("a", ""), ("b", "2"), ("c", "")]⟩).render
            Percent.standard))).equiv ⟨[], [("a", ""), ("b", "2"), ("c", "")]⟩ = true ∧
      (decode .path (Url.parse Percent.standard
          ((encode .path ⟨[], [("a", ""), ("b", "2"), ("c", "")]⟩).render
            Percent.standard))).equiv ⟨[], [("a", ""), ("b", "2"), ("c", "")]⟩ = true :=
  have keys : ∀ kv ∈ [("a", ""), ("b", "2"), ("c", "")], kv.1 ≠ "" := by decide
  ⟨Percent.standard_lawful, keys,
    (encoders_round_trip Percent.standard_lawful ⟨[], _⟩ keys).1 (.inl rfl),
    (encoders_round_trip Percent.standard_lawful ⟨[], _⟩ keys).2 rfl⟩

end PageRoutes.Encoding
