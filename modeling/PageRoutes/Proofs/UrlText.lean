import PageRoutes.Url
import PageRoutes.Proofs.Percent
import PageRoutes.Proofs.Text
/-!
Reading a written URL gives the URL back, exactly when it is `Readable`, over every lawful codec.

`Url.render` joins the encoded segments with `/` and the encoded query pieces with `&`, and
encoded text holds none of `/`, `?`, `&` and `=` (`PercentCodec.Lawful.escaped`), so reading cuts
the text exactly where writing joined it (`parse_render_of_readable`). Two things do not come
back, by the reading rules: one leading and every trailing slash are dropped, so a first or a last
empty segment is lost, and an empty query piece is dropped, so a parameter with an empty name and
an empty value is lost. Each loss shortens what is read, which counts the separators left
(`length_parse_render_segments_lt`, `length_parse_render_query_lt`); together they give the exact
condition (`parse_render_eq_iff`).
-/
namespace PageRoutes

/-! ## What a lawful codec writes -/

namespace PercentCodec.Lawful

variable {c : PercentCodec} (lawful : c.Lawful)
include lawful

/-- A character that is neither `%`, an ASCII letter or digit, nor one of `-`, `.`, `_`, `~` is
never written. -/
theorem not_mem_encode {ch : Char}
    (reserved : ¬(ch = '%' ∨ ch.isAlphanum = true ∨ ch ∈ ['-', '.', '_', '~']))
    (s : String) :
    ch ∉ (c.encode s).toList :=
  fun member => reserved (lawful.escaped s ch member)

theorem slash_not_mem_encode (s : String) : '/' ∉ (c.encode s).toList :=
  lawful.not_mem_encode (by decide) s

theorem question_not_mem_encode (s : String) : '?' ∉ (c.encode s).toList :=
  lawful.not_mem_encode (by decide) s

theorem amp_not_mem_encode (s : String) : '&' ∉ (c.encode s).toList :=
  lawful.not_mem_encode (by decide) s

theorem eq_not_mem_encode (s : String) : '=' ∉ (c.encode s).toList :=
  lawful.not_mem_encode (by decide) s

/-- Only the empty component is written as nothing, since what is written reads back. -/
theorem encode_eq_empty_iff {s : String} : c.encode s = "" ↔ s = "" := by
  constructor
  · intro empty
    have back := lawful.decode?_encode s
    rw [empty, ← lawful.encode_empty, lawful.decode?_encode] at back
    exact (Option.some.inj back).symm
  · rintro rfl
    exact lawful.encode_empty

theorem decode_encode (s : String) : c.decode (c.encode s) = s := by
  simp [PercentCodec.decode, lawful.decode?_encode]

/-- A query name or value reads back too: escaped text holds no `+`. -/
theorem decodeQuery_encode (s : String) : c.decodeQuery (c.encode s) = s := by
  have noPlus : '+' ∉ (c.encode s).toList := lawful.not_mem_encode (by decide) s
  have unchanged :
      (c.encode s).toList.map (fun ch => if ch = '+' then ' ' else ch) = (c.encode s).toList := by
    refine (List.map_congr_left fun ch member => ?_).trans (List.map_id _)
    have other : ch ≠ '+' := fun same => noPlus (same ▸ member)
    simp [other]
  rw [PercentCodec.decodeQuery, unchanged, String.ofList_toList, lawful.decode_encode]

end PercentCodec.Lawful

namespace Url

variable {c : PercentCodec}

/-! ## Joined pieces -/

theorem head?_intercalate {sep : Char} {a : List Char} (nonempty : a ≠ []) :
    ∀ l : List (List Char), ([sep].intercalate (a :: l)).head? = a.head?
  | [] => by simp
  | b :: l => by
    obtain ⟨c, cs, rfl⟩ := List.exists_cons_of_ne_nil nonempty
    simp

theorem getLast?_intercalate {sep : Char} {b : List Char} (nonempty : b ≠ []) :
    ∀ l : List (List Char), ([sep].intercalate (l ++ [b])).getLast? = b.getLast?
  | [] => by simp
  | a :: l => by
    have later := @getLast?_intercalate sep b nonempty l
    obtain ⟨c, found⟩ := Option.isSome_iff_exists.1 (List.getLast?_isSome.2 nonempty)
    rw [List.cons_append, List.intercalate_cons_of_ne_nil (by simp), List.getLast?_append, later,
      found]
    rfl

theorem mem_intercalate {sep c : Char} :
    ∀ {l : List (List Char)}, c ∈ [sep].intercalate l → c = sep ∨ ∃ piece ∈ l, c ∈ piece
  | [], member => by simp at member
  | [a], member => Or.inr ⟨a, List.mem_singleton_self a, by simpa using member⟩
  | a :: b :: l, member => by
    rw [List.intercalate_cons_cons, List.mem_append, List.mem_append] at member
    rcases member with (inA | isSep) | later
    · exact Or.inr ⟨a, List.mem_cons_self, inA⟩
    · exact Or.inl (List.mem_singleton.1 isSep)
    · rcases mem_intercalate later with isSep | ⟨piece, inL, inPiece⟩
      · exact Or.inl isSep
      · exact Or.inr ⟨piece, List.mem_cons_of_mem a inL, inPiece⟩

/-- A path that neither starts nor ends with `/` loses nothing to the slash trimming: its
segments are its pieces between slashes. -/
theorem pathSegments_of_trimmed {text : List Char} (nonempty : text ≠ [])
    (lead : text.head? ≠ some '/') (trail : text.getLast? ≠ some '/') :
    pathSegments c text = (text.splitOn '/').map fun seg => c.decode (String.ofList seg) := by
  obtain ⟨c, rest, rfl⟩ := List.exists_cons_of_ne_nil nonempty
  have other : c ≠ '/' := fun same => lead (by simp [same])
  have trimmed : ((c :: rest).reverse.dropWhile (· = '/')).reverse = c :: rest := by
    cases reversed : (c :: rest).reverse with
    | nil => simp at reversed
    | cons d more =>
      have last : (c :: rest).getLast? = some d := by
        rw [← List.head?_reverse, reversed]
        rfl
      have notSlash : d ≠ '/' := fun same => trail (by rw [last, same])
      rw [List.dropWhile_cons_of_neg (by simpa using notSlash), ← reversed, List.reverse_reverse]
  simp only [pathSegments]
  split
  · rename_i more same
    simp only [List.cons.injEq] at same
    exact absurd same.1 other
  · simp only [trimmed]
    simp

/-! ## Path and query -/

/-- The segments of a written path, when its first and last segments are not empty. -/
theorem pathSegments_render (lawful : c.Lawful) {segs : List String}
    (first : segs.head? ≠ some "")
    (last : segs.getLast? ≠ some "") :
    pathSegments c ("/".intercalate (segs.map c.encode)).toList = segs := by
  rw [String.toList_intercalate, List.map_map, show "/".toList = ['/'] from rfl]
  cases segs with
  | nil => simp [pathSegments]
  | cons s rest =>
    -- each piece is non-empty text without a slash
    have pieces : ∀ piece ∈ (s :: rest).map (String.toList ∘ c.encode), '/' ∉ piece := by
      simp only [List.mem_map, Function.comp_apply]
      rintro piece ⟨t, -, rfl⟩
      exact lawful.slash_not_mem_encode t
    have firstPiece : (c.encode s).toList ≠ [] := by
      rw [ne_eq, String.toList_eq_nil_iff, lawful.encode_eq_empty_iff]
      exact fun empty => first (by simp [empty])
    have starts : (['/'].intercalate ((s :: rest).map (String.toList ∘ c.encode))).head? =
        (c.encode s).toList.head? := by
      rw [List.map_cons, Function.comp_apply, head?_intercalate firstPiece]
    have lead :
        (['/'].intercalate ((s :: rest).map (String.toList ∘ c.encode))).head? ≠ some '/' := by
      rw [starts]
      intro begins
      exact lawful.slash_not_mem_encode s (List.mem_of_head? begins)
    have nonempty : ['/'].intercalate ((s :: rest).map (String.toList ∘ c.encode)) ≠ [] := by
      intro empty
      rw [empty, List.head?_nil, eq_comm, List.head?_eq_none_iff] at starts
      exact firstPiece starts
    have split := (List.dropLast_concat_getLast (l := s :: rest) (by simp)).symm
    have lastPiece : (c.encode ((s :: rest).getLast (by simp))).toList ≠ [] := by
      rw [ne_eq, String.toList_eq_nil_iff, lawful.encode_eq_empty_iff]
      exact fun empty => last (by rw [List.getLast?_eq_some_getLast (by simp), empty])
    have trail :
        (['/'].intercalate ((s :: rest).map (String.toList ∘ c.encode))).getLast? ≠
          some '/' := by
      rw [split, List.map_append, List.map_singleton, Function.comp_apply,
        getLast?_intercalate lastPiece]
      intro ends
      exact lawful.slash_not_mem_encode _ (List.mem_of_getLast? ends)
    rw [pathSegments_of_trimmed nonempty lead trail, List.splitOn_intercalate _ pieces (by simp),
      List.map_map]
    refine (List.map_congr_left fun t _ => ?_).trans (List.map_id _)
    simp [String.ofList_toList, lawful.decode_encode]

/-! ## Query parameters -/

theorem renderParam_eq_empty_iff (lawful : c.Lawful) {kv : String × String} :
    renderParam c kv = "" ↔ kv.1 = "" ∧ kv.2 = "" := by
  obtain ⟨name, value⟩ := kv
  by_cases empty : value = ""
  · simp [renderParam, empty, lawful.encode_eq_empty_iff]
  · have written : "=" ++ c.encode value ≠ "" := by
      rw [ne_eq, ← String.toList_inj]
      simp
    simp [renderParam, empty, written]

theorem amp_not_mem_renderParam (lawful : c.Lawful) (kv : String × String) :
    '&' ∉ (renderParam c kv).toList := by
  simp only [renderParam, String.toList_append, List.mem_append]
  rintro (inName | inValue)
  · exact lawful.amp_not_mem_encode _ inName
  · split at inValue
    · simp at inValue
    · simp only [String.toList_append, List.mem_append] at inValue
      rcases inValue with isEq | inEncoded
      · simp [show "=".toList = ['='] from rfl] at isEq
      · exact lawful.amp_not_mem_encode _ inEncoded

/-- A written query parameter reads back; a parameter without a value is written as its name
alone, and one with an empty name as `=` and its value. -/
theorem queryParam_renderParam (lawful : c.Lawful) (kv : String × String) :
    queryParam c (renderParam c kv).toList = kv := by
  obtain ⟨name, value⟩ := kv
  by_cases empty : value.isEmpty
  · have noValue : value = "" := String.isEmpty_iff.1 empty
    subst noValue
    simp only [renderParam, empty, if_true, String.append_empty]
    rw [queryParam, Text.splitOnce_eq_none (lawful.eq_not_mem_encode name)]
    simp [String.ofList_toList, lawful.decodeQuery_encode]
  · simp only [renderParam, empty, Bool.false_eq_true, if_false, String.toList_append,
      show "=".toList = ['='] from rfl, List.singleton_append]
    rw [queryParam, Text.splitOnce_append_cons (lawful.eq_not_mem_encode name)]
    simp [String.ofList_toList, lawful.decodeQuery_encode]

/-- The query text is cut back into the written pieces, one per parameter. -/
theorem splitOn_render_query (lawful : c.Lawful) {ps : List (String × String)}
    (nonempty : ps ≠ []) :
    ("&".intercalate (ps.map (renderParam c))).toList.splitOn '&' =
      ps.map fun kv => (renderParam c kv).toList := by
  have clean : ∀ piece ∈ ps.map (String.toList ∘ renderParam c), '&' ∉ piece := by
    simp only [List.mem_map, Function.comp_apply]
    rintro piece ⟨kv, -, rfl⟩
    exact amp_not_mem_renderParam lawful kv
  rw [String.toList_intercalate, List.map_map, show "&".toList = ['&'] from rfl,
    List.splitOn_intercalate _ clean (by simpa using nonempty)]
  rfl

/-- The parameters of a written query, when none has both an empty name and an empty value. -/
theorem queryParams_render (lawful : c.Lawful) {ps : List (String × String)}
    (written : ∀ kv ∈ ps, ¬(kv.1 = "" ∧ kv.2 = "")) :
    queryParams c ("&".intercalate (ps.map (renderParam c))).toList = ps := by
  cases ps with
  | nil => simp [queryParams]
  | cons kv rest =>
    -- no piece is empty, since every parameter writes a name or a value
    have filled : ∀ piece ∈ (kv :: rest).map (fun kv => (renderParam c kv).toList),
        piece.isEmpty = false := by
      simp only [List.mem_map]
      rintro piece ⟨param, member, rfl⟩
      rw [List.isEmpty_eq_false_iff, ne_eq, String.toList_eq_nil_iff,
        renderParam_eq_empty_iff lawful]
      exact written param member
    rw [queryParams, splitOn_render_query lawful (List.cons_ne_nil kv rest),
      List.filter_eq_self.2
        (fun piece member => by simp only [filled piece member, Bool.not_false]),
      List.map_map]
    refine (List.map_congr_left fun param _ => ?_).trans (List.map_id _)
    simp only [Function.comp_apply, id]
    exact queryParam_renderParam lawful param

/-- A parameter with an empty name and an empty value writes an empty piece, which reading drops. -/
theorem length_queryParams_render_lt (lawful : c.Lawful) {ps : List (String × String)}
    (blank : ∃ kv ∈ ps, kv.1 = "" ∧ kv.2 = "") :
    (queryParams c ("&".intercalate (ps.map (renderParam c))).toList).length < ps.length := by
  obtain ⟨kv, member, empty⟩ := blank
  have nonempty : ps ≠ [] := List.ne_nil_of_mem member
  rw [queryParams, splitOn_render_query lawful nonempty, List.length_map]
  calc (List.filter (fun piece => !piece.isEmpty)
          (ps.map fun kv => (renderParam c kv).toList)).length
      < (ps.map fun kv => (renderParam c kv).toList).length := by
        rw [List.length_filter_lt_length_iff_exists]
        refine ⟨(renderParam c kv).toList, List.mem_map_of_mem member, ?_⟩
        simp [(renderParam_eq_empty_iff lawful).2 empty]
    _ = ps.length := List.length_map _

/-! ## Counting slashes -/

/-- Cutting at a separator gives one piece more than there are separators. -/
theorem length_splitOn (a : Char) : ∀ l : List Char, (l.splitOn a).length = l.count a + 1
  | [] => by simp
  | x :: xs => by
    rw [List.splitOn_cons_eq_if_modifyHead, List.count_cons]
    by_cases same : x = a
    · simp [same, length_splitOn a xs]
    · simp [same, length_splitOn a xs]

/-- Joining pieces without a separator puts one separator between each two of them. -/
theorem count_intercalate {sep : Char} {pieces : List (List Char)}
    (clean : ∀ piece ∈ pieces, sep ∉ piece) (nonempty : pieces ≠ []) :
    ([sep].intercalate pieces).count sep + 1 = pieces.length := by
  rw [← length_splitOn, List.splitOn_intercalate sep clean nonempty]

theorem getLast?_intercalate_nil {sep : Char} :
    ∀ (first : List Char) (rest : List (List Char)),
      ([sep].intercalate (first :: rest ++ [[]])).getLast? = some sep
  | first, [] => by simp [List.intercalate_cons_cons]
  | first, second :: rest => by
    rw [List.cons_append, List.intercalate_cons_of_ne_nil (by simp), List.getLast?_append,
      getLast?_intercalate_nil second rest]
    rfl

/-- A join of pieces with an empty first or last piece is empty, or starts or ends with the
separator. -/
theorem intercalate_edge {sep : Char} {pieces : List (List Char)}
    (emptyEnd : pieces.head? = some [] ∨ pieces.getLast? = some []) :
    [sep].intercalate pieces = [] ∨ ([sep].intercalate pieces).head? = some sep ∨
      ([sep].intercalate pieces).getLast? = some sep := by
  rcases emptyEnd with first | last
  · obtain ⟨rest, rfl⟩ : ∃ rest, pieces = [] :: rest := by
      cases pieces with
      | nil => cases first
      | cons piece rest => exact ⟨rest, by simpa using first⟩
    cases rest with
    | nil => simp
    | cons second rest => simp [List.intercalate_cons_cons]
  · obtain ⟨init, rfl⟩ := List.getLast?_eq_some_iff.1 last
    cases init with
    | nil => simp
    | cons first rest => exact Or.inr (Or.inr (getLast?_intercalate_nil first rest))

/-- The part of a path that reading cuts at its slashes: without one leading slash and without
its trailing slashes. -/
def trimmed (path : List Char) : List Char :=
  ((match path with
    | '/' :: rest => rest
    | rest => rest).reverse.dropWhile (· = '/')).reverse

theorem pathSegments_eq_trimmed (path : List Char) :
    pathSegments c path = if (trimmed path).isEmpty then []
      else ((trimmed path).splitOn '/').map fun seg => c.decode (String.ofList seg) := rfl

theorem count_dropTrailing_le (l : List Char) :
    ((l.reverse.dropWhile (· = '/')).reverse).count '/' ≤ l.count '/' := by
  rw [List.count_reverse]
  calc (l.reverse.dropWhile (· = '/')).count '/' ≤ l.reverse.count '/' :=
        (List.dropWhile_suffix _).sublist.count_le '/'
    _ = l.count '/' := List.count_reverse

theorem count_dropTrailing_lt {l : List Char} (ends : l.getLast? = some '/') :
    ((l.reverse.dropWhile (· = '/')).reverse).count '/' < l.count '/' := by
  obtain ⟨rest, reversed⟩ : ∃ rest, l.reverse = '/' :: rest := by
    cases r : l.reverse with
    | nil => simp_all [← List.head?_reverse]
    | cons c rest =>
      rw [← List.head?_reverse, r] at ends
      simp only [List.head?_cons, Option.some.injEq] at ends
      exact ⟨rest, by rw [ends]⟩
  rw [List.count_reverse, reversed, List.dropWhile_cons_of_pos (by simp)]
  calc (rest.dropWhile (· = '/')).count '/' ≤ rest.count '/' :=
        (List.dropWhile_suffix _).sublist.count_le '/'
    _ < ('/' :: rest).count '/' := by simp
    _ = l.count '/' := by rw [← reversed, List.count_reverse]

/-- Trimming a path that starts with a slash drops that slash. -/
theorem count_trimmed_slash_lt (rest : List Char) :
    (trimmed ('/' :: rest)).count '/' < ('/' :: rest).count '/' :=
  calc (trimmed ('/' :: rest)).count '/' ≤ rest.count '/' := count_dropTrailing_le rest
    _ < ('/' :: rest).count '/' := by simp

/-- Reading a path that is empty, or starts or ends with a slash, gives fewer segments than the
path has pieces between slashes. -/
theorem length_pathSegments_lt {path : List Char}
    (edge : path = [] ∨ path.head? = some '/' ∨ path.getLast? = some '/') :
    (pathSegments c path).length < path.count '/' + 1 := by
  rw [pathSegments_eq_trimmed]
  split
  · simp
  · rename_i nonempty
    -- the trimming dropped at least one slash
    have dropped : (trimmed path).count '/' < path.count '/' := by
      rcases edge with rfl | starts | ends
      · exact absurd rfl nonempty
      · obtain ⟨rest, rfl⟩ : ∃ rest, path = '/' :: rest := by
          cases path with
          | nil => cases starts
          | cons c rest => simp_all
        exact count_trimmed_slash_lt rest
      · cases path with
        | nil => cases ends
        | cons c rest =>
          by_cases slash : c = '/'
          · subst slash
            exact count_trimmed_slash_lt rest
          · have kept :
                trimmed (c :: rest) = (((c :: rest).reverse.dropWhile (· = '/')).reverse) := by
              simp [trimmed, slash]
            rw [kept]
            exact count_dropTrailing_lt ends
    rw [List.length_map, length_splitOn]
    omega

/-! ## Written URLs -/

/-- A URL that reading its written form gives back: its first and last segments are not empty,
and no query parameter has both an empty name and an empty value. -/
structure Readable (u : Url) : Prop where
  first : u.segments.head? ≠ some ""
  last : u.segments.getLast? ≠ some ""
  written : ∀ kv ∈ u.query, ¬(kv.1 = "" ∧ kv.2 = "")

theorem question_not_mem_renderPath (lawful : c.Lawful) (segs : List String) :
    '?' ∉ ("/".intercalate (segs.map c.encode)).toList := by
  rw [String.toList_intercalate, show "/".toList = ['/'] from rfl]
  intro member
  rcases mem_intercalate member with isSlash | ⟨piece, inPieces, inPiece⟩
  · cases isSlash
  · simp only [List.map_map, List.mem_map, Function.comp_apply] at inPieces
    obtain ⟨s, -, rfl⟩ := inPieces
    exact lawful.question_not_mem_encode s inPiece

/-- The written path holds no `?`, so reading cuts the written URL where the query starts: the
segments are read from the written path and the parameters from the written query. -/
theorem parse_render_eq (lawful : c.Lawful) (u : Url) :
    parse c (u.render c) =
      { segments := pathSegments c ("/".intercalate (u.segments.map c.encode)).toList,
        query := queryParams c ("&".intercalate (u.query.map (renderParam c))).toList } := by
  obtain ⟨segs, query⟩ := u
  cases query with
  | nil =>
    simp only [parse, render, String.append_empty]
    rw [Text.splitOnce_eq_none (question_not_mem_renderPath lawful segs)]
    simp [queryParams]
  | cons kv rest =>
    simp only [parse, render, String.toList_append, show "?".toList = ['?'] from rfl,
      List.singleton_append]
    rw [Text.splitOnce_append_cons (question_not_mem_renderPath lawful segs)]

theorem parse_render_of_readable (lawful : c.Lawful) {u : Url} (readable : u.Readable) :
    parse c (u.render c) = u := by
  rw [parse_render_eq lawful, pathSegments_render lawful readable.first readable.last,
    queryParams_render lawful readable.written]

/-- Reading a written URL gives it back, when its first and last segments are not empty and
no query name is empty. -/
theorem parse_render (lawful : c.Lawful) {u : Url} (first : u.segments.head? ≠ some "")
    (last : u.segments.getLast? ≠ some "") (named : ∀ kv ∈ u.query, kv.1 ≠ "") :
    parse c (u.render c) = u :=
  parse_render_of_readable lawful ⟨first, last, fun kv member blank => named kv member blank.1⟩

/-- A first or last empty segment loses a slash to reading. -/
theorem length_parse_render_segments_lt (lawful : c.Lawful) {u : Url}
    (nonempty : u.segments ≠ [])
    (emptyEnd : u.segments.head? = some "" ∨ u.segments.getLast? = some "") :
    (parse c (u.render c)).segments.length < u.segments.length := by
  rw [parse_render_eq lawful]
  dsimp only
  rw [String.toList_intercalate, List.map_map, show "/".toList = ['/'] from rfl]
  have pieces : u.segments.map (String.toList ∘ c.encode) ≠ [] := by simpa using nonempty
  have clean : ∀ piece ∈ u.segments.map (String.toList ∘ c.encode), '/' ∉ piece := by
    simp only [List.mem_map, Function.comp_apply]
    rintro piece ⟨s, -, rfl⟩
    exact lawful.slash_not_mem_encode s
  -- an empty segment is written as an empty piece
  have emptyPiece : (u.segments.map (String.toList ∘ c.encode)).head? = some [] ∨
      (u.segments.map (String.toList ∘ c.encode)).getLast? = some [] := by
    rcases emptyEnd with first | last
    · left
      simp [List.head?_map, first, lawful.encode_empty]
    · right
      simp [List.getLast?_map, last, lawful.encode_empty]
  have counted := count_intercalate clean pieces
  rw [List.length_map] at counted
  have fewer : (pathSegments c _).length < _ :=
    length_pathSegments_lt (intercalate_edge emptyPiece)
  omega

theorem length_parse_render_query_lt (lawful : c.Lawful) {u : Url}
    (blank : ∃ kv ∈ u.query, kv.1 = "" ∧ kv.2 = "") :
    (parse c (u.render c)).query.length < u.query.length := by
  rw [parse_render_eq lawful]
  exact length_queryParams_render_lt lawful blank

theorem readable_of_parse_render (lawful : c.Lawful) {u : Url} (back : parse c (u.render c) = u) :
    u.Readable := by
  have segments :
      ¬(u.segments ≠ [] ∧ (u.segments.head? = some "" ∨ u.segments.getLast? = some "")) :=
    fun ⟨nonempty, emptyEnd⟩ => by
      have fewer := length_parse_render_segments_lt lawful nonempty emptyEnd
      rw [back] at fewer
      exact Nat.lt_irrefl _ fewer
  refine ⟨fun first => segments ⟨?_, Or.inl first⟩, fun last => segments ⟨?_, Or.inr last⟩,
    fun kv member blank => ?_⟩
  · intro empty
    rw [empty] at first
    cases first
  · intro empty
    rw [empty] at last
    cases last
  · have fewer := length_parse_render_query_lt lawful ⟨kv, member, blank⟩
    rw [back] at fewer
    exact Nat.lt_irrefl _ fewer

/-- Reading the written form of a URL gives the URL back exactly when it has no segments or its
first and last segments are not empty, and no query parameter has both an empty name and an
empty value. -/
theorem parse_render_eq_iff (lawful : c.Lawful) (u : Url) :
    parse c (u.render c) = u ↔
      (u.segments = [] ∨ u.segments.head? ≠ some "" ∧ u.segments.getLast? ≠ some "") ∧
        ∀ kv ∈ u.query, ¬(kv.1 = "" ∧ kv.2 = "") := by
  constructor
  · intro back
    have readable := readable_of_parse_render lawful back
    exact ⟨Or.inr ⟨readable.first, readable.last⟩, readable.written⟩
  · rintro ⟨segments, written⟩
    refine parse_render_of_readable lawful ⟨?_, ?_, written⟩
    · rcases segments with none | ⟨first, -⟩
      · simp [none]
      · exact first
    · rcases segments with none | ⟨-, last⟩
      · simp [none]
      · exact last

/-- Written with the standard codec, segments and query names and values holding the separators
of a URL read back: the separators are escaped. -/
theorem escaped_separators_read_back :
    Percent.standard.Lawful ∧
      parse Percent.standard (Url.render Percent.standard ⟨["a/b", "?"], [("x&y", "1=2")]⟩) =
        ⟨["a/b", "?"], [("x&y", "1=2")]⟩ :=
  ⟨Percent.standard_lawful, (parse_render_eq_iff Percent.standard_lawful _).2
    ⟨.inr ⟨by decide, by decide⟩, by decide⟩⟩

end Url

end PageRoutes
