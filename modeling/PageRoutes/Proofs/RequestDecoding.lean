import PageRoutes.Proofs.MapperRoundTrip
import PageRoutes.Proofs.RequestResolution
/-!
# What a claimed request URL is read into

A mapper in the query encoding that claims a request URL reads every part of it once. It owns a
number of leading segments (`Mapper.owned`): the segments its mount path matched, and after a
package mount the simple name; the namespace, identifier and class name of a bookmarkable URL;
none for the home page or for a mounted home page that claims the empty URL. The segments after
those are the indexed values. The named values are the placeholder values of the owned segments
in template order, then the query parameters with a non-empty name, less the first parameter
exactly when it is the page reference token (`read_accounts_for_url`).

Two facts carry this: a match binds only the segments it took (`extract_of_match`), and the
parameters after the owned segments are the rest of the URL decoded (`decodeRest_query`).
-/
namespace PageRoutes

namespace PageRef

/-- A URL carries a page reference exactly when its first query parameter has no value and its
name reads as a token. -/
theorem ofUrl_eq_some_iff {u : Url} {r : PageRef} :
    ofUrl u = some r ↔ ∃ name rest, u.query = (name, "") :: rest ∧ decode name = some r := by
  constructor
  · exact PageRef.ofUrl_eq_some
  · rintro ⟨name, rest, query, decoded⟩
    simp [ofUrl, query, decoded]

end PageRef

namespace Template

theorem bindings_take {ps : List Part} {segs : List String} {k : Nat} (within : ps.length ≤ k) :
    bindings ps (segs.take k) = bindings ps segs := by
  by_cases short : segs.length ≤ k
  · rw [List.take_of_length_le short]
  · conv => rhs; rw [← List.take_append_drop k segs]
    exact (bindings_append_right (by simp; omega) _).symm

/-- A match binds the parts it covers, each to the segment at its position, and reads nothing
after the segments it took. -/
theorem extract_of_match {t : Template} {segs : List String} {cs : Bool} {ws : List Nat}
    (matched : t.matchWidths segs cs = some ws) {k : Nat} (owned : ws.sum ≤ k) :
    t.extract segs ws = ⟨[], bindings (t.covered ws) (segs.take k)⟩ := by
  have layout := ofParts_laysOut t.parts
  obtain ⟨fits, -, length, -⟩ :=
    widthsFrom_covers t cs t.groups t.parts 0 segs ws layout rfl matched
  have bound : (t.extract segs ws).named = bindings (t.covered ws) segs :=
    bindingsFrom_eq t segs t.groups t.parts 0 0 ws layout rfl (Nat.le_refl 0) fits
  rw [bindings_take (length ▸ owned), ← bound]
  rfl

end Template

namespace Mapper

/-- The leading segments a mapper owns in a request URL, and the placeholder parts they stand for
in template order: the segments its mount path matched, and after a package mount the simple
name; the namespace, identifier and class name of a bookmarkable URL; none for the home page, or
for a mounted home page that claims the empty URL. -/
def owned (ctx : Context) (u : Url) : Mapper → Nat × List Part
  | bookmarkable _ => (3, [])
  | mounted m =>
    if m.redirectsHome ctx u then (0, [])
    else
      match m.template.matchWidths u.segments ctx.settings.caseSensitive with
      | some ws => (ws.sum, m.template.covered ws)
      | none => (0, [])
  | package p =>
    match p.template.matchWidths u.segments ctx.settings.caseSensitive with
    | some ws => (ws.sum + 1, p.template.covered ws)
    | none => (0, [])
  | home _ => (0, [])

/-- In the query encoding, what follows the owned segments is read whole: the later segments as
indexed values, the query parameters with a non-empty name as named values, the first one left
out when it was read as the token. -/
theorem decodeRest_query (u : Url) (skip : Nat) (hasRef : Bool) :
    decodeRest .query u skip hasRef = ⟨u.segments.drop skip,
      (if hasRef then u.query.drop 1 else u.query).filter fun q => !q.1.isEmpty⟩ := by
  cases hasRef <;> rfl

/-- What a mount reads from a URL its template matches: the bindings of the matched segments,
then the rest in the mount's encoding. -/
theorem Mount.read_params {m : Mount} {ctx : Context} {u : Url} {t : Target}
    (claimed : m.read ctx u = some t) :
    ∃ ws, m.template.matchWidths u.segments ctx.settings.caseSensitive = some ws ∧
      t.ref = PageRef.ofUrl u ∧
      t.params = (m.template.extract u.segments ws).append
        (decodeRest m.encoding u ws.sum (PageRef.ofUrl u).isSome) := by
  unfold Mount.read at claimed
  cases matched : m.template.matchWidths u.segments ctx.settings.caseSensitive with
  | none => simp [matched] at claimed
  | some ws =>
    simp only [matched, Option.bind_eq_bind, Option.bind_some, Option.pure_def,
      Option.some.injEq] at claimed
    exact ⟨ws, rfl, claimed ▸ rfl, claimed ▸ rfl⟩

/-- A request URL that a mapper in the query encoding claims is read whole and once: the token
is the first query parameter exactly when that has no value and reads as one; the segments after
those the mapper owns are the indexed values; and the named values are the placeholder values of
the owned segments in template order, then the query parameters with a non-empty name, less the
token's. -/
theorem read_accounts_for_url {m : Mapper} {ctx : Context} {u : Url} {t : Target}
    (claimed : m.read ctx u = some t) (query : m.encoding = .query) :
    (∀ r, t.ref = some r ↔
      ∃ name rest, u.query = (name, "") :: rest ∧ PageRef.decode name = some r) ∧
    t.params.indexed = u.segments.drop (m.owned ctx u).1 ∧
    t.params.named = Template.bindings (m.owned ctx u).2 (u.segments.take (m.owned ctx u).1) ++
      (if t.ref.isSome then u.query.drop 1 else u.query).filter fun q => !q.1.isEmpty := by
  have token := read_ref claimed
  refine ⟨fun r => token ▸ PageRef.ofUrl_eq_some_iff, ?_⟩
  rw [token]
  cases m with
  | bookmarkable encoding =>
    cases query
    simp [Mapper.read, Option.bind_eq_some_iff] at claimed
    obtain ⟨-, -, -, -, -, -, rfl⟩ := claimed
    simp [decodeRest_query, owned]
  | mounted mnt =>
    have encoded : mnt.encoding = .query := query
    by_cases redirect : mnt.redirectsHome ctx u
    · simp only [Mapper.read, redirect, if_true, Option.some.injEq] at claimed
      subst claimed
      simp [decodeRest_query, owned, redirect, encoded]
    · simp only [Mapper.read, redirect, Bool.false_eq_true, if_false] at claimed
      obtain ⟨ws, matched, -, params⟩ := Mount.read_params claimed
      rw [params, Template.extract_of_match matched (Nat.le_refl _), encoded, decodeRest_query]
      simp [Params.append, owned, redirect, matched]
  | package pm =>
    have encoded : pm.encoding = .query := query
    simp [Mapper.read, PackageMount.read, Option.bind_eq_some_iff] at claimed
    obtain ⟨ws, matched, -, -, -, -, -, rfl⟩ := claimed
    rw [Template.extract_of_match matched (Nat.le_succ _), encoded, decodeRest_query]
    simp [Params.append, owned, matched]
  | home mnt =>
    have encoded : mnt.encoding = .query := query
    simp only [Mapper.read] at claimed
    split at claimed
    · rename_i empty
      obtain ⟨ws, matched, -, params⟩ := Mount.read_params claimed
      rw [params, Template.extract_of_match matched (Nat.le_refl _), encoded, decodeRest_query]
      have noSegments : u.segments = [] := List.isEmpty_iff.1 empty
      simp [Params.append, owned, noSegments]
    · cases claimed

/-- A bookmarkable URL with an indexed value, a token and a named value: the namespace,
identifier and class segments are owned, the value after them is indexed, and the token leaves
the named values. -/
theorem bookmarkable_request_accounted :
    (bookmarkable .query).read { registry := ⟨["Shop"]⟩ }
        (Url.parse Percent.standard "wicket/bookmarkable/Shop/x?7&q=1") =
      some ⟨some { pageId := some 7 }, ⟨"Shop"⟩, ⟨["x"], [("q", "1")]⟩⟩ ∧
    (bookmarkable .query).encoding = .query ∧
    ((∀ r, some { pageId := some 7 } = some r ↔ ∃ name rest,
        (Url.parse Percent.standard "wicket/bookmarkable/Shop/x?7&q=1").query = (name, "") :: rest ∧
          PageRef.decode name = some r) ∧
      ["x"] = (Url.parse Percent.standard "wicket/bookmarkable/Shop/x?7&q=1").segments.drop
        ((bookmarkable .query).owned { registry := ⟨["Shop"]⟩ }
          (Url.parse Percent.standard "wicket/bookmarkable/Shop/x?7&q=1")).1 ∧
      [("q", "1")] =
        Template.bindings ((bookmarkable .query).owned { registry := ⟨["Shop"]⟩ }
            (Url.parse Percent.standard "wicket/bookmarkable/Shop/x?7&q=1")).2
          ((Url.parse Percent.standard "wicket/bookmarkable/Shop/x?7&q=1").segments.take
            ((bookmarkable .query).owned { registry := ⟨["Shop"]⟩ }
              (Url.parse Percent.standard "wicket/bookmarkable/Shop/x?7&q=1")).1) ++
        (if (some ({ pageId := some 7 } : PageRef)).isSome then
            (Url.parse Percent.standard "wicket/bookmarkable/Shop/x?7&q=1").query.drop 1
          else (Url.parse Percent.standard "wicket/bookmarkable/Shop/x?7&q=1").query).filter
          fun q => !q.1.isEmpty) := by
  have claimed : (bookmarkable .query).read { registry := ⟨["Shop"]⟩ }
      (Url.parse Percent.standard "wicket/bookmarkable/Shop/x?7&q=1") =
      some ⟨some { pageId := some 7 }, ⟨"Shop"⟩, ⟨["x"], [("q", "1")]⟩⟩ := by
    rfl
  exact ⟨claimed, rfl, read_accounts_for_url claimed rfl⟩

end Mapper

end PageRoutes
