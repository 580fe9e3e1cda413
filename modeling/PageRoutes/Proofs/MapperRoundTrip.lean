import Mathlib.Data.List.TakeDrop
import Mathlib.Data.List.TakeWhile
import PageRoutes.Mapper.Handler
import PageRoutes.Mapper.Request
import PageRoutes.Proofs.PageRefToken
import PageRoutes.Proofs.TemplateRoundTrip
import PageRoutes.Proofs.UrlText
/-!
# From a handler to its URL and back

A mapper writes the URL of a handler from its own segments, the page parameters in the query
encoding (indexed values as trailing segments, named values as query parameters) and the page
reference token as the first query parameter. A request for that URL gives the handler back
(`mapRequest_mapHandler`):

* a bookmarkable link, a fresh page and a stateless page come back as a fresh page of their class,
  with the same parameters as parameter sets;
* a stored stateful page comes back as itself;
* a listener call on a stored page comes back on that page, with its component path, listener and
  behavior index, and with the page's render count exactly when the listener asks for it.

The proof meets in the middle, at what a mapper reads from the URL (`read_urlOf`): the reference
when its token was written, the class, and the same parameters; what the request resolves to then
follows from the reference alone (`mapRequest_of_read`).

Over every lawful codec, each condition of the round trip is one that the code forces, and a
closed counterexample after the theorem shows each. Two are slips of the mappers: the home mapper
writes indexed values as segments but answers only the empty path (`home_drops_indexed_link`),
and a listener call whose token cannot be written still gets a URL, without the token
(`unwritable_listener_renders_fresh_page`). The others are reading rules: reading drops a leading
or trailing empty segment and a query parameter with an empty name; a placeholder with an empty
value writes nothing; a first query parameter without a value whose name reads as a token is
taken for one; a template gives its values back only as `Template.ReadsBack` says; and a package
mount finds the class by its simple name in the package.
-/
namespace PageRoutes

namespace Mapper

/-- The encoding a mapper writes page parameters in. -/
def encoding : Mapper → Encoding
  | bookmarkable encoding => encoding
  | mounted m | home m => m.encoding
  | package p => p.encoding

/-- The template of a mapper's mount path, if it has one. -/
def template? : Mapper → Option Template
  | bookmarkable _ => none
  | mounted m | home m => some m.template
  | package p => some p.template

end Mapper

namespace Handler

/-- The parameters of the page a handler is about. -/
def params : Handler → Params
  | bookmarkable _ params => params
  | render provider => provider.params
  | listener call => call.provider.params

/-- What a request for the URL of a handler stands for: a bookmarkable link, a fresh page and a
stateless page render a fresh page of their class and parameters, a stored page renders itself,
and a listener call carries its stored page's render count exactly when the listener asks for
it. -/
def requested : Handler → Handler
  | bookmarkable cls params => .render (.fresh cls params)
  | render (.fresh cls params) => .render (.fresh cls params)
  | render (.existing page) =>
    if page.stateless then .render (.fresh page.cls page.params) else .render (.existing page)
  | listener call =>
    .listener { call with
      renderCount := match call.provider with
        | .existing page => if call.listener.includeRenderCount then some page.renderCount else none
        | .fresh .. => none }

/-- Whether the URL of a handler carries a page reference token: that of a stored stateful page,
or of a listener call. -/
def carriesToken : Handler → Bool
  | render (.existing page) => !page.stateless
  | listener _ => true
  | _ => false

theorem same_refl : ∀ h : Handler, h.same h = true
  | bookmarkable cls params => by simp [same, Params.equiv_refl]
  | render provider => by
    cases provider <;> simp [same, Provider.same, Page.same, Params.equiv_refl]
  | listener call => by
    cases provider : call.provider <;>
      simp [same, provider, Provider.same, Page.same, Params.equiv_refl]

end Handler

/-- Whether the token of a listener call can be written: the listener's name is a listener name,
and the component path is not empty and holds no `~`. -/
def ListenerCall.Writable (call : ListenerCall) : Prop :=
  PageRef.Writable { listener := call.listener.name, componentPath := call.componentPath }

/-! ## Class names -/

namespace PageClass

theorem splitLast?_eq_none {c : PageClass} (unsplit : c.splitLast? = none) :
    '.' ∉ c.name.toList := by
  simp only [splitLast?] at unsplit
  split at unsplit
  · rename_i simple spanned
    rw [List.span_eq_takeWhile_dropWhile, Prod.mk.injEq] at spanned
    have kept := List.dropWhile_eq_nil_iff.1 spanned.2
    intro dot
    simpa using kept '.' (List.mem_reverse.2 dot)
  · cases unsplit

/-- A name cut at its last `.` is its package, the `.` and its simple name. -/
theorem splitLast?_eq_some {c : PageClass} {pkg simple : String}
    (split : c.splitLast? = some (pkg, simple)) :
    c.name.toList = pkg.toList ++ '.' :: simple.toList ∧ '.' ∉ simple.toList := by
  simp only [splitLast?] at split
  split at split
  · cases split
  · rename_i before dot rest spanned
    simp only [Option.some.injEq, Prod.mk.injEq] at split
    obtain ⟨rfl, rfl⟩ := split
    rw [List.span_eq_takeWhile_dropWhile, Prod.mk.injEq] at spanned
    obtain ⟨taken, dropped⟩ := spanned
    -- the span stops at the last `.`
    have isDot : dot = '.' := by
      have stop := List.head_dropWhile_not (fun d => decide (d ≠ '.'))
        (l := c.name.toList.reverse) (by rw [dropped]; simp)
      simp only [dropped, List.head_cons] at stop
      simpa using stop
    subst isDot
    have whole := List.takeWhile_append_dropWhile (p := fun d => decide (d ≠ '.'))
      (l := c.name.toList.reverse)
    rw [taken, dropped] at whole
    refine ⟨?_, ?_⟩
    · rw [← List.reverse_reverse c.name.toList, ← whole]
      simp
    · intro member
      have inTaken : '.' ∈ List.takeWhile (fun d => decide (d ≠ '.')) c.name.toList.reverse := by
        rw [taken]
        simpa using member
      simpa using List.mem_takeWhile_imp inTaken

theorem dot_not_mem_simpleName (c : PageClass) : '.' ∉ c.simpleName.toList := by
  simp only [simpleName]
  split
  · rename_i pkg simple split
    exact (splitLast?_eq_some split).2
  · rename_i unsplit
    exact splitLast?_eq_none (by simpa using unsplit)

end PageClass

/-- A class of a package mount's package is found by its simple name, unless it is in the empty
package with a `.` in its name. -/
theorem PackageMount.qualify_simpleName {p : PackageMount} {cls : PageClass}
    (inPackage : cls.package = p.package) (qualified : cls.package = "" → '.' ∉ cls.name.toList) :
    p.qualify cls.simpleName = cls.name := by
  simp only [qualify, ← inPackage]
  cases split : cls.splitLast? with
  | none =>
    simp [PageClass.package, PageClass.simpleName, split]
  | some parts =>
    obtain ⟨pkg, simple⟩ := parts
    obtain ⟨named, -⟩ := PageClass.splitLast?_eq_some split
    have package : cls.package = pkg := by simp [PageClass.package, split]
    have simpleName : cls.simpleName = simple := by simp [PageClass.simpleName, split]
    rw [package, simpleName]
    by_cases empty : pkg = ""
    · subst empty
      exact absurd (by simp [named]) (qualified package)
    · simp only [String.isEmpty_iff, empty, if_false]
      rw [← String.toList_inj, named]
      simp

theorem PageRegistry.resolve?_of_isSome {r : PageRegistry} {cls : PageClass}
    (registered : (r.resolve? cls.name).isSome) : r.resolve? cls.name = some cls := by
  simp only [resolve?] at registered ⊢
  split at registered
  · simp [*]
  · cases registered

theorem ListenerTable.byName?_of_nameOf? {t : ListenerTable} {l : Listener} {name : String}
    (named : t.nameOf? l = some name) : t.byName? l.name = some l ∧ name = l.name := by
  simp only [nameOf?] at named
  split at named
  · rename_i r found
    split at named
    · rename_i same
      subst same
      exact ⟨found, (Option.some.inj named).symm⟩
    · cases named
  · cases named

/-! ## Written URLs -/

namespace Mapper

theorem token_ne_empty {r : PageRef} {token : String} (written : r.encode = some token) :
    token ≠ "" := by
  rintro rfl
  have back := PageRef.decode_encode written
  rw [show PageRef.decode "" = none by decide] at back
  cases back

/-- In the query encoding a mapper writes its segments and the indexed values as the path, and the
token, if the reference has one, before the named values as the query. -/
theorem finishUrl_query (base : List String) (rest : Params) (ref : Option PageRef) :
    finishUrl (Url.ofSegments base) .query rest ref =
      { segments := base ++ rest.indexed,
        query := ((ref.bind PageRef.encode).map (·, "")).toList ++ rest.named } := by
  rcases ref with _ | r
  · simp [finishUrl, Url.append, Url.ofSegments, Encoding.encode]
  · cases written : r.encode <;>
      simp [finishUrl, Url.append, Url.ofSegments, Encoding.encode, PageRef.writeTo, written]

/-- Without a token, the query of a written URL starts with the first named value. -/
theorem finishUrl_query_head? {base : List String} {rest : Params} {ref : Option PageRef}
    (unwritten : ref.bind PageRef.encode = none) :
    (finishUrl (Url.ofSegments base) .query rest ref).query.head? = rest.named.head? := by
  simp [finishUrl_query, unwritten]

section Written

variable {segs : List String} {ref : Option PageRef} {rest : List (String × String)}

/-- A written URL carries the reference exactly when its token could be written, when, with no
token written, the first named value is not one without a value that reads as a token. -/
theorem ofUrl_written
    (noToken : ref.bind PageRef.encode = none → ∀ kv ∈ rest.head?, kv.2 = "" →
      PageRef.decode kv.1 = none) :
    PageRef.ofUrl ⟨segs, ((ref.bind PageRef.encode).map (·, "")).toList ++ rest⟩ =
      ref.filter fun r => (PageRef.encode r).isSome := by
  cases written : ref.bind PageRef.encode with
  | some token =>
    obtain ⟨r, rfl, encoded⟩ := Option.bind_eq_some_iff.1 written
    simp [PageRef.ofUrl, PageRef.decode_encode encoded, Option.filter, encoded]
  | none =>
    have unwritten : (ref.filter fun r => (PageRef.encode r).isSome) = none := by
      cases ref <;> simp_all
    rw [unwritten]
    cases rest with
    | nil => rfl
    | cons kv more =>
      obtain ⟨name, value⟩ := kv
      simp only [Option.map_none, Option.toList_none, List.nil_append, PageRef.ofUrl]
      split
      · rename_i empty
        exact noToken written (name, value) rfl (String.isEmpty_iff.1 empty)
      · rfl

/-- What follows a mapper's segments in a written URL reads back as the indexed values and the
named ones, when no name is empty. -/
theorem decodeRest_written (named : ∀ kv ∈ rest, kv.1 ≠ "") (n : Nat) :
    decodeRest .query ⟨segs, ((ref.bind PageRef.encode).map (·, "")).toList ++ rest⟩ n
        (ref.bind PageRef.encode).isSome =
      ⟨segs.drop n, rest⟩ := by
  have kept : rest.filter (fun q => !q.1.isEmpty) = rest :=
    List.filter_eq_self.2 fun kv member => by simpa using named kv member
  cases ref.bind PageRef.encode <;>
    simp [decodeRest, Encoding.decode, Encoding.namedQuery, Url.dropSegments, kept]

end Written

theorem isSome_filter_encode (ref : Option PageRef) :
    (ref.filter fun r => (PageRef.encode r).isSome).isSome = (ref.bind PageRef.encode).isSome := by
  cases ref <;> simp

/-- A written URL reads back as itself when its first and last segments are not empty and no
named value has an empty name. -/
theorem parse_render_finishUrl {c : PercentCodec} (lawful : c.Lawful) {base : List String}
    {rest : Params} {ref : Option PageRef}
    (first : (finishUrl (Url.ofSegments base) .query rest ref).segments.head? ≠ some "")
    (last : (finishUrl (Url.ofSegments base) .query rest ref).segments.getLast? ≠ some "")
    (named : ∀ kv ∈ rest.named, kv.1 ≠ "") :
    Url.parse c ((finishUrl (Url.ofSegments base) .query rest ref).render c) =
      finishUrl (Url.ofSegments base) .query rest ref := by
  rw [finishUrl_query] at first last ⊢
  refine Url.parse_render lawful first last fun kv member => ?_
  rcases List.mem_append.1 member with isToken | param
  · cases written : ref.bind PageRef.encode with
    | none => simp [written] at isToken
    | some token =>
      simp only [written, Option.map_some, Option.toList_some, List.mem_singleton] at isToken
      subst isToken
      obtain ⟨r, -, encoded⟩ := Option.bind_eq_some_iff.1 written
      exact token_ne_empty encoded
  · exact named kv param

theorem sameSegment_self (cs : Bool) (s : String) : sameSegment cs s s = true := by
  cases cs <;> simp [sameSegment, Text.eqIgnoreAsciiCase]

end Mapper

/-! ## What a mapper reads back -/

/-- What a mapper reads back of a target it wrote: the reference when its token could be written,
the class, and the same parameters. -/
structure Target.ReadsBackAs (t t' : Target) : Prop where
  ref : t'.ref = t.ref.filter fun r => (PageRef.encode r).isSome
  cls : t'.cls = t.cls
  params : t'.params.equiv t.params = true

namespace Mapper

/-- The placeholder values read from a template's segments, followed by the indexed values and
the named values the build left, are the parameters again, when no name repeats and no
placeholder name has an empty value. -/
theorem equiv_of_read_back {t : Template} {p : Params} {b : Built} {extracted : Params}
    (distinct : (Template.names t.parts).Nodup) (building : t.build p = .ok b)
    (single : ∀ key, (p.values key).length ≤ 1)
    (filled : ∀ kv ∈ p.named, kv.1 ∈ Template.names t.parts → kv.2 ≠ "")
    (indexed : extracted.indexed = []) (named : extracted.named.Perm (t.placeholderPairs p).named) :
    (extracted.append ⟨p.indexed, b.remaining.named⟩).equiv p = true := by
  obtain ⟨-, -, remaining⟩ := Template.build_eq_ok distinct building
  have perm : (extracted.named ++ b.remaining.named).Perm p.named := by
    rw [remaining]
    exact (named.append_right _).trans (Template.placeholderPairs_append_eraseAll filled)
  have keys : ((extracted.named ++ b.remaining.named).map Prod.fst).Nodup :=
    (perm.map Prod.fst).nodup_iff.2 ((Params.named_keys_nodup_iff p).2 single)
  rw [@Params.equiv_iff_perm (extracted.append ⟨p.indexed, b.remaining.named⟩) p keys]
  exact ⟨by simp [Params.append, indexed], perm⟩

section Reading

variable {ctx : Context} {t : Target} {b : Built} {c : PercentCodec} (lawful : c.Lawful)
  (single : ∀ key, (t.params.values key).length ≤ 1) (named : ∀ kv ∈ t.params.named, kv.1 ≠ "")

/-- The parameters the build leaves are some of the parameters. -/
theorem mem_of_remaining {tp : Template} (distinct : (Template.names tp.parts).Nodup)
    (building : tp.build t.params = .ok b) {kv : String × String}
    (member : kv ∈ b.remaining.named) :
    kv ∈ t.params.named := by
  obtain ⟨-, -, remaining⟩ := Template.build_eq_ok distinct building
  rw [remaining] at member
  exact List.mem_of_mem_filter member

/-- A mount that reads a URL does not redirect it to the home page. -/
theorem Mount.redirectsHome_of_read {mnt : Mount} {u : Url} {t' : Target}
    (reading : mnt.read ctx u = some t') : mnt.redirectsHome ctx u = false := by
  simp only [Mount.read, Option.bind_eq_bind, Option.bind_eq_some_iff] at reading
  obtain ⟨ws, matched, -⟩ := reading
  cases segments : u.segments with
  | nil =>
    rw [segments] at matched
    simp [Mount.redirectsHome, segments, matched]
  | cons seg more => simp [Mount.redirectsHome, segments]

include lawful single named

/-- What a mount reads past its template in the URL it wrote for a target, with `extra` segments
between the template's and the indexed values: the URL reads back as itself, the template's
segments match with the widths they were written in, the reference is read when its token could
be written, and the placeholder values with the parameters after the `extra` segments are the
target's parameters again. -/
theorem read_template_written {tp : Template} {extra : List String} {cs : Bool} {u : Url}
    (compiled : ∃ path, Template.compile path = .ok tp) (building : tp.build t.params = .ok b)
    (wrote : finishUrl (Url.ofSegments (b.segments ++ extra)) .query b.remaining t.ref = u)
    (noToken : t.ref.bind PageRef.encode = none → ∀ kv ∈ u.query.head?, kv.2 = "" →
      PageRef.decode kv.1 = none)
    (filled : ∀ kv ∈ t.params.named, kv.1 ∈ Template.names tp.parts → kv.2 ≠ "")
    (reads : tp.ReadsBack t.params cs u.segments)
    (first : u.segments.head? ≠ some "") (last : u.segments.getLast? ≠ some "") :
    Url.parse c (u.render c) = u ∧ u.segments = b.segments ++ extra ++ t.params.indexed ∧
      ∃ ws, tp.matchWidths u.segments cs = some ws ∧ ws.sum = b.segments.length ∧
        PageRef.ofUrl u = t.ref.filter (fun r => (PageRef.encode r).isSome) ∧
        ((tp.extract u.segments ws).append
          (decodeRest .query u (ws.sum + extra.length) (PageRef.ofUrl u).isSome)).equiv
            t.params = true := by
  obtain ⟨path, compiledAt⟩ := compiled
  have distinct := Template.compile_names_nodup compiledAt
  obtain ⟨-, -, remaining⟩ := Template.build_eq_ok distinct building
  have indexed : b.remaining.indexed = t.params.indexed := by rw [remaining]; rfl
  have left := fun kv => @mem_of_remaining t b tp distinct building kv
  subst wrote
  have segments : (finishUrl (Url.ofSegments (b.segments ++ extra)) .query b.remaining
      t.ref).segments = b.segments ++ extra ++ t.params.indexed := by
    rw [finishUrl_query, indexed]
  refine ⟨parse_render_finishUrl lawful first last fun kv member => named kv (left kv member),
    segments, ?_⟩
  rw [segments, List.append_assoc] at reads
  obtain ⟨ws, matched, total, extractedIndexed, extractedNamed⟩ :=
    Template.read_built_append compiledAt building (fun n _ => single n) reads
  have reference : PageRef.ofUrl (finishUrl (Url.ofSegments (b.segments ++ extra)) .query
      b.remaining t.ref) = t.ref.filter (fun r => (PageRef.encode r).isSome) := by
    rw [finishUrl_query]
    exact ofUrl_written fun unwritten kv member =>
      noToken unwritten kv (by rwa [finishUrl_query_head? unwritten])
  -- past the template's segments and the extra ones come the parameters the build left
  have rest : decodeRest .query (finishUrl (Url.ofSegments (b.segments ++ extra)) .query
      b.remaining t.ref) (ws.sum + extra.length) (PageRef.ofUrl (finishUrl (Url.ofSegments
      (b.segments ++ extra)) .query b.remaining t.ref)).isSome =
      ⟨t.params.indexed, b.remaining.named⟩ := by
    rw [reference, isSome_filter_encode, finishUrl_query,
      decodeRest_written fun kv member => named kv (left kv member), indexed, total]
    simp
  refine ⟨ws, by rw [segments, List.append_assoc]; exact matched, total, reference, ?_⟩
  rw [rest, segments, List.append_assoc]
  exact equiv_of_read_back distinct building single filled extractedIndexed extractedNamed

/-- A mount reads the URL it wrote for a target back: the URL parses as itself, its template's
segments match with the widths they were written in, and the parameters after them follow. -/
theorem Mount.read_urlOf {mnt : Mount} {u : Url} (query : mnt.encoding = .query)
    (compiled : ∃ path, Template.compile path = .ok mnt.template) (cls : mnt.cls = t.cls)
    (wrote : urlOf ctx t (mounted mnt) = some u)
    (noToken : t.ref.bind PageRef.encode = none → ∀ kv ∈ u.query.head?, kv.2 = "" →
      PageRef.decode kv.1 = none)
    (filled : ∀ kv ∈ t.params.named, kv.1 ∈ Template.names mnt.template.parts → kv.2 ≠ "")
    (reads : mnt.template.ReadsBack t.params ctx.settings.caseSensitive u.segments)
    (first : u.segments.head? ≠ some "") (last : u.segments.getLast? ≠ some "") :
    Url.parse c (u.render c) = u ∧ ∃ t', mnt.read ctx u = some t' ∧ t.ReadsBackAs t' := by
  simp only [urlOf] at wrote
  cases building : mnt.template.build t.params with
  | error _ => simp [building] at wrote
  | ok b =>
    simp only [building, query, Option.some.injEq] at wrote
    obtain ⟨parsed, -, ws, matched, -, reference, same⟩ := @read_template_written t b c lawful
      single named mnt.template [] ctx.settings.caseSensitive u compiled building
      (by simpa using wrote) noToken filled reads first last
    refine ⟨parsed, ?_⟩
    simp only [Mount.read, matched, query, Option.bind_eq_bind, Option.bind_some,
      Option.pure_def, Option.some.injEq, exists_eq_left']
    exact ⟨reference, cls, by simpa using same⟩

/-- A package mount reads the URL it wrote for a target back: the URL parses as itself, its
template's segments match with the widths they were written in, the class's simple name after
them finds the class in the package, and the parameters after it follow. -/
theorem PackageMount.read_urlOf {pm : PackageMount} {u : Url} (query : pm.encoding = .query)
    (compiled : ∃ path, Template.compile path = .ok pm.template)
    (inPackage : t.cls.package = pm.package)
    (registered : (ctx.registry.resolve? t.cls.name).isSome)
    (simple : t.cls.simpleName ≠ "") (qualified : t.cls.package = "" → '.' ∉ t.cls.name.toList)
    (wrote : urlOf ctx t (package pm) = some u)
    (noToken : t.ref.bind PageRef.encode = none → ∀ kv ∈ u.query.head?, kv.2 = "" →
      PageRef.decode kv.1 = none)
    (filled : ∀ kv ∈ t.params.named, kv.1 ∈ Template.names pm.template.parts → kv.2 ≠ "")
    (reads : pm.template.ReadsBack t.params ctx.settings.caseSensitive u.segments)
    (first : u.segments.head? ≠ some "") (last : u.segments.getLast? ≠ some "") :
    Url.parse c (u.render c) = u ∧ ∃ t', pm.read ctx u = some t' ∧ t.ReadsBackAs t' := by
  simp only [urlOf] at wrote
  cases building : pm.template.build t.params with
  | error _ => simp [building] at wrote
  | ok b =>
    simp only [building, query, Option.some.injEq] at wrote
    obtain ⟨parsed, segments, ws, matched, total, reference, same⟩ := read_template_written
      lawful single named compiled building wrote noToken filled reads first last
    refine ⟨parsed, ?_⟩
    -- the segment after the template's is the class's simple name
    have atName : u.segments[ws.sum]? = some t.cls.simpleName := by simp [segments, total]
    have plain : (t.cls.simpleName.isEmpty || '.' ∈ t.cls.simpleName.toList) = false := by
      simp [simple, PageClass.dot_not_mem_simpleName]
    have found : ctx.registry.resolve? (pm.qualify t.cls.simpleName) = some t.cls := by
      rw [PackageMount.qualify_simpleName inPackage qualified]
      exact PageRegistry.resolve?_of_isSome registered
    simp only [PackageMount.read, Template.total_eq_sum, matched, atName, plain, found, query,
      Bool.false_eq_true, if_false, Option.bind_eq_bind, Option.bind_some, Option.pure_def,
      Option.some.injEq, exists_eq_left']
    exact ⟨reference, rfl, by simpa using same⟩

omit lawful single in
/-- The bookmarkable mapper reads the URL it wrote for a target of a registered class back. -/
theorem bookmarkable_read_written (registered : (ctx.registry.resolve? t.cls.name).isSome)
    (noToken : t.ref.bind PageRef.encode = none → ∀ kv ∈ t.params.named.head?, kv.2 = "" →
      PageRef.decode kv.1 = none) :
    ∃ t', (bookmarkable .query).read ctx (finishUrl (Url.ofSegments
        [ctx.settings.urlNamespace, ctx.settings.bookmarkableIdentifier, t.cls.name]) .query
        t.params t.ref) = some t' ∧ t.ReadsBackAs t' := by
  have reference := @ofUrl_written ([ctx.settings.urlNamespace, ctx.settings.bookmarkableIdentifier,
    t.cls.name] ++ t.params.indexed) t.ref t.params.named noToken
  have rest := @decodeRest_written ([ctx.settings.urlNamespace, ctx.settings.bookmarkableIdentifier,
    t.cls.name] ++ t.params.indexed) t.ref t.params.named named 3
  rw [finishUrl_query]
  simp only [read, bookmarkablePrefix, List.cons_append, sameSegment_self, Bool.and_self,
    Bool.not_true, Bool.false_eq_true, if_false, List.getElem?_cons_succ, List.getElem?_cons_zero,
    PageRegistry.resolve?_of_isSome registered, Option.bind_eq_bind, Option.bind_some,
    Option.pure_def, Option.some.injEq, exists_eq_left']
  refine ⟨reference, rfl, ?_⟩
  simp only [← List.cons_append, reference, isSome_filter_encode, rest]
  simpa using Params.equiv_refl t.params

/-- Every mapper reads the URL it wrote for a target back: the reference when its token could be
written, the class and the same parameters, under the conditions of the round trip. -/
theorem read_urlOf {m : Mapper} {u : Url} (query : m.encoding = .query)
    (compiled : ∀ tp ∈ m.template?, ∃ path, Template.compile path = .ok tp)
    (served : m.serves ctx t.cls = true) (wrote : urlOf ctx t m = some u)
    (noToken : t.ref.bind PageRef.encode = none → ∀ kv ∈ u.query.head?, kv.2 = "" →
      PageRef.decode kv.1 = none)
    (filled : ∀ tp ∈ m.template?, ∀ kv ∈ t.params.named,
      kv.1 ∈ Template.names tp.parts → kv.2 ≠ "")
    (reads : ∀ tp ∈ m.template?, tp.ReadsBack t.params ctx.settings.caseSensitive u.segments)
    (simple : ∀ pm, m = .package pm →
      t.cls.simpleName ≠ "" ∧ (t.cls.package = "" → '.' ∉ t.cls.name.toList))
    (first : u.segments.head? ≠ some "") (last : u.segments.getLast? ≠ some "")
    (home : ∀ mount, m = .home mount → u.segments = []) :
    ∃ t', m.read ctx (Url.parse c (u.render c)) = some t' ∧ t.ReadsBackAs t' := by
  cases m with
  | bookmarkable encoding =>
    simp only [urlOf, Option.some.injEq] at wrote
    subst wrote
    change encoding = .query at query
    subst query
    rw [parse_render_finishUrl lawful first last named]
    exact bookmarkable_read_written named (by simpa [serves] using served)
      fun unwritten => by simpa [finishUrl_query_head? unwritten] using noToken unwritten
  | mounted mnt =>
    obtain ⟨parsed, t', reading, back⟩ := Mount.read_urlOf lawful single named query
      (compiled _ rfl) (by simpa [serves] using served) wrote noToken (filled _ rfl) (reads _ rfl)
      first last
    rw [parsed]
    exact ⟨t', by simp [read, Mount.redirectsHome_of_read reading, reading], back⟩
  | package pm =>
    simp only [serves, Bool.and_eq_true, beq_iff_eq] at served
    obtain ⟨nonempty, qualified⟩ := simple pm rfl
    obtain ⟨parsed, reading⟩ := PackageMount.read_urlOf lawful single named query
      (compiled _ rfl) served.1 served.2 nonempty qualified wrote noToken (filled _ rfl)
      (reads _ rfl) first last
    rw [parsed]
    exact reading
  | home mnt =>
    -- the home mapper writes as a mount does, and reads only the empty path
    obtain ⟨parsed, t', reading, back⟩ := Mount.read_urlOf lawful single named query
      (compiled _ rfl) (by simpa [serves] using served) wrote noToken (filled _ rfl) (reads _ rfl)
      first last
    rw [parsed]
    exact ⟨t', by simp [read, home mnt rfl, reading], back⟩

end Reading

/-! ## What the request resolves to -/

theorem targetOf_existing {ctx : Context} {m : Mapper} {page : Page} {t : Target}
    (target : targetOf ctx m (.render (.existing page)) = some t) :
    t = ⟨some { pageId := addressableId page }, page.cls, page.params⟩ := by
  cases m
  case bookmarkable encoding =>
    simp only [targetOf] at target
    split at target
    · exact (Option.some.inj target).symm
    · cases target
  all_goals
    simp only [targetOf, Option.some.injEq] at target
    exact target.symm

/-- A listener call has a target only on a stored stateful page and with exactly its listener
registered; the target's reference names the page, the listener and the page's render count when
the listener asks for it. -/
theorem targetOf_listener {ctx : Context} {m : Mapper} {call : ListenerCall} {t : Target}
    (target : targetOf ctx m (.listener call) = some t) :
    ∃ page, call.provider = .existing page ∧ page.stateless = false ∧
      ctx.listeners.byName? call.listener.name = some call.listener ∧
      t = ⟨some { pageId := some page.id,
                  component := some (
                    { renderCount :=
                        if call.listener.includeRenderCount then some page.renderCount else none,
                      listener := call.listener.name, behaviorIndex := call.behaviorIndex,
                      componentPath := call.componentPath }) }, page.cls, page.params⟩ := by
  simp only [targetOf] at target
  split at target
  · cases target
  · rename_i page provider
    simp only [Option.bind_eq_bind, Option.bind_eq_some_iff, Option.pure_def,
      Option.some.injEq] at target
    obtain ⟨id, stateful, name, named, rfl⟩ := target
    simp only [addressableId] at stateful
    split at stateful
    · cases stateful
    · rename_i notStateless
      obtain ⟨found, rfl⟩ := ListenerTable.byName?_of_nameOf? named
      cases stateful
      exact ⟨page, provider, by simpa using notStateless, found, rfl⟩

theorem targetOf_cls_params {ctx : Context} {m : Mapper} {h : Handler} {t : Target}
    (target : targetOf ctx m h = some t) : t.cls = h.pageClass ∧ t.params = h.params := by
  cases h with
  | bookmarkable cls params =>
    simp only [targetOf, Option.some.injEq] at target
    subst target
    exact ⟨rfl, rfl⟩
  | render provider =>
    cases provider with
    | existing page =>
      rw [targetOf_existing target]
      exact ⟨rfl, rfl⟩
    | fresh cls params =>
      simp only [targetOf, Option.some.injEq] at target
      subst target
      exact ⟨rfl, rfl⟩
  | listener call =>
    obtain ⟨page, provider, -, -, rfl⟩ := targetOf_listener target
    simp [Handler.pageClass, Handler.params, provider, Provider.cls, Provider.params]

/-- A handler's target carries a written token exactly when the handler carries one, when its
listener token can be written. -/
theorem targetOf_token {ctx : Context} {m : Mapper} {h : Handler} {t : Target}
    (target : targetOf ctx m h = some t) (writable : ∀ call, h = .listener call → call.Writable) :
    (t.ref.bind PageRef.encode).isSome = h.carriesToken := by
  cases h with
  | bookmarkable cls params =>
    simp only [targetOf, Option.some.injEq] at target
    subst target
    rfl
  | render provider =>
    cases provider with
    | fresh cls params =>
      simp only [targetOf, Option.some.injEq] at target
      subst target
      rfl
    | existing page =>
      -- a stateful page is referenced by its id alone, a stateless one not at all
      rw [targetOf_existing target]
      by_cases stateless : page.stateless <;>
        simp [addressableId, stateless, PageRef.encode, Handler.carriesToken]
  | listener call =>
    obtain ⟨page, -, -, -, rfl⟩ := targetOf_listener target
    have w := writable call rfl
    simp only [Option.bind_some, Handler.carriesToken]
    exact (PageRef.encode_isSome_iff _).2 ⟨rfl, fun l member => by
      cases member
      exact ⟨w.name, w.path_ne, w.no_tilde⟩⟩

/-- A request whose URL a mapper read back as a handler's target resolves to what the handler's
URL stands for, when the handler's stored page is in the page store and its listener token could
be written. -/
theorem mapRequest_of_read {m : Mapper} {ctx : Context} {h : Handler} {t t' : Target} {v : Url}
    (target : targetOf ctx m h = some t) (read : m.read ctx v = some t') (back : t.ReadsBackAs t')
    (stored : ∀ page, h.provider? = some (.existing page) → ctx.pages page.id = some page)
    (writable : ∀ call, h = .listener call → call.Writable) :
    ∃ h', m.mapRequest ctx v = .ok (some h') ∧ h'.same h.requested = true := by
  obtain ⟨ref, cls, params⟩ := t'
  obtain ⟨backRef, backCls, backParams⟩ := back
  simp only at backRef backCls backParams
  subst backRef backCls
  -- without a written token the request renders a fresh page of the class read
  have fresh (unwritten : t.ref.bind PageRef.encode = none) :
      m.mapRequest ctx v = .ok (some (.render (.fresh t.cls params))) := by
    have noRef : (t.ref.filter fun r => (PageRef.encode r).isSome) = none := by
      cases reference : t.ref <;> simp_all
    simp [mapRequest, read, noRef]
  cases h with
  | bookmarkable c p =>
    simp only [targetOf, Option.some.injEq] at target
    subst target
    exact ⟨_, fresh rfl, by simp [Handler.same, Handler.requested, Provider.same, backParams]⟩
  | render provider =>
    cases provider with
    | fresh c p =>
      simp only [targetOf, Option.some.injEq] at target
      subst target
      exact ⟨_, fresh rfl, by simp [Handler.same, Handler.requested, Provider.same, backParams]⟩
    | existing page =>
      obtain rfl := targetOf_existing target
      by_cases stateless : page.stateless
      · -- a stateless page is not referenced, so its URL renders a fresh page
        refine ⟨_, fresh (by simp [addressableId, stateless, PageRef.encode]), ?_⟩
        simp [Handler.same, Handler.requested, stateless, Provider.same, backParams]
      · -- a stateful page is referenced by its id and found in the store
        have found : storedPage ctx page.id page.cls = some page := by
          simp [storedPage, stored page rfl]
        have same : page.params.equiv params = true := by
          rw [Params.equiv_comm]
          exact backParams
        refine ⟨.render (.existing page), ?_, ?_⟩
        · simp [mapRequest, read, addressableId, stateless, PageRef.encode, Option.filter,
            renderStored, found, same]
        · simp [Handler.requested, stateless, Handler.same_refl]
  | listener call =>
    obtain ⟨page, provider, stateful, registered, rfl⟩ := targetOf_listener target
    have found : storedPage ctx page.id page.cls = some page := by
      simp [storedPage, stored page (by simp [Handler.provider?, provider])]
    have written := targetOf_token target writable
    simp only [Option.bind_some, Handler.carriesToken] at written
    -- the token is read back, so the request invokes the listener on the page of that id
    have invoked : m.mapRequest ctx v = invoke ctx (some page.id)
        { renderCount := if call.listener.includeRenderCount then some page.renderCount else none,
          listener := call.listener.name, behaviorIndex := call.behaviorIndex,
          componentPath := call.componentPath } page.cls params := by
      simp [mapRequest, read, Option.filter, written]
    rw [invoked]
    refine ⟨.listener (
      { provider := .existing page, componentPath := call.componentPath, listener := call.listener,
        behaviorIndex := call.behaviorIndex,
        renderCount := if call.listener.includeRenderCount then some page.renderCount else none }),
      ?_, ?_⟩
    · -- a render count in the token is the stored page's own, so the call is not stale
      cases asks : call.listener.includeRenderCount <;> simp [invoke, registered, found]
    · simp [Handler.same, Handler.requested, provider, Provider.same, Page.same,
        Params.equiv_refl]

/-! ## The round trip -/

/-- A request for the URL a mapper writes for a handler resolves to what that URL stands for
(`Handler.requested`), for every mapper writing its parameters in the query encoding and every
lawful codec, when the handler's parameters give each name at most one value and its stored page
is in the page store, and under the conditions that reading forces, each with a handler that fails
without it:
* a listener call's token can be written (`unwritable_listener_renders_fresh_page`);
* no named value has an empty name (`empty_name_is_dropped`);
* when the handler carries no token, the URL's first query parameter is not one without a value
  whose name reads as a token (`tokenlike_first_parameter_is_read_as_token`);
* no placeholder value is empty (`empty_optional_value_is_dropped`);
* the template's segments read back, as `Template.ReadsBack` says
  (`later_optional_value_moves_forward`, `literal_value_hides_literal`,
  `indexed_value_fills_optional_placeholder`);
* a package mount's class is found by its simple name (`empty_simple_name_is_not_read`,
  `dotted_name_outside_packages_is_not_found`);
* the URL's first and last segments are not empty (`empty_first_segment_is_trimmed`,
  `empty_last_segment_is_trimmed`);
* a home mapper's URL has no segments (`home_drops_indexed_link`).
The templates are those that mount paths compile to, as every mapper's is. -/
theorem mapRequest_mapHandler {c : PercentCodec} (lawful : c.Lawful) {m : Mapper} {ctx : Context}
    {h : Handler} {u : Url}
    (query : m.encoding = .query)
    (compiled : ∀ t ∈ m.template?, ∃ path, Template.compile path = .ok t)
    (mapped : m.mapHandler ctx h = some u)
    (single : ∀ key, (h.params.values key).length ≤ 1)
    (stored : ∀ page, h.provider? = some (.existing page) → ctx.pages page.id = some page)
    (writable : ∀ call, h = .listener call → call.Writable)
    (named : ∀ kv ∈ h.params.named, kv.1 ≠ "")
    (noToken : h.carriesToken = false → ∀ kv ∈ u.query.head?, kv.2 = "" →
      PageRef.decode kv.1 = none)
    (filled : ∀ t ∈ m.template?, ∀ kv ∈ h.params.named,
      kv.1 ∈ Template.names t.parts → kv.2 ≠ "")
    (reads : ∀ t ∈ m.template?, t.ReadsBack h.params ctx.settings.caseSensitive u.segments)
    (simple : ∀ p, m = .package p →
      h.pageClass.simpleName ≠ "" ∧ (h.pageClass.package = "" → '.' ∉ h.pageClass.name.toList))
    (first : u.segments.head? ≠ some "") (last : u.segments.getLast? ≠ some "")
    (home : ∀ mount, m = .home mount → u.segments = []) :
    ∃ h', m.mapRequest ctx (Url.parse c (u.render c)) = .ok (some h') ∧
      h'.same h.requested = true := by
  simp only [mapHandler] at mapped
  split at mapped
  · rename_i served
    obtain ⟨t, target, wrote⟩ := Option.bind_eq_some_iff.1 mapped
    obtain ⟨cls, params⟩ := targetOf_cls_params target
    -- a target without a written token is one of a handler that carries none
    have unwritten : t.ref.bind PageRef.encode = none → ∀ kv ∈ u.query.head?, kv.2 = "" →
        PageRef.decode kv.1 = none := by
      intro none
      have carries := targetOf_token target writable
      rw [none] at carries
      exact noToken carries.symm
    rw [← cls] at served simple
    rw [← params] at single named filled reads
    obtain ⟨t', reading, back⟩ := read_urlOf lawful single named query compiled served wrote
      unwritten filled reads simple first last home
    exact mapRequest_of_read target reading back stored writable
  · cases mapped

/-- A listener call on a stored page through a mounted mapper: the page's id, its render count
and the listener travel in the token, the placeholder's value in the path and the other named
value in the query, and the call comes back. -/
theorem listener_call_through_mount :
    ∃ h', (mounted
        { template := ⟨[.literal "shop", .required "item"]⟩,
          cls := ⟨"org.example.ShopPage"⟩ }).mapRequest
        { pages := fun id => if id = 7 then
            some
              { id := 7, cls := ⟨"org.example.ShopPage"⟩,
                params := ⟨[], [("item", "42"), ("sort", "asc")]⟩, renderCount := 3 }
            else none,
          listeners := ⟨[⟨"onClick", true⟩]⟩ }
        (Url.parse Percent.standard (Url.render Percent.standard
          ⟨["shop", "42"], [("7-3.onClick-form-submit", ""), ("sort", "asc")]⟩)) =
        .ok (some h') ∧
      h'.same (Handler.listener
        { provider := .existing
            { id := 7, cls := ⟨"org.example.ShopPage"⟩,
              params := ⟨[], [("item", "42"), ("sort", "asc")]⟩, renderCount := 3 },
          componentPath := "form:submit",
          listener := ⟨"onClick", true⟩ }).requested = true :=
  mapRequest_mapHandler Percent.standard_lawful (by rfl)
    (fun t member => ⟨"/shop/${item}", by cases member; rfl⟩)
    (by decide) ((Params.named_keys_nodup_iff _).1 (by decide))
    (fun page provided => by cases provided; rfl) (fun call listens => by
      cases listens
      exact ⟨by decide, by decide, by decide⟩)
    (by decide) (fun carries => by cases carries) (fun t member => by cases member; decide)
    (fun t member => by
      cases member
      refine ⟨by unfold Template.OptionalsFirst; decide, ?_, by decide⟩
      simp [Template.LiteralsUnmatched, Template.groups, Group.ofParts, Group.collect,
        Group.maxCount, Template.present, Template.slice])
    (fun p mounted => by cases mounted) (by decide) (by decide)
    (fun mount mounted => by cases mounted)

/-- The home mapper writes indexed values as segments but answers only the empty path: a link to
the home page with one indexed value gets a URL, and no handler comes back for it. -/
theorem home_drops_indexed_link :
    (homeOf ⟨"org.example.MockPage"⟩).mapHandler {}
        (.bookmarkable ⟨"org.example.MockPage"⟩ ⟨["x"], []⟩) = some ⟨["x"], []⟩ ∧
      (homeOf ⟨"org.example.MockPage"⟩).mapRequest {}
        (Url.parse Percent.standard (Url.render Percent.standard ⟨["x"], []⟩)) = .ok none := by
  refine ⟨by decide, ?_⟩
  rw [Url.parse_render Percent.standard_lawful (by decide) (by decide) (by decide)]
  rfl

/-- A listener call whose component path is empty has no token to write: the mounted mapper still
writes a URL, without the token, and a request for it renders a fresh page instead of calling
the listener. -/
theorem unwritable_listener_renders_fresh_page :
    (mounted { template := ⟨[.literal "shop"]⟩, cls := ⟨"org.example.ShopPage"⟩ }).mapHandler
        { pages := fun id => if id = 7 then
            some { id := 7, cls := ⟨"org.example.ShopPage"⟩, params := ⟨[], [("sort", "asc")]⟩,
                   renderCount := 3 }
            else none,
          listeners := ⟨[⟨"onClick", true⟩]⟩ }
        (.listener
          { provider := .existing
              { id := 7, cls := ⟨"org.example.ShopPage"⟩, params := ⟨[], [("sort", "asc")]⟩,
                renderCount := 3 },
            componentPath := "", listener := ⟨"onClick", true⟩ }) =
      some ⟨["shop"], [("sort", "asc")]⟩ ∧
    (mounted { template := ⟨[.literal "shop"]⟩, cls := ⟨"org.example.ShopPage"⟩ }).mapRequest
        { pages := fun id => if id = 7 then
            some { id := 7, cls := ⟨"org.example.ShopPage"⟩, params := ⟨[], [("sort", "asc")]⟩,
                   renderCount := 3 }
            else none,
          listeners := ⟨[⟨"onClick", true⟩]⟩ }
        (Url.parse Percent.standard (Url.render Percent.standard ⟨["shop"], [("sort", "asc")]⟩)) =
      .ok (some (.render (.fresh ⟨"org.example.ShopPage"⟩ ⟨[], [("sort", "asc")]⟩))) := by
  have matched : Template.matchWidths ⟨[.literal "shop"]⟩ ["shop"] true = some [1, 0] := by
    simp [Template.matchWidths, Template.groups, Group.ofParts, Group.collect, Template.widthsFrom,
      Template.literalOffset, Template.searchBack, Template.segmentMatches, Group.maxCount]
  refine ⟨by decide, ?_⟩
  rw [Url.parse_render Percent.standard_lawful (by decide) (by decide) (by decide)]
  simp only [mapRequest, read, Mount.read, Mount.redirectsHome]
  simp [matched]
  rfl

/-- Reading drops a query parameter with an empty name. -/
theorem empty_name_is_dropped :
    (bookmarkable .query).mapHandler { registry := ⟨["org.example.ShopPage"]⟩ }
        (.bookmarkable ⟨"org.example.ShopPage"⟩ ⟨[], [("", "v")]⟩) =
      some ⟨["wicket", "bookmarkable", "org.example.ShopPage"], [("", "v")]⟩ ∧
    (bookmarkable .query).mapRequest { registry := ⟨["org.example.ShopPage"]⟩ }
        (Url.parse Percent.standard (Url.render Percent.standard
          ⟨["wicket", "bookmarkable", "org.example.ShopPage"], [("", "v")]⟩)) =
      .ok (some (.render (.fresh ⟨"org.example.ShopPage"⟩ ⟨[], []⟩))) :=
  ⟨by decide, rfl⟩

/-- A first query parameter without a value whose name reads as a token is taken for one: the
named value `5` of a bookmarkable link becomes a reference to page 5, and is lost. -/
theorem tokenlike_first_parameter_is_read_as_token :
    (bookmarkable .query).mapHandler { registry := ⟨["org.example.ShopPage"]⟩ }
        (.bookmarkable ⟨"org.example.ShopPage"⟩ ⟨[], [("5", "")]⟩) =
      some ⟨["wicket", "bookmarkable", "org.example.ShopPage"], [("5", "")]⟩ ∧
    (bookmarkable .query).mapRequest { registry := ⟨["org.example.ShopPage"]⟩ }
        (Url.parse Percent.standard (Url.render Percent.standard
          ⟨["wicket", "bookmarkable", "org.example.ShopPage"], [("5", "")]⟩)) =
      .ok (some (.render (.fresh ⟨"org.example.ShopPage"⟩ ⟨[], []⟩))) :=
  ⟨by decide, rfl⟩

/-- An optional placeholder with an empty value writes nothing, and its value is not read back. -/
theorem empty_optional_value_is_dropped :
    (mounted
        { template := ⟨[.literal "shop", .optional "sort"]⟩,
          cls := ⟨"org.example.ShopPage"⟩ }).mapHandler {}
        (.bookmarkable ⟨"org.example.ShopPage"⟩ ⟨[], [("sort", "")]⟩) = some ⟨["shop"], []⟩ ∧
    (mounted
        { template := ⟨[.literal "shop", .optional "sort"]⟩,
          cls := ⟨"org.example.ShopPage"⟩ }).mapRequest {}
        (Url.parse Percent.standard (Url.render Percent.standard ⟨["shop"], []⟩)) =
      .ok (some (.render (.fresh ⟨"org.example.ShopPage"⟩ ⟨[], []⟩))) := by
  have matched :
      Template.matchWidths ⟨[.literal "shop", .optional "sort"]⟩ ["shop"] true = some [1, 0] := by
    simp [Template.matchWidths, Template.groups, Group.ofParts, Group.collect, Template.widthsFrom,
      Template.literalOffset, Template.searchBack, Template.segmentMatches, Group.maxCount]
  refine ⟨by decide, ?_⟩
  rw [Url.parse_render Percent.standard_lawful (by decide) (by decide) (by decide)]
  simp only [mapRequest, read, Mount.read, Mount.redirectsHome]
  simp [matched]
  rfl

/-- Optional values are read from the left: the value of the second of two optional placeholders,
written alone, comes back as the first one's. -/
theorem later_optional_value_moves_forward :
    (mounted
        { template := ⟨[.literal "shop", .optional "a", .optional "b"]⟩,
          cls := ⟨"org.example.ShopPage"⟩ }).mapHandler {}
        (.bookmarkable ⟨"org.example.ShopPage"⟩ ⟨[], [("b", "v")]⟩) = some ⟨["shop", "v"], []⟩ ∧
    (mounted
        { template := ⟨[.literal "shop", .optional "a", .optional "b"]⟩,
          cls := ⟨"org.example.ShopPage"⟩ }).mapRequest {}
        (Url.parse Percent.standard (Url.render Percent.standard ⟨["shop", "v"], []⟩)) =
      .ok (some (.render (.fresh ⟨"org.example.ShopPage"⟩ ⟨[], [("a", "v")]⟩))) := by
  have matched : Template.matchWidths ⟨[.literal "shop", .optional "a", .optional "b"]⟩
      ["shop", "v"] true = some [1, 1] := by
    simp [Template.matchWidths, Template.groups, Group.ofParts, Group.collect, Template.widthsFrom,
      Template.literalOffset, Template.searchBack, Template.segmentMatches, Group.maxCount]
  refine ⟨by decide, ?_⟩
  rw [Url.parse_render Percent.standard_lawful (by decide) (by decide) (by decide)]
  simp only [mapRequest, read, Mount.read, Mount.redirectsHome]
  simp [matched]
  rfl

/-- A value equal to the literal after an absent optional placeholder is taken for that literal,
and the required placeholder after it then finds no segment: the URL is not read. -/
theorem literal_value_hides_literal :
    (mounted
        { template := ⟨[.literal "p", .optional "x", .literal "a", .required "y"]⟩,
          cls := ⟨"org.example.ShopPage"⟩ }).mapHandler {}
        (.bookmarkable ⟨"org.example.ShopPage"⟩ ⟨[], [("y", "a")]⟩) = some ⟨["p", "a", "a"], []⟩ ∧
    (mounted
        { template := ⟨[.literal "p", .optional "x", .literal "a", .required "y"]⟩,
          cls := ⟨"org.example.ShopPage"⟩ }).mapRequest {}
        (Url.parse Percent.standard (Url.render Percent.standard ⟨["p", "a", "a"], []⟩)) =
      .ok none := by
  have unmatched : Template.matchWidths ⟨[.literal "p", .optional "x", .literal "a", .required "y"]⟩
      ["p", "a", "a"] true = none := by
    simp [Template.matchWidths, Template.groups, Group.ofParts, Group.collect, Template.widthsFrom,
      Template.literalOffset, Template.searchBack, Template.segmentMatches]
  refine ⟨by decide, ?_⟩
  rw [Url.parse_render Percent.standard_lawful (by decide) (by decide) (by decide)]
  simp only [mapRequest, read, Mount.read, Mount.redirectsHome]
  simp [unmatched]

/-- An indexed value after an absent optional placeholder is read as that placeholder's value. -/
theorem indexed_value_fills_optional_placeholder :
    (mounted
        { template := ⟨[.literal "shop", .optional "sort"]⟩,
          cls := ⟨"org.example.ShopPage"⟩ }).mapHandler {}
        (.bookmarkable ⟨"org.example.ShopPage"⟩ ⟨["v"], []⟩) = some ⟨["shop", "v"], []⟩ ∧
    (mounted
        { template := ⟨[.literal "shop", .optional "sort"]⟩,
          cls := ⟨"org.example.ShopPage"⟩ }).mapRequest {}
        (Url.parse Percent.standard (Url.render Percent.standard ⟨["shop", "v"], []⟩)) =
      .ok (some (.render (.fresh ⟨"org.example.ShopPage"⟩ ⟨[], [("sort", "v")]⟩))) := by
  have matched : Template.matchWidths ⟨[.literal "shop", .optional "sort"]⟩
      ["shop", "v"] true = some [1, 1] := by
    simp [Template.matchWidths, Template.groups, Group.ofParts, Group.collect, Template.widthsFrom,
      Template.literalOffset, Template.searchBack, Template.segmentMatches, Group.maxCount]
  refine ⟨by decide, ?_⟩
  rw [Url.parse_render Percent.standard_lawful (by decide) (by decide) (by decide)]
  simp only [mapRequest, read, Mount.read, Mount.redirectsHome]
  simp [matched]
  rfl

/-- A package mount writes a class's simple name as a segment, and reads no class from an empty
one: a class whose name ends with `.` gets a URL that is not read. -/
theorem empty_simple_name_is_not_read :
    (package { template := ⟨[.literal "pages"]⟩, package := "org.example" }).mapHandler
        { registry := ⟨["org.example."]⟩ } (.bookmarkable ⟨"org.example."⟩ ⟨["v"], []⟩) =
      some ⟨["pages", "", "v"], []⟩ ∧
    (package { template := ⟨[.literal "pages"]⟩, package := "org.example" }).mapRequest
        { registry := ⟨["org.example."]⟩ }
        (Url.parse Percent.standard (Url.render Percent.standard ⟨["pages", "", "v"], []⟩)) =
      .ok none := by
  have matched :
      Template.matchWidths ⟨[.literal "pages"]⟩ ["pages", "", "v"] true = some [1, 0] := by
    simp [Template.matchWidths, Template.groups, Group.ofParts, Group.collect, Template.widthsFrom,
      Template.literalOffset, Template.searchBack, Template.segmentMatches, Group.maxCount]
  refine ⟨by decide, ?_⟩
  rw [Url.parse_render Percent.standard_lawful (by decide) (by decide) (by decide)]
  simp only [mapRequest, read, PackageMount.read]
  simp [matched]

/-- In the empty package a class is found by its simple name alone: a class `.Foo` is written as
`Foo`, which names no registered class. -/
theorem dotted_name_outside_packages_is_not_found :
    (package { template := ⟨[.literal "pages"]⟩, package := "" }).mapHandler
        { registry := ⟨[".Foo"]⟩ } (.bookmarkable ⟨".Foo"⟩ ⟨[], []⟩) =
      some ⟨["pages", "Foo"], []⟩ ∧
    (package { template := ⟨[.literal "pages"]⟩, package := "" }).mapRequest
        { registry := ⟨[".Foo"]⟩ }
        (Url.parse Percent.standard (Url.render Percent.standard ⟨["pages", "Foo"], []⟩)) =
      .ok none := by
  have matched : Template.matchWidths ⟨[.literal "pages"]⟩ ["pages", "Foo"] true = some [1, 0] := by
    simp [Template.matchWidths, Template.groups, Group.ofParts, Group.collect, Template.widthsFrom,
      Template.literalOffset, Template.searchBack, Template.segmentMatches, Group.maxCount]
  refine ⟨by decide, ?_⟩
  rw [Url.parse_render Percent.standard_lawful (by decide) (by decide) (by decide)]
  simp only [mapRequest, read, PackageMount.read]
  simp [matched]
  rfl

/-- Reading drops the leading slash a first empty segment writes. -/
theorem empty_first_segment_is_trimmed :
    (mounted { template := ⟨[]⟩, cls := ⟨"org.example.ShopPage"⟩ }).mapHandler {}
        (.bookmarkable ⟨"org.example.ShopPage"⟩ ⟨["", "x"], []⟩) = some ⟨["", "x"], []⟩ ∧
    (mounted { template := ⟨[]⟩, cls := ⟨"org.example.ShopPage"⟩ }).mapRequest {}
        (Url.parse Percent.standard (Url.render Percent.standard ⟨["", "x"], []⟩)) =
      .ok (some (.render (.fresh ⟨"org.example.ShopPage"⟩ ⟨["x"], []⟩))) := by
  have parsed :
      Url.parse Percent.standard (Url.render Percent.standard ⟨["", "x"], []⟩) = ⟨["x"], []⟩ := rfl
  have matched : Template.matchWidths ⟨[]⟩ ["x"] true = some [0] := by
    simp [Template.matchWidths, Template.groups, Group.ofParts, Group.collect, Template.widthsFrom,
      Group.maxCount]
  refine ⟨by decide, ?_⟩
  rw [parsed]
  simp only [mapRequest, read, Mount.read, Mount.redirectsHome]
  simp [matched]
  rfl

/-- Reading drops the trailing slash a last empty segment writes. -/
theorem empty_last_segment_is_trimmed :
    (bookmarkable .query).mapHandler { registry := ⟨["org.example.ShopPage"]⟩ }
        (.bookmarkable ⟨"org.example.ShopPage"⟩ ⟨["x", ""], []⟩) =
      some ⟨["wicket", "bookmarkable", "org.example.ShopPage", "x", ""], []⟩ ∧
    (bookmarkable .query).mapRequest { registry := ⟨["org.example.ShopPage"]⟩ }
        (Url.parse Percent.standard (Url.render Percent.standard
          ⟨["wicket", "bookmarkable", "org.example.ShopPage", "x", ""], []⟩)) =
      .ok (some (.render (.fresh ⟨"org.example.ShopPage"⟩ ⟨["x"], []⟩))) :=
  ⟨by decide, rfl⟩

end Mapper

end PageRoutes
