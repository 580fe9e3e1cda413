import Mathlib
import PageRoutes.Mapper.Request
/-!
# What a request resolves to

A mapper that claims a request reads a target from it: the page reference token first in the
query, the page class and the page parameters. The token then decides the handler
(`mapRequest_cases`): a listener token invokes the listener, a token with only a page id renders
the stored page, and a request without a token renders a fresh page.

Two facts follow, for every mapper and every request.

* A handler never carries a page the request did not name (`mapRequest_binds_page`): a stored
  page is the one the token names, found under that id and of the class read; it is rendered only
  with the parameters read, and a listener is invoked on it only when the token names a registered
  listener and the page's own render, if any. A fresh page is built from the class and the
  parameters read.
* The errors are exactly two (`mapRequest_errors_exactly`): an expired page, when the page is gone
  and may not be rebuilt, and a stale page, when a listener token names an earlier render. A
  listener that is not registered answers no handler before either is checked.

Both rest on one spec lemma per step of the resolution: `storedPage`, `rebuild`, `renderStored`
and `invoke`.
-/
namespace PageRoutes

/-- A page source that looks pages up by id: the page it gives for an id has that id. -/
def Context.PagesById (ctx : Context) : Prop :=
  ∀ id page, ctx.pages id = some page → page.id = id

/-- A page store gives the page stored under an id. -/
theorem PageStore.id_of_get? {s : PageStore} {id : UInt32} {page : Page}
    (found : s.get? id = some page) : page.id = id := by
  simpa using List.find?_some found

/-- The page reference a URL carries is the name of its first query parameter, which has no
value. -/
theorem PageRef.ofUrl_eq_some {u : Url} {r : PageRef} (carried : PageRef.ofUrl u = some r) :
    ∃ name rest, u.query = (name, "") :: rest ∧ PageRef.decode name = some r := by
  unfold PageRef.ofUrl at carried
  split at carried
  · rename_i name value rest query
    split at carried
    · rename_i empty
      exact ⟨name, rest, by rw [query, String.isEmpty_iff.1 empty], carried⟩
    · cases carried
  · cases carried

namespace Mapper

/-! ## Steps of the resolution -/

theorem storedPage_eq_some_iff {ctx : Context} {id : UInt32} {cls : PageClass} {page : Page} :
    storedPage ctx id cls = some page ↔ ctx.pages id = some page ∧ page.cls = cls := by
  simp [storedPage, Option.filter_eq_some_iff]

theorem storedPage_eq_none_iff {ctx : Context} {id : UInt32} {cls : PageClass} :
    storedPage ctx id cls = none ↔ ∀ page, ctx.pages id = some page → page.cls ≠ cls := by
  simp [storedPage, Option.filter_eq_none_iff]

theorem rebuild_eq_ok_iff {ctx : Context} {id : UInt32} {cls : PageClass} {params : Params}
    {provider : Provider} :
    rebuild ctx id cls params = .ok provider ↔
      ctx.settings.recreateMountedPagesAfterExpiry = true ∧ provider = .fresh cls params := by
  unfold rebuild
  split
  · rename_i recreate
    simp [recreate, eq_comm]
  · rename_i keep
    simp [keep]

theorem rebuild_eq_error_iff {ctx : Context} {id : UInt32} {cls : PageClass} {params : Params}
    {e : MapError} :
    rebuild ctx id cls params = .error e ↔
      ctx.settings.recreateMountedPagesAfterExpiry = false ∧ e = .expired id := by
  unfold rebuild
  split
  · rename_i recreate
    simp [recreate]
  · rename_i keep
    simp [keep, eq_comm]

/-- A token with a page id and no listener fails only for a page that is gone and may not be
rebuilt. -/
theorem renderStored_eq_error_iff {ctx : Context} {id : UInt32} {cls : PageClass} {params : Params}
    {e : MapError} :
    renderStored ctx id cls params = .error e ↔
      storedPage ctx id cls = none ∧ ctx.settings.recreateMountedPagesAfterExpiry = false ∧
        e = .expired id := by
  unfold renderStored
  split
  · rename_i found
    simp [found]
  · rename_i missing
    cases rebuilt : rebuild ctx id cls params with
    | error e' =>
      obtain ⟨keep, rfl⟩ := rebuild_eq_error_iff.1 rebuilt
      simp [Functor.map, Except.map, keep, missing, eq_comm (b := e)]
    | ok provider =>
      obtain ⟨recreate, -⟩ := rebuild_eq_ok_iff.1 rebuilt
      simp [Functor.map, Except.map, recreate]

/-- A token with a page id and no listener renders the stored page of the class only when it has
the parameters read, and a fresh page of the class and parameters otherwise. -/
theorem renderStored_eq_ok {ctx : Context} {id : UInt32} {cls : PageClass} {params : Params}
    {h : Handler} (rendered : renderStored ctx id cls params = .ok h) :
    (∃ page, storedPage ctx id cls = some page ∧ page.params.equiv params = true ∧
        h = .render (.existing page)) ∨
      h = .render (.fresh cls params) := by
  unfold renderStored at rendered
  split at rendered
  · rename_i page found
    simp only [Except.ok.injEq] at rendered
    subst rendered
    by_cases same : page.params.equiv params = true
    · exact .inl ⟨page, found, same, by simp [same]⟩
    · exact .inr (by simp [same])
  · cases rebuilt : rebuild ctx id cls params with
    | error e => simp [rebuilt, Functor.map, Except.map] at rendered
    | ok provider =>
      obtain ⟨-, rfl⟩ := rebuild_eq_ok_iff.1 rebuilt
      simp only [rebuilt, Functor.map, Except.map, Except.ok.injEq] at rendered
      exact .inr rendered.symm

/-- A listener token fails only for a registered listener on a page id: the page is gone and may
not be rebuilt, or the token carries a render count other than the stored page's. -/
theorem invoke_eq_error_iff {ctx : Context} {pageId : Option UInt32} {l : ListenerRef}
    {cls : PageClass} {params : Params} {e : MapError} :
    invoke ctx pageId l cls params = .error e ↔
      (ctx.listeners.byName? l.listener).isSome ∧ ∃ id, pageId = some id ∧
        ((storedPage ctx id cls = none ∧ ctx.settings.recreateMountedPagesAfterExpiry = false ∧
            e = .expired id) ∨
          ∃ page rc, storedPage ctx id cls = some page ∧ l.renderCount = some rc ∧
            rc ≠ page.renderCount ∧ e = .stale id rc page.renderCount) := by
  unfold invoke
  cases registered : ctx.listeners.byName? l.listener with
  | none => simp
  | some listener =>
    cases pageId with
    | none => simp [bind, Except.bind, pure, Except.pure]
    | some id =>
      cases found : storedPage ctx id cls with
      | none =>
        cases recreate : ctx.settings.recreateMountedPagesAfterExpiry <;>
          simp [found, rebuild, recreate, bind, Except.bind, pure, Except.pure, eq_comm (b := e)]
      | some page =>
        cases count : l.renderCount with
        | none => simp [found, bind, Except.bind, pure, Except.pure]
        | some rc =>
          by_cases same : rc = page.renderCount <;>
            simp [found, same, bind, Except.bind, pure, Except.pure, eq_comm (b := e)]

/-- A listener token answers only for a registered listener, with the stored page of the class
when the token has no render count or the page's own, and a fresh page when there is none. -/
theorem invoke_eq_ok_some {ctx : Context} {pageId : Option UInt32} {l : ListenerRef}
    {cls : PageClass} {params : Params} {h : Handler}
    (invoked : invoke ctx pageId l cls params = .ok (some h)) :
    (ctx.listeners.byName? l.listener).isSome ∧ ∃ call, h = .listener call ∧
      ((∃ id page, pageId = some id ∧ storedPage ctx id cls = some page ∧
          (l.renderCount = none ∨ l.renderCount = some page.renderCount) ∧
          call.provider = .existing page) ∨
        call.provider = .fresh cls params) := by
  revert invoked
  unfold invoke
  cases registered : ctx.listeners.byName? l.listener with
  | none => simp
  | some listener =>
    simp only [Option.isSome_some, true_and]
    cases pageId with
    | none =>
      simp only [bind, Except.bind, pure, Except.pure, Except.ok.injEq, Option.some.injEq]
      rintro rfl
      exact ⟨_, rfl, .inr rfl⟩
    | some id =>
      cases found : storedPage ctx id cls with
      | none =>
        -- a missing page is rebuilt fresh, or the call fails
        cases recreate : ctx.settings.recreateMountedPagesAfterExpiry <;>
          simp only [found, rebuild, recreate, bind, Except.bind, pure, Except.pure,
            Except.ok.injEq, Option.some.injEq, Bool.false_eq_true, if_false, if_true, reduceCtorEq, false_imp_iff]
        rintro rfl
        exact ⟨_, rfl, .inr rfl⟩
      | some page =>
        cases count : l.renderCount with
        | none =>
          simp only [found, bind, Except.bind, pure, Except.pure, Except.ok.injEq,
            Option.some.injEq]
          rintro rfl
          exact ⟨_, rfl, .inl ⟨id, page, rfl, found, by simp, rfl⟩⟩
        | some rc =>
          -- a render count other than the page's is stale
          by_cases same : rc = page.renderCount
          · subst same
            simp only [found, bind, Except.bind, pure, Except.pure, ne_eq, not_true_eq_false,
              if_false, Except.ok.injEq, Option.some.injEq]
            rintro rfl
            exact ⟨_, rfl, .inl ⟨id, page, rfl, found, by simp, rfl⟩⟩
          · simp [found, same, bind, Except.bind]

/-! ## The resolution of a request -/

theorem map_some_eq_ok {x : Except MapError Handler} {h : Handler} :
    some <$> x = .ok (some h) ↔ x = .ok h := by
  cases x <;> simp [Functor.map, Except.map]

theorem map_some_eq_error {x : Except MapError Handler} {e : MapError} :
    some <$> x = .error e ↔ x = .error e := by
  cases x <;> simp [Functor.map, Except.map]

theorem read_ref {m : Mapper} {ctx : Context} {u : Url} {t : Target}
    (read : m.read ctx u = some t) : t.ref = PageRef.ofUrl u := by
  cases m with
  | bookmarkable encoding =>
    simp only [Mapper.read, Bool.not_eq_true'] at read
    simp [Option.bind_eq_some_iff] at read
    obtain ⟨-, -, -, -, -, rfl⟩ := read
    rfl
  | mounted mnt =>
    simp [Mapper.read, Mount.read] at read
    split at read
    · cases read
      rfl
    · obtain ⟨widths, -, built⟩ := Option.bind_eq_some_iff.1 read
      rw [← Option.some.inj built]
  | package p =>
    simp [Mapper.read, PackageMount.read, Option.bind_eq_some_iff] at read
    obtain ⟨-, -, -, -, -, -, -, rfl⟩ := read
    rfl
  | home mnt =>
    simp [Mapper.read, Mount.read, Option.bind_eq_some_iff] at read
    obtain ⟨-, -, -, rfl⟩ := read
    rfl

/-- The resolution of a request, by what the mapper read: nothing when it does not claim the
request; otherwise a listener token invokes its listener, a token with a page id and no listener
renders that page, and anything else renders a fresh page of the target. -/
theorem mapRequest_cases (m : Mapper) (ctx : Context) (u : Url) :
    (m.read ctx u = none ∧ m.mapRequest ctx u = .ok none) ∨
    ∃ t, m.read ctx u = some t ∧
      ((∃ r l, t.ref = some r ∧ r.component = some l ∧
          m.mapRequest ctx u = invoke ctx r.pageId l t.cls t.params) ∨
        (∃ r id, t.ref = some r ∧ r.pageId = some id ∧ r.component = none ∧
          m.mapRequest ctx u = some <$> renderStored ctx id t.cls t.params) ∨
        ((∀ r, t.ref = some r → r.pageId = none ∧ r.component = none) ∧
          m.mapRequest ctx u = .ok (some (.render (.fresh t.cls t.params))))) := by
  cases read : m.read ctx u with
  | none => exact .inl ⟨rfl, by simp [mapRequest, read]⟩
  | some t =>
    refine .inr ⟨t, rfl, ?_⟩
    cases reference : t.ref with
    | none => exact .inr (.inr ⟨by simp, by simp [mapRequest, read, reference]⟩)
    | some r =>
      obtain ⟨pageId, component⟩ := r
      cases component with
      | some l => exact .inl ⟨_, l, rfl, rfl, by simp [mapRequest, read, reference]⟩
      | none =>
        cases pageId with
        | some id =>
          exact .inr (.inl ⟨_, id, rfl, rfl, rfl, by simp [mapRequest, read, reference]⟩)
        | none => exact .inr (.inr ⟨by simp, by simp [mapRequest, read, reference]⟩)

/-! ## The page a handler binds -/

/-- What a handler is to the request a mapper read as target `t`. Every stored page it carries is
the page the request's token names: found in the page store under the token's id, of the class
read, rendered only with the parameters read, and given to a listener only when the token names
a registered listener and no render count, or the page's own. Every fresh page it carries is of
the class and the parameters read. -/
structure BindsRequest (ctx : Context) (u : Url) (t : Target) (h : Handler) : Prop where
  existing : ∀ page, h.provider? = some (.existing page) →
    ∃ name rest r, u.query = (name, "") :: rest ∧ PageRef.decode name = some r ∧
      r.pageId = some page.id ∧ ctx.pages page.id = some page ∧ page.cls = t.cls ∧
      (∀ provider, h = .render provider → page.params.equiv t.params = true) ∧
      (∀ call, h = .listener call → ∃ l, r.component = some l ∧
        (ctx.listeners.byName? l.listener).isSome ∧
        (l.renderCount = none ∨ l.renderCount = some page.renderCount))
  fresh : ∀ cls params, h.provider? = some (.fresh cls params) →
    cls = t.cls ∧ params = t.params

/-- The stored page found under the token's id is the one the request names, when the page
source looks pages up by id. -/
theorem token_names_stored {m : Mapper} {ctx : Context} {u : Url} {t : Target} {r : PageRef}
    {id : UInt32} {page : Page} (byId : ctx.PagesById) (read : m.read ctx u = some t)
    (reference : t.ref = some r) (named : r.pageId = some id)
    (found : storedPage ctx id t.cls = some page) :
    ∃ name rest, u.query = (name, "") :: rest ∧ PageRef.decode name = some r ∧
      r.pageId = some page.id ∧ ctx.pages page.id = some page ∧ page.cls = t.cls := by
  obtain ⟨stored, cls⟩ := storedPage_eq_some_iff.1 found
  have sameId : page.id = id := byId id page stored
  subst sameId
  obtain ⟨name, rest, query, decoded⟩ := PageRef.ofUrl_eq_some (read_ref read ▸ reference)
  exact ⟨name, rest, query, decoded, named, stored, cls⟩

/-- A handler on a fresh page of the class and the parameters read binds the request. -/
theorem bindsRequest_of_fresh {ctx : Context} {u : Url} {t : Target} {h : Handler}
    (provider : h.provider? = some (.fresh t.cls t.params)) : BindsRequest ctx u t h := by
  refine ⟨fun page provided => ?_, fun cls params provided => ?_⟩
  · rw [provider] at provided
    cases provided
  · rw [provider, Option.some.injEq, Provider.fresh.injEq] at provided
    exact ⟨provided.1.symm, provided.2.symm⟩

/-- A mapper never binds a request to a page the request did not name, whatever the mapper and
the request, when the page source looks pages up by id: a stored page in a handler is the page
the request's token names, found in the store under its id and of the class the mapper read, it
is rendered only with the parameters read, and a listener is invoked on it only when the token
names a registered listener and no render count or the page's own. A fresh page is of the class
and the parameters read. -/
theorem mapRequest_binds_page {m : Mapper} {ctx : Context} {u : Url} {h : Handler}
    (byId : ctx.PagesById) (mapped : m.mapRequest ctx u = .ok (some h)) :
    ∃ t, m.read ctx u = some t ∧ BindsRequest ctx u t h := by
  rcases mapRequest_cases m ctx u with ⟨-, unclaimed⟩ | ⟨t, read, resolved⟩
  · rw [unclaimed] at mapped
    cases mapped
  refine ⟨t, read, ?_⟩
  rcases resolved with ⟨r, l, reference, listens, invoked⟩ |
    ⟨r, id, reference, named, plain, rendered⟩ | ⟨-, fresh⟩
  · -- a listener token: the call is on the stored page or a fresh one
    rw [invoked] at mapped
    obtain ⟨registered, call, rfl, provider⟩ := invoke_eq_ok_some mapped
    rcases provider with ⟨id, page, named, found, fits, provider⟩ | provider
    · refine ⟨fun page' provided => ?_, fun cls params provided => ?_⟩
      · simp only [Handler.provider?, provider, Option.some.injEq, Provider.existing.injEq]
          at provided
        subst provided
        obtain ⟨name, rest, query, decoded, id', stored, cls⟩ :=
          token_names_stored byId read reference named found
        exact ⟨name, rest, r, query, decoded, id', stored, cls, (fun _ wrong => by cases wrong),
          fun _ _ => ⟨l, listens, registered, fits⟩⟩
      · simp [Handler.provider?, provider] at provided
    · exact bindsRequest_of_fresh (by rw [Handler.provider?, provider])
  · -- a token with a page id: the stored page with the parameters read, or a fresh page
    rw [rendered, map_some_eq_ok] at mapped
    rcases renderStored_eq_ok mapped with ⟨page, found, same, rfl⟩ | rfl
    · refine ⟨fun page' provided => ?_, fun cls params provided => ?_⟩
      · simp only [Handler.provider?, Option.some.injEq, Provider.existing.injEq] at provided
        subst provided
        obtain ⟨name, rest, query, decoded, id', stored, cls⟩ :=
          token_names_stored byId read reference named found
        exact ⟨name, rest, r, query, decoded, id', stored, cls, (fun _ _ => same),
          (fun _ wrong => by cases wrong)⟩
      · cases provided
    · exact bindsRequest_of_fresh rfl
  · -- no token: a fresh page of the target
    rw [fresh, Except.ok.injEq, Option.some.injEq] at mapped
    subst mapped
    exact bindsRequest_of_fresh rfl

/-- A listener URL on a page held by a page store, through the bookmarkable mapper: the store
looks pages up by id, the request is answered, and the handler binds the page the token names. -/
theorem listener_request_binds_stored_page :
    Context.PagesById
        { pages := PageStore.get?
            { pages := [{ id := 7, cls := ⟨"org.example.ShopPage"⟩,
                          params := ⟨[], [("sort", "asc")]⟩, renderCount := 3 }] },
          listeners := ⟨[⟨"onClick", true⟩]⟩, registry := ⟨["org.example.ShopPage"]⟩ } ∧
      ∃ h, (bookmarkable .query).mapRequest
          { pages := PageStore.get?
              { pages := [{ id := 7, cls := ⟨"org.example.ShopPage"⟩,
                            params := ⟨[], [("sort", "asc")]⟩, renderCount := 3 }] },
            listeners := ⟨[⟨"onClick", true⟩]⟩, registry := ⟨["org.example.ShopPage"]⟩ }
          (Url.parse Percent.standard
             "wicket/bookmarkable/org.example.ShopPage?7-3.onClick-form-submit&sort=asc") =
            .ok (some h) ∧
        ∃ t, (bookmarkable .query).read
            { pages := PageStore.get?
                { pages := [{ id := 7, cls := ⟨"org.example.ShopPage"⟩,
                              params := ⟨[], [("sort", "asc")]⟩, renderCount := 3 }] },
              listeners := ⟨[⟨"onClick", true⟩]⟩, registry := ⟨["org.example.ShopPage"]⟩ }
            (Url.parse Percent.standard
               "wicket/bookmarkable/org.example.ShopPage?7-3.onClick-form-submit&sort=asc") =
              some t ∧
          BindsRequest
            { pages := PageStore.get?
                { pages := [{ id := 7, cls := ⟨"org.example.ShopPage"⟩,
                              params := ⟨[], [("sort", "asc")]⟩, renderCount := 3 }] },
              listeners := ⟨[⟨"onClick", true⟩]⟩, registry := ⟨["org.example.ShopPage"]⟩ }
            (Url.parse Percent.standard
               "wicket/bookmarkable/org.example.ShopPage?7-3.onClick-form-submit&sort=asc")
            t h := by
  have byId : Context.PagesById
      { pages := PageStore.get?
          { pages := [{ id := 7, cls := ⟨"org.example.ShopPage"⟩,
                        params := ⟨[], [("sort", "asc")]⟩, renderCount := 3 }] },
        listeners := ⟨[⟨"onClick", true⟩]⟩, registry := ⟨["org.example.ShopPage"]⟩ } :=
    fun _ _ found => PageStore.id_of_get? found
  have mapped : (bookmarkable .query).mapRequest
      { pages := PageStore.get?
          { pages := [{ id := 7, cls := ⟨"org.example.ShopPage"⟩,
                        params := ⟨[], [("sort", "asc")]⟩, renderCount := 3 }] },
        listeners := ⟨[⟨"onClick", true⟩]⟩, registry := ⟨["org.example.ShopPage"]⟩ }
      (Url.parse Percent.standard
         "wicket/bookmarkable/org.example.ShopPage?7-3.onClick-form-submit&sort=asc") =
      .ok (some (.listener
        { provider := .existing
            { id := 7, cls := ⟨"org.example.ShopPage"⟩, params := ⟨[], [("sort", "asc")]⟩,
              renderCount := 3 },
          componentPath := "form:submit", listener := ⟨"onClick", true⟩,
          renderCount := some 3 })) := by
    rfl
  exact ⟨byId, _, mapped, mapRequest_binds_page byId mapped⟩

/-! ## Errors -/

/-- The errors of a request, exactly: a mapper claims it, it carries a token with a page id, and
either that page is not stored with the class read, it may not be rebuilt, and the token has no
listener or a registered one (expired); or the token names a registered listener, the page is
stored with the class read, and the token's render count is another than the page's (stale). -/
theorem mapRequest_eq_error_iff {m : Mapper} {ctx : Context} {u : Url} {e : MapError} :
    m.mapRequest ctx u = .error e ↔
      ∃ t r id, m.read ctx u = some t ∧ PageRef.ofUrl u = some r ∧ r.pageId = some id ∧
        ((e = .expired id ∧ (∀ page, ctx.pages id = some page → page.cls ≠ t.cls) ∧
            ctx.settings.recreateMountedPagesAfterExpiry = false ∧
            ∀ l ∈ r.component, (ctx.listeners.byName? l.listener).isSome) ∨
          ∃ l page rc, r.component = some l ∧ (ctx.listeners.byName? l.listener).isSome ∧
            ctx.pages id = some page ∧ page.cls = t.cls ∧ l.renderCount = some rc ∧
            rc ≠ page.renderCount ∧ e = .stale id rc page.renderCount) := by
  rcases mapRequest_cases m ctx u with ⟨unread, unclaimed⟩ | ⟨t, read, resolved⟩
  · simp [unclaimed, unread]
  rw [← read_ref read]
  rcases resolved with ⟨r, l, reference, listens, invoked⟩ |
    ⟨r, id, reference, named, plain, rendered⟩ | ⟨tokenless, fresh⟩
  · -- a listener token fails as `invoke` does
    rw [invoked, invoke_eq_error_iff]
    constructor
    · rintro ⟨registered, id, named, failure⟩
      refine ⟨t, r, id, read, reference, named, ?_⟩
      rcases failure with ⟨missing, keep, rfl⟩ | ⟨page, rc, found, count, other, rfl⟩
      · refine .inl ⟨rfl, storedPage_eq_none_iff.1 missing, keep, ?_⟩
        intro l' member
        rw [listens, Option.mem_some_iff] at member
        subst member
        exact registered
      · obtain ⟨stored, cls⟩ := storedPage_eq_some_iff.1 found
        exact .inr ⟨l, page, rc, listens, registered, stored, cls, count, other, rfl⟩
    · rintro ⟨t', r', id, read', reference', named, failure⟩
      rw [read] at read'
      obtain rfl := Option.some.inj read'
      rw [reference] at reference'
      obtain rfl := Option.some.inj reference'
      rcases failure with ⟨rfl, missing, keep, registered⟩ |
        ⟨l', page, rc, listens', registered, stored, cls, count, other, rfl⟩
      · exact ⟨registered l (by simp [listens]), id, named,
          .inl ⟨storedPage_eq_none_iff.2 missing, keep, rfl⟩⟩
      · rw [listens, Option.some.injEq] at listens'
        subst listens'
        exact ⟨registered, id, named,
          .inr ⟨page, rc, storedPage_eq_some_iff.2 ⟨stored, cls⟩, count, other, rfl⟩⟩
  · -- a token with a page id and no listener fails as `renderStored` does
    rw [rendered, map_some_eq_error, renderStored_eq_error_iff]
    constructor
    · rintro ⟨missing, keep, rfl⟩
      exact ⟨t, r, id, read, reference, named,
        .inl ⟨rfl, storedPage_eq_none_iff.1 missing, keep, by simp [plain]⟩⟩
    · rintro ⟨t', r', id', read', reference', named', failure⟩
      rw [read] at read'
      obtain rfl := Option.some.inj read'
      rw [reference] at reference'
      obtain rfl := Option.some.inj reference'
      rw [named] at named'
      obtain rfl := Option.some.inj named'
      rcases failure with ⟨rfl, missing, keep, -⟩ | ⟨l, -, -, listens, -⟩
      · exact ⟨storedPage_eq_none_iff.2 missing, keep, rfl⟩
      · rw [plain] at listens
        cases listens
  · -- anything else renders a fresh page, and a token here has neither a page id nor a listener
    rw [fresh]
    simp only [reduceCtorEq, false_iff, not_exists, not_and]
    intro t' r id read' reference named
    rw [read] at read'
    obtain rfl := Option.some.inj read'
    rw [(tokenless r reference).1] at named
    cases named

/-- The errors of a request, exactly, for every mapper and every request; in particular a token
without a render count, or one whose page is not stored, is never stale, and with rebuilding on
no page is ever expired. -/
theorem mapRequest_errors_exactly (m : Mapper) (ctx : Context) (u : Url) :
    (∀ e, m.mapRequest ctx u = .error e ↔
      ∃ t r id, m.read ctx u = some t ∧ PageRef.ofUrl u = some r ∧ r.pageId = some id ∧
        ((e = .expired id ∧ (∀ page, ctx.pages id = some page → page.cls ≠ t.cls) ∧
            ctx.settings.recreateMountedPagesAfterExpiry = false ∧
            ∀ l ∈ r.component, (ctx.listeners.byName? l.listener).isSome) ∨
          ∃ l page rc, r.component = some l ∧ (ctx.listeners.byName? l.listener).isSome ∧
            ctx.pages id = some page ∧ page.cls = t.cls ∧ l.renderCount = some rc ∧
            rc ≠ page.renderCount ∧ e = .stale id rc page.renderCount)) ∧
    (∀ id rc current, m.mapRequest ctx u = .error (.stale id rc current) →
      ∃ t r l page, m.read ctx u = some t ∧ PageRef.ofUrl u = some r ∧ r.component = some l ∧
        l.renderCount = some rc ∧ ctx.pages id = some page ∧ page.cls = t.cls) ∧
    (ctx.settings.recreateMountedPagesAfterExpiry = true →
      ∀ id, m.mapRequest ctx u ≠ .error (.expired id)) := by
  refine ⟨fun e => mapRequest_eq_error_iff, fun id rc current stale => ?_,
    fun recreate id expired => ?_⟩
  · obtain ⟨t, r, id', read, carried, -, failure⟩ := mapRequest_eq_error_iff.1 stale
    rcases failure with ⟨wrong, -⟩ | ⟨l, page, rc', listens, -, stored, cls, count, -, same⟩
    · cases wrong
    · simp only [MapError.stale.injEq] at same
      obtain ⟨rfl, rfl, -⟩ := same
      exact ⟨t, r, l, page, read, carried, listens, count, stored, cls⟩
  · obtain ⟨t, r, id', read, carried, -, failure⟩ := mapRequest_eq_error_iff.1 expired
    rcases failure with ⟨-, -, keep, -⟩ | ⟨l, page, rc, -, -, -, -, -, -, wrong⟩
    · rw [recreate] at keep
      cases keep
    · cases wrong

end Mapper

end PageRoutes
