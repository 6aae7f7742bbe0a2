import SwitchAdmin.Route.Builtin
import SwitchAdmin.Proofs.Backtracking
import SwitchAdmin.Proofs.Redirects

/-!
# The application routes resolve every path

The application table has three entries: `auth`, whose nested authentication table is loaded
on first use, `404`, which shows the not-found view, and a catch-all that redirects to `404`.
The authentication table has the pages `login`, `forgot-password` and `reset-password` and an
empty path that redirects to `login` when nothing is left.

The main statement, `app_routes_resolve`, says that a router built from a configuration
without routes, or with the routes of the example configuration, resolves every path once it
may follow one redirect, and says where each path ends:

* `auth` redirects to `/auth/login`;
* `auth/x`, for a page `x` of the authentication table, shows that page;
* `404` shows the not-found view;
* every other list of segments, the empty one included, is redirected once to `404`.

So no path gives `noMatch` or runs into the redirect limit, and `navigate` never falls back.

The walk of each table is computed through its candidates (`walkTable_fst`): one lemma per
kind of entry says what it contributes (`routeCandidates_leaf`, `routeCandidates_nested`,
`routeCandidates_catchAll`), and the four cases above are read off the candidate lists.
-/

namespace SwitchAdmin

/-! ### The application table -/

/-- The pages of the authentication table: the path, which is also the name of its view, and
the title. -/
def authPages : List (String × String) :=
  [("login", "Login"), ("forgot-password", "Password Recovery"),
    ("reset-password", "Reset Password")]

/-- The application table with its deferred parts in the given cells: the authentication
table (in `table`, with its views in `login`, `forgot` and `reset`) under `auth`, the
not-found view (in `notFound`) under `404`, and a catch-all redirecting to `404`. -/
def appTable (table login forgot reset notFound : Nat) : List Route :=
  [{ path := "auth", nesting := .deferred table (authRoutes login forgot reset) },
   { path := "404", view := some ⟨notFound, notFoundView⟩, title := some "Page Not Found" },
   { path := "**", redirectTo := some "404" }]

theorem appRoutes_eq_appTable (first : Nat) :
    appRoutes first = appTable first (first + 1) (first + 2) (first + 3) (first + 4) := rfl

/-- The routes of the example configuration: the registered authentication table under
`auth`, the registered not-found view under `404`, and a catch-all redirecting to `404`. -/
def exampleRoutes : List RouteConfig :=
  [{ path := "auth", loadChildren := some "auth" },
   { path := "404", component := some "not-found", title := some "Page Not Found" },
   { path := "**", redirectTo := some "404" }]

/-- Built against the default registry, the example routes are the application table, with
the registry's cells. -/
theorem buildTable_exampleRoutes :
    defaultRegistry.buildTable exampleRoutes = .ok (appTable 4 5 6 7 3) := rfl

/-- Without configured routes, or with the example routes, the router is built, over the
application table. -/
theorem buildRouter_appTable (cfg : AppConfig) (h : cfg.routes = [] ∨ cfg.routes = exampleRoutes) :
    ∃ t l f rs nf, buildRouter cfg defaultRegistry =
      .ok (Router.ofConfig (appTable t l f rs nf) cfg.navigation) := by
  rcases h with h | h
  · exact ⟨8, 9, 10, 11, 12, by rw [buildRouter, h]; rfl⟩
  · refine ⟨4, 5, 6, 7, 3, ?_⟩
    rw [buildRouter, h]
    show (do
      let table ← defaultRegistry.buildTable exampleRoutes
      pure (Router.ofConfig table cfg.navigation)) = _
    rw [buildTable_exampleRoutes]
    rfl

/-! ### What each kind of entry contributes -/

/-- A pattern of one literal piece matches the segments that start with it, consuming one. -/
theorem matchSegments_literal (t : String) (s : List String) :
    (Pattern.pieces [.literal t]).matchSegments s .leading =
      if s.head? = some t then some ⟨1, StrMap.empty⟩ else none := by
  cases s with
  | nil => simp [Pattern.matchSegments]
  | cons a rest =>
    by_cases h : t = a
    · subst h
      simp [Pattern.matchSegments, Pattern.matchPieces]
    · simp [Pattern.matchSegments, Pattern.matchPieces, h, Ne.symm h]

/-- An entry of one literal piece with a view and nothing below it answers exactly the
segments made of that piece alone. -/
theorem routeCandidates_leaf (path : String) (hpath : Pattern.parse path = .pieces [.literal path])
    (parent s : List String) (params : StrMap String) (slot : ViewSlot) (title : Option String) :
    routeCandidates parent s params { path, title, view := some slot } =
      if s = [path] then [.matched [⟨path, [path], title, StrMap.empty⟩] slot] else [] := by
  simp only [routeCandidates, hpath, matchSegments_literal]
  cases s with
  | nil => simp
  | cons a rest =>
    by_cases ha : a = path
    · subst ha
      cases rest <;> simp [viewOutcomes, nestedCandidates]
    · simp [ha]

/-- An entry of one literal piece with a nested table and no view answers what the nested
table answers for the segments after it, under the entry. -/
theorem routeCandidates_nested (path : String)
    (hpath : Pattern.parse path = .pieces [.literal path]) (parent : List String) (a : String)
    (rest : List String) (params : StrMap String) (id : Nat) (children : List Route) :
    routeCandidates parent (a :: rest) params { path, nesting := .deferred id children } =
      if a = path then
        (tableCandidates (parent ++ [path]) rest (params.union StrMap.empty) children).map
          (Outcome.under ⟨path, [path], none, StrMap.empty⟩)
      else [] := by
  simp only [routeCandidates, hpath, matchSegments_literal, List.head?_cons, Option.some.injEq]
  by_cases ha : a = path
  · subst ha
    simp [viewOutcomes, nestedCandidates]
  · simp [ha]

theorem routeCandidates_nested_nil (path : String)
    (hpath : Pattern.parse path = .pieces [.literal path]) (parent : List String)
    (params : StrMap String) (id : Nat) (children : List Route) :
    routeCandidates parent [] params { path, nesting := .deferred id children } = [] := by
  simp [routeCandidates, hpath, matchSegments_literal]

/-- The catch-all takes every segment and redirects to `404`. -/
theorem routeCandidates_catchAll (s : List String) (params : StrMap String) :
    routeCandidates [] s params { path := "**", redirectTo := some "404" } = [.redirect ["404"]] := by
  have hparse : Pattern.parse "**" = .catchAll := rfl
  simp only [routeCandidates, hparse, Pattern.matchSegments, List.drop_length]
  rfl

/-- The empty path of the authentication table answers only when nothing is left, with a
redirect to the login page. -/
theorem routeCandidates_toLogin (s : List String) (params : StrMap String) :
    routeCandidates ["auth"] s params { path := "", redirectTo := some "login", pathMatch := .full } =
      if s = [] then [.redirect ["auth", "login"]] else [] := by
  have hparse : Pattern.parse "" = .empty := rfl
  cases s with
  | nil =>
    simp only [routeCandidates, hparse, Pattern.matchSegments]
    rfl
  | cons a rest => simp [routeCandidates, hparse, Pattern.matchSegments]

/-! ### The walk of the application table -/

/-- The entry a page of the authentication table adds to a chain. -/
def pageEntry (x title : String) : MatchedRoute := ⟨x, [x], some title, StrMap.empty⟩

/-- The entry `auth` adds to a chain. -/
def authEntry : MatchedRoute := ⟨"auth", ["auth"], none, StrMap.empty⟩

/-- The authentication table answers a page alone with that page, and no segment with a
redirect to the login page. -/
theorem tableCandidates_authRoutes (l f r : Nat) (s : List String) (params : StrMap String) :
    tableCandidates ["auth"] s params (authRoutes l f r) =
      (if s = ["login"] then [.matched [pageEntry "login" "Login"] ⟨l, View.named "login"⟩]
        else []) ++
      (if s = ["forgot-password"] then
          [.matched [pageEntry "forgot-password" "Password Recovery"]
            ⟨f, View.named "forgot-password"⟩]
        else []) ++
      (if s = ["reset-password"] then
          [.matched [pageEntry "reset-password" "Reset Password"] ⟨r, View.named "reset-password"⟩]
        else []) ++
      (if s = [] then [.redirect ["auth", "login"]] else []) := by
  simp only [authRoutes, tableCandidates, routeCandidates_leaf "login" rfl,
    routeCandidates_leaf "forgot-password" rfl,
    routeCandidates_leaf "reset-password" rfl, routeCandidates_toLogin,
    List.append_nil, List.append_assoc, pageEntry]

/-- The application table answers the segments after `auth` with the authentication table's
answers under `auth`, then `404` alone with the not-found view, and anything with the
catch-all's redirect. -/
theorem tableCandidates_appTable (t l f r nf : Nat) (s : List String) :
    tableCandidates [] s StrMap.empty (appTable t l f r nf) =
      (match s with
        | a :: rest => if a = "auth" then
            (tableCandidates ["auth"] rest StrMap.empty (authRoutes l f r)).map
              (Outcome.under authEntry)
          else []
        | [] => []) ++
      (if s = ["404"] then
          [.matched [⟨"404", ["404"], some "Page Not Found", StrMap.empty⟩] ⟨nf, notFoundView⟩]
        else []) ++
      [.redirect ["404"]] := by
  cases s with
  | nil =>
    simp only [appTable, tableCandidates, routeCandidates_nested_nil "auth" rfl,
      routeCandidates_leaf "404" rfl, routeCandidates_catchAll]
    rfl
  | cons a rest =>
    simp only [appTable, tableCandidates, routeCandidates_nested "auth" rfl,
      routeCandidates_leaf "404" rfl, routeCandidates_catchAll, List.append_nil,
      List.nil_append, List.append_assoc]
    rfl

section Walks

variable (t l f r nf : Nat)

/-- `auth` alone redirects to the login page. -/
theorem walk_auth :
    (walkTable [] ["auth"] StrMap.empty (appTable t l f r nf)).1 =
      some (.redirect ["auth", "login"]) := by
  rw [walkTable_fst, tableCandidates_appTable]
  simp [tableCandidates_authRoutes, Outcome.under]

/-- A page of the authentication table after `auth` shows that page. -/
theorem walk_page {x title : String} (h : (x, title) ∈ authPages) :
    ∃ cell, (walkTable [] ["auth", x] StrMap.empty (appTable t l f r nf)).1 =
      some (.matched [authEntry, pageEntry x title] ⟨cell, View.named x⟩) := by
  simp only [authPages, List.mem_cons, Prod.mk.injEq, List.not_mem_nil, or_false] at h
  rw [walkTable_fst, tableCandidates_appTable]
  rcases h with ⟨rfl, rfl⟩ | ⟨rfl, rfl⟩ | ⟨rfl, rfl⟩
  · exact ⟨l, by simp [tableCandidates_authRoutes, Outcome.under]⟩
  · exact ⟨f, by simp [tableCandidates_authRoutes, Outcome.under]⟩
  · exact ⟨r, by simp [tableCandidates_authRoutes, Outcome.under]⟩

/-- `404` alone shows the not-found view. -/
theorem walk_notFound :
    (walkTable [] ["404"] StrMap.empty (appTable t l f r nf)).1 =
      some (.matched [⟨"404", ["404"], some "Page Not Found", StrMap.empty⟩]
        ⟨nf, notFoundView⟩) := by
  rw [walkTable_fst, tableCandidates_appTable]
  simp

/-- Any other segments are redirected to `404`: below `auth` neither a page alone nor
nothing at all is left, and only `404` alone is the not-found page. -/
theorem walk_other {s : List String} (hauth : s ≠ ["auth"])
    (hpage : ∀ p ∈ authPages, s ≠ ["auth", p.1]) (h404 : s ≠ ["404"]) :
    (walkTable [] s StrMap.empty (appTable t l f r nf)).1 = some (.redirect ["404"]) := by
  rw [walkTable_fst, tableCandidates_appTable, if_neg h404]
  cases s with
  | nil => rfl
  | cons a rest =>
    by_cases ha : a = "auth"
    · subst ha
      have hnil : rest ≠ [] := fun h => hauth (by rw [h])
      simp only [authPages, List.mem_cons, List.not_mem_nil, or_false, forall_eq_or_imp,
        forall_eq, ne_eq, List.cons.injEq, true_and] at hpage
      simp [tableCandidates_authRoutes, hpage.1, hpage.2.1, hpage.2.2, hnil]
    · simp [ha]

end Walks

/-! ### Where each path ends -/

/-- A resolution that ends at `url`, after leaving the URLs `redirects`, showing `view` under
`title`. -/
def Resolution.Shows (res : Resolution) (url : String) (redirects : List String) (view : View)
    (title : String) : Prop :=
  res.url = url ∧ res.redirects = redirects ∧ res.view = view ∧ res.title = some title

/-- Where the application routes take the segments `s`: `auth` to the login page through one
redirect, a page of the authentication table after `auth` to that page, `404` to the
not-found page, and anything else to the not-found page through one redirect. -/
def AppAnswer (s : List String) (res : Resolution) : Prop :=
  (s = ["auth"] → res.Shows "/auth/login" ["/auth"] (View.named "login") "Login") ∧
  (∀ x title, (x, title) ∈ authPages → s = ["auth", x] →
    res.Shows ("/auth/" ++ x) [] (View.named x) title) ∧
  (s = ["404"] → res.Shows "/404" [] notFoundView "Page Not Found") ∧
  (s ≠ ["auth"] → (∀ p ∈ authPages, s ≠ ["auth", p.1]) → s ≠ ["404"] →
    res.Shows "/404" [joinSegments s] notFoundView "Page Not Found")

/-- A page has one title. -/
theorem authPages_title_unique {x t t' : String} (h : (x, t) ∈ authPages)
    (h' : (x, t') ∈ authPages) : t = t' := by
  simp only [authPages, List.mem_cons, Prod.mk.injEq, List.not_mem_nil, or_false] at h h'
  rcases h with ⟨rfl, rfl⟩ | ⟨rfl, rfl⟩ | ⟨rfl, rfl⟩ <;> simp_all

theorem appAnswer_auth {res : Resolution}
    (h : res.Shows "/auth/login" ["/auth"] (View.named "login") "Login") :
    AppAnswer ["auth"] res :=
  ⟨fun _ => h, fun _ _ _ hs => by simp at hs, fun hs => by simp at hs,
    fun hauth => absurd rfl hauth⟩

theorem appAnswer_page {res : Resolution} {x title : String} (hmem : (x, title) ∈ authPages)
    (h : res.Shows ("/auth/" ++ x) [] (View.named x) title) : AppAnswer ["auth", x] res := by
  refine ⟨fun hs => by simp at hs, fun x' title' hmem' hs => ?_, fun hs => by simp at hs,
    fun _ hpage _ => absurd rfl (hpage (x, title) hmem)⟩
  obtain rfl : x = x' := by simpa using hs
  rw [← authPages_title_unique hmem hmem']
  exact h

theorem appAnswer_notFound {res : Resolution}
    (h : res.Shows "/404" [] notFoundView "Page Not Found") : AppAnswer ["404"] res :=
  ⟨fun hs => by simp at hs, fun _ _ _ hs => by simp at hs, fun _ => h,
    fun _ _ h404 => absurd rfl h404⟩

theorem appAnswer_other {res : Resolution} {s : List String} (hauth : s ≠ ["auth"])
    (hpage : ∀ p ∈ authPages, s ≠ ["auth", p.1]) (h404 : s ≠ ["404"])
    (h : res.Shows "/404" [joinSegments s] notFoundView "Page Not Found") : AppAnswer s res :=
  ⟨fun hs => absurd hs hauth, fun x _ hmem hs => absurd hs (hpage (x, _) hmem),
    fun hs => absurd hs h404, fun _ _ _ => h⟩

theorem joinSegments_auth (x : String) : joinSegments ["auth", x] = "/auth/" ++ x := by
  simp only [joinSegments, joinWith, ← String.append_assoc]
  rfl

/-- Resolving on the application table with at least one redirect allowed: every list of
segments resolves, where `AppAnswer` says. -/
theorem follow_appTable {t l f rs nf : Nat} {r : Router} (hroot : r.root = appTable t l f rs nf)
    (u : String) (b : Nat) (s : List String) :
    ∃ res, (r.follow u (b + 1) s []).1 = .ok res ∧ res.fallback = false ∧ AppAnswer s res := by
  have hwalk : ∀ s, (r.rootWalk s).1 = (walkTable [] s StrMap.empty (appTable t l f rs nf)).1 :=
    fun s => by rw [Router.rootWalk, hroot]
  have hnotFound := walk_notFound t l f rs nf
  rw [← hwalk] at hnotFound
  by_cases hauth : s = ["auth"]
  · -- one redirect, to the login page
    subst hauth
    have hredirect := walk_auth t l f rs nf
    obtain ⟨cell, hlogin⟩ := walk_page t l f rs nf
      (show ("login", "Login") ∈ authPages by simp [authPages])
    rw [← hwalk] at hredirect hlogin
    rw [Router.follow_succ_of_redirect hredirect, Router.follow_of_matched hlogin]
    exact ⟨_, rfl, rfl, appAnswer_auth ⟨rfl, rfl, rfl, rfl⟩⟩
  by_cases hpage : ∃ p ∈ authPages, s = ["auth", p.1]
  · -- a page of the authentication table, at once
    obtain ⟨⟨x, title⟩, hmem, rfl⟩ := hpage
    obtain ⟨cell, hshown⟩ := walk_page t l f rs nf hmem
    rw [← hwalk] at hshown
    rw [Router.follow_of_matched hshown]
    exact ⟨_, rfl, rfl, appAnswer_page hmem ⟨joinSegments_auth x, rfl, rfl, rfl⟩⟩
  simp only [not_exists, not_and] at hpage
  by_cases h404 : s = ["404"]
  · subst h404
    rw [Router.follow_of_matched hnotFound]
    exact ⟨_, rfl, rfl, appAnswer_notFound ⟨rfl, rfl, rfl, rfl⟩⟩
  · -- the catch-all, then the not-found page
    have hredirect := walk_other t l f rs nf hauth hpage h404
    rw [← hwalk] at hredirect
    rw [Router.follow_succ_of_redirect hredirect, Router.follow_of_matched hnotFound]
    exact ⟨_, rfl, rfl, appAnswer_other hauth hpage h404 ⟨rfl, rfl, rfl, rfl⟩⟩

/-- A URL that does not normalise is refused as invalid, by `recognize` and by
`navigate` alike. -/
theorem Router.invalidUrl_of_normalizePath {r : Router} {u : String} {e : PathError}
    (h : normalizePath r.domainToAscii u = .error e) :
    (r.recognize u).1 = .error (.invalidUrl u e.reason) ∧
      (r.navigate u).1 = .error (.invalidUrl u e.reason) := by
  have hrec : (r.recognize u).1 = .error (.invalidUrl u e.reason) := by
    simp only [Router.recognize, h]
  refine ⟨hrec, ?_⟩
  simp only [Router.navigate, hrec]

/-- **The application routes resolve every path.** Build the router from a configuration
without routes (the built-in application table) or with the example routes (against the
default registry), allowing at least one redirect. It is built, and for every URL that
normalises to segments `s`, `recognize` and `navigate` give the same resolution, not a
fallback, and it ends where `AppAnswer` says: `auth` at `/auth/login` after one redirect, a
page of the authentication table at once, `404` at once, and any other segments at `/404`
after one redirect. So the only error either gives is an invalid URL. -/
theorem app_routes_resolve (cfg : AppConfig)
    (hroutes : cfg.routes = [] ∨ cfg.routes = exampleRoutes)
    (hlimit : 1 ≤ cfg.navigation.maxRedirects) :
    ∃ r, buildRouter cfg defaultRegistry = .ok r ∧
      (∀ u s, normalizePath r.domainToAscii u = .ok s →
        ∃ res, (r.recognize u).1 = .ok res ∧ (r.navigate u).1 = .ok res ∧
          res.fallback = false ∧ AppAnswer s res) ∧
      (∀ u e, (r.recognize u).1 = .error e ∨ (r.navigate u).1 = .error e →
        ∃ reason, e = .invalidUrl u reason) := by
  obtain ⟨t, l, f, rs, nf, hbuild⟩ := buildRouter_appTable cfg hroutes
  let r := Router.ofConfig (appTable t l f rs nf) cfg.navigation
  obtain ⟨b, hb⟩ : ∃ b, cfg.navigation.maxRedirects = b + 1 :=
    ⟨_, (Nat.succ_pred_eq_of_pos hlimit).symm⟩
  have hresolves : ∀ u s, normalizePath r.domainToAscii u = .ok s →
      ∃ res, (r.recognize u).1 = .ok res ∧ (r.navigate u).1 = .ok res ∧
        res.fallback = false ∧ AppAnswer s res := by
    intro u s hu
    obtain ⟨res, hres, hfallback, hanswer⟩ := follow_appTable (r := r) rfl u b s
    have hrec : (r.recognize u).1 = .ok res := by
      rw [Router.recognize_of_normalizePath hu]
      show (r.follow u cfg.navigation.maxRedirects s []).1 = _
      rw [hb]
      exact hres
    exact ⟨res, hrec, Router.navigate_of_recognize_ok hrec, hfallback, hanswer⟩
  refine ⟨r, hbuild, hresolves, fun u e hfail => ?_⟩
  rcases hu : normalizePath r.domainToAscii u with pe | s
  · -- the URL does not normalise: both refuse it as invalid
    obtain ⟨hrec, hnav⟩ := Router.invalidUrl_of_normalizePath (r := r) hu
    rcases hfail with h | h
    · exact ⟨pe.reason, by rw [hrec] at h; exact (Except.error.inj h).symm⟩
    · exact ⟨pe.reason, by rw [hnav] at h; exact (Except.error.inj h).symm⟩
  · -- the URL normalises: both resolve it
    obtain ⟨res, hrec, hnav, -⟩ := hresolves u s hu
    rcases hfail with h | h
    · rw [hrec] at h
      cases h
    · rw [hnav] at h
      cases h

/-- The example configuration sends `/a` to the not-found page through the catch-all. -/
theorem example_router_resolves_unknown :
    ∃ r, buildRouter { routes := exampleRoutes } defaultRegistry = .ok r ∧
      ∃ res, (r.navigate "/a").1 = .ok res ∧ res.fallback = false ∧
        res.Shows "/404" ["/a"] notFoundView "Page Not Found" := by
  obtain ⟨r, hbuild, hall, -⟩ :=
    app_routes_resolve { routes := exampleRoutes } (.inr rfl) (by decide)
  obtain ⟨res, -, hnav, hfallback, hanswer⟩ := hall "/a" ["a"] rfl
  exact ⟨r, hbuild, res, hnav, hfallback, hanswer.2.2.2 (by decide) (by decide) (by decide)⟩

end SwitchAdmin
