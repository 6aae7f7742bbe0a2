import SwitchAdmin.Config.Validation
import SwitchAdmin.Route.Builtin

/-!
# Validation is at least as strict as building

Building a route table from its configuration stops at the first route that names a view or
a table the registry does not have, and it never looks at the inline children of a route
that loads a named table. Validation instead goes through every route of every table,
inline children included, and collects every problem.

The main statement, `validation_reports_build_errors`, says that validation finds whatever
building stops at: if building the configured routes fails, validation lists the problem of
the same kind for the same route path and the same name. So a configuration that validates
is built, however deep its routes are nested.

The proof is one induction over the configuration tree (`reports_of_buildRoute`,
`reports_of_buildTable`), with the error a build step can give read off by one inversion
lemma for `Except`'s bind.
-/

namespace SwitchAdmin

/-- A failed `Except` bind failed in its first step, or in the second step on the value of
the first. -/
theorem exceptBind_eq_error {ε α β : Type} {x : Except ε α} {f : α → Except ε β} {e : ε}
    (h : x >>= f = .error e) : x = .error e ∨ ∃ a, x = .ok a ∧ f a = .error e := by
  cases x with
  | error e' =>
    cases h
    exact .inl rfl
  | ok a => exact .inr ⟨a, rfl, h⟩

/-- Building one route fails in one of three ways: its view is not registered, its table is
not registered, or (when it loads no table) one of its inline children fails to build. -/
theorem Registry.buildRoute_eq_error {reg : Registry} {c : RouteConfig} {e : RouterError}
    (h : reg.buildRoute c = .error e) :
    (∃ name, c.component = some name ∧ reg.views.find? name = none ∧
      e = .unknownView c.path name) ∨
    (∃ name, c.loadChildren = some name ∧ reg.tables.find? name = none ∧
      e = .unknownTable c.path name) ∨
    (c.loadChildren = none ∧ c.children ≠ [] ∧ reg.buildTable c.children = .error e) := by
  obtain ⟨path, pathMatch, title, redirectTo, component, loadChildren, children⟩ := c
  -- the equations, not the definition, open the build: unfolding it by `simp` leaves a
  -- term the kernel rejects
  rcases component with _ | name <;>
    simp only [Registry.buildRoute.eq_1, Registry.buildRoute.eq_2, bind, Except.bind, pure,
      Except.pure, throw, throwThe, MonadExceptOf.throw] at h
  -- every branch either fails with its own error or builds the route
  all_goals
    repeat' split at h
    all_goals cases h <;> simp_all

/-- The problems `es` report the build error `e`: `e` names a view or a table that is not
registered, and `es` has the problem of the same kind for the same route path and name. -/
def Reports (es : List ValidationError) : RouterError → Prop
  | .unknownView path name => .unknownView path name ∈ es
  | .unknownTable path name => .unknownTable path name ∈ es
  | _ => False

theorem Reports.mono {es es' : List ValidationError} {e : RouterError} (h : Reports es e)
    (hsub : ∀ p ∈ es, p ∈ es') : Reports es' e := by
  cases e with
  | unknownView path name => exact hsub _ h
  | unknownTable path name => exact hsub _ h
  | _ => exact h.elim

theorem Reports.ne_nil {es : List ValidationError} {e : RouterError} (h : Reports es e) :
    es ≠ [] := by
  rintro rfl
  cases e <;> simp_all [Reports]

/-! ### One route, and a table -/

/-- The problems of a route on its own come first among those of its entry. -/
theorem routeProblems_subset_entryProblems (reg : Registry) (table : String) (last index : Nat)
    (c : RouteConfig) : ∀ p ∈ routeProblems reg c, p ∈ entryProblems reg table last index c := by
  intro p hp
  obtain ⟨path, pathMatch, title, redirectTo, component, loadChildren, children⟩ := c
  rcases children with _ | ⟨d, ds⟩
  · rw [entryProblems.eq_1, List.mem_append, List.mem_append]
    exact .inl (.inr hp)
  · rw [entryProblems.eq_2, List.mem_append, List.mem_append]
    exact .inl (.inr hp)

/-- A route whose lookups succeed fails to build only inside its inline children, which its
entry's problems include. -/
theorem tableProblems_subset_entryProblems (reg : Registry) (table : String) (last index : Nat)
    (c : RouteConfig) (d : RouteConfig) (ds : List RouteConfig) (hchildren : c.children = d :: ds) :
    ∀ p ∈ tableProblems reg (nestedTableName table c.path) ds.length 0 (d :: ds),
      p ∈ entryProblems reg table last index c := by
  intro p hp
  obtain ⟨path, pathMatch, title, redirectTo, component, loadChildren, children⟩ := c
  simp only at hchildren
  subst hchildren
  rw [entryProblems.eq_2, List.mem_append]
  exact .inr hp

/-- A route naming a view the registry lacks has that problem. -/
theorem unknownView_mem_routeProblems {reg : Registry} {c : RouteConfig} {name : String}
    (hview : c.component = some name) (hfind : reg.views.find? name = none) :
    .unknownView c.path name ∈ routeProblems reg c := by
  simp [routeProblems, Registry.hasView, StrMap.contains, hview, hfind]

/-- A route loading a table the registry lacks has that problem. -/
theorem unknownTable_mem_routeProblems {reg : Registry} {c : RouteConfig} {name : String}
    (htable : c.loadChildren = some name) (hfind : reg.tables.find? name = none) :
    .unknownTable c.path name ∈ routeProblems reg c := by
  simp [routeProblems, Registry.hasTable, StrMap.contains, htable, hfind]

mutual

/-- A route that fails to build is reported among its entry's problems, wherever it stands. -/
theorem reports_of_buildRoute (reg : Registry) (table : String) (last index : Nat) :
    ∀ (c : RouteConfig) {e : RouterError}, reg.buildRoute c = .error e →
      Reports (entryProblems reg table last index c) e
  | ⟨path, pathMatch, title, redirectTo, component, loadChildren, children⟩, e, h => by
    have hown := routeProblems_subset_entryProblems reg table last index
      ⟨path, pathMatch, title, redirectTo, component, loadChildren, children⟩
    rcases Registry.buildRoute_eq_error h with
      ⟨name, hview, hfind, rfl⟩ | ⟨name, htable, hfind, rfl⟩ | ⟨-, hne, hbuilt⟩
    · exact hown _ (unknownView_mem_routeProblems hview hfind)
    · exact hown _ (unknownTable_mem_routeProblems htable hfind)
    · -- an inline child failed: the children's problems are part of the entry's
      rcases children with _ | ⟨d, ds⟩
      · exact absurd rfl hne
      · exact (reports_of_buildTable reg _ ds.length 0 (d :: ds) hbuilt).mono
          (tableProblems_subset_entryProblems reg table last index _ d ds rfl)

/-- A table that fails to build is reported among its problems. -/
theorem reports_of_buildTable (reg : Registry) (table : String) (last index : Nat) :
    ∀ (cs : List RouteConfig) {e : RouterError}, reg.buildTable cs = .error e →
      Reports (tableProblems reg table last index cs) e
  | [], e, h => by cases h
  | c :: cs, e, h => by
    unfold Registry.buildTable at h
    rcases exceptBind_eq_error h with hroute | ⟨r, -, hrest⟩
    · -- the first route failed
      refine (reports_of_buildRoute reg table last index c hroute).mono fun p hp => ?_
      simp only [tableProblems, List.mem_append]
      exact .inl hp
    · rcases exceptBind_eq_error hrest with hrest | ⟨rs, -, hpure⟩
      · -- a later route failed
        refine (reports_of_buildTable reg table last (index + 1) cs hrest).mono fun p hp => ?_
        simp only [tableProblems, List.mem_append]
        exact .inr hp
      · cases hpure

end

/-! ### Configurations -/

/-- **Validation is at least as strict as building.** If building the configured routes
fails, validation fails too, and lists the problem of the same kind (an unknown view or an
unknown table) for the same route path and name. So every configuration that validates is
built into a router. -/
theorem validation_reports_build_errors (cfg : AppConfig) (reg : Registry) :
    (∀ e, reg.buildTable cfg.routes = .error e →
      validateConfig cfg reg ≠ [] ∧ Reports (validateConfig cfg reg) e) ∧
    (validateConfig cfg reg = [] → ∃ r, buildRouter cfg reg = .ok r) := by
  have hreports : ∀ e, reg.buildTable cfg.routes = .error e →
      Reports (validateConfig cfg reg) e := by
    intro e h
    refine (reports_of_buildTable reg "/" (cfg.routes.length - 1) 0 cfg.routes h).mono ?_
    intro p hp
    simp only [validateConfig, List.mem_append]
    exact .inr hp
  refine ⟨fun e h => ⟨(hreports e h).ne_nil, hreports e h⟩, fun hvalid => ?_⟩
  rcases hbuild : reg.buildTable cfg.routes with e | table
  · exact absurd hvalid (hreports e hbuild).ne_nil
  · unfold buildRouter
    split
    · exact ⟨_, rfl⟩
    · rw [hbuild]
      exact ⟨_, rfl⟩

/-- A configuration whose view is missing one level down, below a route that builds. -/
def missingNestedView : AppConfig :=
  { routes := [{ path := "a", children := [{ path := "b", component := some "missing" }] }] }

theorem validation_reports_missing_nested_view :
    defaultRegistry.buildTable missingNestedView.routes = .error (.unknownView "b" "missing") ∧
      validateConfig missingNestedView defaultRegistry ≠ [] ∧
      Reports (validateConfig missingNestedView defaultRegistry) (.unknownView "b" "missing") :=
  ⟨rfl, (validation_reports_build_errors missingNestedView defaultRegistry).1 _ rfl⟩

end SwitchAdmin
