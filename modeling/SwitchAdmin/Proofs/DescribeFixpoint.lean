import SwitchAdmin.Proofs.DeferredLoading
import SwitchAdmin.Route.Builtin

/-!
# Describing a router: an observer with a fixpoint

A description without `expand` shows a deferred view as `(deferred)` and a deferred nested
table as deferred children, unless its cell is loaded; a description with `expand` loads
every cell of the tree and shows everything.

`Route.fullSummary` is the summary with everything shown: every view by its name, every
nested table described, nothing deferred. The main statement, `describe_observer_fixpoint`,
says that describing without `expand` loads nothing, so that every later answer is the same as
without it; that describing with `expand` answers the full summary whatever was loaded
before; and that from then on, whatever requests come between, describing without `expand`
answers the full summary too.

All three rest on one fact about the tree (`describeRoute_eq_fullSummary`): a route is
summarised in full as soon as each of its cells is loaded or `expand` is set. Loaded cells
stay loaded (`Session.has_after_iff`), so the fixpoint is kept.
-/

namespace SwitchAdmin

mutual

/-- The summary of a route with everything loaded: its view by name, its nested table
described, nothing deferred. -/
def Route.fullSummary : Route → RouteSummary
  | ⟨path, pathMatch, title, redirectTo, view, nesting⟩ =>
    { path, pathMatch, title, redirectTo,
      view := view.map fun s => s.view.name,
      shown := nesting.present,
      children := Route.nestedFullSummaries nesting,
      deferredChildren := false }

/-- The full summaries of a nested table's routes, none without one. -/
def Route.nestedFullSummaries : Nesting Route → List RouteSummary
  | .none => []
  | .eager children => Route.fullSummaries children
  | .deferred _ children => Route.fullSummaries children

/-- The full summaries of a table's routes. -/
def Route.fullSummaries : List Route → List RouteSummary
  | [] => []
  | r :: rs => r.fullSummary :: Route.fullSummaries rs

end

/-- Every cell of a route is loaded, or the description expands. -/
def Shows (loaded : Loaded) (expand : Bool) (cells : List Cell) : Prop :=
  ∀ c ∈ cells, expand = true ∨ loaded.has c = true

theorem Shows.of_expand (loaded : Loaded) (cells : List Cell) : Shows loaded true cells :=
  fun _ _ => .inl rfl

theorem Shows.append_left {loaded : Loaded} {expand : Bool} {cs cs' : List Cell}
    (h : Shows loaded expand (cs ++ cs')) : Shows loaded expand cs :=
  fun c hc => h c (List.mem_append_left _ hc)

theorem Shows.append_right {loaded : Loaded} {expand : Bool} {cs cs' : List Cell}
    (h : Shows loaded expand (cs ++ cs')) : Shows loaded expand cs' :=
  fun c hc => h c (List.mem_append_right _ hc)

mutual

/-- **A route is summarised in full once each of its cells is loaded or the description
expands.** By structural recursion on the route tree; the route's own view and nested table
are the cases of the step. -/
theorem describeRoute_eq_fullSummary (loaded : Loaded) (expand : Bool) :
    ∀ r : Route, Shows loaded expand r.cells → (describeRoute loaded expand r).1 = r.fullSummary
  | ⟨path, pathMatch, title, redirectTo, view, nesting⟩, h => by
    have hnested := describeNested_eq_full loaded expand nesting h.append_right
    -- the view is shown by name: its cell is loaded or the description expands
    have hview : (view.map fun s =>
        if (expand || loaded.has s.cell) = true then s.view.name else deferredMark) =
        view.map fun s => s.view.name := by
      cases view with
      | none => rfl
      | some s =>
        have hs : expand = true ∨ loaded.has s.cell = true := h s.cell (by simp [Route.cells])
        rw [Option.map_some, Option.map_some, if_pos (by simpa using hs)]
    -- both sides are summaries; the nested table is shown whenever there is one, for the same
    -- reason as the view
    show RouteSummary.mk _ _ _ _ _ _ _ _ = RouteSummary.mk _ _ _ _ _ _ _ _
    rw [hview, hnested.1, hnested.2, Bool.and_not_self]

/-- A nested table is described in full once each of its cells is loaded or the description
expands. -/
theorem describeNested_eq_full (loaded : Loaded) (expand : Bool) :
    ∀ n : Nesting Route, Shows loaded expand (Route.nestedCells n) →
      (describeNested loaded expand n).1 = n.present ∧
        (describeNested loaded expand n).2.1 = Route.nestedFullSummaries n
  | .none, _ => ⟨rfl, rfl⟩
  | .eager children, h => ⟨rfl, describeTable_eq_fullSummaries loaded expand children h⟩
  | .deferred id children, h => by
    have hc : (expand || loaded.has (.table id)) = true := by
      simpa using h (.table id) List.mem_cons_self
    have hchildren := describeTable_eq_fullSummaries loaded expand children
      fun c hc => h c (List.mem_cons_of_mem _ hc)
    simp only [describeNested, hc, if_true]
    exact ⟨rfl, hchildren⟩

theorem describeTable_eq_fullSummaries (loaded : Loaded) (expand : Bool) :
    ∀ rs : List Route, Shows loaded expand (Route.tableCells rs) →
      (describeTable loaded expand rs).1 = Route.fullSummaries rs
  | [], _ => rfl
  | r :: rs, h => by
    rw [Route.tableCells] at h
    simp only [describeTable, Route.fullSummaries,
      describeRoute_eq_fullSummary loaded expand r h.append_left,
      describeTable_eq_fullSummaries loaded expand rs h.append_right]

end

/-- On the application routes, a description with nothing loaded defers the authentication
table and the not-found view; the full summary shows both. -/
example : (describeTable {} false (appRoutes 0)).1.map (fun s => (s.view, s.deferredChildren)) =
      [(none, true), (some "(deferred)", false), (none, false)] ∧
    (Route.fullSummaries (appRoutes 0)).map (fun s => (s.view, s.children.length)) =
      [(none, 4), (some "not-found", 0), (none, 0)] := by
  decide +kernel

namespace Session

/-- Describing without `expand` loads nothing: the session stays as it is. -/
theorem step_describe_false (s : Session) :
    s.step (.describe false) = (s, .summary (describeTable s.loaded false s.router.root).1) := by
  show ({ s with loaded := s.loaded.mark (describeTable s.loaded false s.router.root).2 },
    Reply.summary (describeTable s.loaded false s.router.root).1) = _
  rw [Loaded.mark_of_has (has_of_mem_describeTable _ _)]

/-- Describing with `expand` answers the full summary, whatever was loaded before. -/
theorem step_describe_true_snd (s : Session) :
    (s.step (.describe true)).2 = .summary (Route.fullSummaries s.router.root) :=
  congrArg Reply.summary (describeTable_eq_fullSummaries _ _ _ (Shows.of_expand _ _))

/-- Describing with `expand` loads every cell of the tree. -/
theorem has_describe_expand {s : Session} {c : Cell} (hc : c ∈ Route.tableCells s.router.root) :
    (s.step (.describe true)).1.loaded.has c :=
  (has_step_iff s _ c).mpr (.inr (.inr (.inr ⟨rfl, hc⟩)))

/-- Loaded cells stay loaded, whatever is asked. -/
theorem has_after_of_has {s : Session} {c : Cell} (reqs : List Request) (hc : s.loaded.has c) :
    (s.after reqs).loaded.has c :=
  (has_after_iff s reqs c).mpr (.inl hc)

/-- Once every cell of the tree is loaded, describing without `expand` answers the full
summary. -/
theorem step_describe_false_of_loaded {s : Session}
    (h : ∀ c ∈ Route.tableCells s.router.root, s.loaded.has c) :
    (s.step (.describe false)).2 = .summary (Route.fullSummaries s.router.root) := by
  rw [step_describe_false]
  exact congrArg Reply.summary
    (describeTable_eq_fullSummaries _ _ _ fun c hc => .inr (h c hc))

/-- **A description shows what is loaded once it is answered.** Every cell a description
forces is loaded in the session it leaves, and its summary is the one a description without
`expand` gives in that session. -/
theorem describe_shows_loaded (s : Session) (expand : Bool) :
    (∀ c ∈ (describeTable s.loaded expand s.router.root).2,
      (s.step (.describe expand)).1.loaded.has c) ∧
    (s.step (.describe expand)).2 = ((s.step (.describe expand)).1.step (.describe false)).2 := by
  refine ⟨fun c hc => Loaded.has_mark.mpr (.inr hc), ?_⟩
  cases expand with
  | false => rw [step_describe_false, step_describe_false]
  | true =>
    -- the expanding description loads every cell, so the plain one shows everything
    rw [step_describe_true_snd, step_describe_false_of_loaded fun c hc => has_describe_expand hc,
      router_step]

end Session

/-- **Describing is an observer, and expanding reaches a fixpoint.** Describing without
`expand` leaves the session as it is, so every later request is answered as if it had not
been made (the same description included). Describing with `expand` answers the full summary
of the tree, whatever was loaded before. After it, whatever requests come between, describing
without `expand` answers that full summary too. -/
theorem describe_observer_fixpoint (s : Session) (reqs : List Request) :
    (s.step (.describe false)).1 = s ∧
    s.run (.describe false :: reqs) =
      .summary (describeTable s.loaded false s.router.root).1 :: s.run reqs ∧
    (s.step (.describe true)).2 = .summary (Route.fullSummaries s.router.root) ∧
    (((s.step (.describe true)).1.after reqs).step (.describe false)).2 =
      .summary (Route.fullSummaries s.router.root) := by
  have hplain := Session.step_describe_false s
  refine ⟨congrArg Prod.fst hplain, by rw [Session.run_cons, hplain], Session.step_describe_true_snd s,
    ?_⟩
  -- the session after the expanding description and the requests between
  obtain ⟨s', hs'⟩ : ∃ s', s' = (s.step (.describe true)).1.after reqs := ⟨_, rfl⟩
  rw [← hs']
  have hrouter : s'.router = s.router := by
    rw [hs', Session.router_after, Session.router_step]
  have hloaded : ∀ c ∈ Route.tableCells s'.router.root, s'.loaded.has c := by
    intro c hc
    rw [hrouter] at hc
    rw [hs']
    exact Session.has_after_of_has reqs (Session.has_describe_expand hc)
  rw [Session.step_describe_false_of_loaded hloaded, hrouter]

end SwitchAdmin
