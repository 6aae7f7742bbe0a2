import SwitchAdmin.Proofs.Resolution

/-!
# What a walk loads

Walking a table loads cells as a side effect: the deferred nested table of every route the
walk descends into, and the view of the route it ends on. The walk backtracks, so it may
load the nested table of a route whose nested table then answers nothing.

`RouteEnters` and `TableEnters` name the routes a walk enters: a route whose pattern matches
the remaining segments and which does not redirect, reached through the routes before it in
its table answering nothing and through the routes above it being entered. The main
statement, `mem_walkTable_cells`, says that the walk loads exactly the nested-table cells of
the routes it enters and the view cell of the match it returns, and nothing else: no view of
a route it backtracked from, and nothing below or after a redirect.

`InTable` places routes in the tree, as `Route.tableCells` does: every route the walk enters
and every view it ends on belongs to the tree.
-/

namespace SwitchAdmin

/-! ### The routes a walk enters -/

mutual

/-- `RouteEnters parent remaining params r e`: walking the route `r` enters the route `e`. -/
inductive RouteEnters : List String → List String → StrMap String → Route → Route → Prop
  /-- The route matches and does not redirect. -/
  | self {parent remaining : List String} {params : StrMap String} {r : Route}
      {m : PatternMatch} :
      r.pattern.matchSegments remaining r.pathMatch = some m → r.redirectTo = none →
      RouteEnters parent remaining params r r
  /-- The route matches without redirecting, and its nested table enters `e`. -/
  | nested {parent remaining : List String} {params : StrMap String} {r e : Route}
      {m : PatternMatch} :
      r.pattern.matchSegments remaining r.pathMatch = some m → r.redirectTo = none →
      TableEnters (parent ++ remaining.take m.consumed) (remaining.drop m.consumed)
        (params.union m.params) r.children e →
      RouteEnters parent remaining params r e

/-- `TableEnters parent remaining params routes e`: walking the table enters the route `e`. -/
inductive TableEnters : List String → List String → StrMap String → List Route → Route → Prop
  /-- The first route enters `e`. -/
  | head {parent remaining : List String} {params : StrMap String} {r e : Route}
      {rs : List Route} :
      RouteEnters parent remaining params r e → TableEnters parent remaining params (r :: rs) e
  /-- The first route answers nothing, and the walk goes on to the others. -/
  | tail {parent remaining : List String} {params : StrMap String} {r e : Route}
      {rs : List Route} :
      routeCandidates parent remaining params r = [] →
      TableEnters parent remaining params rs e → TableEnters parent remaining params (r :: rs) e

end

variable {parent remaining : List String} {params : StrMap String}

theorem routeEnters_iff {r e : Route} :
    RouteEnters parent remaining params r e ↔
      ∃ m, r.pattern.matchSegments remaining r.pathMatch = some m ∧ r.redirectTo = none ∧
        (e = r ∨ TableEnters (parent ++ remaining.take m.consumed)
          (remaining.drop m.consumed) (params.union m.params) r.children e) := by
  constructor
  · intro h
    cases h with
    | self hm hr => exact ⟨_, hm, hr, .inl rfl⟩
    | nested hm hr ht => exact ⟨_, hm, hr, .inr ht⟩
  · rintro ⟨m, hm, hr, rfl | ht⟩
    · exact .self hm hr
    · exact .nested hm hr ht

theorem not_tableEnters_nil {e : Route} : ¬ TableEnters parent remaining params [] e := by
  intro h
  cases h

theorem tableEnters_cons_iff {r e : Route} {rs : List Route} :
    TableEnters parent remaining params (r :: rs) e ↔
      RouteEnters parent remaining params r e ∨
        routeCandidates parent remaining params r = [] ∧ TableEnters parent remaining params rs e := by
  constructor
  · intro h
    cases h with
    | head h => exact .inl h
    | tail hc h => exact .inr ⟨hc, h⟩
  · rintro (h | ⟨hc, h⟩)
    · exact .head h
    · exact .tail hc h

/-! ### The cells a walk loads -/

theorem walkRoute_snd_of_no_match {r : Route}
    (hm : r.pattern.matchSegments remaining r.pathMatch = none) :
    (walkRoute parent remaining params r).2 = [] := by
  obtain ⟨path, pathMatch, title, redirectTo, view, nesting⟩ := r
  simp only [Route.pattern] at hm
  simp only [walkRoute, hm]

theorem walkRoute_snd_of_redirect {r : Route} {m : PatternMatch} {target : String}
    (hm : r.pattern.matchSegments remaining r.pathMatch = some m) (hr : r.redirectTo = some target) :
    (walkRoute parent remaining params r).2 = [] := by
  obtain ⟨path, pathMatch, title, redirectTo, view, nesting⟩ := r
  simp only [Route.pattern] at hm
  subst hr
  simp only [walkRoute, hm]

/-- A nested table's walk is the walk of its routes, after its own cell when it is
deferred. -/
theorem walkNested_eq (n : Nesting Route) :
    walkNested parent remaining params n =
      ((walkTable parent remaining params n.routes).1,
        n.cell.toList ++ (walkTable parent remaining params n.routes).2) := by
  cases n <;> rfl

theorem Route.nestedWalk_eq (r : Route) (m : PatternMatch) :
    r.nestedWalk parent remaining params m =
      (walkTable (parent ++ remaining.take m.consumed) (remaining.drop m.consumed)
        (params.union m.params) r.children).1 := by
  rw [Route.nestedWalk, walkNested_eq]
  rfl

theorem mem_walkRoute_snd_of_matches {r : Route} {m : PatternMatch} {c : Cell}
    (hm : r.pattern.matchSegments remaining r.pathMatch = some m) (hr : r.redirectTo = none) :
    c ∈ (walkRoute parent remaining params r).2 ↔
      r.childCell = some c ∨
      c ∈ (walkTable (parent ++ remaining.take m.consumed) (remaining.drop m.consumed)
        (params.union m.params) r.children).2 ∨
      (r.nestedWalk parent remaining params m = none ∧
        ∃ v, r.view = some v ∧ (remaining.drop m.consumed).isEmpty ∧ v.cell = c) := by
  obtain ⟨path, pathMatch, title, redirectTo, view, nesting⟩ := r
  simp only [Route.pattern] at hm
  subst hr
  simp only [walkRoute, hm, walkNested_eq, Route.nestedWalk_eq, Route.childCell, Route.children]
  -- the nested table's cell comes first, whatever its walk answers
  have hcell : c ∈ nesting.cell.toList ↔ nesting.cell = some c := by
    cases nesting.cell <;> simp [@eq_comm _ _ c]
  generalize walkTable _ _ _ nesting.routes = w
  obtain ⟨_ | (⟨chain, v⟩ | t), cells⟩ := w
  · cases view with
    | none => simp [hcell]
    | some w =>
      by_cases hrest : (remaining.drop m.consumed).isEmpty = true <;>
        simp [hrest, hcell, @eq_comm _ w.cell c]
  · simp [hcell]
  · simp [hcell]

/-- A matching route without redirect ends on a view: one its nested table ended on, or its
own when the nested table answered nothing and no segment is left over. -/
theorem exists_walkRoute_matched_iff {r : Route} {m : PatternMatch} {v : ViewSlot}
    (hm : r.pattern.matchSegments remaining r.pathMatch = some m) (hr : r.redirectTo = none) :
    (∃ chain, (walkRoute parent remaining params r).1 = some (.matched chain v)) ↔
      (∃ chain, r.nestedWalk parent remaining params m = some (.matched chain v)) ∨
        r.nestedWalk parent remaining params m = none ∧ r.view = some v ∧
          (remaining.drop m.consumed).isEmpty = true := by
  rw [walkRoute_fst_of_matches hm hr]
  rcases r.nestedWalk parent remaining params m with _ | (⟨chain, w⟩ | t)
  · rcases r.view with _ | w
    · simp [viewOutcomes]
    · by_cases hrest : (remaining.drop m.consumed).isEmpty = true <;>
        simp [viewOutcomes, hrest, @eq_comm _ w v]
  · simp [Outcome.under, @eq_comm _ w v]
  · simp [Outcome.under]

/-- One route: what its walk loads, given what the walks of its nested table load. -/
theorem mem_walkRoute_cells_step {r : Route} {c : Cell}
    (ih : ∀ parent' remaining' params', c ∈ (walkTable parent' remaining' params' r.children).2 ↔
      (∃ e, TableEnters parent' remaining' params' r.children e ∧ e.childCell = some c) ∨
        ∃ chain v, (walkTable parent' remaining' params' r.children).1 = some (.matched chain v) ∧
          v.cell = c) :
    c ∈ (walkRoute parent remaining params r).2 ↔
      (∃ e, RouteEnters parent remaining params r e ∧ e.childCell = some c) ∨
        ∃ chain v, (walkRoute parent remaining params r).1 = some (.matched chain v) ∧
          v.cell = c := by
  rcases hm : r.pattern.matchSegments remaining r.pathMatch with _ | m
  · rw [walkRoute_snd_of_no_match hm, walkRoute_fst_of_no_match hm]
    simp [routeEnters_iff, hm]
  rcases hr : r.redirectTo with _ | target
  · -- the route is entered: it, and the routes entered in its nested table
    have henter : ∀ e, RouteEnters parent remaining params r e ↔ e = r ∨
        TableEnters (parent ++ remaining.take m.consumed)
          (remaining.drop m.consumed) (params.union m.params) r.children e := by
      intro e
      rw [routeEnters_iff]
      constructor
      · rintro ⟨m', hm', -, h⟩
        rw [hm] at hm'
        cases hm'
        exact h
      · exact fun h => ⟨m, hm, hr, h⟩
    rw [mem_walkRoute_snd_of_matches hm hr, ih]
    constructor
    · rintro (hA | (⟨e, he, hc⟩ | ⟨chain, v, hw, hc⟩) | ⟨hNW, v, hv, hempty, hc⟩)
      · exact .inl ⟨r, (henter r).mpr (.inl rfl), hA⟩
      · exact .inl ⟨e, (henter e).mpr (.inr he), hc⟩
      · obtain ⟨chain', hw'⟩ := (exists_walkRoute_matched_iff hm hr).mpr
          (.inl ⟨chain, by rw [Route.nestedWalk_eq, hw]⟩)
        exact .inr ⟨chain', v, hw', hc⟩
      · obtain ⟨chain', hw'⟩ := (exists_walkRoute_matched_iff hm hr).mpr (.inr ⟨hNW, hv, hempty⟩)
        exact .inr ⟨chain', v, hw', hc⟩
    · rintro (⟨e, he, hc⟩ | ⟨chain, v, hw, hc⟩)
      · rcases (henter e).mp he with rfl | hte
        · exact .inl hc
        · exact .inr (.inl (.inl ⟨e, hte, hc⟩))
      · rcases (exists_walkRoute_matched_iff hm hr).mp ⟨chain, hw⟩ with
          ⟨chain', hnest⟩ | ⟨hNW, hv, hempty⟩
        · rw [Route.nestedWalk_eq] at hnest
          exact .inr (.inl (.inr ⟨chain', v, hnest, hc⟩))
        · exact .inr (.inr ⟨hNW, v, hv, hempty, hc⟩)
  · -- a redirect loads nothing and enters nothing
    rw [walkRoute_snd_of_redirect hm hr, walkRoute_fst_of_redirect hm hr]
    simp [routeEnters_iff, hr]

theorem walkTable_cons_of_none {r : Route} {rs : List Route}
    (hw : (walkRoute parent remaining params r).1 = none) :
    walkTable parent remaining params (r :: rs) =
      ((walkTable parent remaining params rs).1,
        (walkRoute parent remaining params r).2 ++ (walkTable parent remaining params rs).2) := by
  simp only [walkTable, hw]

theorem walkTable_cons_of_some {r : Route} {rs : List Route} {o : Outcome}
    (hw : (walkRoute parent remaining params r).1 = some o) :
    walkTable parent remaining params (r :: rs) = (some o, (walkRoute parent remaining params r).2) := by
  simp only [walkTable, hw]

/-- A table whose first route is `r`: what its walk loads, given what the walks of `r` and of
the other routes load. -/
theorem mem_walkTable_cells_cons {r : Route} {rs : List Route} {c : Cell}
    (ihr : c ∈ (walkRoute parent remaining params r).2 ↔
      (∃ e, RouteEnters parent remaining params r e ∧ e.childCell = some c) ∨
        ∃ chain v, (walkRoute parent remaining params r).1 = some (.matched chain v) ∧ v.cell = c)
    (ihrs : c ∈ (walkTable parent remaining params rs).2 ↔
      (∃ e, TableEnters parent remaining params rs e ∧ e.childCell = some c) ∨
        ∃ chain v, (walkTable parent remaining params rs).1 = some (.matched chain v) ∧ v.cell = c) :
    c ∈ (walkTable parent remaining params (r :: rs)).2 ↔
      (∃ e, TableEnters parent remaining params (r :: rs) e ∧ e.childCell = some c) ∨
        ∃ chain v, (walkTable parent remaining params (r :: rs)).1 = some (.matched chain v) ∧
          v.cell = c := by
  simp only [tableEnters_cons_iff]
  rcases hw : (walkRoute parent remaining params r).1 with _ | o
  · -- the route offers nothing: the walk goes on, keeping what the route loaded
    have hnil : routeCandidates parent remaining params r = [] := by
      rw [walkRoute_fst] at hw
      exact List.head?_eq_none_iff.mp hw
    rw [walkTable_cons_of_none hw, List.mem_append, ihr, ihrs, hw]
    constructor
    · rintro ((⟨e, he, hc⟩ | ⟨_, _, h, _⟩) | ⟨e, he, hc⟩ | hw')
      · exact .inl ⟨e, .inl he, hc⟩
      · cases h
      · exact .inl ⟨e, .inr ⟨hnil, he⟩, hc⟩
      · exact .inr hw'
    · rintro (⟨e, he | ⟨-, he⟩, hc⟩ | hw')
      · exact .inl (.inl ⟨e, he, hc⟩)
      · exact .inr (.inl ⟨e, he, hc⟩)
      · exact .inr (.inr hw')
  · -- the route answers: the walk ends with it
    have hne : routeCandidates parent remaining params r ≠ [] := by
      rw [walkRoute_fst] at hw
      intro hnil
      rw [hnil] at hw
      cases hw
    rw [walkTable_cons_of_some hw, ihr, hw]
    constructor
    · rintro (⟨e, he, hc⟩ | hw')
      · exact .inl ⟨e, .inl he, hc⟩
      · exact .inr hw'
    · rintro (⟨e, he | ⟨hnil, -⟩, hc⟩ | hw')
      · exact .inl ⟨e, he, hc⟩
      · exact absurd hnil hne
      · exact .inr hw'

mutual

/-- **What a route's walk loads**: the nested tables of the routes it enters, and the view it
ends on. -/
theorem mem_walkRoute_cells (parent remaining : List String) (params : StrMap String) :
    ∀ (r : Route) (c : Cell), c ∈ (walkRoute parent remaining params r).2 ↔
      (∃ e, RouteEnters parent remaining params r e ∧ e.childCell = some c) ∨
        ∃ chain v, (walkRoute parent remaining params r).1 = some (.matched chain v) ∧ v.cell = c
  | ⟨_, _, _, _, _, nesting⟩, c =>
    mem_walkRoute_cells_step fun parent' remaining' params' =>
      mem_walkNested_cells parent' remaining' params' nesting c

/-- What the walk of a nested table's routes loads. -/
theorem mem_walkNested_cells (parent remaining : List String) (params : StrMap String) :
    ∀ (n : Nesting Route) (c : Cell), c ∈ (walkTable parent remaining params n.routes).2 ↔
      (∃ e, TableEnters parent remaining params n.routes e ∧ e.childCell = some c) ∨
        ∃ chain v, (walkTable parent remaining params n.routes).1 = some (.matched chain v) ∧
          v.cell = c
  | .none, c => mem_walkTable_cells parent remaining params [] c
  | .eager children, c => mem_walkTable_cells parent remaining params children c
  | .deferred _ children, c => mem_walkTable_cells parent remaining params children c

/-- **What a table's walk loads**: the nested tables of the routes it enters, and the view it
ends on. -/
theorem mem_walkTable_cells (parent remaining : List String) (params : StrMap String) :
    ∀ (routes : List Route) (c : Cell), c ∈ (walkTable parent remaining params routes).2 ↔
      (∃ e, TableEnters parent remaining params routes e ∧ e.childCell = some c) ∨
        ∃ chain v, (walkTable parent remaining params routes).1 = some (.matched chain v) ∧
          v.cell = c
  | [], c => by simp [walkTable, not_tableEnters_nil]
  | r :: rs, c =>
    mem_walkTable_cells_cons (mem_walkRoute_cells parent remaining params r c)
      (mem_walkTable_cells parent remaining params rs c)

end

/-! ### The route tree -/

/-- `InTable routes e`: the route `e` is one of the table's routes, or sits in the nested table
of one of them, at any depth. -/
inductive InTable : List Route → Route → Prop
  | top {routes : List Route} {e : Route} : e ∈ routes → InTable routes e
  | nested {routes : List Route} {r e : Route} :
      r ∈ routes → InTable r.children e → InTable routes e

theorem not_inTable_nil {e : Route} : ¬ InTable [] e := by
  intro h
  cases h with
  | top he => cases he
  | nested hr _ => cases hr

theorem inTable_cons_iff {r e : Route} {rs : List Route} :
    InTable (r :: rs) e ↔ e = r ∨ InTable r.children e ∨ InTable rs e := by
  constructor
  · intro h
    cases h with
    | top he =>
      rcases List.mem_cons.mp he with rfl | he
      · exact .inl rfl
      · exact .inr (.inr (.top he))
    | nested hr h =>
      rcases List.mem_cons.mp hr with rfl | hr
      · exact .inr (.inl h)
      · exact .inr (.inr (.nested hr h))
  · rintro (rfl | h | h)
    · exact .top List.mem_cons_self
    · exact .nested List.mem_cons_self h
    · cases h with
      | top he => exact .top (List.mem_cons_of_mem _ he)
      | nested hr h => exact .nested (List.mem_cons_of_mem _ hr) h

mutual

theorem RouteEnters.eq_or_inTable {parent remaining : List String} {params : StrMap String}
    {r e : Route} : RouteEnters parent remaining params r e → e = r ∨ InTable r.children e
  | .self _ _ => .inl rfl
  | .nested _ _ h => .inr h.inTable

/-- A walk only enters routes of the table it walks. -/
theorem TableEnters.inTable {parent remaining : List String} {params : StrMap String}
    {routes : List Route} {e : Route} :
    TableEnters parent remaining params routes e → InTable routes e
  | .head h => by
    rcases h.eq_or_inTable with rfl | h
    · exact .top List.mem_cons_self
    · exact .nested List.mem_cons_self h
  | .tail _ h => inTable_cons_iff.mpr (.inr (.inr h.inTable))

end

/-- A chain from `r` ends at a route of the tree below it. -/
theorem Route.Resolves.inTable {routes : List Route} {r : Route} {chain : List MatchedRoute}
    {v : ViewSlot} (h : r.Resolves chain v) (hr : r ∈ routes) :
    ∃ e, InTable routes e ∧ e.view = some v := by
  induction h generalizing routes with
  | leaf _ hv => exact ⟨_, .top hr, hv⟩
  | node _ hnext _ ih =>
    obtain ⟨e, he, hv⟩ := ih hnext
    exact ⟨e, .nested hr he, hv⟩

theorem Route.cells_eq (r : Route) :
    r.cells = (r.view.map (·.cell)).toList ++ r.childCell.toList ++ Route.tableCells r.children := by
  obtain ⟨path, pathMatch, title, redirectTo, view, nesting⟩ := r
  cases nesting <;> simp [Route.cells, Route.nestedCells, Route.childCell, Route.children,
    Nesting.cell, Nesting.routes, Route.tableCells]

/-- A route's own table cell is a table's cell. -/
theorem Route.childCell_eq_some {e : Route} {c : Cell} (h : e.childCell = some c) :
    ∃ id, c = .table id := by
  obtain ⟨_, _, _, _, _, _ | _ | ⟨id, _⟩⟩ := e <;> cases h
  exact ⟨id, rfl⟩

theorem Route.mem_tableCells {routes : List Route} {r : Route} {c : Cell} (hr : r ∈ routes)
    (hc : c ∈ r.cells) : c ∈ Route.tableCells routes := by
  induction routes with
  | nil => cases hr
  | cons r' rs ih =>
    rw [Route.tableCells.eq_2]
    rcases List.mem_cons.mp hr with rfl | hr
    · exact List.mem_append_left _ hc
    · exact List.mem_append_right _ (ih hr)

/-- The cells of a route of the tree are cells of the tree. -/
theorem InTable.cells_subset {routes : List Route} {e : Route} (h : InTable routes e) :
    ∀ c ∈ e.cells, c ∈ Route.tableCells routes := by
  induction h with
  | top he => exact fun c hc => Route.mem_tableCells he hc
  | nested hr _ ih =>
    intro c hc
    refine Route.mem_tableCells hr ?_
    rw [Route.cells_eq]
    exact List.mem_append_right _ (ih c hc)

end SwitchAdmin
