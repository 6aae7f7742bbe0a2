import SwitchAdmin.Route.Walk

/-!
# The table walk takes the first candidate

`walkTable` stops at the first route that answers: a redirect, a match found below the
route, or the route's own view. Here every answer a table could give is listed instead, in
the order the walk would meet them, and the walk is shown to return the head of that list.

`tableCandidates parent remaining params routes` goes through the routes in declaration
order. A route whose pattern matches the remaining segments contributes

* exactly its redirect, when it has a redirect target (nothing below it, and not its view);
* otherwise every candidate of its nested table, walked with the segments it left over and
  the parameters merged so far, each match getting the route's entry in front; followed by
  the route alone, when no segment is left over and it has a view.

The main statement, `walkTable_eq_head_candidates`, says that the walk's outcome is the
first candidate and that the walk finds nothing exactly when there is no candidate. So the
walk backtracks completely (a route whose nested table has no candidate falls back to its
own view, then to the routes after it) and never returns anything but the first answer.

The walk's outcome is described first by one lemma per way a route can answer
(`walkRoute_fst_of_no_match`, `walkRoute_fst_of_redirect`, `walkRoute_fst_of_matches`);
the induction over the route tree then cites these and never unfolds the walk.
-/

namespace SwitchAdmin

/-! ### Candidates -/

/-- An outcome of a nested table as seen from the route above it: a match gets the route's
entry in front of its chain, a redirect stays as it is. -/
def Outcome.under (entry : MatchedRoute) : Outcome → Outcome
  | .matched chain v => .matched (entry :: chain) v
  | .redirect t => .redirect t

/-- The match a route gives on its own: its entry alone, when no segment is left over and it
has a view. -/
def viewOutcomes (entry : MatchedRoute) (rest : List String) : Option ViewSlot → List Outcome
  | some v => if rest.isEmpty then [.matched [entry] v] else []
  | none => []

mutual

/-- Every answer a route can give, in the order the walk would meet them. -/
def routeCandidates (parent remaining : List String) (params : StrMap String) :
    Route → List Outcome
  | ⟨path, pathMatch, title, redirectTo, view, nesting⟩ =>
    match (Pattern.parse path).matchSegments remaining pathMatch with
    | none => []
    | some m =>
      let consumed := remaining.take m.consumed
      let rest := remaining.drop m.consumed
      let merged := params.union m.params
      match redirectTo with
      | some target => [.redirect (redirectTarget target parent rest merged)]
      | none =>
        let entry : MatchedRoute := ⟨path, consumed, title, m.params⟩
        (nestedCandidates (parent ++ consumed) rest merged nesting).map (Outcome.under entry) ++
          viewOutcomes entry rest view

/-- Every answer of a nested table, none without one. -/
def nestedCandidates (parent remaining : List String) (params : StrMap String) :
    Nesting Route → List Outcome
  | .none => []
  | .eager children => tableCandidates parent remaining params children
  | .deferred _ children => tableCandidates parent remaining params children

/-- Every answer a table can give: the candidates of its routes, in declaration order. -/
def tableCandidates (parent remaining : List String) (params : StrMap String) :
    List Route → List Outcome
  | [] => []
  | r :: rs => routeCandidates parent remaining params r ++ tableCandidates parent remaining params rs

end

theorem tableCandidates_eq_flatMap (parent remaining : List String) (params : StrMap String)
    (routes : List Route) :
    tableCandidates parent remaining params routes =
      routes.flatMap (routeCandidates parent remaining params) := by
  induction routes with
  | nil => rfl
  | cons r rs ih => rw [tableCandidates, ih, List.flatMap_cons]

/-! ### What a route's walk answers -/

/-- The first answer of the nested table of a route whose pattern matched with `m`, or
`none` when the route has no nested table. -/
def Route.nestedWalk (r : Route) (parent remaining : List String) (params : StrMap String)
    (m : PatternMatch) : Option Outcome :=
  (walkNested (parent ++ remaining.take m.consumed) (remaining.drop m.consumed)
    (params.union m.params) r.nesting).1

/-- The entry a route whose pattern matched with `m` adds to a chain. -/
def Route.entry (r : Route) (remaining : List String) (m : PatternMatch) : MatchedRoute :=
  ⟨r.path, remaining.take m.consumed, r.title, m.params⟩

theorem walkRoute_fst_of_no_match {parent remaining : List String} {params : StrMap String}
    {r : Route} (hm : r.pattern.matchSegments remaining r.pathMatch = none) :
    (walkRoute parent remaining params r).1 = none := by
  obtain ⟨path, pathMatch, title, redirectTo, view, nesting⟩ := r
  simp only [Route.pattern] at hm
  simp only [walkRoute, hm]

theorem walkRoute_fst_of_redirect {parent remaining : List String} {params : StrMap String}
    {r : Route} {m : PatternMatch} {target : String}
    (hm : r.pattern.matchSegments remaining r.pathMatch = some m) (hr : r.redirectTo = some target) :
    (walkRoute parent remaining params r).1 =
      some (.redirect (redirectTarget target parent (remaining.drop m.consumed)
        (params.union m.params))) := by
  obtain ⟨path, pathMatch, title, redirectTo, view, nesting⟩ := r
  simp only [Route.pattern] at hm
  subst hr
  simp only [walkRoute, hm]

/-- A matching route without a redirect answers with the first answer of its nested table,
under its entry, and otherwise with its own view. -/
theorem walkRoute_fst_of_matches {parent remaining : List String} {params : StrMap String}
    {r : Route} {m : PatternMatch} (hm : r.pattern.matchSegments remaining r.pathMatch = some m)
    (hr : r.redirectTo = none) :
    (walkRoute parent remaining params r).1 =
      match r.nestedWalk parent remaining params m with
      | some o => some (o.under (r.entry remaining m))
      | none => (viewOutcomes (r.entry remaining m) (remaining.drop m.consumed) r.view).head? := by
  obtain ⟨path, pathMatch, title, redirectTo, view, nesting⟩ := r
  simp only [Route.pattern] at hm
  subst hr
  -- whatever the nested walk loaded, the own-view branch answers the same
  have hview : ∀ cells : List Cell,
      (match view with
        | some v => if (remaining.drop m.consumed).isEmpty then
            (some (Outcome.matched [⟨path, remaining.take m.consumed, title, m.params⟩] v),
              cells ++ [v.cell])
          else (none, cells)
        | none => (none, cells)).1 =
      (viewOutcomes ⟨path, remaining.take m.consumed, title, m.params⟩
        (remaining.drop m.consumed) view).head? := by
    intro cells
    cases view with
    | none => rfl
    | some v =>
      simp only [viewOutcomes]
      split <;> rfl
  simp only [walkRoute, hm, Route.nestedWalk]
  generalize walkNested _ _ _ nesting = w
  obtain ⟨_ | (⟨chain, v⟩ | t), cells⟩ := w
  · exact hview cells
  · rfl
  · rfl

/-! ### The walk and the candidates -/

theorem head?_map_under_append (entry : MatchedRoute) (nested own : List Outcome) :
    (nested.map (Outcome.under entry) ++ own).head? =
      match nested.head? with
      | some o => some (o.under entry)
      | none => own.head? := by
  cases nested <;> rfl

mutual

/-- A route's walk answers with its first candidate. -/
theorem walkRoute_fst (parent remaining : List String) (params : StrMap String) :
    ∀ r : Route,
      (walkRoute parent remaining params r).1 = (routeCandidates parent remaining params r).head?
  | ⟨path, pathMatch, title, redirectTo, view, nesting⟩ => by
    rcases hm : (Pattern.parse path).matchSegments remaining pathMatch with _ | m
    · rw [walkRoute_fst_of_no_match (r := ⟨path, pathMatch, title, redirectTo, view, nesting⟩) hm]
      simp only [routeCandidates, hm, List.head?_nil]
    · rcases redirectTo with _ | target
      · rw [walkRoute_fst_of_matches (r := ⟨path, pathMatch, title, none, view, nesting⟩) hm rfl]
        simp only [routeCandidates, hm]
        -- the nested table's first answer is its first candidate
        have ih := walkNested_fst (parent ++ remaining.take m.consumed) (remaining.drop m.consumed)
          (params.union m.params) nesting
        simp only [Route.nestedWalk, Route.entry, ih, head?_map_under_append]
      · rw [walkRoute_fst_of_redirect (r := ⟨path, pathMatch, title, some target, view, nesting⟩)
          hm rfl]
        simp only [routeCandidates, hm, List.head?_cons]

/-- A nested table's walk answers with its first candidate. -/
theorem walkNested_fst (parent remaining : List String) (params : StrMap String) :
    ∀ n : Nesting Route,
      (walkNested parent remaining params n).1 = (nestedCandidates parent remaining params n).head?
  | .none => rfl
  | .eager children => walkTable_fst parent remaining params children
  | .deferred _ children => walkTable_fst parent remaining params children

/-- A table's walk answers with its first candidate. -/
theorem walkTable_fst (parent remaining : List String) (params : StrMap String) :
    ∀ routes : List Route,
      (walkTable parent remaining params routes).1 =
        (tableCandidates parent remaining params routes).head?
  | [] => rfl
  | r :: rs => by
    have hr := walkRoute_fst parent remaining params r
    have hrs := walkTable_fst parent remaining params rs
    simp only [walkTable, tableCandidates, List.head?_append]
    rw [← hr, ← hrs]
    cases (walkRoute parent remaining params r).1 <;> rfl

end

/-- Whatever the walk answers is one of the table's candidates. -/
theorem mem_tableCandidates_of_walkTable {parent remaining : List String}
    {params : StrMap String} {routes : List Route} {o : Outcome}
    (h : (walkTable parent remaining params routes).1 = some o) :
    o ∈ tableCandidates parent remaining params routes := by
  rw [walkTable_fst] at h
  exact List.mem_of_head? h

/-- **The walk is the first candidate.** For every route tree, parent segments, remaining
segments and inherited parameters, the table walk answers with the first of the table's
candidates, and finds nothing exactly when the table has no candidate. -/
theorem walkTable_eq_head_candidates (parent remaining : List String) (params : StrMap String)
    (routes : List Route) :
    (walkTable parent remaining params routes).1 =
        (tableCandidates parent remaining params routes).head? ∧
      ((walkTable parent remaining params routes).1 = none ↔
        tableCandidates parent remaining params routes = []) := by
  have hfst := walkTable_fst parent remaining params routes
  refine ⟨hfst, ?_⟩
  rw [hfst]
  exact List.head?_eq_none_iff

end SwitchAdmin
