import SwitchAdmin.Proofs.Redirects
import SwitchAdmin.Proofs.Resolution

/-!
# Redirects rewrite the walked URL in place

A redirecting route only sees the segments above it (`parent`) and the segments it left over
(`rest`), and builds its target from them and from the parameters captured so far. Here the
target is read back in terms of the segments the root walk started from.

The walk reaches a redirecting route `e` through routes that each consumed a piece of the URL
without redirecting (`Route.Descends`: they give their entries, and each next route sits in the
nested table of the one before). If these routes consumed `S[0..i)` and `e`'s pattern consumed
`S[i..j)`, the walk redirects to

* `S[0..i) ++ pieces ++ S[j..)` for a relative target, and
* `pieces ++ S[j..)` for a target that starts with `/`,

where `pieces` are the non-empty `/`-pieces of the target, each `:name` replaced by the value
captured under `name` by `e` or, failing that, by the deepest route above it that captured one
(`fillPiece`). Nothing else is touched: `..` and `.` stay as they are written, and so does a
`:name` that nothing captured.

The main statement is `redirect_rewrites_walked_url`. It rests on one fact about candidates
(`redirect_of_mem_tableCandidates`): every redirect a table can answer is so made, with the
walked segments `parent ++ remaining` split as `parent`, the routes' consumed segments, and the
rest; and the parameters threaded down the walk are looked up deepest first
(`find?_foldl_union`).
-/

namespace SwitchAdmin

/-! ### Paths down the route tree -/

/-- `r.Descends ancestors e`: the route `e` is reached from `r` through routes that give the
entries `ancestors`, each without redirect and each holding the next in its nested table. -/
inductive Route.Descends : Route → List MatchedRoute → Route → Prop
  /-- The route itself, with nothing above it. -/
  | here (r : Route) : Route.Descends r [] r
  /-- Through `r`, which gives the entry `m`, into its nested table. -/
  | down {r next e : Route} {m : MatchedRoute} {ancestors : List MatchedRoute} :
      r.Gives m → next ∈ r.children → next.Descends ancestors e →
      Route.Descends r (m :: ancestors) e

/-- A piece of a redirect target with its parameter filled in: `:name` becomes the value
`capture name` when there is one, and every other piece, like a `:name` with nothing captured,
stays as it is written. -/
def fillPiece (capture : String → Option String) (piece : String) : String :=
  match piece.toList with
  | ':' :: name => (capture (String.ofList name)).getD piece
  | _ => piece

/-- A redirect target is its pieces, filled in from the merged parameters, after the parent
segments unless it starts with `/`, and before the segments left over. -/
theorem redirectTarget_eq (target : String) (parent rest : List String)
    (params : StrMap String) :
    redirectTarget target parent rest params =
      (if target.toList.head? = some '/' then [] else parent) ++
        (segmentsOf target '/').map (fillPiece params.find?) ++ rest := rfl

theorem Outcome.under_eq_redirect {entry : MatchedRoute} {o : Outcome} {t : List String}
    (h : o.under entry = .redirect t) : o = .redirect t := by
  cases o with
  | matched chain v => cases h
  | redirect t' => exact h

/-! ### Redirect candidates -/

/-- The parameters threaded down to a route below `ancestors`: those inherited, then each
ancestor's captures in turn. -/
def threadParams (params : StrMap String) (ancestors : List MatchedRoute) : StrMap String :=
  ancestors.foldl (fun acc m => acc.union m.params) params

mutual

/-- Every redirect a route offers comes from a route below it, reached through routes that
consumed the front of the remaining segments, with the parameters threaded down to it. -/
theorem redirect_of_mem_routeCandidates (parent remaining : List String)
    (params : StrMap String) :
    ∀ (r : Route) {next : List String},
      .redirect next ∈ routeCandidates parent remaining params r →
      ∃ ancestors e target pm rest, r.Descends ancestors e ∧ e.redirectTo = some target ∧
        remaining = ancestors.flatMap (·.segments) ++ rest ∧
        e.pattern.matchSegments rest e.pathMatch = some pm ∧
        next = redirectTarget target (parent ++ ancestors.flatMap (·.segments))
          (rest.drop pm.consumed) ((threadParams params ancestors).union pm.params)
  | ⟨path, pathMatch, title, redirectTo, view, nesting⟩, next, h => by
    rcases hm : (Pattern.parse path).matchSegments remaining pathMatch with _ | m
    · simp [routeCandidates, hm] at h
    · rcases redirectTo with _ | target
      · simp only [routeCandidates, hm, List.mem_append] at h
        have hgive := Route.gives_entry (r := ⟨path, pathMatch, title, none, view, nesting⟩) hm rfl
        rcases h with h | h
        · -- a redirect of the nested table, reached through this route's entry
          obtain ⟨o, ho, hunder⟩ := List.mem_map.mp h
          rw [Outcome.under_eq_redirect hunder] at ho
          obtain ⟨child, hchild, ancestors, e, target, pm, rest, hdesc, htarget, hrem, hpm,
            rfl⟩ := redirect_of_mem_nestedCandidates _ _ _ nesting ho
          refine ⟨_ :: ancestors, e, target, pm, rest, .down hgive hchild hdesc, htarget, ?_,
            hpm, ?_⟩
          · rw [List.flatMap_cons, List.append_assoc, ← hrem]
            exact (List.take_append_drop _ _).symm
          · simp only [List.flatMap_cons, List.append_assoc, threadParams, List.foldl_cons]
            rfl
        · -- the route's own view answers only with a match
          cases view with
          | none => simp [viewOutcomes] at h
          | some w =>
            simp only [viewOutcomes] at h
            split at h <;> simp at h
      · -- the route redirects itself, with nothing above it
        simp only [routeCandidates, hm, List.mem_singleton, Outcome.redirect.injEq] at h
        refine ⟨[], ⟨path, pathMatch, title, some target, view, nesting⟩, target, m,
          remaining, .here _, rfl, rfl, hm, ?_⟩
        rw [h, List.flatMap_nil, List.append_nil]
        rfl

/-- Every redirect a nested table offers comes from a route below one of its routes. -/
theorem redirect_of_mem_nestedCandidates (parent remaining : List String)
    (params : StrMap String) :
    ∀ (n : Nesting Route) {next : List String},
      .redirect next ∈ nestedCandidates parent remaining params n →
      ∃ r ∈ n.routes, ∃ ancestors e target pm rest, r.Descends ancestors e ∧
        e.redirectTo = some target ∧
        remaining = ancestors.flatMap (·.segments) ++ rest ∧
        e.pattern.matchSegments rest e.pathMatch = some pm ∧
        next = redirectTarget target (parent ++ ancestors.flatMap (·.segments))
          (rest.drop pm.consumed) ((threadParams params ancestors).union pm.params)
  | .none, _, h => by simp [nestedCandidates] at h
  | .eager children, _, h => redirect_of_mem_tableCandidates _ _ _ children h
  | .deferred _ children, _, h => redirect_of_mem_tableCandidates _ _ _ children h

/-- Every redirect a table offers comes from a route below one of its routes. -/
theorem redirect_of_mem_tableCandidates (parent remaining : List String)
    (params : StrMap String) :
    ∀ (routes : List Route) {next : List String},
      .redirect next ∈ tableCandidates parent remaining params routes →
      ∃ r ∈ routes, ∃ ancestors e target pm rest, r.Descends ancestors e ∧
        e.redirectTo = some target ∧
        remaining = ancestors.flatMap (·.segments) ++ rest ∧
        e.pattern.matchSegments rest e.pathMatch = some pm ∧
        next = redirectTarget target (parent ++ ancestors.flatMap (·.segments))
          (rest.drop pm.consumed) ((threadParams params ancestors).union pm.params)
  | [], _, h => by simp [tableCandidates] at h
  | r :: rs, next, h => by
    simp only [tableCandidates, List.mem_append] at h
    rcases h with h | h
    · exact ⟨r, List.mem_cons_self, redirect_of_mem_routeCandidates _ _ _ r h⟩
    · obtain ⟨r', hr', hrest⟩ := redirect_of_mem_tableCandidates _ _ _ rs h
      exact ⟨r', List.mem_cons_of_mem _ hr', hrest⟩

end

/-! ### The captures a redirect sees -/

/-- The parameters a redirecting route sees, when nothing was inherited: its own captures
first, then those of the routes above it, deepest first. -/
theorem find?_threadParams_union (ancestors : List MatchedRoute) (pm : PatternMatch)
    (key : String) :
    ((threadParams StrMap.empty ancestors).union pm.params).find? key =
      (pm.params.find? key).or (ancestors.reverse.findSome? (·.params.find? key)) := by
  rw [StrMap.find?_union, threadParams, find?_foldl_union ancestors,
    StrMap.find?_empty, Option.or_none]

/-- **Redirects are local rewrites of the walked URL.** When the root walk on `S` redirects to
`S'`, the redirect comes from a route `e` reached from a root route through routes that
consumed the front of `S` without redirecting; `e`'s pattern takes its piece of the rest; and
`S'` is what those routes consumed (unless the target starts with `/`), then the target's
pieces with `:name` filled from `e`'s captures or else the deepest capture above it, then what
`e` left over. -/
theorem redirect_rewrites_walked_url (root : List Route) (S S' : List String)
    (h : (walkTable [] S StrMap.empty root).1 = some (.redirect S')) :
    ∃ r ∈ root, ∃ ancestors e target pm rest, r.Descends ancestors e ∧
      e.redirectTo = some target ∧
      S = ancestors.flatMap (·.segments) ++ rest ∧
      e.pattern.matchSegments rest e.pathMatch = some pm ∧
      S' = (if target.toList.head? = some '/' then [] else ancestors.flatMap (·.segments)) ++
        (segmentsOf target '/').map (fillPiece fun name =>
          (pm.params.find? name).or (ancestors.reverse.findSome? (·.params.find? name))) ++
        rest.drop pm.consumed := by
  obtain ⟨r, hr, ancestors, e, target, pm, rest, hdesc, htarget, hS, hpm, hS'⟩ :=
    redirect_of_mem_tableCandidates _ _ _ _ (mem_tableCandidates_of_walkTable h)
  refine ⟨r, hr, ancestors, e, target, pm, rest, hdesc, htarget, hS, hpm, ?_⟩
  -- the merged parameters are looked up innermost first
  have hcapture : StrMap.find? ((threadParams StrMap.empty ancestors).union pm.params) =
      fun name => (pm.params.find? name).or (ancestors.reverse.findSome? (·.params.find? name)) :=
    funext (find?_threadParams_union ancestors pm)
  rw [hS', redirectTarget_eq, List.nil_append, hcapture]

/-- A route tree where `users/:id` holds a route `old` redirecting to `../:id/profile`. -/
def profileRouter : Router :=
  { root := [{ path := "users/:id",
               nesting := .eager [{ path := "old", redirectTo := some "../:id/profile" }] }] }

/-- A relative redirect keeps the segments above it and its `..` piece, and fills `:id` from
the route above: `/users/7/old` redirects to `/users/7/../7/profile`. -/
theorem redirect_keeps_parent_and_dots :
    (walkTable [] ["users", "7", "old"] StrMap.empty profileRouter.root).1 =
        some (.redirect ["users", "7", "..", "7", "profile"]) ∧
      ∃ r ∈ profileRouter.root, ∃ ancestors e target pm rest, r.Descends ancestors e ∧
        e.redirectTo = some target ∧
        ["users", "7", "old"] = ancestors.flatMap (·.segments) ++ rest ∧
        e.pattern.matchSegments rest e.pathMatch = some pm ∧
        ["users", "7", "..", "7", "profile"] =
          (if target.toList.head? = some '/' then [] else ancestors.flatMap (·.segments)) ++
          (segmentsOf target '/').map (fillPiece fun name =>
            (pm.params.find? name).or (ancestors.reverse.findSome? (·.params.find? name))) ++
          rest.drop pm.consumed := by
  have hwalk : (walkTable [] ["users", "7", "old"] StrMap.empty profileRouter.root).1 =
      some (.redirect ["users", "7", "..", "7", "profile"]) :=
    Router.redirectOf_eq_some.mp (by decide +kernel)
  exact ⟨hwalk, redirect_rewrites_walked_url _ _ _ hwalk⟩

end SwitchAdmin
