import SwitchAdmin.Proofs.Backtracking
import SwitchAdmin.Proofs.Redirects
import SwitchAdmin.Proofs.StrMap

/-!
# Resolutions are consistent with the route tree

A resolution reports the chain of routes that matched, each with the segments it consumed
and the parameters it captured, and from that chain its URL, view, title and parameters.
The chain is built bottom-up by the walk, while the parameters are threaded top-down; here
both are related to the route tree itself.

`Route.Resolves r chain v` says that `chain` is a path down the route tree from `r` to a
route with view `v`: every route on it has no redirect and gives its entry (`Route.Gives`:
its path and title, and exactly what its pattern captures from the entry's segments), each
later route is a nested route of the one before, and the last route's view is `v`.

The main statement, `resolution_consistent`, says that every resolution `recognize` or
`navigate` gives has a non-empty chain that starts at a route of the root table and
`Resolves` to its view; that the chain's segments, in order, spell its URL; that its
parameters are those of the chain, a deeper route winning, and nothing else; and that its
title is the deepest one on the chain.

The chain facts are proved of every candidate of `Backtracking` (`resolves_of_mem_tableCandidates`),
so of the walk's answer, whichever route it comes from.
-/

namespace SwitchAdmin

/-! ### Patterns matched against what they consumed -/

namespace Pattern

theorem matchPieces_take (ps : List Piece) :
    ∀ (ss : List String) (acc : StrMap String),
      matchPieces ps (ss.take ps.length) acc = matchPieces ps ss acc := by
  induction ps with
  | nil => intro ss acc; rfl
  | cons p ps ih =>
    intro ss acc
    cases ss with
    | nil => rfl
    | cons s ss =>
      cases p with
      | literal t => simp only [List.length_cons, List.take_succ_cons, matchPieces, ih]
      | param n => simp only [List.length_cons, List.take_succ_cons, matchPieces, ih]

/-- A pattern matched against exactly the segments it consumed consumes them all and captures
the same parameters. -/
theorem matchSegments_take {p : Pattern} {remaining : List String} {mode : PathMatch}
    {m : PatternMatch} (h : p.matchSegments remaining mode = some m) :
    p.matchSegments (remaining.take m.consumed) mode =
      some ⟨(remaining.take m.consumed).length, m.params⟩ := by
  unfold matchSegments at h ⊢
  split at h
  · cases h
    simp
  · split at h
    · cases h
    · cases h
      simp
  · rename_i ps
    split at h
    · cases h
    · rename_i hlong
      split at h
      · cases h
      · obtain ⟨params, hp, rfl⟩ := Option.map_eq_some_iff.mp h
        have hlen : (remaining.take ps.length).length = ps.length := by
          simp only [List.length_take]
          omega
        simp only [hlen, Nat.lt_irrefl, if_false, ne_eq, not_true_eq_false, and_false,
          matchPieces_take, hp, Option.map_some]

end Pattern

/-! ### Chains through the route tree -/

/-- Route `r` gives the chain entry `m`: the entry has the route's path and title, the route
has no redirect, and the route's pattern, under its own mode, consumes exactly the entry's
segments and captures exactly the entry's parameters. -/
def Route.Gives (r : Route) (m : MatchedRoute) : Prop :=
  m.path = r.path ∧ m.title = r.title ∧ r.redirectTo = none ∧
    r.pattern.matchSegments m.segments r.pathMatch = some ⟨m.segments.length, m.params⟩

/-- `r.Resolves chain v`: the chain is a path down the route tree from `r` to a route whose
view is `v`, each route giving its entry. -/
inductive Route.Resolves : Route → List MatchedRoute → ViewSlot → Prop
  /-- The chain ends at a route with a view. -/
  | leaf {r : Route} {m : MatchedRoute} {v : ViewSlot} :
      r.Gives m → r.view = some v → Route.Resolves r [m] v
  /-- The chain goes on in the route's nested table. -/
  | node {r next : Route} {m : MatchedRoute} {chain : List MatchedRoute} {v : ViewSlot} :
      r.Gives m → next ∈ r.children → next.Resolves chain v →
      Route.Resolves r (m :: chain) v

theorem Route.Resolves.ne_nil {r : Route} {chain : List MatchedRoute} {v : ViewSlot}
    (h : r.Resolves chain v) : chain ≠ [] := by
  cases h <;> simp

theorem Outcome.under_eq_matched {entry : MatchedRoute} {o : Outcome}
    {chain : List MatchedRoute} {v : ViewSlot} (h : o.under entry = .matched chain v) :
    ∃ rest, o = .matched rest v ∧ chain = entry :: rest := by
  cases o with
  | matched rest w =>
    cases h
    exact ⟨rest, rfl, rfl⟩
  | redirect t => cases h

/-- The route a matching walk entered gives its entry. -/
theorem Route.gives_entry {r : Route} {remaining : List String} {m : PatternMatch}
    (hm : r.pattern.matchSegments remaining r.pathMatch = some m) (hr : r.redirectTo = none) :
    r.Gives (r.entry remaining m) :=
  ⟨rfl, rfl, hr, Pattern.matchSegments_take hm⟩

mutual

/-- Every match a route offers is a chain from that route which consumes all the
remaining segments. -/
theorem resolves_of_mem_routeCandidates (parent remaining : List String) (params : StrMap String) :
    ∀ (r : Route) {chain : List MatchedRoute} {v : ViewSlot},
      .matched chain v ∈ routeCandidates parent remaining params r →
      r.Resolves chain v ∧ chain.flatMap (·.segments) = remaining
  | ⟨path, pathMatch, title, redirectTo, view, nesting⟩, chain, v, h => by
    rcases hm : (Pattern.parse path).matchSegments remaining pathMatch with _ | m
    · simp [routeCandidates, hm] at h
    · rcases redirectTo with _ | target
      · have hgive := Route.gives_entry (r := ⟨path, pathMatch, title, none, view, nesting⟩) hm rfl
        simp only [routeCandidates, hm, List.mem_append] at h
        rcases h with h | h
        · -- a match found in the nested table, under this route's entry
          obtain ⟨o, ho, hunder⟩ := List.mem_map.mp h
          obtain ⟨rest, rfl, rfl⟩ := Outcome.under_eq_matched hunder
          obtain ⟨next, hnext, hres, hsegs⟩ := resolves_of_mem_nestedCandidates _ _ _ nesting ho
          refine ⟨.node hgive hnext hres, ?_⟩
          rw [List.flatMap_cons, hsegs]
          exact List.take_append_drop _ _
        · -- the route's own view, with nothing left over
          cases view with
          | none => simp [viewOutcomes] at h
          | some w =>
            simp only [viewOutcomes] at h
            split at h
            · rename_i hempty
              simp only [List.mem_singleton, Outcome.matched.injEq] at h
              obtain ⟨rfl, rfl⟩ := h
              refine ⟨.leaf hgive rfl, ?_⟩
              have hdrop : remaining.drop m.consumed = [] := List.isEmpty_iff.mp hempty
              have htake : remaining.take m.consumed = remaining :=
                List.take_of_length_le (List.drop_eq_nil_iff.mp hdrop)
              simp [htake]
            · simp at h
      · simp [routeCandidates, hm] at h

/-- Every match a nested table offers is a chain from one of its routes which consumes all
the remaining segments. -/
theorem resolves_of_mem_nestedCandidates (parent remaining : List String)
    (params : StrMap String) :
    ∀ (n : Nesting Route) {chain : List MatchedRoute} {v : ViewSlot},
      .matched chain v ∈ nestedCandidates parent remaining params n →
      ∃ r ∈ n.routes, r.Resolves chain v ∧ chain.flatMap (·.segments) = remaining
  | .none, _, _, h => by simp [nestedCandidates] at h
  | .eager children, _, _, h => resolves_of_mem_tableCandidates _ _ _ children h
  | .deferred _ children, _, _, h => resolves_of_mem_tableCandidates _ _ _ children h

/-- Every match a table offers is a chain from one of its routes which consumes all the
remaining segments. -/
theorem resolves_of_mem_tableCandidates (parent remaining : List String) (params : StrMap String) :
    ∀ (routes : List Route) {chain : List MatchedRoute} {v : ViewSlot},
      .matched chain v ∈ tableCandidates parent remaining params routes →
      ∃ r ∈ routes, r.Resolves chain v ∧ chain.flatMap (·.segments) = remaining
  | [], _, _, h => by simp [tableCandidates] at h
  | r :: rs, chain, v, h => by
    simp only [tableCandidates, List.mem_append] at h
    rcases h with h | h
    · exact ⟨r, List.mem_cons_self, resolves_of_mem_routeCandidates _ _ _ r h⟩
    · obtain ⟨r', hr', hres⟩ := resolves_of_mem_tableCandidates _ _ _ rs h
      exact ⟨r', List.mem_cons_of_mem _ hr', hres⟩

end

/-! ### Titles and parameters of a chain -/

theorem foldl_title {f : Option String → MatchedRoute → Option String}
    (hf : ∀ acc m, f acc m = m.title.or acc) (chain : List MatchedRoute) (acc : Option String) :
    chain.foldl f acc = (chain.reverse.findSome? (·.title)).or acc := by
  induction chain generalizing acc with
  | nil => rfl
  | cons m ms ih =>
    rw [List.foldl_cons, ih, hf, List.reverse_cons, List.findSome?_append, Option.or_assoc]
    rcases m with ⟨_, _, _ | t, _⟩ <;> rfl

/-- A chain's title is the title of its deepest route that has one. -/
theorem chainTitle_eq (chain : List MatchedRoute) :
    chainTitle chain = chain.reverse.findSome? (·.title) := by
  unfold chainTitle
  rw [foldl_title (fun acc m => by rcases m with ⟨_, _, _ | t, _⟩ <;> rfl), Option.or_none]

theorem find?_foldl_union (chain : List MatchedRoute) (acc : StrMap String) (key : String) :
    (chain.foldl (fun acc m => acc.union m.params) acc).find? key =
      (chain.reverse.findSome? (·.params.find? key)).or (acc.find? key) := by
  induction chain generalizing acc with
  | nil => rfl
  | cons m ms ih =>
    rw [List.foldl_cons, ih, StrMap.find?_union, List.reverse_cons, List.findSome?_append,
      Option.or_assoc]
    simp

/-- A chain's parameters: each one from the deepest route that captured it. -/
theorem find?_chainParams (chain : List MatchedRoute) (key : String) :
    (chainParams chain).find? key = chain.reverse.findSome? (·.params.find? key) := by
  rw [chainParams, find?_foldl_union chain, StrMap.find?_empty, Option.or_none]

/-! ### Resolutions -/

namespace Router

variable {r : Router} {input : String}

/-- A resolution made from a root walk that matched: its URL is the walk's, its chain and
view the walk's, its title and parameters those of the chain. -/
def FromWalk (r : Router) (res : Resolution) : Prop :=
  ∃ segments chain v, (r.rootWalk segments).1 = some (.matched chain v) ∧
    res.url = joinSegments segments ∧ res.matched = chain ∧ res.view = v.view ∧
    res.title = chainTitle chain ∧ res.params = chainParams chain

/-- A run of `follow` that resolves ends at a root walk that matched, and its resolution is
that walk's, with the URLs it redirected from before. -/
theorem follow_eq_ok :
    ∀ {budget : Nat} {s acc : List String} {res : Resolution},
      (r.follow input budget s acc).1 = .ok res →
      ∃ segments chain v redirects, (r.rootWalk segments).1 = some (.matched chain v) ∧
        res = { url := joinSegments segments, redirects, matched := chain, view := v.view,
                title := chainTitle chain, params := chainParams chain, fallback := false }
  | budget, s, acc, res, h => by
    rcases hw : (r.rootWalk s).1 with _ | (⟨chain, v⟩ | next)
    · rw [follow_of_none hw] at h
      cases h
    · rw [follow_of_matched hw] at h
      cases h
      exact ⟨s, chain, v, acc, hw, rfl⟩
    · cases budget with
      | zero =>
        rw [follow_zero_of_redirect hw] at h
        cases h
      | succ budget =>
        rw [follow_succ_of_redirect hw] at h
        exact follow_eq_ok h

theorem recognize_eq_ok {u : String} {res : Resolution} (h : (r.recognize u).1 = .ok res) :
    ∃ segments chain v redirects, (r.rootWalk segments).1 = some (.matched chain v) ∧
      res = { url := joinSegments segments, redirects, matched := chain, view := v.view,
              title := chainTitle chain, params := chainParams chain, fallback := false } := by
  unfold recognize at h
  split at h
  · cases h
  · exact follow_eq_ok h

theorem fromWalk_of_recognize {u : String} {res : Resolution} (h : (r.recognize u).1 = .ok res) :
    r.FromWalk res := by
  obtain ⟨segments, chain, v, -, hw, rfl⟩ := recognize_eq_ok h
  exact ⟨segments, chain, v, hw, rfl, rfl, rfl, rfl, rfl⟩

theorem fromWalk_of_navigate {u : String} {res : Resolution} (h : (r.navigate u).1 = .ok res) :
    r.FromWalk res := by
  rcases navigate_eq_ok h with h | ⟨unmatched, fallback, res', hrec, rfl⟩
  · exact fromWalk_of_recognize h
  · -- the fallback's resolution: only its redirects and its fallback mark change
    obtain ⟨segments, chain, v, hw, hurl, hchain, hview, htitle, hparams⟩ :=
      fromWalk_of_recognize hrec
    exact ⟨segments, chain, v, hw, hurl, hchain, hview, htitle, hparams⟩

end Router

/-- **Resolutions are consistent.** Every resolution that `recognize` or `navigate` gives has a
non-empty chain that is a path down the route tree from a route of the root table to a route
whose view is the resolution's, every route on it giving its entry (no redirect, exactly the
parameters its pattern captures from the entry's segments); the chain's segments, in order,
spell the URL; each of its parameters is the one the deepest route that captured it
captured; and its title is the deepest title on the chain. -/
theorem resolution_consistent (r : Router) (u : String) (res : Resolution)
    (h : (r.recognize u).1 = .ok res ∨ (r.navigate u).1 = .ok res) :
    res.matched ≠ [] ∧
      (∃ route ∈ r.root, ∃ v, route.Resolves res.matched v ∧ res.view = v.view) ∧
      joinSegments (res.matched.flatMap (·.segments)) = res.url ∧
      (∀ key, res.params.find? key = res.matched.reverse.findSome? (·.params.find? key)) ∧
      res.title = res.matched.reverse.findSome? (·.title) := by
  have hwalk : r.FromWalk res := h.elim Router.fromWalk_of_recognize Router.fromWalk_of_navigate
  obtain ⟨segments, chain, v, hw, hurl, hchain, hview, htitle, hparams⟩ := hwalk
  obtain ⟨route, hroute, hres, hsegs⟩ :=
    resolves_of_mem_tableCandidates _ _ _ _ (mem_tableCandidates_of_walkTable hw)
  subst hchain
  refine ⟨hres.ne_nil, ⟨route, hroute, v, hres, hview⟩, by rw [hsegs, hurl], fun key => ?_, ?_⟩
  · rw [hparams, find?_chainParams]
  · rw [htitle, chainTitle_eq]

/-- A parameter route below a literal route resolves `/c/7` consistently, capturing `id`. -/
theorem resolution_consistent_nested :
    ∃ res, (({ root := [{ path := "c", nesting := .eager [
          { path := ":id", view := some ⟨0, View.named "config"⟩ }] }] } : Router).recognize
        "/c/7").1 = .ok res ∧ res.params.find? "id" = some "7" ∧
      res.matched ≠ [] ∧
      (∃ route ∈ ([{ path := "c", nesting := .eager [
          { path := ":id", view := some ⟨0, View.named "config"⟩ }] }] : List Route),
        ∃ v, route.Resolves res.matched v ∧ res.view = v.view) ∧
      joinSegments (res.matched.flatMap (·.segments)) = res.url ∧
      (∀ key, res.params.find? key = res.matched.reverse.findSome? (·.params.find? key)) ∧
      res.title = res.matched.reverse.findSome? (·.title) := by
  have hrec : (({ root := [{ path := "c", nesting := .eager [
          { path := ":id", view := some ⟨0, View.named "config"⟩ }] }] } : Router).recognize
        "/c/7").1 = .ok
      { url := "/c/7", redirects := [],
        matched := [⟨"c", ["c"], none, StrMap.empty⟩, ⟨":id", ["7"], none, StrMap.singleton "id" "7"⟩],
        view := View.named "config", title := none, params := StrMap.singleton "id" "7",
        fallback := false } := by
    rw [Router.recognize_of_normalizePath (r := { root := [{ path := "c", nesting := .eager [
          { path := ":id", view := some ⟨0, View.named "config"⟩ }] }] })
        (show normalizePath Host.asciiLower "/c/7" = .ok ["c", "7"] from rfl),
      Router.follow_of_matched (show (Router.rootWalk _ ["c", "7"]).1 = some (.matched
        [⟨"c", ["c"], none, StrMap.empty⟩, ⟨":id", ["7"], none, StrMap.singleton "id" "7"⟩]
        ⟨0, View.named "config"⟩) from rfl)]
    rfl
  exact ⟨_, hrec, rfl, resolution_consistent _ _ _ (.inl hrec)⟩

end SwitchAdmin
