import SwitchAdmin.Proofs.WalkLoads
import SwitchAdmin.Route.Session

/-!
# Deferred loading is exact

A session answers requests from its router alone and records the cells each request loaded.
Here the loaded cells are characterised exactly, and the answers are shown not to depend on
them.

A request runs root walks (`Router.requestWalks`): resolving its URL runs the walks of the
redirects followed, and `navigate` runs those of the not-found path as well when the URL
matches nothing. A request *activates* a view when one of its walks ends on it, and *enters*
a route when one of its walks enters it. The step lemma `Session.has_step_iff` says that a
request loads exactly the views it activates, the nested tables of the routes it enters and,
for a description with `expand`, every cell of the tree; `Session.has_after_iff` extends it
to a whole run.

The main statement is `deferred_loading_exact`. A view is only activated by a walk that
matched, and such a walk makes its request resolve there, so failed requests load no view.
-/

namespace SwitchAdmin

namespace Router

variable {r : Router} {input : String}

/-! ### Cells of the tree -/

/-- `c` is the cell of a view somewhere in the router's tree. -/
def ViewCell (r : Router) (c : Cell) : Prop :=
  ∃ e v, InTable r.root e ∧ e.view = some v ∧ v.cell = c

/-- `c` is the cell of a deferred nested table somewhere in the router's tree. -/
def ChildrenCell (r : Router) (c : Cell) : Prop :=
  ∃ e, InTable r.root e ∧ e.childCell = some c

theorem ViewCell.mem_tableCells {c : Cell} (h : r.ViewCell c) : c ∈ Route.tableCells r.root := by
  obtain ⟨e, v, he, hv, rfl⟩ := h
  exact he.cells_subset _ (by simp [Route.cells_eq, hv])

theorem ChildrenCell.mem_tableCells {c : Cell} (h : r.ChildrenCell c) :
    c ∈ Route.tableCells r.root := by
  obtain ⟨e, he, hc⟩ := h
  exact he.cells_subset _ (by simp [Route.cells_eq, hc])

/-- No cell is both a view's and a nested table's: the two kinds of cell are apart. -/
theorem ViewCell.not_childrenCell {c : Cell} (h : r.ViewCell c) : ¬ r.ChildrenCell c := by
  obtain ⟨e, v, -, -, rfl⟩ := h
  rintro ⟨e', -, hc⟩
  obtain ⟨id, hid⟩ := Route.childCell_eq_some hc
  cases hid

/-! ### The walks of a request -/

theorem walkedCells_succ_of_redirectOf_none {s : List String} (h : r.redirectOf s = none)
    (k : Nat) : r.walkedCells s (k + 1) = (r.rootWalk s).2 := by
  have hnone : ∀ i, r.afterRedirects s (i + 1) = none := fun i => by
    rw [afterRedirects_succ, h, Option.bind_none]
  simp only [walkedCells, visited, List.range_succ_eq_map, List.filterMap_cons, List.filterMap_map]
  rw [show r.afterRedirects s 0 = some s from rfl, Function.comp_def]
  simp [hnone]

/-- A run of `follow` loads what the walks it runs load: those of the first `budget + 1`
walks that take place. -/
theorem follow_snd :
    ∀ (budget : Nat) (s acc : List String),
      (r.follow input budget s acc).2 = r.walkedCells s (budget + 1)
  | budget, s, acc => by
    rcases hred : r.redirectOf s with _ | next
    · -- the walk does not redirect, and `follow` stops after it
      rw [walkedCells_succ_of_redirectOf_none hred]
      rcases hw : (r.rootWalk s).1 with _ | (⟨chain, v⟩ | next)
      · rw [follow_of_none hw]
      · rw [follow_of_matched hw]
      · simp [redirectOf, hw] at hred
    · have hw := redirectOf_eq_some.mp hred
      cases budget with
      | zero => rw [follow_zero_of_redirect hw, walkedCells_one]
      | succ budget =>
        rw [follow_succ_of_redirect hw, follow_snd budget, walkedCells_succ_of_redirectOf hred]

/-- The segments of the root walks that resolving `u` runs. -/
def walksOf (r : Router) (u : String) : List (List String) :=
  match normalizePath r.domainToAscii u with
  | .ok s₀ => r.visited s₀ (r.maxRedirects + 1)
  | .error _ => []

/-- The segments of the root walks `navigate` runs on the not-found path: those resolving it,
when the URL matches nothing and a not-found path is set. -/
def fallbackWalks (r : Router) (u : String) : List (List String) :=
  match (r.recognize u).1, r.notFound with
  | .error (.noMatch _), some fallback => r.walksOf fallback
  | _, _ => []

/-- The segments of the root walks a request runs. -/
def requestWalks (r : Router) : Request → List (List String)
  | .navigate u => r.walksOf u ++ r.fallbackWalks u
  | .recognize u => r.walksOf u
  | .describe _ | .size => []

theorem recognize_snd (u : String) :
    (r.recognize u).2 = (r.walksOf u).flatMap fun s => (r.rootWalk s).2 := by
  rcases hu : normalizePath r.domainToAscii u with e | s₀
  · simp only [recognize, walksOf, hu, List.flatMap_nil]
  · simp only [recognize, walksOf, hu, follow_snd]
    rfl

theorem navigate_snd (u : String) :
    (r.navigate u).2 = (r.requestWalks (.navigate u)).flatMap fun s => (r.rootWalk s).2 := by
  simp only [navigate, requestWalks, fallbackWalks, List.flatMap_append, ← recognize_snd]
  rcases h1 : (r.recognize u).1 with (_ | _ | _ | _ | _) | res <;>
    rcases h2 : r.notFound with _ | fallback <;> simp [recognize_snd]

/-! ### Activated views and entered routes -/

/-- The request ran a root walk that ended on the view `v`, with the chain `chain`. -/
def Activates (r : Router) (req : Request) (chain : List MatchedRoute) (v : ViewSlot) : Prop :=
  ∃ s ∈ r.requestWalks req, (r.rootWalk s).1 = some (.matched chain v)

/-- The request ran a root walk that entered the route `e`. -/
def Enters (r : Router) (req : Request) (e : Route) : Prop :=
  ∃ s ∈ r.requestWalks req, TableEnters [] s StrMap.empty r.root e

/-- A request only activates views of the tree. -/
theorem Activates.exists_inTable {req : Request} {chain : List MatchedRoute} {v : ViewSlot}
    (h : r.Activates req chain v) : ∃ e, InTable r.root e ∧ e.view = some v := by
  obtain ⟨s, -, hw⟩ := h
  obtain ⟨r', hr', hres, -⟩ :=
    resolves_of_mem_tableCandidates _ _ _ _ (mem_tableCandidates_of_walkTable hw)
  exact hres.inTable hr'

theorem Activates.viewCell {req : Request} {chain : List MatchedRoute} {v : ViewSlot}
    (h : r.Activates req chain v) : r.ViewCell v.cell := by
  obtain ⟨e, he, hv⟩ := h.exists_inTable
  exact ⟨e, v, he, hv, rfl⟩

theorem Enters.childrenCell {req : Request} {e : Route} {c : Cell} (h : r.Enters req e)
    (hc : e.childCell = some c) : r.ChildrenCell c := by
  obtain ⟨s, -, he⟩ := h
  exact ⟨e, he.inTable, hc⟩

/-- What a list of root walks loads: the nested tables of the routes they enter and the views
they end on. -/
theorem mem_flatMap_rootWalk {walks : List (List String)} {c : Cell} :
    c ∈ walks.flatMap (fun s => (r.rootWalk s).2) ↔
      (∃ chain v, (∃ s ∈ walks, (r.rootWalk s).1 = some (.matched chain v)) ∧ v.cell = c) ∨
        ∃ e, (∃ s ∈ walks, TableEnters [] s StrMap.empty r.root e) ∧ e.childCell = some c := by
  simp only [List.mem_flatMap, rootWalk, mem_walkTable_cells]
  constructor
  · rintro ⟨s, hs, ⟨e, he, hc⟩ | ⟨chain, v, hw, hc⟩⟩
    · exact .inr ⟨e, ⟨s, hs, he⟩, hc⟩
    · exact .inl ⟨chain, v, ⟨s, hs, hw⟩, hc⟩
  · rintro (⟨chain, v, ⟨s, hs, hw⟩, hc⟩ | ⟨e, ⟨s, hs, he⟩, hc⟩)
    · exact ⟨s, hs, .inr ⟨chain, v, hw, hc⟩⟩
    · exact ⟨s, hs, .inl ⟨e, he, hc⟩⟩

/-- A walk of resolving `u` that matches is where `recognize` resolves. -/
theorem recognize_ok_of_mem_walksOf {u : String} {s : List String} {chain : List MatchedRoute}
    {v : ViewSlot} (hs : s ∈ r.walksOf u) (hw : (r.rootWalk s).1 = some (.matched chain v)) :
    ∃ res, (r.recognize u).1 = .ok res ∧ res.matched = chain ∧ res.view = v.view := by
  unfold walksOf at hs
  split at hs
  · rename_i s₀ hu
    obtain ⟨k, hk, hks⟩ := List.mem_filterMap.mp hs
    have hle : k ≤ r.maxRedirects := Nat.lt_succ_iff.mp (List.mem_range.mp hk)
    rw [recognize_of_normalizePath hu, follow_of_afterRedirects_matched hle hks hw]
    exact ⟨_, rfl, rfl, rfl⟩
  · cases hs

theorem navigate_of_fallback_ok {u unmatched fallback : String} {res : Resolution}
    (h1 : (r.recognize u).1 = .error (.noMatch unmatched)) (h2 : r.notFound = some fallback)
    (h : (r.recognize fallback).1 = .ok res) :
    (r.navigate u).1 = .ok { res with redirects := unmatched :: res.redirects, fallback := true } := by
  simp only [navigate, h1, h2, h, Except.map]

theorem mem_fallbackWalks {u : String} {s : List String} (h : s ∈ r.fallbackWalks u) :
    ∃ unmatched fallback, (r.recognize u).1 = .error (.noMatch unmatched) ∧
      r.notFound = some fallback ∧ s ∈ r.walksOf fallback := by
  unfold fallbackWalks at h
  split at h
  · rename_i unmatched fallback h1 h2
    exact ⟨unmatched, fallback, h1, h2, h⟩
  · cases h

end Router

/-! ### Loaded cells -/

namespace Loaded

/-- Marking one cell loads it and keeps every other cell as it was. -/
theorem has_markOne (l : Loaded) (c c' : Cell) :
    (if l.has c then l else ⟨c :: l.cells⟩ : Loaded).has c' ↔ l.has c' ∨ c' = c := by
  split
  · next hc =>
    constructor
    · exact .inl
    · rintro (h | rfl)
      · exact h
      · exact hc
  · simp [has, or_comm]

/-- Marking loads exactly the cells marked, and keeps those loaded before. -/
theorem has_mark {l : Loaded} {cs : List Cell} {c : Cell} :
    (l.mark cs).has c ↔ l.has c ∨ c ∈ cs := by
  -- by induction on the cells marked, one cell at a time
  induction cs generalizing l with
  | nil => simp [mark]
  | cons c₀ cs ih =>
    rw [mark, List.foldl_cons, ← mark, ih, has_markOne, List.mem_cons, or_assoc]

/-- Marking cells that are all loaded changes nothing. -/
theorem mark_of_has {l : Loaded} {cs : List Cell} (h : ∀ c ∈ cs, l.has c) : l.mark cs = l := by
  induction cs generalizing l with
  | nil => rfl
  | cons c₀ cs ih =>
    rw [mark, List.foldl_cons, if_pos (h c₀ List.mem_cons_self), ← mark]
    exact ih fun c hc => h c (List.mem_cons_of_mem _ hc)

end Loaded

/-! ### What a description forces -/

section Forced

variable (loaded : Loaded)

mutual

/-- With `expand`, a description forces every cell of the route's subtree. -/
theorem describeRoute_forced_expand : ∀ r : Route, (describeRoute loaded true r).2 = r.cells
  | ⟨_, _, _, _, view, nesting⟩ => by
    have hview : view.filter (fun s => true || loaded.has s.cell) = view := by
      cases view <;> rfl
    simp only [describeRoute, Route.cells, hview, describeNested_forced_expand nesting]

/-- With `expand`, a description forces every cell of a nested table. -/
theorem describeNested_forced_expand :
    ∀ n : Nesting Route, (describeNested loaded true n).2.2 = Route.nestedCells n
  | .none => rfl
  | .eager children => describeTable_forced_expand children
  | .deferred id children => by
    simp only [describeNested, Bool.true_or, if_true, Route.nestedCells,
      describeTable_forced_expand children]

/-- With `expand`, a description forces every cell of the table's subtrees. -/
theorem describeTable_forced_expand :
    ∀ rs : List Route, (describeTable loaded true rs).2 = Route.tableCells rs
  | [] => rfl
  | r :: rs => by
    simp only [describeTable, Route.tableCells, describeRoute_forced_expand r,
      describeTable_forced_expand rs]

end

mutual

/-- Without `expand`, a description forces only cells already loaded. -/
theorem has_of_mem_describeRoute :
    ∀ (r : Route) (c : Cell), c ∈ (describeRoute loaded false r).2 → loaded.has c
  | ⟨_, _, _, _, view, nesting⟩, c, h => by
    simp only [describeRoute, List.mem_append] at h
    rcases h with h | h
    · -- a view is shown by name only when its cell is loaded
      simp only [Option.mem_toList, Option.map_eq_some_iff, Option.filter_eq_some_iff,
        Bool.false_or] at h
      obtain ⟨s, ⟨-, hs⟩, rfl⟩ := h
      exact hs
    · exact has_of_mem_describeNested nesting c h

/-- Without `expand`, describing a nested table forces only cells already loaded. -/
theorem has_of_mem_describeNested :
    ∀ (n : Nesting Route) (c : Cell), c ∈ (describeNested loaded false n).2.2 → loaded.has c
  | .none, _, h => by cases h
  | .eager children, c, h => has_of_mem_describeTable children c h
  | .deferred id children, c, h => by
    simp only [describeNested, Bool.false_or] at h
    split at h
    · next hloaded =>
      rcases List.mem_cons.mp h with rfl | h
      · exact hloaded
      · exact has_of_mem_describeTable children c h
    · cases h

/-- Without `expand`, describing a table forces only cells already loaded. -/
theorem has_of_mem_describeTable :
    ∀ (rs : List Route) (c : Cell), c ∈ (describeTable loaded false rs).2 → loaded.has c
  | [], _, h => by cases h
  | r :: rs, c, h => by
    simp only [describeTable, List.mem_append] at h
    rcases h with h | h
    · exact has_of_mem_describeRoute r c h
    · exact has_of_mem_describeTable rs c h

end

end Forced

/-! ### Sessions -/

namespace Session

/-- The session after answering requests in order. -/
def after (s : Session) (reqs : List Request) : Session :=
  reqs.foldl (fun s req => (s.step req).1) s

theorem after_cons (s : Session) (req : Request) (reqs : List Request) :
    s.after (req :: reqs) = (s.step req).1.after reqs := rfl

theorem after_append (s : Session) (reqs more : List Request) :
    s.after (reqs ++ more) = (s.after reqs).after more :=
  List.foldl_append

theorem run_cons (s : Session) (req : Request) (reqs : List Request) :
    s.run (req :: reqs) = (s.step req).2 :: (s.step req).1.run reqs := rfl

theorem router_step (s : Session) (req : Request) : (s.step req).1.router = s.router := by
  cases req <;> rfl

theorem router_after (s : Session) (reqs : List Request) : (s.after reqs).router = s.router := by
  induction reqs generalizing s with
  | nil => rfl
  | cons req reqs ih => rw [after_cons, ih, router_step]

/-- Navigating answers what the router answers, whatever was loaded before. -/
theorem step_navigate (s : Session) (u : String) :
    (s.step (.navigate u)).2 = .resolution (s.router.navigate u).1 := rfl

/-- Recognising answers what the router answers, whatever was loaded before. -/
theorem step_recognize (s : Session) (u : String) :
    (s.step (.recognize u)).2 = .resolution (s.router.recognize u).1 := rfl

/-- The `i`-th reply of a run answers the `i`-th request in the session the requests before
it left. -/
theorem run_getElem? :
    ∀ (s : Session) (reqs : List Request) (i : Nat),
      (s.run reqs)[i]? = reqs[i]?.map fun req => ((s.after (reqs.take i)).step req).2
  | s, [], i => by simp [run]
  | s, req :: reqs, 0 => by simp [run_cons, after]
  | s, req :: reqs, i + 1 => by
    rw [run_cons, List.getElem?_cons_succ, run_getElem? _ reqs i, List.getElem?_cons_succ,
      List.take_succ_cons, after_cons]

/-- **What one request loads**: the views its walks end on, the nested tables of the routes
they enter, and for a description with `expand`, every cell of the tree. -/
theorem has_step_iff (s : Session) (req : Request) (c : Cell) :
    (s.step req).1.loaded.has c ↔ s.loaded.has c ∨
      (∃ chain v, s.router.Activates req chain v ∧ v.cell = c) ∨
      (∃ e, s.router.Enters req e ∧ e.childCell = some c) ∨
      (req = .describe true ∧ c ∈ Route.tableCells s.router.root) := by
  cases req with
  | navigate u =>
    show (s.loaded.mark (s.router.navigate u).2).has c ↔ _
    rw [Loaded.has_mark, Router.navigate_snd, Router.mem_flatMap_rootWalk]
    simp only [Router.Activates, Router.Enters, reduceCtorEq, false_and, or_false]
  | recognize u =>
    show (s.loaded.mark (s.router.recognize u).2).has c ↔ _
    rw [Loaded.has_mark, Router.recognize_snd, Router.mem_flatMap_rootWalk]
    simp only [Router.Activates, Router.Enters, Router.requestWalks, reduceCtorEq, false_and,
      or_false]
  | describe expand =>
    -- a description runs no walk; it loads the cells it forces
    show (s.loaded.mark (describeTable s.loaded expand s.router.root).2).has c ↔ _
    simp only [Router.Activates, Router.Enters, Router.requestWalks, List.not_mem_nil,
      false_and, exists_false, false_or, Request.describe.injEq]
    cases expand with
    | false =>
      rw [Loaded.mark_of_has (has_of_mem_describeTable _ _)]
      simp
    | true => simp [Loaded.has_mark, describeTable_forced_expand]
  | size => simp [step, Router.Activates, Router.Enters, Router.requestWalks]

/-- **What a run loads**, request by request: by induction on the requests, one step at a
time. -/
theorem has_after_iff (s : Session) (reqs : List Request) (c : Cell) :
    (s.after reqs).loaded.has c ↔ s.loaded.has c ∨ ∃ req ∈ reqs,
      (∃ chain v, s.router.Activates req chain v ∧ v.cell = c) ∨
      (∃ e, s.router.Enters req e ∧ e.childCell = some c) ∨
      (req = .describe true ∧ c ∈ Route.tableCells s.router.root) := by
  induction reqs generalizing s with
  | nil => simp [after]
  | cons req reqs ih =>
    rw [after_cons, ih, has_step_iff, router_step]
    simp only [List.mem_cons, or_and_right, exists_or, exists_eq_left, or_assoc]

/-- A request that ran a walk ending on a view was answered with a resolution ending on it. -/
theorem step_ok_of_activates {s : Session} {req : Request} {chain : List MatchedRoute}
    {v : ViewSlot} (h : s.router.Activates req chain v) :
    ∃ res, (s.step req).2 = .resolution (.ok res) ∧ res.matched = chain ∧ res.view = v.view := by
  obtain ⟨w, hw, hmatch⟩ := h
  cases req with
  | navigate u =>
    rw [step_navigate]
    rcases List.mem_append.mp hw with hw | hw
    · obtain ⟨res, hres, hm, hv⟩ := Router.recognize_ok_of_mem_walksOf hw hmatch
      exact ⟨res, by rw [Router.navigate_of_recognize_ok hres], hm, hv⟩
    · -- the URL matched nothing, and the walk resolved the not-found path
      obtain ⟨unmatched, fallback, h1, h2, hw⟩ := Router.mem_fallbackWalks hw
      obtain ⟨res, hres, hm, hv⟩ := Router.recognize_ok_of_mem_walksOf hw hmatch
      exact ⟨{ res with redirects := unmatched :: res.redirects, fallback := true },
        by rw [Router.navigate_of_fallback_ok h1 h2 hres], hm, hv⟩
  | recognize u =>
    obtain ⟨res, hres, hm, hv⟩ := Router.recognize_ok_of_mem_walksOf hw hmatch
    exact ⟨res, by rw [step_recognize, hres], hm, hv⟩
  | describe _ => cases hw
  | size => cases hw

end Session

/-- **Deferred loading is exact, and answers do not depend on history.** Start a session on
any router `r` and answer the requests `reqs`:

* a view's cell of the tree is loaded exactly when some request was answered with a
  resolution ending on that view (failed requests load no view), or a description with
  `expand` was asked for;
* a nested table's cell is loaded exactly when some request ran a walk that entered the
  route owning it (its pattern matched there and it does not redirect), or a description
  with `expand` was asked for;
* loaded cells stay loaded, whatever requests come after;
* each navigation and recognition is answered as the router alone answers it, as on a fresh
  session. -/
theorem deferred_loading_exact (r : Router) (reqs : List Request) :
    (∀ c, r.ViewCell c →
      (((Session.mk r {}).after reqs).loaded.has c ↔
        (∃ (i : Nat) (req : Request) (res : Resolution) (chain : List MatchedRoute) (v : ViewSlot),
          reqs[i]? = some req ∧
          ((Session.mk r {}).run reqs)[i]? = some (Reply.resolution (.ok res)) ∧
          r.Activates req chain v ∧ res.matched = chain ∧ res.view = v.view ∧ v.cell = c) ∨
        .describe true ∈ reqs)) ∧
    (∀ c, r.ChildrenCell c →
      (((Session.mk r {}).after reqs).loaded.has c ↔
        (∃ req ∈ reqs, ∃ e, r.Enters req e ∧ e.childCell = some c) ∨ .describe true ∈ reqs)) ∧
    (∀ more c, ((Session.mk r {}).after reqs).loaded.has c →
      ((Session.mk r {}).after (reqs ++ more)).loaded.has c) ∧
    (∀ (i : Nat) (u : String), (reqs[i]? = some (Request.navigate u) →
        ((Session.mk r {}).run reqs)[i]? = some (Reply.resolution (r.navigate u).1)) ∧
      (reqs[i]? = some (Request.recognize u) →
        ((Session.mk r {}).run reqs)[i]? = some (Reply.resolution (r.recognize u).1))) := by
  have hfresh : ∀ c, ¬ (Session.mk r {}).loaded.has c := by simp [Loaded.has]
  -- the `i`-th reply is answered in a session on the same router
  have hreply : ∀ i req, reqs[i]? = some req →
      ((Session.mk r {}).run reqs)[i]? =
        some (((Session.mk r {}).after (reqs.take i)).step req).2 := by
    intro i req hreq
    rw [Session.run_getElem?, hreq, Option.map_some]
  refine ⟨fun c hview => ?_, fun c hchildren => ?_, fun more c h => ?_,
    fun i u => ⟨fun hreq => ?_, fun hreq => ?_⟩⟩
  · have hnot := hview.not_childrenCell
    rw [Session.has_after_iff]
    constructor
    · rintro (h0 | ⟨req, hreq, ⟨chain, v, hact, hc⟩ | ⟨e, hent, hc⟩ | ⟨rfl, -⟩⟩)
      · exact absurd h0 (hfresh c)
      · obtain ⟨i, hi⟩ := List.mem_iff_getElem?.mp hreq
        have hact' : ((Session.mk r {}).after (reqs.take i)).router.Activates req chain v := by
          rwa [Session.router_after]
        obtain ⟨res, hres, hm, hv⟩ := Session.step_ok_of_activates hact'
        exact .inl ⟨i, req, res, chain, v, hi, by rw [hreply i req hi, hres], hact, hm, hv, hc⟩
      · exact absurd (hent.childrenCell hc) hnot
      · exact .inr hreq
    · rintro (⟨i, req, res, chain, v, hi, -, hact, -, -, hc⟩ | hdesc)
      · exact .inr ⟨req, List.mem_of_getElem? hi, .inl ⟨chain, v, hact, hc⟩⟩
      · exact .inr ⟨_, hdesc, .inr (.inr ⟨rfl, hview.mem_tableCells⟩)⟩
  · have hnot : ¬ r.ViewCell c := fun hv => hv.not_childrenCell hchildren
    rw [Session.has_after_iff]
    constructor
    · rintro (h0 | ⟨req, hreq, ⟨chain, v, hact, rfl⟩ | ⟨e, hent, hc⟩ | ⟨rfl, -⟩⟩)
      · exact absurd h0 (hfresh c)
      · exact absurd hact.viewCell hnot
      · exact .inl ⟨req, hreq, e, hent, hc⟩
      · exact .inr hreq
    · rintro (⟨req, hreq, e, hent, hc⟩ | hdesc)
      · exact .inr ⟨req, hreq, .inr (.inl ⟨e, hent, hc⟩)⟩
      · exact .inr ⟨_, hdesc, .inr (.inr ⟨rfl, hchildren.mem_tableCells⟩)⟩
  · rw [Session.after_append]
    exact (Session.has_after_iff _ more c).mpr (.inl h)
  · rw [hreply i _ hreq, Session.step_navigate, Session.router_after]
  · rw [hreply i _ hreq, Session.step_recognize, Session.router_after]

/-- A route `a` whose nested table, deferred in cell 0, holds a route `b` with its view in
cell 1. -/
def nestedRouter : Router :=
  { root := [{ path := "a", nesting := .deferred 0 [{ path := "b", view := some ⟨1, View.named "b"⟩ }] }] }

/-- Recognising `/a/b` loads `b`'s view, which it resolves to, and `a`'s nested table, which
its walk entered. -/
theorem recognize_nested_loads_view_and_table :
    nestedRouter.ViewCell (.view 1) ∧ nestedRouter.ChildrenCell (.table 0) ∧
      (∃ res : Resolution, ((Session.mk nestedRouter {}).run [.recognize "/a/b"])[0]? =
          some (Reply.resolution (.ok res)) ∧ res.view = View.named "b") ∧
      ∃ e, nestedRouter.Enters (.recognize "/a/b") e ∧ e.childCell = some (.table 0) := by
  -- the tree holds `a`, with no view and cell 0 for its table, and `b`, with its view in cell 1
  have htree : ∀ e, InTable nestedRouter.root e →
      e.view = none ∨ e.view = some ⟨1, View.named "b"⟩ := by
    intro e he
    simp only [nestedRouter, inTable_cons_iff, not_inTable_nil, or_false, Route.children,
      Nesting.routes] at he
    rcases he with rfl | rfl <;> simp
  have hv : nestedRouter.ViewCell (.view 1) :=
    ⟨_, _, .nested List.mem_cons_self (.top List.mem_cons_self), rfl, rfl⟩
  have hc : nestedRouter.ChildrenCell (.table 0) := ⟨_, .top List.mem_cons_self, rfl⟩
  have hloaded1 :
      ((Session.mk nestedRouter {}).after [.recognize "/a/b"]).loaded.has (.view 1) = true := by
    decide +kernel
  have hloaded0 :
      ((Session.mk nestedRouter {}).after [.recognize "/a/b"]).loaded.has (.table 0) = true := by
    decide +kernel
  obtain ⟨hview, hchildren, -, -⟩ := deferred_loading_exact nestedRouter [.recognize "/a/b"]
  refine ⟨hv, hc, ?_, ?_⟩
  · rcases (hview _ hv).mp hloaded1 with
      ⟨i, req, res, chain, v, hi, hrun, hact, -, hres, -⟩ | hdesc
    · -- the only request is the first, and the view it ends on is `b`'s
      obtain ⟨e, he, hev⟩ := hact.exists_inTable
      have hi0 : i = 0 := by
        rcases i with _ | i
        · rfl
        · simp at hi
      subst hi0
      rcases htree e he with h | h <;> rw [h] at hev <;> cases hev
      exact ⟨res, hrun, hres⟩
    · simp at hdesc
  · rcases (hchildren _ hc).mp hloaded0 with ⟨req, hreq, e, hent, hce⟩ | hdesc
    · rw [List.mem_singleton.mp hreq] at hent
      exact ⟨e, hent, hce⟩
    · simp at hdesc

end SwitchAdmin
