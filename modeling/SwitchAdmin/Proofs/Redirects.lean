import SwitchAdmin.Route.Router

/-!
# The redirect limit is exact

`Router.recognize` walks the root table, and while the walk redirects it walks again from
the root with the target's segments. Before following a redirect it checks how many it
has followed already: with a limit of `n`, the walks `0, …, n` may run, a redirect at any of
the first `n` is followed, and a redirect at walk `n` is refused.

The segments of the walks are named here once and for all: from the start `s₀`,
`afterRedirects s₀ (i + 1)` is where the walk on `afterRedirects s₀ i` redirects, as long as
each walk so far redirected. The main statement, `recognize_redirect_limit`, then says what
`recognize` answers and which walks it ran (the cells they loaded, walk by walk):

* the first walk that matches, at `k ≤ n`, gives a resolution whose URL is that walk's and
  whose redirects are the URLs of the `k` walks before it;
* the first walk that finds nothing, at `k ≤ n`, gives `noMatch` for its URL;
* the limit error comes exactly when the first `n + 1` walks all redirect.

So a resolution never records more than `n` redirects, and one from `navigate` never more
than `n + 1`, the not-found fallback adding the unmatched URL in front.
-/

namespace SwitchAdmin

namespace Router

/-! ### The walks of a resolution -/

/-- The walk of the root table on a list of segments, with no parent segments and no
inherited parameters. -/
def rootWalk (r : Router) (segments : List String) : Option Outcome × List Cell :=
  walkTable [] segments StrMap.empty r.root

/-- Where the root walk on `segments` redirects, if it redirects. -/
def redirectOf (r : Router) (segments : List String) : Option (List String) :=
  match (r.rootWalk segments).1 with
  | some (.redirect next) => some next
  | _ => none

/-- The segments of walk `k` from `start`, when the `k` walks before it all redirected. -/
def afterRedirects (r : Router) (start : List String) : Nat → Option (List String)
  | 0 => some start
  | k + 1 => (r.afterRedirects start k).bind r.redirectOf

/-- The segments of the first `k` walks from `start` that take place. -/
def visited (r : Router) (start : List String) (k : Nat) : List (List String) :=
  (List.range k).filterMap (r.afterRedirects start)

/-- The cells loaded by the first `k` walks from `start`, walk by walk. -/
def walkedCells (r : Router) (start : List String) (k : Nat) : List Cell :=
  (r.visited start k).flatMap fun segments => (r.rootWalk segments).2

variable {r : Router} {input : String}

/-- Walk `k + 1` from `s` is walk `k` from where the walk on `s` redirects. -/
theorem afterRedirects_succ (s : List String) :
    ∀ k, r.afterRedirects s (k + 1) = (r.redirectOf s).bind (r.afterRedirects · k)
  | 0 => by simp [afterRedirects]
  | k + 1 => by
    rw [afterRedirects, afterRedirects_succ s k, Option.bind_assoc]
    rfl

/-- Walk `k + 1` takes place exactly when the first walk redirects and walk `k` from its
target takes place. -/
theorem afterRedirects_succ_eq_some {s target : List String} {k : Nat} :
    r.afterRedirects s (k + 1) = some target ↔
      ∃ next, r.redirectOf s = some next ∧ r.afterRedirects next k = some target := by
  rw [afterRedirects_succ, Option.bind_eq_some_iff]

theorem afterRedirects_succ_of_redirectOf {s t : List String} (h : r.redirectOf s = some t)
    (k : Nat) : r.afterRedirects s (k + 1) = r.afterRedirects t k := by
  rw [afterRedirects_succ, h, Option.bind_some]

theorem visited_succ_of_redirectOf {s t : List String} (h : r.redirectOf s = some t) (k : Nat) :
    r.visited s (k + 1) = s :: r.visited t k := by
  have hshift : (fun i => r.afterRedirects s (i + 1)) = r.afterRedirects t :=
    funext (afterRedirects_succ_of_redirectOf h)
  simp only [visited, List.range_succ_eq_map, List.filterMap_cons, List.filterMap_map]
  rw [show r.afterRedirects s 0 = some s from rfl, Function.comp_def, hshift]

theorem walkedCells_succ_of_redirectOf {s t : List String} (h : r.redirectOf s = some t)
    (k : Nat) : r.walkedCells s (k + 1) = (r.rootWalk s).2 ++ r.walkedCells t k := by
  simp only [walkedCells, visited_succ_of_redirectOf h, List.flatMap_cons]

theorem walkedCells_one (s : List String) : r.walkedCells s 1 = (r.rootWalk s).2 := by
  simp [walkedCells, visited, afterRedirects]

/-! ### One walk of `follow` -/

theorem follow_of_none {budget : Nat} {s acc : List String} (h : (r.rootWalk s).1 = none) :
    r.follow input budget s acc = (.error (.noMatch (joinSegments s)), (r.rootWalk s).2) := by
  rw [follow]
  simp only [rootWalk] at h ⊢
  simp only [h]

theorem follow_of_matched {budget : Nat} {s acc : List String} {chain : List MatchedRoute}
    {v : ViewSlot} (h : (r.rootWalk s).1 = some (.matched chain v)) :
    r.follow input budget s acc =
      (.ok { url := joinSegments s, redirects := acc, matched := chain, view := v.view,
             title := chainTitle chain, params := chainParams chain, fallback := false },
        (r.rootWalk s).2) := by
  rw [follow]
  simp only [rootWalk] at h ⊢
  simp only [h]

theorem follow_zero_of_redirect {s acc next : List String}
    (h : (r.rootWalk s).1 = some (.redirect next)) :
    r.follow input 0 s acc = (.error (.redirectLoop input r.maxRedirects), (r.rootWalk s).2) := by
  rw [follow]
  simp only [rootWalk] at h ⊢
  simp only [h]

theorem follow_succ_of_redirect {budget : Nat} {s acc next : List String}
    (h : (r.rootWalk s).1 = some (.redirect next)) :
    r.follow input (budget + 1) s acc =
      ((r.follow input budget next (acc ++ [joinSegments s])).1,
        (r.rootWalk s).2 ++ (r.follow input budget next (acc ++ [joinSegments s])).2) := by
  rw [follow]
  simp only [rootWalk] at h ⊢
  simp only [h]

theorem redirectOf_eq_some {s next : List String} :
    r.redirectOf s = some next ↔ (r.rootWalk s).1 = some (.redirect next) := by
  unfold redirectOf
  split <;> simp_all

/-! ### Whole runs of `follow` -/

/-- A run that reaches a matching walk after `k` redirects, within the budget, resolves
there, having recorded the URLs of the `k` walks before it. -/
theorem follow_of_afterRedirects_matched :
    ∀ {budget k : Nat} {s acc target : List String} {chain : List MatchedRoute} {v : ViewSlot},
      k ≤ budget → r.afterRedirects s k = some target →
      (r.rootWalk target).1 = some (.matched chain v) →
      r.follow input budget s acc =
        (.ok { url := joinSegments target,
               redirects := acc ++ (r.visited s k).map joinSegments, matched := chain,
               view := v.view, title := chainTitle chain, params := chainParams chain,
               fallback := false },
          r.walkedCells s (k + 1))
  | _, 0, s, acc, target, chain, v, _, hk, hw => by
    cases hk
    rw [follow_of_matched hw, walkedCells_one]
    simp [visited]
  | budget + 1, k + 1, s, acc, target, chain, v, hle, hk, hw => by
    -- the first walk redirects, and the rest of the run starts from its target
    obtain ⟨next, hnext, hk⟩ := afterRedirects_succ_eq_some.mp hk
    rw [follow_succ_of_redirect (redirectOf_eq_some.mp hnext),
      follow_of_afterRedirects_matched (by omega) hk hw, walkedCells_succ_of_redirectOf hnext,
      visited_succ_of_redirectOf hnext]
    simp
  | 0, _ + 1, _, _, _, _, _, hle, _, _ => absurd hle (by omega)

/-- A run that reaches a walk finding nothing after `k` redirects, within the budget, fails
with `noMatch` for that walk's URL. -/
theorem follow_of_afterRedirects_none :
    ∀ {budget k : Nat} {s acc target : List String},
      k ≤ budget → r.afterRedirects s k = some target → (r.rootWalk target).1 = none →
      r.follow input budget s acc =
        (.error (.noMatch (joinSegments target)), r.walkedCells s (k + 1))
  | _, 0, s, acc, target, _, hk, hw => by
    cases hk
    rw [follow_of_none hw, walkedCells_one]
  | budget + 1, k + 1, s, acc, target, hle, hk, hw => by
    obtain ⟨next, hnext, hk⟩ := afterRedirects_succ_eq_some.mp hk
    rw [follow_succ_of_redirect (redirectOf_eq_some.mp hnext),
      follow_of_afterRedirects_none (by omega) hk hw, walkedCells_succ_of_redirectOf hnext]
  | 0, _ + 1, _, _, _, hle, _, _ => absurd hle (by omega)

/-- A run whose first `budget + 1` walks all redirect fails with the limit error, having run
exactly those walks. -/
theorem follow_of_redirects_exhausted :
    ∀ {budget : Nat} {s acc : List String}, (r.afterRedirects s (budget + 1)).isSome →
      r.follow input budget s acc =
        (.error (.redirectLoop input r.maxRedirects), r.walkedCells s (budget + 1))
  | 0, s, acc, h => by
    obtain ⟨last, hlast⟩ := Option.isSome_iff_exists.mp h
    obtain ⟨next, hred, -⟩ := afterRedirects_succ_eq_some.mp hlast
    rw [follow_zero_of_redirect (redirectOf_eq_some.mp hred), walkedCells_one]
  | budget + 1, s, acc, h => by
    obtain ⟨last, hlast⟩ := Option.isSome_iff_exists.mp h
    obtain ⟨next, hred, hlast⟩ := afterRedirects_succ_eq_some.mp hlast
    rw [follow_succ_of_redirect (redirectOf_eq_some.mp hred),
      follow_of_redirects_exhausted (by rw [hlast]; rfl),
      walkedCells_succ_of_redirectOf hred]

/-- The limit error only comes when the first `budget + 1` walks all redirect. -/
theorem afterRedirects_isSome_of_follow :
    ∀ {budget : Nat} {s acc : List String} {url : String} {limit : Nat},
      (r.follow input budget s acc).1 = .error (.redirectLoop url limit) →
      (r.afterRedirects s (budget + 1)).isSome
  | budget, s, acc, url, limit, h => by
    rcases hw : (r.rootWalk s).1 with _ | (⟨chain, v⟩ | next)
    · rw [follow_of_none hw] at h
      cases h
    · rw [follow_of_matched hw] at h
      cases h
    · have hred : r.redirectOf s = some next := redirectOf_eq_some.mpr hw
      rw [afterRedirects_succ_of_redirectOf hred]
      cases budget with
      | zero => rfl
      | succ budget =>
        rw [follow_succ_of_redirect hw] at h
        exact afterRedirects_isSome_of_follow h

/-- Each followed redirect spends one unit of the budget. -/
theorem redirects_length_of_follow :
    ∀ {budget : Nat} {s acc : List String} {res : Resolution},
      (r.follow input budget s acc).1 = .ok res → res.redirects.length ≤ acc.length + budget
  | budget, s, acc, res, h => by
    rcases hw : (r.rootWalk s).1 with _ | (⟨chain, v⟩ | next)
    · rw [follow_of_none hw] at h
      cases h
    · rw [follow_of_matched hw] at h
      cases h
      simp
    · cases budget with
      | zero =>
        rw [follow_zero_of_redirect hw] at h
        cases h
      | succ budget =>
        rw [follow_succ_of_redirect hw] at h
        have hlen := redirects_length_of_follow h
        simp only [List.length_append, List.length_singleton] at hlen
        omega

/-! ### Recognising and navigating -/

theorem recognize_of_normalizePath {u : String} {s₀ : List String}
    (hu : normalizePath r.domainToAscii u = .ok s₀) : r.recognize u = r.follow u r.maxRedirects s₀ [] := by
  simp only [recognize, hu]

theorem recognize_redirects_le {u : String} {res : Resolution} (h : (r.recognize u).1 = .ok res) :
    res.redirects.length ≤ r.maxRedirects := by
  unfold recognize at h
  split at h
  · cases h
  · simpa using redirects_length_of_follow h

/-- A resolution from `navigate` is one from `recognize`: of the URL itself, or of the
not-found path, with the unmatched URL in front of its redirects. -/
theorem navigate_eq_ok {u : String} {res : Resolution} (h : (r.navigate u).1 = .ok res) :
    (r.recognize u).1 = .ok res ∨
      ∃ unmatched fallback res', (r.recognize fallback).1 = .ok res' ∧
        res = { res' with redirects := unmatched :: res'.redirects, fallback := true } := by
  dsimp only [navigate] at h
  split at h
  · rename_i unmatched fallback _ _
    rcases hsecond : (r.recognize fallback).1 with _ | res'
    · rw [hsecond] at h
      cases h
    · rw [hsecond] at h
      cases h
      exact .inr ⟨unmatched, fallback, res', hsecond, rfl⟩
  · exact .inl h

/-- A resolution that `recognize` finds is also what `navigate` answers. -/
theorem navigate_of_recognize_ok {u : String} {res : Resolution}
    (h : (r.recognize u).1 = .ok res) : (r.navigate u).1 = .ok res := by
  simp only [navigate, h]

theorem navigate_redirects_le {u : String} {res : Resolution} (h : (r.navigate u).1 = .ok res) :
    res.redirects.length ≤ r.maxRedirects + 1 := by
  rcases navigate_eq_ok h with h | ⟨unmatched, fallback, res', hrec, rfl⟩
  · exact Nat.le_succ_of_le (recognize_redirects_le h)
  · simpa using recognize_redirects_le hrec

/-- **The redirect limit is exact.** For a URL that normalises to `s₀` and a router with
redirect limit `n`:

* if walk `k ≤ n` is the first that does not redirect and it matches, `recognize` resolves
  there, recording the URLs of walks `0, …, k - 1` as redirects;
* if it finds nothing, `recognize` answers `noMatch` with its URL;
* in both cases exactly the walks `0, …, k` ran;
* `recognize` answers with the limit error exactly when walks `0, …, n` all redirect, and
  then exactly those walks ran;
* a resolution from `recognize` records at most `n` redirects, one from `navigate` at most
  `n + 1`. -/
theorem recognize_redirect_limit (r : Router) (u : String) (s₀ : List String)
    (hu : normalizePath r.domainToAscii u = .ok s₀) :
    (∀ k target chain v, k ≤ r.maxRedirects → r.afterRedirects s₀ k = some target →
      (r.rootWalk target).1 = some (.matched chain v) →
      r.recognize u =
        (.ok { url := joinSegments target, redirects := (r.visited s₀ k).map joinSegments,
               matched := chain, view := v.view, title := chainTitle chain,
               params := chainParams chain, fallback := false },
          r.walkedCells s₀ (k + 1))) ∧
    (∀ k target, k ≤ r.maxRedirects → r.afterRedirects s₀ k = some target →
      (r.rootWalk target).1 = none →
      r.recognize u = (.error (.noMatch (joinSegments target)), r.walkedCells s₀ (k + 1))) ∧
    ((r.afterRedirects s₀ (r.maxRedirects + 1)).isSome →
      r.recognize u =
        (.error (.redirectLoop u r.maxRedirects), r.walkedCells s₀ (r.maxRedirects + 1))) ∧
    ((r.recognize u).1 = .error (.redirectLoop u r.maxRedirects) ↔
      (r.afterRedirects s₀ (r.maxRedirects + 1)).isSome) ∧
    (∀ res, (r.recognize u).1 = .ok res → res.redirects.length ≤ r.maxRedirects) ∧
    (∀ res, (r.navigate u).1 = .ok res → res.redirects.length ≤ r.maxRedirects + 1) := by
  rw [recognize_of_normalizePath hu]
  refine ⟨fun k target chain v hk ht hw => ?_, fun k target hk ht hw => ?_,
    follow_of_redirects_exhausted, ⟨afterRedirects_isSome_of_follow, fun h => ?_⟩,
    fun res h => ?_, fun res h => navigate_redirects_le h⟩
  · rw [follow_of_afterRedirects_matched hk ht hw, List.nil_append]
  · exact follow_of_afterRedirects_none hk ht hw
  · rw [follow_of_redirects_exhausted h]
  · simpa using redirects_length_of_follow h

/-- Two routes redirecting to each other exhaust the default limit of 16. -/
theorem recognize_mutual_redirects_exceed_limit :
    normalizePath Host.asciiLower "/a" = .ok ["a"] ∧
      (({ root := [{ path := "a", redirectTo := some "/b" },
                   { path := "b", redirectTo := some "/a" }] } : Router).recognize "/a").1 =
        .error (.redirectLoop "/a" 16) :=
  ⟨rfl, (recognize_redirect_limit _ "/a" ["a"] rfl).2.2.2.1.mpr (by decide)⟩

end Router

end SwitchAdmin
