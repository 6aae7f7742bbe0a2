import SwitchAdmin.Proofs.ValidationChecks

/-!
# Validation agrees with the pattern parser on catch-alls

Validation looks at a route's path as written: it calls a route a catch-all when its path is
exactly `**`, and it cuts the path at every `/`. The parser first trims slashes from both ends
and drops empty pieces, so `**/` and `/**` parse to the catch-all too. The two still agree on
every configuration that validates. The main statement, `validated_catchAll_last`, says that
in every table of such a configuration, at any depth, a route whose path parses to the
catch-all is the last route of its table, that exactly the path `**` parses to the catch-all,
and that no parsed path has a literal piece `:` or `**`.

It rests on one fact about the parser (`nonEmptyPieces_trimSlashes`): trimming slashes loses
no non-empty piece. So every piece the parser sees is a piece validation checks, and a path
with a `**` piece other than `**` itself fails validation.
-/

namespace SwitchAdmin

/-! ### Trimming slashes loses no piece -/

section Pieces

variable (sep : Char)

theorem pieces_sep_cons (cs : List Char) : pieces sep (sep :: cs) = [] :: pieces sep cs := by
  simp [pieces, piecesFrom]

theorem piecesFrom_append_sep (cur cs : List Char) :
    piecesFrom sep cur (cs ++ [sep]) = piecesFrom sep cur cs ++ [[]] := by
  induction cs generalizing cur with
  | nil => simp [piecesFrom]
  | cons c cs ih =>
    simp only [List.cons_append, piecesFrom]
    split
    · rw [ih, List.cons_append]
    · exact ih _

/-- Separators at the front add only empty pieces. -/
theorem nonEmptyPieces_dropWhile (cs : List Char) :
    nonEmptyPieces sep (cs.dropWhile (· = sep)) = nonEmptyPieces sep cs := by
  induction cs with
  | nil => rfl
  | cons c cs ih =>
    by_cases hc : c = sep
    · subst hc
      rw [List.dropWhile_cons_of_pos (by simp), ih]
      simp [nonEmptyPieces, pieces_sep_cons]
    · simp [hc]

/-- Separators at the end add only empty pieces. -/
theorem nonEmptyPieces_append_seps :
    ∀ (tail cs : List Char), (∀ c ∈ tail, c = sep) →
      nonEmptyPieces sep (cs ++ tail) = nonEmptyPieces sep cs
  | [], cs, _ => by rw [List.append_nil]
  | c :: tail, cs, h => by
    have hc : sep = c := (h c List.mem_cons_self).symm
    subst hc
    rw [← List.singleton_append, ← List.append_assoc,
      nonEmptyPieces_append_seps tail _ fun d hd => h d (List.mem_cons_of_mem _ hd)]
    simp [nonEmptyPieces, pieces, piecesFrom_append_sep]

end Pieces

/-- **Trimming slashes loses no non-empty piece**: the slashes it removes at both ends only
bound empty pieces. -/
theorem nonEmptyPieces_trimSlashes (cs : List Char) :
    nonEmptyPieces '/' (Pattern.trimSlashes cs) = nonEmptyPieces '/' cs := by
  obtain ⟨ds, hds⟩ : ∃ ds, ds = Pattern.dropSlashes cs := ⟨_, rfl⟩
  -- what is left after the leading slashes is the trimmed text followed by slashes only
  have hsplit : ds = (Pattern.dropSlashes ds.reverse).reverse ++
      (ds.reverse.takeWhile (· = '/')).reverse := by
    rw [Pattern.dropSlashes, ← List.reverse_append, List.takeWhile_append_dropWhile,
      List.reverse_reverse]
  have htail : ∀ c ∈ (ds.reverse.takeWhile (· = '/')).reverse, c = '/' := by
    intro c hc
    simpa using List.all_eq_true.mp List.all_takeWhile c (List.mem_reverse.mp hc)
  calc nonEmptyPieces '/' (Pattern.trimSlashes cs)
      = nonEmptyPieces '/' (Pattern.dropSlashes ds.reverse).reverse := by
        rw [hds, Pattern.trimSlashes]
    _ = nonEmptyPieces '/' ((Pattern.dropSlashes ds.reverse).reverse ++
          (ds.reverse.takeWhile (· = '/')).reverse) :=
        (nonEmptyPieces_append_seps '/' _ _ htail).symm
    _ = nonEmptyPieces '/' ds := by rw [← hsplit]
    _ = nonEmptyPieces '/' cs := by
        rw [hds, Pattern.dropSlashes, nonEmptyPieces_dropWhile]

/-! ### What the parser reads is what validation checks -/

theorem Piece.eq_of_ofChars_literal {cs : List Char} {l : String}
    (h : Piece.ofChars cs = .literal l) : l = String.ofList cs := by
  unfold Piece.ofChars at h
  split at h
  · cases h
  · cases h
    rfl

/-- A literal piece the parser reads from a path is a `/`-piece of the path. -/
theorem mem_piecesOf_of_parse_pieces {path : String} {ps : List Piece} {l : String}
    (hp : Pattern.parse path = .pieces ps) (hl : Piece.literal l ∈ ps) : l ∈ piecesOf path '/' := by
  simp only [Pattern.parse] at hp
  split at hp
  · cases hp
  split at hp
  · cases hp
  cases hp
  obtain ⟨cs, hcs, hof⟩ := List.mem_map.mp hl
  rw [nonEmptyPieces_trimSlashes] at hcs
  exact List.mem_map.mpr ⟨cs, (List.mem_filter.mp hcs).1, (Piece.eq_of_ofChars_literal hof).symm⟩

/-- A path the parser reads as the catch-all has `**` as a `/`-piece. -/
theorem mem_piecesOf_of_parse_catchAll {path : String} (hp : Pattern.parse path = .catchAll) :
    "**" ∈ piecesOf path '/' := by
  simp only [Pattern.parse] at hp
  split at hp
  · cases hp
  split at hp
  · rename_i htrim
    have hnonempty : nonEmptyPieces '/' path.toList = [['*', '*']] := by
      rw [← nonEmptyPieces_trimSlashes, htrim]
      rfl
    have hmem : ['*', '*'] ∈ pieces '/' path.toList :=
      (List.mem_filter.mp (hnonempty ▸ List.mem_singleton_self _)).1
    exact List.mem_map.mpr ⟨_, hmem, rfl⟩
  · cases hp

theorem parse_catchAll : Pattern.parse "**" = .catchAll := by decide

/-! ### A validated route passes its checks -/

theorem checks_pass_of_validated {cfg : AppConfig} {reg : Registry}
    (hvalid : validateConfig cfg reg = []) {e : PlacedRoute} (he : e ∈ configRoutes cfg) :
    ∀ c ∈ e.checks reg, c.fails = false := by
  have hpass := ConfigCheck.failed_eq_nil_iff.mp ((validateConfig_eq_failed cfg reg).symm.trans hvalid)
  intro c hc
  exact hpass c (List.mem_append_right _ (List.mem_flatMap.mpr ⟨e, he, hc⟩))

theorem mem_pieceChecks {path piece : String} (h : piece ∈ piecesOf path '/') :
    ⟨piece == ":", .emptyParameter path⟩ ∈ pieceChecks path ∧
      ⟨piece == "**" && path != "**", .misplacedCatchAll path⟩ ∈ pieceChecks path :=
  ⟨List.mem_flatMap.mpr ⟨piece, h, by simp⟩, List.mem_flatMap.mpr ⟨piece, h, by simp⟩⟩

theorem PlacedRoute.mem_checks_of_mem_pieceChecks {reg : Registry} {e : PlacedRoute}
    {c : ConfigCheck} (hc : c ∈ pieceChecks e.route.path) : c ∈ e.checks reg := by
  simp [PlacedRoute.checks, hc]

/-- A route that passes its checks is a catch-all only in the last position, and its path has
no lone `:` piece and no `**` piece unless it is `**`. -/
theorem PlacedRoute.catchAll_of_passes {reg : Registry} {e : PlacedRoute}
    (h : ∀ c ∈ e.checks reg, c.fails = false) :
    (e.route.path = "**" → e.index = e.last) ∧
      ∀ piece ∈ piecesOf e.route.path '/', piece ≠ ":" ∧ (piece = "**" → e.route.path = "**") := by
  have hlast := h ⟨e.route.path == "**" && e.index != e.last, .catchAllNotLast e.table e.index⟩
    (by simp [PlacedRoute.checks])
  refine ⟨fun hpath => by simpa [hpath] using hlast, fun piece hpiece => ?_⟩
  obtain ⟨hparam, hstar⟩ := mem_pieceChecks hpiece
  have hparam := h _ (PlacedRoute.mem_checks_of_mem_pieceChecks hparam)
  have hstar := h _ (PlacedRoute.mem_checks_of_mem_pieceChecks hstar)
  simp only [beq_eq_false_iff_ne, Bool.and_eq_false_iff, bne_eq_false_iff_eq] at hparam hstar
  exact ⟨hparam, fun hp => hstar.resolve_left (by simpa using hp)⟩

/-! ### Every table of the tree is enumerated -/

/-- `SubTable routes t`: `t` is a table of the route tree `routes`: the root table, or the
inline children of a route of one of its tables, at any depth. -/
inductive SubTable (routes : List RouteConfig) : List RouteConfig → Prop
  | root : SubTable routes routes
  | nested {t : List RouteConfig} {r : RouteConfig} :
      SubTable routes t → r ∈ t → SubTable routes r.children

/-- Each route of a table is placed at its position. -/
theorem mem_tableRoutes (table : String) (last : Nat) :
    ∀ (index : Nat) (rs : List RouteConfig) (i : Nat) (r : RouteConfig), rs[i]? = some r →
      ⟨table, index + i, last, r⟩ ∈ tableRoutes table last index rs
  | _, [], _, _, h => by simp at h
  | index, r :: rs, 0, r', h => by
    cases h
    simp [tableRoutes]
  | index, r :: rs, i + 1, r', h => by
    have hrest := mem_tableRoutes table last (index + 1) rs i r' (by simpa using h)
    rw [show index + 1 + i = index + (i + 1) by omega] at hrest
    simp [tableRoutes, hrest]

mutual

/-- The routes below a placed route are placed too. -/
theorem nestedRoutes_subset_tableRoutes (table : String) (last : Nat) :
    ∀ (index : Nat) (rs : List RouteConfig) (e : PlacedRoute), e ∈ tableRoutes table last index rs →
      ∀ x ∈ nestedRoutes e.table e.route, x ∈ tableRoutes table last index rs
  | _, [], e, he => by simp [tableRoutes] at he
  | index, r :: rs, e, he => by
    intro x hx
    rw [tableRoutes, List.mem_append, List.mem_cons] at he ⊢
    rcases he with (rfl | he) | he
    · exact .inl (.inr hx)
    · exact .inl (.inr (nestedRoutes_subset_nestedRoutes table r e he x hx))
    · exact .inr (nestedRoutes_subset_tableRoutes table last (index + 1) rs e he x hx)

theorem nestedRoutes_subset_nestedRoutes (table : String) :
    ∀ (r : RouteConfig) (e : PlacedRoute), e ∈ nestedRoutes table r →
      ∀ x ∈ nestedRoutes e.table e.route, x ∈ nestedRoutes table r
  | ⟨path, pathMatch, title, redirectTo, component, loadChildren, children⟩, e, he => by
    rw [nestedRoutes.eq_1] at he ⊢
    exact nestedRoutes_subset_tableRoutes _ _ 0 children e he

end

/-- Every table of the tree has its routes placed at their positions, under one name. -/
theorem exists_placed_of_subTable {routes t : List RouteConfig} (h : SubTable routes t) :
    ∃ name, ∀ (i : Nat) (r : RouteConfig), t[i]? = some r →
      ⟨name, i, t.length - 1, r⟩ ∈ tableRoutes "/" (routes.length - 1) 0 routes := by
  induction h with
  | root => exact ⟨"/", fun i r hr => by simpa using mem_tableRoutes "/" _ 0 routes i r hr⟩
  | nested ht hr ih =>
    rename_i t r
    obtain ⟨name, hplaced⟩ := ih
    obtain ⟨j, hj, rfl⟩ := List.getElem_of_mem hr
    refine ⟨nestedTableName name t[j].path, fun i c hc => ?_⟩
    have hsub := nestedRoutes_subset_tableRoutes "/" _ 0 routes _ (hplaced j t[j] (by simp))
    refine hsub _ ?_
    generalize t[j] = r at hc ⊢
    obtain ⟨path, pathMatch, title, redirectTo, component, loadChildren, children⟩ := r
    rw [nestedRoutes.eq_1]
    simpa using mem_tableRoutes _ _ 0 children i c hc

/-! ### Catch-alls in validated configurations -/

/-- **Validation agrees with the parser on catch-alls.** In every table of a configuration
that validates, at any depth, a route whose path parses to the catch-all is the last route of
its table; a path parses to the catch-all exactly when it is `**`; and no parsed path has a
literal piece `:` or `**`. -/
theorem validated_catchAll_last {cfg : AppConfig} {reg : Registry}
    (hvalid : validateConfig cfg reg = []) {t : List RouteConfig} (ht : SubTable cfg.routes t)
    {i : Nat} {r : RouteConfig} (hr : t[i]? = some r) :
    (Pattern.parse r.path = .catchAll → i + 1 = t.length) ∧
    (Pattern.parse r.path = .catchAll ↔ r.path = "**") ∧
    ∀ ps, Pattern.parse r.path = .pieces ps → Piece.literal ":" ∉ ps ∧ Piece.literal "**" ∉ ps := by
  obtain ⟨name, hplaced⟩ := exists_placed_of_subTable ht
  obtain ⟨hlast, hpieces⟩ :=
    PlacedRoute.catchAll_of_passes (checks_pass_of_validated hvalid (hplaced i r hr))
  have hi : i < t.length := (List.getElem?_eq_some_iff.mp hr).1
  -- the parser's catch-all has a `**` piece, which validation allows only in `**` itself
  have hcatch : Pattern.parse r.path = .catchAll ↔ r.path = "**" := by
    constructor
    · intro hp
      exact (hpieces "**" (mem_piecesOf_of_parse_catchAll hp)).2 rfl
    · intro hpath
      rw [hpath, parse_catchAll]
  refine ⟨fun hp => ?_, hcatch, fun ps hps => ⟨fun hmem => ?_, fun hmem => ?_⟩⟩
  · have := hlast (hcatch.mp hp)
    simp only at this
    omega
  · exact (hpieces ":" (mem_piecesOf_of_parse_pieces hps hmem)).1 rfl
  · -- a literal `**` piece would make the path `**`, which parses to the catch-all instead
    have hpath := (hpieces "**" (mem_piecesOf_of_parse_pieces hps hmem)).2 rfl
    rw [hpath, parse_catchAll] at hps
    cases hps

/-- The inline children of `users`: a parameter, then a catch-all that redirects. -/
def usersTable : List RouteConfig :=
  [{ path := ":id", component := some "login" }, { path := "**", redirectTo := some "/404" }]

/-- A configuration with a catch-all closing a nested table and the root table. -/
def nestedCatchAllConfig : AppConfig :=
  { routes := [{ path := "users", children := usersTable }, { path := "**", redirectTo := some "404" }] }

theorem nested_catchAll_last :
    validateConfig nestedCatchAllConfig defaultRegistry = [] ∧
      SubTable nestedCatchAllConfig.routes usersTable ∧
      usersTable[1]? = some { path := "**", redirectTo := some "/404" } ∧
      (Pattern.parse "**" = .catchAll → 1 + 1 = usersTable.length) ∧
      (Pattern.parse "**" = .catchAll ↔ "**" = "**") ∧
      ∀ ps, Pattern.parse "**" = .pieces ps → Piece.literal ":" ∉ ps ∧ Piece.literal "**" ∉ ps := by
  have hvalid : validateConfig nestedCatchAllConfig defaultRegistry = [] := by decide +kernel
  have ht : SubTable nestedCatchAllConfig.routes usersTable :=
    .nested (r := { path := "users", children := usersTable }) .root (by simp [nestedCatchAllConfig])
  have hr : usersTable[1]? = some { path := "**", redirectTo := some "/404" } := rfl
  exact ⟨hvalid, ht, hr, validated_catchAll_last hvalid ht hr⟩

end SwitchAdmin
