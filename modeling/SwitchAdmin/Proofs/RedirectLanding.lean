import SwitchAdmin.Proofs.PatternLaws
import SwitchAdmin.Proofs.RedirectRewrite

/-!
# Redirects land on their target pattern

A redirect target is read twice. The redirect itself cuts it into its non-empty `/`-pieces
and fills each `:name` piece with the captured value (`redirectTarget`), while a route with
the same path reads it as a pattern (`Pattern.parse`), trimming slashes first and turning each
`:name` piece into a parameter. The two readings agree: the segments an absolute redirect
produces are matched by the target's own pattern, which consumes exactly the target's pieces
and captures exactly the values that were filled in, even when a value holds a `/` or starts
with `:` (it stays one segment).

The main statement is `absolute_redirect_lands_on_target`. It rests on one fact per piece
(`ofChars_fillPiece`): the pattern reads a piece as a literal exactly when the redirect leaves
it as written, and as a parameter exactly when the redirect fills it.
-/

namespace SwitchAdmin

/-! ### The names a target fills in -/

/-- The parameter name of a redirect target's piece: `name` for a piece `:name`. -/
def targetPieceName (piece : String) : Option String :=
  match piece.toList with
  | ':' :: name => some (String.ofList name)
  | _ => none

/-- The parameter names a redirect target fills in, in order. -/
def targetNames (target : String) : List String :=
  (segmentsOf target '/').filterMap targetPieceName

theorem targetPieceName_of_colon {piece : String} {name : List Char}
    (h : piece.toList = ':' :: name) : targetPieceName piece = some (String.ofList name) := by
  simp [targetPieceName, h]

theorem targetPieceName_eq_none {piece : String} (h : ∀ name, piece.toList ≠ ':' :: name) :
    targetPieceName piece = none := by
  unfold targetPieceName
  split
  · rename_i name heq
    exact absurd heq (h name)
  · rfl

/-- Filling a piece replaces it by the capture of its name, when it has a name and the name
was captured. -/
theorem fillPiece_eq (capture : String → Option String) (piece : String) :
    fillPiece capture piece = ((targetPieceName piece).bind capture).getD piece := by
  unfold fillPiece
  split
  · rename_i name heq
    rw [targetPieceName_of_colon heq]
    rfl
  · rename_i hnot
    rw [targetPieceName_eq_none hnot]
    rfl

/-- **Both readings of one piece agree.** A piece whose name, if it has one, is non-empty and
captured is read by the pattern as a literal equal to the filled piece, or as a parameter that
captures the filled value under the piece's name. -/
theorem ofChars_fillPiece {capture : String → Option String} {piece : String}
    (hname : ∀ n, targetPieceName piece = some n → n ≠ "" ∧ (capture n).isSome) :
    (∀ t, Piece.ofChars piece.toList = .literal t → t = fillPiece capture piece) ∧
    ∀ acc k, ((Piece.ofChars piece.toList).capture (fillPiece capture piece) acc).find? k =
      if targetPieceName piece = some k then capture k else acc.find? k := by
  rw [fillPiece_eq]
  by_cases hcolon : ∃ name, piece.toList = ':' :: name
  · obtain ⟨name, hpiece⟩ := hcolon
    have hn := targetPieceName_of_colon hpiece
    -- a `:name` piece: the name is not empty, so the pattern reads a parameter
    obtain ⟨hne, hcap⟩ := hname _ hn
    obtain ⟨v, hv⟩ := Option.isSome_iff_exists.mp hcap
    obtain ⟨c, rest, rfl⟩ : ∃ c rest, name = c :: rest := by
      cases name with
      | nil => exact absurd rfl hne
      | cons c rest => exact ⟨c, rest, rfl⟩
    rw [hn, hpiece]
    refine ⟨fun t ht => (by cases ht), fun acc k => ?_⟩
    simp only [Piece.ofChars, Piece.capture, Option.bind_some, hv, Option.getD_some,
      StrMap.find?_insert, Option.some.injEq]
    by_cases hk : k = String.ofList (c :: rest)
    · rw [if_pos hk, if_pos hk.symm, hk, hv]
    · rw [if_neg hk, if_neg (Ne.symm hk)]
  · have hnot : ∀ name, piece.toList ≠ ':' :: name := fun name h => hcolon ⟨name, h⟩
    -- any other piece is a literal, and the redirect leaves it as written
    have hlit : Piece.ofChars piece.toList = .literal piece := by
      unfold Piece.ofChars
      split
      · rename_i c rest heq
        exact absurd heq (hnot (c :: rest))
      · rw [String.ofList_toList]
    rw [hlit, targetPieceName_eq_none hnot]
    refine ⟨fun t ht => by simp [(Piece.literal.inj ht).symm], fun acc k => ?_⟩
    simp [Piece.capture]

/-- The target's pieces, read as a pattern, match the filled pieces followed by any rest,
and capture exactly the filled values under the pieces' names. -/
theorem matchPieces_fillPieces {capture : String → Option String} :
    ∀ (pieces : List String),
      (∀ piece ∈ pieces, ∀ n, targetPieceName piece = some n → n ≠ "" ∧ (capture n).isSome) →
      ∀ (rest : List String) (acc : StrMap String),
        ∃ out, Pattern.matchPieces (pieces.map fun piece => Piece.ofChars piece.toList)
            (pieces.map (fillPiece capture) ++ rest) acc = some out ∧
          ∀ k, out.find? k =
            if k ∈ pieces.filterMap targetPieceName then capture k else acc.find? k
  | [], _, _, acc => ⟨acc, rfl, fun k => by simp⟩
  | piece :: pieces, hnames, rest, acc => by
    have hpiece := ofChars_fillPiece (hnames piece List.mem_cons_self)
    obtain ⟨out, hout, hfind⟩ := matchPieces_fillPieces pieces
      (fun p hp => hnames p (List.mem_cons_of_mem _ hp)) rest
      ((Piece.ofChars piece.toList).capture (fillPiece capture piece) acc)
    refine ⟨out, ?_, fun k => ?_⟩
    · rw [List.map_cons, List.map_cons, List.cons_append,
        Pattern.matchPieces_cons_of_fits hpiece.1]
      exact hout
    · -- a later piece with the same name captures the same value
      rw [hfind k, hpiece.2 acc k, List.filterMap_cons]
      cases hname : targetPieceName piece with
      | none => simp
      | some n =>
        by_cases hk : k = n
        · subst hk
          simp
        · simp [hk, Ne.symm hk]

/-! ### The target's pattern -/

theorem segmentsOf_of_parse_empty {t : String} (hp : Pattern.parse t = .empty) :
    segmentsOf t '/' = [] := by
  simp only [Pattern.parse] at hp
  split at hp
  · rename_i htrim
    rw [segmentsOf, ← nonEmptyPieces_trimSlashes, htrim]
    rfl
  · split at hp <;> cases hp

theorem segmentsOf_of_parse_catchAll {t : String} (hp : Pattern.parse t = .catchAll) :
    segmentsOf t '/' = ["**"] := by
  simp only [Pattern.parse] at hp
  split at hp
  · cases hp
  split at hp
  · rename_i htrim
    rw [segmentsOf, ← nonEmptyPieces_trimSlashes, htrim]
    rfl
  · cases hp

/-- The pattern of a path that is not the catch-all reads its non-empty pieces, or is empty
when there are none. -/
theorem parse_eq_of_ne_catchAll {t : String} (hwild : segmentsOf t '/' ≠ ["**"]) :
    (segmentsOf t '/' = [] ∧ Pattern.parse t = .empty) ∨
      Pattern.parse t = .pieces ((segmentsOf t '/').map fun piece => Piece.ofChars piece.toList) := by
  cases hp : Pattern.parse t with
  | empty => exact .inl ⟨segmentsOf_of_parse_empty hp, rfl⟩
  | catchAll => exact absurd (segmentsOf_of_parse_catchAll hp) hwild
  | pieces ps =>
    refine .inr ?_
    rw [(Pattern.eq_of_parse_eq_pieces hp).2, segmentsOf, List.map_map]
    congr 1
    exact (List.map_congr_left fun cs _ => by simp).symm

/-- **Redirecting to a pattern lands on that pattern.** Take an absolute redirect target that
is not the catch-all and whose `:name` pieces all have non-empty names captured in `params`.
Whatever the parent and rest segments, the segments of the redirect are matched by the
target's own pattern as a prefix, consuming exactly the target's pieces and capturing exactly
the values of `params` under the target's names; when nothing is left over, the match is
also a full match. -/
theorem absolute_redirect_lands_on_target {target : String}
    (habs : target.toList.head? = some '/') (hwild : segmentsOf target '/' ≠ ["**"])
    {params : StrMap String}
    (hbound : ∀ name ∈ targetNames target, name ≠ "" ∧ (params.find? name).isSome)
    (parent rest : List String) :
    ∃ m, (Pattern.parse target).matchSegments (redirectTarget target parent rest params)
          .leading = some m ∧
      m.consumed = (segmentsOf target '/').length ∧
      (∀ k, m.params.find? k = if k ∈ targetNames target then params.find? k else none) ∧
      (rest = [] → (Pattern.parse target).matchSegments
          (redirectTarget target parent rest params) .full = some m) := by
  have hredirect : redirectTarget target parent rest params =
      (segmentsOf target '/').map (fillPiece params.find?) ++ rest := by
    rw [redirectTarget_eq, if_pos habs, List.nil_append]
  have hnames : ∀ piece ∈ segmentsOf target '/', ∀ n, targetPieceName piece = some n →
      n ≠ "" ∧ (params.find? n).isSome := fun piece hpiece n hn =>
    hbound n (List.mem_filterMap.mpr ⟨piece, hpiece, hn⟩)
  rw [hredirect]
  rcases parse_eq_of_ne_catchAll hwild with ⟨hnil, hempty⟩ | hpieces
  · -- a target of slashes only: the empty pattern consumes nothing and captures nothing
    refine ⟨⟨0, StrMap.empty⟩, by simp [hempty], by simp [hnil], fun k => ?_, fun hrest => ?_⟩
    · simp [targetNames, hnil]
    · simp [hempty, hnil, hrest]
  · obtain ⟨out, hout, hfind⟩ := matchPieces_fillPieces _ hnames rest StrMap.empty
    have hlen : ¬ ((segmentsOf target '/').map (fillPiece params.find?) ++ rest).length <
        ((segmentsOf target '/').map fun piece => Piece.ofChars piece.toList).length := by
      simp
    refine ⟨⟨(segmentsOf target '/').length, out⟩, ?_, rfl, fun k => ?_, fun hrest => ?_⟩
    · rw [hpieces, Pattern.matchSegments_pieces, if_neg hlen, if_neg (by simp), hout]
      simp only [Option.map_some, List.length_map]
    · rw [hfind k, StrMap.find?_empty]
      rfl
    · subst hrest
      rw [hpieces, Pattern.matchSegments_pieces, if_neg hlen, if_neg (by simp), hout]
      simp only [Option.map_some, List.length_map]

/-- `legacy/:id` redirecting to `/configs/:id/edit`, with `id` captured as `a/:b`: the value
stays one segment, and the target's pattern captures it back. -/
theorem redirect_lands_with_slashed_value :
    "/configs/:id/edit".toList.head? = some '/' ∧ segmentsOf "/configs/:id/edit" '/' ≠ ["**"] ∧
    (∀ name ∈ targetNames "/configs/:id/edit",
      name ≠ "" ∧ ((StrMap.singleton "id" "a/:b").find? name).isSome) ∧
    ∃ m, (Pattern.parse "/configs/:id/edit").matchSegments
          (redirectTarget "/configs/:id/edit" ["legacy"] [] (StrMap.singleton "id" "a/:b"))
          .leading = some m ∧
      m.consumed = (segmentsOf "/configs/:id/edit" '/').length ∧
      (∀ k, m.params.find? k = if k ∈ targetNames "/configs/:id/edit" then
          (StrMap.singleton "id" "a/:b").find? k else none) ∧
      ([] = ([] : List String) → (Pattern.parse "/configs/:id/edit").matchSegments
          (redirectTarget "/configs/:id/edit" ["legacy"] [] (StrMap.singleton "id" "a/:b"))
          .full = some m) := by
  have habs : "/configs/:id/edit".toList.head? = some '/' := by decide +kernel
  have hwild : segmentsOf "/configs/:id/edit" '/' ≠ ["**"] := by decide +kernel
  have hbound : ∀ name ∈ targetNames "/configs/:id/edit",
      name ≠ "" ∧ ((StrMap.singleton "id" "a/:b").find? name).isSome := by decide +kernel
  exact ⟨habs, hwild, hbound, absolute_redirect_lands_on_target habs hwild hbound ["legacy"] []⟩

end SwitchAdmin
