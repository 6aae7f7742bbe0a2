import SwitchAdmin.Proofs.CatchAllPlacement
import SwitchAdmin.Proofs.Resolution

/-!
# Laws of route patterns

The table walk matches a route's pattern against the segments that remain of a URL, cuts
them at `consumed`, hands the rest to the nested routes and reads the captures. It relies on
four laws, proved here for every pattern and mode:

* `Pattern.reads_of_matchSegments`: a match consumes no more segments than there are; the
  consumed segments agree with every literal piece at its position; and each parameter name
  is bound to the segment at the last position of a piece with that name, and no other name
  is bound (`Pattern.Reads`);
* `Pattern.matchSegments_full_iff`: a full match is exactly a prefix match that consumes
  every segment;
* `Pattern.matchSegments_append`: a prefix match still holds, unchanged, when more segments
  follow, unless the pattern is the catch-all (which takes those too);
* `Pattern.sound_of_parse_eq_pieces`: the parser makes no empty piece list, no literal that
  is empty or holds a `/`, and no parameter without a name (`Piece.Sound`).

The main statement, `Pattern.parse_matchSegments_laws`, gathers the four for the pattern of
every route path.
-/

namespace SwitchAdmin

/-! ### Sound pieces and what they capture -/

namespace Piece

/-- A piece as the parser should make it: a literal is a non-empty text without `/`, and a
parameter has a name. -/
def Sound : Piece → Prop
  | .literal x => x ≠ "" ∧ '/' ∉ x.toList
  | .param n => n ≠ ""

/-- The captures after matching one piece against a segment: a parameter binds its name to
the segment, and a literal binds nothing. -/
def capture : Piece → String → StrMap String → StrMap String
  | .literal _, _, acc => acc
  | .param n, s, acc => acc.insert n s

theorem find?_capture_of_ne {p : Piece} {k : String} (hk : p ≠ .param k) (s : String)
    (acc : StrMap String) : (p.capture s acc).find? k = acc.find? k := by
  cases p with
  | literal t => rfl
  | param n =>
    have hne : k ≠ n := fun h => hk (h ▸ rfl)
    simp [capture, hne]

/-- A non-empty piece without `/` is read as a sound piece. -/
theorem sound_ofChars {cs : List Char} (hne : cs ≠ []) (hsep : '/' ∉ cs) :
    (ofChars cs).Sound := by
  unfold ofChars
  split
  · simp only [Sound, ne_eq]
    intro h
    simpa using congrArg String.toList h
  · refine ⟨fun h => hne ?_, by simpa using hsep⟩
    simpa using congrArg String.toList h

end Piece

/-! ### Pieces of a text -/

/-- Every character other than the separator lies in a piece. -/
theorem exists_mem_piecesFrom (sep : Char) {c : Char} (hc : c ≠ sep) :
    ∀ (cur cs : List Char), c ∈ cur ∨ c ∈ cs → ∃ p ∈ piecesFrom sep cur cs, c ∈ p := by
  intro cur cs
  induction cs generalizing cur with
  | nil =>
    intro h
    exact ⟨cur.reverse, by simp [piecesFrom], by simpa using h⟩
  | cons d rest ih =>
    intro h
    simp only [piecesFrom]
    split
    · rename_i hd
      rcases h with h | h
      · exact ⟨cur.reverse, List.mem_cons_self, List.mem_reverse.mpr h⟩
      · rcases List.mem_cons.mp h with rfl | h
        · exact absurd hd hc
        · obtain ⟨p, hp, hcp⟩ := ih [] (.inr h)
          exact ⟨p, List.mem_cons_of_mem _ hp, hcp⟩
    · refine ih (d :: cur) ?_
      rcases h with h | h
      · exact .inl (List.mem_cons_of_mem _ h)
      · rcases List.mem_cons.mp h with rfl | h
        · exact .inl List.mem_cons_self
        · exact .inr h

/-- A text with a character other than the separator has a non-empty piece. -/
theorem nonEmptyPieces_ne_nil {sep c : Char} {cs : List Char} (hc : c ∈ cs) (hne : c ≠ sep) :
    nonEmptyPieces sep cs ≠ [] := by
  obtain ⟨p, hp, hcp⟩ := exists_mem_piecesFrom sep hne [] cs (.inr hc)
  have hp' : p ∈ nonEmptyPieces sep cs :=
    List.mem_filter.mpr ⟨hp, by simpa using List.ne_nil_of_mem hcp⟩
  exact List.ne_nil_of_mem hp'

namespace Pattern

/-! ### What a match is required to read -/

/-- The pieces of a pattern; the empty pattern and the catch-all have none. -/
def pieceList : Pattern → List Piece
  | .pieces ps => ps
  | _ => []

/-- `p.Reads r m`: the match `m` of `p` against the segments `r` consumes a front part of
`r` that agrees with every literal piece of `p` at its position, and binds each parameter
name to the consumed segment at the last position of a piece with that name, and binds no
name that no piece carries. -/
structure Reads (p : Pattern) (r : List String) (m : PatternMatch) : Prop where
  consumed_le : m.consumed ≤ r.length
  literal_at : ∀ (i : Nat) x, p.pieceList[i]? = some (Piece.literal x) → (r.take m.consumed)[i]? = some x
  param_last : ∀ (i : Nat) k, p.pieceList[i]? = some (Piece.param k) →
    (∀ j, i < j → p.pieceList[j]? ≠ some (Piece.param k)) →
    m.params.find? k = (r.take m.consumed)[i]?
  param_absent : ∀ k, (∀ i : Nat, p.pieceList[i]? ≠ some (Piece.param k)) → m.params.find? k = none

@[simp]
theorem matchSegments_catchAll (r : List String) (mode : PathMatch) :
    catchAll.matchSegments r mode = some ⟨r.length, StrMap.empty⟩ := rfl

@[simp]
theorem matchSegments_empty (r : List String) (mode : PathMatch) :
    empty.matchSegments r mode =
      if mode = .full ∧ r ≠ [] then none else some ⟨0, StrMap.empty⟩ := rfl

theorem matchSegments_pieces (ps : List Piece) (r : List String) (mode : PathMatch) :
    (pieces ps).matchSegments r mode =
      if r.length < ps.length then none
      else if mode = .full ∧ r.length ≠ ps.length then none
      else (matchPieces ps r StrMap.empty).map fun params => ⟨ps.length, params⟩ := rfl

/-! ### Matching pieces, one segment at a time -/

/-- One step of a successful piece match: a literal equals its segment, and the rest of the
pieces match the rest of the segments with this piece's capture added. -/
theorem matchPieces_cons_cons {p : Piece} {ps : List Piece} {s : String} {ss : List String}
    {acc out : StrMap String} (h : matchPieces (p :: ps) (s :: ss) acc = some out) :
    (∀ t, p = .literal t → t = s) ∧ matchPieces ps ss (p.capture s acc) = some out := by
  cases p with
  | literal t =>
    simp only [matchPieces] at h
    split at h
    · exact ⟨fun t' ht => (Piece.literal.inj ht) ▸ ‹t = s›, h⟩
    · cases h
  | param n => exact ⟨fun _ ht => (by cases ht), h⟩

/-- A piece that fits its segment passes the match on to the rest, with its capture added. -/
theorem matchPieces_cons_of_fits {p : Piece} {s : String} (hfit : ∀ t, p = .literal t → t = s)
    (ps : List Piece) (ss : List String) (acc : StrMap String) :
    matchPieces (p :: ps) (s :: ss) acc = matchPieces ps ss (p.capture s acc) := by
  cases p with
  | literal t => simp [matchPieces, hfit t rfl, Piece.capture]
  | param n => rfl

theorem matchPieces_cons_nil {p : Piece} {ps : List Piece} {acc : StrMap String} :
    matchPieces (p :: ps) [] acc = none := by
  cases p <;> rfl

/-- A successful piece match uses no more segments than there are. -/
theorem length_le_of_matchPieces {ps : List Piece} {ss : List String} {acc out : StrMap String}
    (h : matchPieces ps ss acc = some out) : ps.length ≤ ss.length := by
  induction ps generalizing ss acc with
  | nil => exact Nat.zero_le _
  | cons p ps ih =>
    cases ss with
    | nil => simp [matchPieces_cons_nil] at h
    | cons s ss => exact Nat.succ_le_succ (ih (matchPieces_cons_cons h).2)

/-- Every literal piece equals the segment at its position. -/
theorem getElem?_of_matchPieces_literal {ps : List Piece} {ss : List String}
    {acc out : StrMap String} (h : matchPieces ps ss acc = some out) {i : Nat} {x : String}
    (hi : ps[i]? = some (Piece.literal x)) : ss[i]? = some x := by
  induction ps generalizing ss acc i with
  | nil => simp at hi
  | cons p ps ih =>
    cases ss with
    | nil => simp [matchPieces_cons_nil] at h
    | cons s ss =>
      have hstep := matchPieces_cons_cons h
      cases i with
      | zero =>
        have hp : p = .literal x := by simpa using hi
        simp [hstep.1 x hp]
      | succ i => exact ih hstep.2 (by simpa using hi)

/-- A name that no piece carries keeps the value it had before the match. -/
theorem find?_matchPieces_of_absent {ps : List Piece} {ss : List String}
    {acc out : StrMap String} (h : matchPieces ps ss acc = some out) {k : String}
    (hk : ∀ i : Nat, ps[i]? ≠ some (Piece.param k)) : out.find? k = acc.find? k := by
  induction ps generalizing ss acc with
  | nil =>
    cases h
    rfl
  | cons p ps ih =>
    cases ss with
    | nil => simp [matchPieces_cons_nil] at h
    | cons s ss =>
      have hhead : p ≠ .param k := fun hp => hk 0 (by simp [hp])
      rw [ih (matchPieces_cons_cons h).2 fun i => hk (i + 1),
        Piece.find?_capture_of_ne hhead]

/-- A name is bound to the segment at the last position of a piece that carries it. -/
theorem find?_matchPieces_of_last {ps : List Piece} {ss : List String}
    {acc out : StrMap String} (h : matchPieces ps ss acc = some out) {i : Nat} {k : String}
    (hi : ps[i]? = some (Piece.param k)) (hlast : ∀ j, i < j → ps[j]? ≠ some (Piece.param k)) :
    out.find? k = ss[i]? := by
  induction ps generalizing ss acc i with
  | nil => simp at hi
  | cons p ps ih =>
    cases ss with
    | nil => simp [matchPieces_cons_nil] at h
    | cons s ss =>
      have hstep := (matchPieces_cons_cons h).2
      cases i with
      | zero =>
        -- the first piece binds `k`, and no later piece binds it again
        have hp : p = .param k := by simpa using hi
        have hrest : ∀ j : Nat, ps[j]? ≠ some (Piece.param k) := fun j => by
          simpa using hlast (j + 1) (Nat.succ_pos j)
        rw [find?_matchPieces_of_absent hstep hrest, hp]
        simp [Piece.capture]
      | succ i =>
        exact ih hstep (by simpa using hi) fun j hj => by
          simpa using hlast (j + 1) (Nat.succ_lt_succ hj)

/-- Segments after those the pieces use change nothing. -/
theorem matchPieces_append {ps : List Piece} {r : List String} (hlen : ps.length ≤ r.length)
    (s : List String) (acc : StrMap String) :
    matchPieces ps (r ++ s) acc = matchPieces ps r acc := by
  rw [← matchPieces_take ps (r ++ s), List.take_append_of_le_length hlen, matchPieces_take]

/-! ### The four laws -/

/-- **What a match reads.** Every match consumes no more segments than there are, agrees
with the literal pieces at their positions, and binds each name to the segment of its last
parameter piece and nothing else. -/
theorem reads_of_matchSegments {p : Pattern} {r : List String} {mode : PathMatch}
    {m : PatternMatch} (h : p.matchSegments r mode = some m) : p.Reads r m := by
  cases p with
  | empty =>
    have hm : m = ⟨0, StrMap.empty⟩ := by
      simp only [matchSegments_empty] at h
      split at h
      · cases h
      · exact (Option.some.inj h).symm
    subst hm
    exact ⟨Nat.zero_le _, by simp [pieceList], by simp [pieceList], fun _ _ => rfl⟩
  | catchAll =>
    obtain rfl := (Option.some.inj h).symm
    exact ⟨Nat.le_refl _, by simp [pieceList], by simp [pieceList], fun _ _ => rfl⟩
  | pieces ps =>
    rw [matchSegments_pieces] at h
    split at h
    · cases h
    split at h
    · cases h
    obtain ⟨out, hout, rfl⟩ := Option.map_eq_some_iff.mp h
    have hlen := length_le_of_matchPieces hout
    -- positions of pieces lie inside the consumed segments
    have htake : ∀ i, i < ps.length → (r.take ps.length)[i]? = r[i]? := fun i hi =>
      List.getElem?_take_of_lt hi
    refine ⟨hlen, fun i x hi => ?_, fun i k hi hlast => ?_, fun k hk => ?_⟩
    · rw [htake i (List.getElem?_eq_some_iff.mp hi).1]
      exact getElem?_of_matchPieces_literal hout hi
    · rw [htake i (List.getElem?_eq_some_iff.mp hi).1]
      exact find?_matchPieces_of_last hout hi hlast
    · exact find?_matchPieces_of_absent hout hk

/-- Under `:a/:a` the last piece named `a` wins. -/
example : ((parse ":a/:a").matchSegments ["x", "y"] .full).map (·.params.find? "a") =
    some (some "y") := by
  decide +kernel

/-- **Full and prefix matching.** A full match is exactly a prefix match that consumes
every segment. -/
theorem matchSegments_full_iff (p : Pattern) (r : List String) (m : PatternMatch) :
    p.matchSegments r .full = some m ↔ p.matchSegments r .leading = some m ∧ m.consumed = r.length := by
  cases p with
  | empty =>
    by_cases hr : r = []
    · subst hr
      simp only [matchSegments_empty, ne_eq, not_true_eq_false, and_false, if_false]
      constructor
      · intro h
        exact ⟨h, by rw [← Option.some.inj h]; rfl⟩
      · exact fun h => h.1
    · simp only [matchSegments_empty, ne_eq, hr, not_false_eq_true, and_true, if_true,
        reduceCtorEq, false_iff, not_and]
      intro h
      rw [← Option.some.inj h]
      exact fun h0 => hr (List.length_eq_zero_iff.mp h0.symm)
  | catchAll =>
    simp only [matchSegments_catchAll, Option.some.injEq]
    constructor
    · intro h
      exact ⟨h, by rw [← h]⟩
    · exact fun h => h.1
  | pieces ps =>
    simp only [matchSegments_pieces, ne_eq, reduceCtorEq, false_and, if_false, true_and]
    by_cases hlt : r.length < ps.length
    · simp [hlt]
    · simp only [hlt, if_false]
      by_cases heq : r.length = ps.length
      · simp only [heq, not_true_eq_false, if_false, iff_self_and]
        intro h
        obtain ⟨_, _, rfl⟩ := Option.map_eq_some_iff.mp h
        rfl
      · simp only [heq, not_false_eq_true, if_true, reduceCtorEq, false_iff, not_and]
        intro h
        obtain ⟨_, _, rfl⟩ := Option.map_eq_some_iff.mp h
        exact fun hc => heq hc.symm

/-- **Prefix matches are closed under extension.** Unless the pattern is the catch-all, a
prefix match of `r` is a prefix match of `r ++ s`, consuming and capturing the same. -/
theorem matchSegments_append {p : Pattern} (hp : p ≠ .catchAll) {r : List String}
    {m : PatternMatch} (h : p.matchSegments r .leading = some m) (s : List String) :
    p.matchSegments (r ++ s) .leading = some m := by
  cases p with
  | empty => simpa using h
  | catchAll => exact absurd rfl hp
  | pieces ps =>
    rw [matchSegments_pieces] at h ⊢
    split at h
    · cases h
    rename_i hlong
    have hlen : ps.length ≤ r.length := Nat.le_of_not_lt hlong
    have hlen' : ¬ (r ++ s).length < ps.length := by
      simp only [List.length_append]
      omega
    simp only [hlen', if_false, reduceCtorEq, false_and] at h ⊢
    rw [matchPieces_append hlen]
    exact h

/-! ### What the parser makes -/

/-- Trimming slashes leaves nothing, or something that ends in a character other than `/`. -/
theorem exists_ne_slash_of_trimSlashes {cs : List Char} (h : trimSlashes cs ≠ []) :
    ∃ c ∈ trimSlashes cs, c ≠ '/' := by
  have hdrop : dropSlashes (dropSlashes cs).reverse ≠ [] := by
    simpa [trimSlashes] using h
  refine ⟨_, List.mem_reverse.mpr (List.head_mem hdrop), ?_⟩
  exact of_decide_eq_false (List.head_dropWhile_not (· = '/') hdrop)

/-- A piece list the parser makes is the path's non-empty `/`-pieces, read one by one, and
the path is not all slashes. -/
theorem eq_of_parse_eq_pieces {t : String} {ps : List Piece} (h : parse t = .pieces ps) :
    trimSlashes t.toList ≠ [] ∧ ps = (nonEmptyPieces '/' t.toList).map Piece.ofChars := by
  simp only [parse] at h
  split at h
  · cases h
  split at h
  · cases h
  cases h
  exact ⟨‹_›, by rw [nonEmptyPieces_trimSlashes]⟩

/-- **The parser makes sound pieces.** A parsed piece list is non-empty, and each of its
pieces is `Piece.Sound`. -/
theorem sound_of_parse_eq_pieces {t : String} {ps : List Piece} (h : parse t = .pieces ps) :
    ps ≠ [] ∧ ∀ pc ∈ ps, pc.Sound := by
  obtain ⟨htrim, rfl⟩ := eq_of_parse_eq_pieces h
  refine ⟨?_, fun pc hpc => ?_⟩
  · obtain ⟨c, hc, hne⟩ := exists_ne_slash_of_trimSlashes htrim
    have := nonEmptyPieces_ne_nil hc hne
    rw [nonEmptyPieces_trimSlashes] at this
    simpa using this
  · obtain ⟨cs, hcs, rfl⟩ := List.mem_map.mp hpc
    have hmem := List.mem_filter.mp hcs
    exact Piece.sound_ofChars (by simpa using hmem.2) (not_mem_of_mem_pieces '/' _ _ hmem.1)

/-- **Pattern matching laws.** For the pattern of every route path: every match reads the
segments as `Reads` says; a full match is a prefix match that consumes everything; a prefix
match survives more segments unless the pattern is the catch-all; and a piece list is
non-empty and made of sound pieces. -/
theorem parse_matchSegments_laws (t : String) (r s : List String) (mode : PathMatch) :
    (∀ m, (parse t).matchSegments r mode = some m → (parse t).Reads r m) ∧
    (∀ m, (parse t).matchSegments r .full = some m ↔
      (parse t).matchSegments r .leading = some m ∧ m.consumed = r.length) ∧
    (parse t ≠ .catchAll → ∀ m, (parse t).matchSegments r .leading = some m →
      (parse t).matchSegments (r ++ s) .leading = some m) ∧
    (∀ ps, parse t = .pieces ps → ps ≠ [] ∧ ∀ pc ∈ ps, pc.Sound) :=
  ⟨fun _ h => reads_of_matchSegments h, matchSegments_full_iff _ r,
    fun hp _ h => matchSegments_append hp h s, fun _ h => sound_of_parse_eq_pieces h⟩

end Pattern

end SwitchAdmin
