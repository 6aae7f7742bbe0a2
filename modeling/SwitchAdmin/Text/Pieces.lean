/-!
# Cutting text at a separator

`pieces sep cs` cuts a character list at every occurrence of `sep`, keeping empty pieces:
`k` separators give `k + 1` pieces, and joining the pieces with `sep` gives back `cs`.
`nonEmptyPieces` drops the empty ones, which is how paths are read as segment lists.
-/

namespace SwitchAdmin

/-- Cuts `cs` at every `sep`, the current piece being `cur` (reversed). -/
def piecesFrom (sep : Char) (cur : List Char) : List Char → List (List Char)
  | [] => [cur.reverse]
  | c :: rest => if c = sep then cur.reverse :: piecesFrom sep [] rest else piecesFrom sep (c :: cur) rest

/-- The pieces of `cs` between occurrences of `sep`, empty ones included. -/
def pieces (sep : Char) (cs : List Char) : List (List Char) := piecesFrom sep [] cs

/-- The non-empty pieces of `cs` between occurrences of `sep`. -/
def nonEmptyPieces (sep : Char) (cs : List Char) : List (List Char) :=
  (pieces sep cs).filter (fun p => !p.isEmpty)

/-- The pieces of a string between occurrences of `sep`, empty ones included. -/
def piecesOf (s : String) (sep : Char) : List String :=
  (pieces sep s.toList).map String.ofList

/-- The non-empty pieces of a string between occurrences of `sep`. -/
def segmentsOf (s : String) (sep : Char) : List String :=
  (nonEmptyPieces sep s.toList).map String.ofList

/-- Joins strings with `sep` between them. -/
def joinWith (sep : String) : List String → String
  | [] => ""
  | [s] => s
  | s :: rest => s ++ sep ++ joinWith sep rest

theorem piecesFrom_ne_nil (sep : Char) (cur cs : List Char) : piecesFrom sep cur cs ≠ [] := by
  induction cs generalizing cur with
  | nil => simp [piecesFrom]
  | cons c rest ih =>
    simp only [piecesFrom]
    split
    · simp
    · exact ih _

/-- No non-empty piece contains the separator. -/
theorem not_mem_of_mem_piecesFrom (sep : Char) (cur cs p : List Char) (hcur : sep ∉ cur)
    (hp : p ∈ piecesFrom sep cur cs) : sep ∉ p := by
  induction cs generalizing cur with
  | nil =>
    simp only [piecesFrom, List.mem_singleton] at hp
    subst hp
    simpa using hcur
  | cons c rest ih =>
    simp only [piecesFrom] at hp
    split at hp
    · simp only [List.mem_cons] at hp
      rcases hp with rfl | hp
      · simpa using hcur
      · exact ih [] (by simp) hp
    · rename_i hc
      refine ih (c :: cur) ?_ hp
      simp only [List.mem_cons, not_or]
      exact ⟨fun h => hc h.symm, hcur⟩

theorem not_mem_of_mem_pieces (sep : Char) (cs p : List Char) (hp : p ∈ pieces sep cs) :
    sep ∉ p :=
  not_mem_of_mem_piecesFrom sep [] cs p (by simp) hp

end SwitchAdmin
