import SwitchAdmin.Data.StrMap
import SwitchAdmin.Text.Pieces

/-!
# Route path patterns

A route's path is read as a `Pattern`: `empty` (nothing between the slashes), `catchAll`
(exactly `**`), or a list of pieces, each a literal segment or a `:name` parameter.
Leading and trailing slashes do not count, and empty pieces between slashes are dropped.

`Pattern.matchSegments` matches a pattern against the segments that remain of a URL. Under
`PathMatch.leading` the pattern may leave segments over; under `PathMatch.full` it must use
them all. The catch-all takes every segment whatever the mode, and the empty pattern takes
none. A piece list takes exactly as many segments as it has pieces: literals must be equal,
and each parameter captures its segment, a later parameter of the same name winning.
-/

namespace SwitchAdmin

/-- How much of the remaining URL a route's pattern must consume. -/
inductive PathMatch where
  /-- The pattern may leave segments for nested routes. -/
  | leading
  /-- The pattern must consume every remaining segment. -/
  | full
deriving DecidableEq, Inhabited, Repr

/-- The spelling of a path-match mode in configuration files. -/
def PathMatch.name : PathMatch → String
  | .leading => "prefix"
  | .full => "full"

/-- One piece of a route pattern. -/
inductive Piece where
  /-- A segment that must be equal to this text. -/
  | literal (text : String)
  /-- A segment captured under this name. -/
  | param (name : String)
deriving DecidableEq, Inhabited, Repr

/-- A route pattern. -/
inductive Pattern where
  /-- The empty path: consumes nothing. -/
  | empty
  /-- The path `**`: consumes everything. -/
  | catchAll
  /-- Literal and parameter pieces, one segment each. -/
  | pieces (ps : List Piece)
deriving DecidableEq, Inhabited, Repr

/-- What a successful match gives: how many segments it consumed and what it captured. -/
structure PatternMatch where
  /-- The number of segments consumed, from the front. -/
  consumed : Nat
  /-- The captured parameters. -/
  params : StrMap String

namespace Piece

/-- A piece from its characters: `:name` with a non-empty name is a parameter, anything
else (a lone `:` included) is a literal. -/
def ofChars : List Char → Piece
  | ':' :: c :: rest => .param (String.ofList (c :: rest))
  | cs => .literal (String.ofList cs)

end Piece

namespace Pattern

/-- Drops leading slashes. -/
def dropSlashes (cs : List Char) : List Char := cs.dropWhile (· = '/')

/-- Drops leading and trailing slashes. -/
def trimSlashes (cs : List Char) : List Char := (dropSlashes (dropSlashes cs).reverse).reverse

/-- Reads a route path as a pattern. -/
def parse (path : String) : Pattern :=
  let trimmed := trimSlashes path.toList
  if trimmed = [] then .empty
  else if trimmed = ['*', '*'] then .catchAll
  else .pieces ((nonEmptyPieces '/' trimmed).map Piece.ofChars)

/-- Whether the pattern is the catch-all. -/
def isCatchAll : Pattern → Bool
  | .catchAll => true
  | _ => false

/-- Whether the pattern is the empty path. -/
def isEmpty : Pattern → Bool
  | .empty => true
  | _ => false

/-- Matches pieces against segments of at least the same number, collecting captures. -/
def matchPieces : List Piece → List String → StrMap String → Option (StrMap String)
  | [], _, acc => some acc
  | .literal t :: ps, s :: ss, acc => if t = s then matchPieces ps ss acc else none
  | .param n :: ps, s :: ss, acc => matchPieces ps ss (acc.insert n s)
  | _ :: _, [], _ => none

/-- Matches the pattern against the remaining segments under a path-match mode. -/
def matchSegments (p : Pattern) (remaining : List String) (mode : PathMatch) :
    Option PatternMatch :=
  match p with
  | .catchAll => some ⟨remaining.length, StrMap.empty⟩
  | .empty =>
    if mode = .full ∧ remaining ≠ [] then none else some ⟨0, StrMap.empty⟩
  | .pieces ps =>
    if remaining.length < ps.length then none
    else if mode = .full ∧ remaining.length ≠ ps.length then none
    else (matchPieces ps remaining StrMap.empty).map fun params => ⟨ps.length, params⟩

end Pattern

end SwitchAdmin
