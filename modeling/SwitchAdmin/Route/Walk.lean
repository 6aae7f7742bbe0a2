import SwitchAdmin.Route.Table

/-!
# Walking a route table

`walkTable parent remaining params routes` finds what the remaining URL segments lead to in
a table, trying the routes in order. For a route whose pattern matches (consuming some
segments and capturing parameters, which join the inherited ones):

* a redirect wins: the walk ends with the redirect's target (`redirectTarget`);
* otherwise, if the route has a nested table, the walk descends into it with the rest of the
  segments; a match there is prefixed with this route, and a redirect there ends the walk;
* otherwise, or if nothing in the nested table matched, the route matches on its own when no
  segments are left and it has a view;
* otherwise the walk backtracks to the next route.

The walk also reports the cells it loaded: the nested table of every route it descended
into, and the view of the route it ended on. Loading happens even on a branch that is later
abandoned.
-/

namespace SwitchAdmin

/-- One route of a successful match: its path, the segments it consumed, its title and the
parameters it captured itself. -/
structure MatchedRoute where
  path : String
  segments : List String
  title : Option String
  params : StrMap String
deriving Inhabited

/-- Where a walk ends. -/
inductive Outcome where
  /-- A match: the chain of routes from the table down, and the view of the last one. -/
  | matched (chain : List MatchedRoute) (view : ViewSlot)
  /-- A redirect to these segments. -/
  | redirect (segments : List String)
deriving Inhabited

/-- A redirect target's segments: the target's non-empty pieces with each `:name` replaced by
the parameter of that name when there is one, after the parent segments unless the target
starts with `/`, and followed by the segments the redirecting route left over. -/
def redirectTarget (target : String) (parent rest : List String) (params : StrMap String) :
    List String :=
  let substitute (piece : String) : String :=
    match piece.toList with
    | ':' :: name => (params.find? (String.ofList name)).getD piece
    | _ => piece
  let base := if target.toList.head? = some '/' then [] else parent
  base ++ (segmentsOf target '/').map substitute ++ rest

mutual

/-- Walks one route: an outcome, or `none` to go on with the next route, and the cells
loaded. -/
def walkRoute (parent remaining : List String) (params : StrMap String) :
    Route → Option Outcome × List Cell
  | ⟨path, pathMatch, title, redirectTo, view, nesting⟩ =>
    match (Pattern.parse path).matchSegments remaining pathMatch with
    | none => (none, [])
    | some m =>
      let consumed := remaining.take m.consumed
      let rest := remaining.drop m.consumed
      let merged := params.union m.params
      match redirectTo with
      | some target => (some (.redirect (redirectTarget target parent rest merged)), [])
      | none =>
        let entry : MatchedRoute := ⟨path, consumed, title, m.params⟩
        let inner := walkNested (parent ++ consumed) rest merged nesting
        match inner.1 with
        | some (.matched chain v) => (some (.matched (entry :: chain) v), inner.2)
        | some (.redirect t) => (some (.redirect t), inner.2)
        | none =>
          match view with
          | some v => if rest.isEmpty then (some (.matched [entry] v), inner.2 ++ [v.cell]) else (none, inner.2)
          | none => (none, inner.2)

/-- Walks a route's nested table, if it has one; a deferred table's cell is loaded first. -/
def walkNested (parent remaining : List String) (params : StrMap String) :
    Nesting Route → Option Outcome × List Cell
  | .none => (none, [])
  | .eager children => walkTable parent remaining params children
  | .deferred id children =>
    let w := walkTable parent remaining params children
    (w.1, .table id :: w.2)

/-- Walks a table: the first route with an outcome decides; the cells loaded by every route
tried are reported. -/
def walkTable (parent remaining : List String) (params : StrMap String) :
    List Route → Option Outcome × List Cell
  | [] => (none, [])
  | r :: rs =>
    let w := walkRoute parent remaining params r
    match w.1 with
    | some o => (some o, w.2)
    | none =>
      let w' := walkTable parent remaining params rs
      (w'.1, w.2 ++ w'.2)

end

end SwitchAdmin
