import SwitchAdmin.Route.Table

/-!
# Describing a route table

`describeTable loaded expand routes` summarises a table: each route's path, mode, title,
redirect, view name and nested table. A deferred view shows its name only when `expand` is
set or its cell is loaded, and `(deferred)` otherwise. A deferred nested table is described
only when `expand` is set or its cell is loaded; otherwise the summary says that the
children are deferred. Eager nested tables are always described.

A description also reports the cells it forces, route by route: the cell of the view it
shows by name, the cell of the deferred nested table it describes, then those of the routes
below. With `expand` these are every cell of the tree; without it, only cells already
loaded.
-/

namespace SwitchAdmin

/-- The summary of one route. -/
structure RouteSummary where
  path : String
  pathMatch : PathMatch
  title : Option String
  redirectTo : Option String
  /-- The view's name, `(deferred)`, or none without a view. -/
  view : Option String
  /-- Whether the nested table is described. -/
  shown : Bool
  /-- The summaries of the nested table's routes, when it is described. -/
  children : List RouteSummary
  /-- Whether the route has a nested table that is not described. -/
  deferredChildren : Bool
deriving Inhabited

/-- The text shown for a view that is not loaded. -/
def deferredMark : String := "(deferred)"

mutual

/-- Summarises one route, with the cells the summary forces. -/
def describeRoute (loaded : Loaded) (expand : Bool) : Route → RouteSummary × List Cell
  | ⟨path, pathMatch, title, redirectTo, view, nesting⟩ =>
    let nested := describeNested loaded expand nesting
    let viewShown := view.filter fun s => expand || loaded.has s.cell
    ({ path, pathMatch, title, redirectTo,
       view := view.map fun s => if expand || loaded.has s.cell then s.view.name else deferredMark,
       shown := nested.1,
       children := nested.2.1,
       deferredChildren := nesting.present && !nested.1 },
     (viewShown.map (·.cell)).toList ++ nested.2.2)

/-- Describes a nested table when there is one and it is eager, expanded or loaded: whether
it is described, the summaries of its routes, and the cells that forces. -/
def describeNested (loaded : Loaded) (expand : Bool) :
    Nesting Route → Bool × List RouteSummary × List Cell
  | .none => (false, [], [])
  | .eager children => (true, describeTable loaded expand children)
  | .deferred id children =>
    if expand || loaded.has (.table id) then
      let d := describeTable loaded expand children
      (true, d.1, .table id :: d.2)
    else (false, [], [])

/-- Summarises a table, with the cells the summaries force. -/
def describeTable (loaded : Loaded) (expand : Bool) : List Route → List RouteSummary × List Cell
  | [] => ([], [])
  | r :: rs =>
    let d := describeRoute loaded expand r
    let ds := describeTable loaded expand rs
    (d.1 :: ds.1, d.2 ++ ds.2)

end

mutual

/-- A route summary as JSON. -/
def RouteSummary.toJson : RouteSummary → Json
  | ⟨path, pathMatch, title, redirectTo, view, shown, children, deferredChildren⟩ =>
    Json.object <|
      [("path", .str path), ("path_match", .str pathMatch.name)] ++
      (match title with | some t => [("title", .str t)] | none => []) ++
      (match redirectTo with | some t => [("redirect_to", .str t)] | none => []) ++
      (match view with | some v => [("view", .str v)] | none => []) ++
      (if shown then [("children", .arr (RouteSummary.listToJson children))] else []) ++
      (if deferredChildren then [("deferred_children", .bool true)] else [])

/-- Route summaries as JSON. -/
def RouteSummary.listToJson : List RouteSummary → List Json
  | [] => []
  | s :: ss => s.toJson :: RouteSummary.listToJson ss

end

end SwitchAdmin
