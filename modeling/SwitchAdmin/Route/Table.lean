import SwitchAdmin.Route.Pattern
import SwitchAdmin.Route.View

/-!
# Route tables

A route table is an ordered list of routes; the first route that matches wins. A route has
a path pattern, a path-match mode, and optionally a title, a redirect target, a view and a
nested table.

Views and nested tables may be deferred: they are loaded the first time they are needed and
stay loaded. Each deferred part sits in a *cell*, and two routes that share a cell share its
loading: loading the cell through one route loads it for both. A view's cell and a table's
cell are of different kinds (`Cell.view`, `Cell.table`), so no cell is both. A route with no
nested table has no children: the children are held by the kind of nesting. A route tree
holds the content of every deferred part; which cells are loaded is kept apart, in a `Loaded`
value, so that what a route tree answers never depends on what was loaded before.
-/

namespace SwitchAdmin

/-- A loading cell: the cell of a deferred view or of a deferred nested table, by number. -/
inductive Cell where
  | view (id : Nat)
  | table (id : Nat)
deriving DecidableEq, Inhabited, Repr

/-- A view behind a loading cell. -/
structure ViewSlot where
  /-- The number of the view's cell. -/
  id : Nat
  /-- The view the cell yields. -/
  view : View
deriving DecidableEq, Inhabited, Repr

/-- The cell of a view. -/
def ViewSlot.cell (s : ViewSlot) : Cell := .view s.id

/-- Whether a route has a nested table, how it is loaded, and its routes. -/
inductive Nesting (α : Type) where
  /-- No nested table. -/
  | none
  /-- A nested table that is always present. -/
  | eager (children : List α)
  /-- A nested table loaded through the table cell `id` on first use. -/
  | deferred (id : Nat) (children : List α)
deriving Inhabited

/-- Whether there is a nested table. -/
def Nesting.present {α : Type} : Nesting α → Bool
  | .none => false
  | _ => true

/-- The routes of a nested table, none without one. -/
def Nesting.routes {α : Type} : Nesting α → List α
  | .none => []
  | .eager children => children
  | .deferred _ children => children

/-- The cell of a nested table, if it is deferred. -/
def Nesting.cell {α : Type} : Nesting α → Option Cell
  | .deferred id _ => some (.table id)
  | _ => Option.none

/-- A route: a path pattern and what it leads to. -/
structure Route where
  /-- The path as written. -/
  path : String
  /-- How much of the URL the pattern must consume. -/
  pathMatch : PathMatch := .leading
  /-- The title of the route. -/
  title : Option String := none
  /-- Where the route redirects. -/
  redirectTo : Option String := none
  /-- The route's view. -/
  view : Option ViewSlot := none
  /-- Whether and how the route has a nested table, with the table's routes. -/
  nesting : Nesting Route := .none
deriving Inhabited

namespace Route

/-- The route's path pattern. -/
def pattern (r : Route) : Pattern := Pattern.parse r.path

/-- The routes of the nested table (none without one). -/
def children (r : Route) : List Route := r.nesting.routes

/-- Whether the route has a nested table. -/
def hasChildren (r : Route) : Bool := r.nesting.present

/-- The cell of the route's nested table, if it is deferred. -/
def childCell (r : Route) : Option Cell := r.nesting.cell

mutual

/-- Every cell in a route's subtree: its view's, then those of its nested table. -/
def cells : Route → List Cell
  | ⟨_, _, _, _, view, nesting⟩ => (view.map (·.cell)).toList ++ nestedCells nesting

/-- Every cell of a nested table: its own cell when it is deferred, then its routes'. -/
def nestedCells : Nesting Route → List Cell
  | .none => []
  | .eager children => tableCells children
  | .deferred id children => .table id :: tableCells children

/-- Every cell in a table's subtrees. -/
def tableCells : List Route → List Cell
  | [] => []
  | r :: rs => cells r ++ tableCells rs

end

end Route

/-- The cells that have been loaded. -/
structure Loaded where
  /-- The loaded cells, most recent first. -/
  cells : List Cell := []
deriving Inhabited

namespace Loaded

/-- Whether a cell is loaded. -/
def has (l : Loaded) (c : Cell) : Bool := l.cells.contains c

/-- Marks cells as loaded, in order; a cell already loaded stays as it is. -/
def mark (l : Loaded) (cs : List Cell) : Loaded :=
  cs.foldl (fun l c => if l.has c then l else ⟨c :: l.cells⟩) l

end Loaded

end SwitchAdmin
