import SwitchAdmin.Route.Router

/-!
# The registry of views and tables

Configured routes name views (`component`) and tables (`load_children`) that must be
registered. Each registered view and table sits in its own cell, handed out in order from
`nextCell`, so every route that names it shares its loading. Registering a name again
replaces the entry with a new cell.

`Registry.buildTable` builds routes from their configuration: the title and redirect are
copied, a view is looked up (`unknownView` if missing), a named table is looked up
(`unknownTable` if missing) and becomes a deferred nested table, and inline children are
built in turn when there is no named table. The first error in order is reported.
-/

namespace SwitchAdmin

/-- A registered table: the number of its cell and its routes. -/
structure TableEntry where
  id : Nat
  routes : List Route
deriving Inhabited

/-- Registered views and tables. -/
structure Registry where
  views : StrMap ViewSlot := StrMap.empty
  tables : StrMap TableEntry := StrMap.empty
  /-- The first cell number not handed out yet. -/
  nextCell : Nat := 0
deriving Inhabited

namespace Registry

/-- Registers a view under a name, in a new cell. -/
def addView (reg : Registry) (name : String) (v : View) : Registry :=
  { reg with views := reg.views.insert name ⟨reg.nextCell, v⟩, nextCell := reg.nextCell + 1 }

/-- Registers a table under a name, in a new cell. -/
def addTable (reg : Registry) (name : String) (routes : List Route) : Registry :=
  { reg with tables := reg.tables.insert name ⟨reg.nextCell, routes⟩, nextCell := reg.nextCell + 1 }

/-- Whether a view name is registered. -/
def hasView (reg : Registry) (name : String) : Bool := reg.views.contains name

/-- Whether a table name is registered. -/
def hasTable (reg : Registry) (name : String) : Bool := reg.tables.contains name

mutual

/-- Builds one route from its configuration. -/
def buildRoute (reg : Registry) : RouteConfig → Except RouterError Route
  | ⟨path, pathMatch, title, redirectTo, component, loadChildren, children⟩ => do
    let view ← match component with
      | some name =>
        match reg.views.find? name with
        | some slot => pure (some slot)
        | none => throw (.unknownView path name)
      | none => pure none
    match loadChildren with
    | some name =>
      match reg.tables.find? name with
      | some t => pure { path, pathMatch, title, redirectTo, view,
                         nesting := .deferred t.id t.routes }
      | none => throw (.unknownTable path name)
    | none =>
      match children with
      | [] => pure { path, pathMatch, title, redirectTo, view }
      | c :: cs => do
        let built ← buildTable reg (c :: cs)
        pure { path, pathMatch, title, redirectTo, view, nesting := .eager built }

/-- Builds a table from its configuration; the first error in order is reported. -/
def buildTable (reg : Registry) : List RouteConfig → Except RouterError (List Route)
  | [] => pure []
  | c :: cs => do
    let r ← buildRoute reg c
    let rs ← buildTable reg cs
    pure (r :: rs)

end

/-- Registers each name as a view with only that name. -/
def withViews (reg : Registry) (names : List String) : Registry :=
  names.foldl (fun r n => r.addView n (View.named n)) reg

/-- Registers configured tables, each built against the registry as it is before any of
them is added. -/
def withTables (reg : Registry) (tables : List (String × List RouteConfig)) :
    Except RouterError Registry :=
  tables.foldlM (fun acc (name, configs) => do
    let routes ← reg.buildTable configs
    pure (acc.addTable name routes)) reg

end Registry

end SwitchAdmin
