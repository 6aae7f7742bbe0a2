import SwitchAdmin.Json.Basic

/-!
# Views

A route resolves to a view: which screen to show, named, with an optional heading and
message and a list of links. `notFoundView` is the screen shown when a page does not exist.
-/

namespace SwitchAdmin

/-- A link shown on a view. -/
structure ViewLink where
  label : String
  href : String
deriving DecidableEq, Inhabited, Repr

/-- A view: the screen a route shows. -/
structure View where
  /-- The view's name. -/
  name : String
  /-- A heading, if the view has one. -/
  heading : Option String := none
  /-- A message, if the view has one. -/
  message : Option String := none
  /-- Links, in order. -/
  links : List ViewLink := []
deriving DecidableEq, Inhabited, Repr

namespace View

/-- The view with only a name. -/
def named (name : String) : View := { name }

/-- The view as JSON: the name, and heading, message and links when present. -/
def toJson (v : View) : Json :=
  Json.object <|
    [("name", .str v.name)] ++
    (match v.heading with | some h => [("heading", .str h)] | none => []) ++
    (match v.message with | some m => [("message", .str m)] | none => []) ++
    (if v.links.isEmpty then []
     else [("links", .arr (v.links.map fun l => Json.object [("label", .str l.label), ("href", .str l.href)]))])

end View

/-- The name of the not-found view. -/
def notFoundName : String := "not-found"

/-- The view shown for a page that does not exist. -/
def notFoundView : View :=
  { name := notFoundName,
    heading := some "Page Not Found",
    message := some "The page you are looking for does not exist or has been moved.",
    links := [⟨"Back to home", "/"⟩] }

end SwitchAdmin
