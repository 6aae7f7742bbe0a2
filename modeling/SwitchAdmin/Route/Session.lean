import SwitchAdmin.Route.Router
import SwitchAdmin.Route.Summary

/-!
# A router in use

A `Session` is a router together with the cells loaded so far. Each request is answered
from the router alone, and the cells it loads are added to the session: navigating and
recognising load what their walks load, describing loads the cells the description forces
(with `expand` every cell of the tree, without it none that was not loaded), and asking for
the table's size loads nothing.
-/

namespace SwitchAdmin

/-- A request to a router. -/
inductive Request where
  | navigate (url : String)
  | recognize (url : String)
  | describe (expand : Bool)
  | size
deriving Inhabited

/-- The answer to a request. -/
inductive Reply where
  | resolution (result : Except RouterError Resolution)
  | summary (routes : List RouteSummary)
  | size (entries : Nat)
deriving Inhabited

/-- A router and the cells loaded so far. -/
structure Session where
  router : Router
  loaded : Loaded := {}
deriving Inhabited

namespace Session

/-- Answers one request and records what it loaded. -/
def step (s : Session) : Request → Session × Reply
  | .navigate url =>
    let (result, loads) := s.router.navigate url
    ({ s with loaded := s.loaded.mark loads }, .resolution result)
  | .recognize url =>
    let (result, loads) := s.router.recognize url
    ({ s with loaded := s.loaded.mark loads }, .resolution result)
  | .describe expand =>
    let (summary, forced) := describeTable s.loaded expand s.router.root
    ({ s with loaded := s.loaded.mark forced }, .summary summary)
  | .size => (s, .size s.router.root.length)

/-- Answers requests in order. -/
def run (s : Session) : List Request → List Reply
  | [] => []
  | r :: rs => let (s', reply) := s.step r; reply :: s'.run rs

end Session

end SwitchAdmin
