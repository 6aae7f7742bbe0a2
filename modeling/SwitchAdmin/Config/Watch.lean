import SwitchAdmin.Config.Load

/-!
# Watching a configuration file

A watcher reloads one configuration file and forwards every configuration that loads
and validates to a receiver, in order. A reload that fails leaves nothing behind, so the
receiver only ever sees good configurations; once the receiver is gone, a reload that
succeeds has nowhere to go and says so.

`WatchScene` models the watcher together with the file it watches and the receiver's
queue, so that a sequence of file edits and requests can be answered as a whole:

* the file is its contents, or nothing when it is not there;
* `run` hands the watcher to the file system's change notifications, which needs the
  file to be there; from then on each change of the file's contents reloads it, until the
  file is removed, and the watcher can no longer be asked directly.
-/

namespace SwitchAdmin

/-- The outcome of one reload. -/
inductive Reload where
  /-- The configuration loaded and was sent to the receiver. -/
  | applied
  /-- The file did not load or validate; nothing was sent. -/
  | rejected
  /-- The configuration loaded but the receiver is gone. -/
  | closed
deriving DecidableEq, Inhabited, Repr

/-- The name of a reload outcome. -/
def Reload.name : Reload → String
  | .applied => "Applied"
  | .rejected => "Rejected"
  | .closed => "Closed"

/-- A change to the watched file or a request to the watcher or its receiver. -/
inductive WatchStep where
  /-- Replaces the file's contents. -/
  | write (text : String)
  /-- Appends to the file, making it if needed. -/
  | append (text : String)
  /-- Removes the file. -/
  | remove
  /-- Asks the watcher to reload. -/
  | reload
  /-- Takes the next configuration from the receiver, if any. -/
  | receive
  /-- Drops the receiver. -/
  | dropReceiver
  /-- Hands the watcher to the file's change notifications. -/
  | run
deriving Inhabited

/-- The answer to a step. -/
inductive WatchReply where
  /-- A file change: nothing to say. -/
  | done
  /-- The outcome of a reload. -/
  | reloaded (outcome : Reload)
  /-- What the receiver had. -/
  | received (config : Option AppConfig)
  /-- Notifications have started. -/
  | started
  /-- The watcher was already handed over by `run`. -/
  | handedOver
  /-- Notifications could not start. -/
  | notifyFailed (message : String)
deriving Inhabited

/-- A watcher, the file it watches and its receiver. -/
structure WatchScene where
  /-- The registry configurations are validated against. -/
  registry : Registry
  /-- The path of the file, as named in messages. -/
  path : String
  /-- The file's contents, or `none` when it is not there. -/
  file : Option String := none
  /-- Configurations sent and not yet received. -/
  queue : List AppConfig := []
  /-- Whether the receiver is still there. -/
  receiverOpen : Bool := true
  /-- Whether `run` has taken the watcher. -/
  handedOver : Bool := false
  /-- Whether notifications are running on the file. -/
  watching : Bool := false
deriving Inhabited

namespace WatchScene

/-- Reloads the file: forwards its configuration when it loads and validates. -/
def reloadFile (s : WatchScene) : WatchScene × Reload :=
  match loadConfig s.file s.registry with
  | .error _ => (s, .rejected)
  | .ok cfg =>
    if s.receiverOpen then ({ s with queue := s.queue ++ [cfg] }, .applied) else (s, .closed)

/-- A change of the file's contents, which reloads it while notifications run. -/
def changed (s : WatchScene) (contents : String) : WatchScene :=
  let s := { s with file := some contents }
  if s.watching then s.reloadFile.1 else s

/-- The message of notifications failing on a missing file. -/
def missingFileMessage (path : String) : String :=
  "No such file or directory (os error 2) about [" ++ quoted path ++ "]"

/-- Answers one step. -/
def step (s : WatchScene) : WatchStep → WatchScene × WatchReply
  | .write text => (s.changed text, .done)
  | .append text => (s.changed (s.file.getD "" ++ text), .done)
  | .remove => ({ s with file := none, watching := false }, .done)
  | .reload =>
    if s.handedOver then (s, .handedOver)
    else let (s', outcome) := s.reloadFile; (s', .reloaded outcome)
  | .receive =>
    match s.queue with
    | [] => (s, .received none)
    | cfg :: rest => ({ s with queue := rest }, .received (some cfg))
  | .dropReceiver => ({ s with receiverOpen := false, queue := [] }, .done)
  | .run =>
    if s.handedOver then (s, .handedOver)
    else if s.file.isNone then
      ({ s with handedOver := true }, .notifyFailed (missingFileMessage s.path))
    else ({ s with handedOver := true, watching := true }, .started)

/-- Answers steps in order. -/
def run (s : WatchScene) : List WatchStep → List WatchReply
  | [] => []
  | st :: rest => let (s', reply) := s.step st; reply :: s'.run rest

theorem run_nil (s : WatchScene) : s.run [] = [] := rfl

end WatchScene

end SwitchAdmin
