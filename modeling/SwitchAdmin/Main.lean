import SwitchAdmin.Cli.Run

/-!
# The program's entry point

Reads the configuration file the command line names, runs the command line, and writes
what the run leaves: standard output, standard error, the final error line, and the exit
status. `watch` then polls the configuration file and prints the resolutions again
whenever its contents change to a configuration that loads and validates.
-/

open SwitchAdmin

/-- The contents of a file, or `none` when it cannot be read. -/
def readContents (path : String) : IO (Option String) := do
  try
    return some (← IO.FS.readFile path)
  catch _ =>
    return none

/-- Polls the configuration file every two seconds, printing the resolutions of `urls`
after each change to a configuration that loads and validates. -/
partial def pollForChanges (path : String) (urls : List String) (last : Option String) : IO Unit := do
  IO.sleep 2000
  let now ← readContents path
  if now != last then
    match now with
    | some text =>
      for doc in Cli.watchDocuments defaultRegistry urls [text] do
        IO.println doc.pretty
        (← IO.getStdout).flush
    | none => pure ()
  pollForChanges path urls now

def main (args : List String) : IO UInt32 := do
  let path := match Cli.parseArgs args with
    | .run inv => inv.config
    | _ => none
  let contents ← match path with
    | some p => readContents p
    | none => pure none
  let files := fun p => if some p == path then contents else none
  let out := Cli.runCommandLine files args
  IO.print out.stdout
  (← IO.getStdout).flush
  IO.eprint out.stderr
  if let some e := out.error then IO.eprintln ("Error: " ++ e)
  match Cli.parseArgs args, path, out.exit with
  | .run ⟨_, .watch urls⟩, some p, 0 => pollForChanges p urls contents
  | _, _, _ => pure ()
  return UInt32.ofNat out.exit
