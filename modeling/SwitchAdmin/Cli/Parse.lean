import SwitchAdmin.Cli.Spec
import SwitchAdmin.Cli.Similar

/-!
# Reading the command line

`parseArgs` reads the arguments after the program's name into an `Invocation`, or into
the text to show instead: a help text (on standard output), or a refusal (on standard
error). A refusal names what is wrong, may add tips, and ends with the usage line and a
pointer to `--help`.

The reading goes left to right:

* a subcommand's name ends the program's own arguments; `help` shows the help of the
  subcommands named after it;
* `--` makes every later argument positional;
* `-h` or `--help` shows the help of the command being read, at once;
* an unknown flag is refused with the most similar known flag, or with a way to pass it
  as a value when the command takes positional arguments;
* an option's value is the rest of its argument (after `=`) or the next argument.

With no arguments at all, the program's help is the refusal.
-/

namespace SwitchAdmin

namespace Cli

/-- What the program is asked to do. -/
inductive Command where
  /-- Resolve each URL against the route table. -/
  | resolve (urls : List String)
  /-- Describe the route table, loading everything when `expand` holds. -/
  | routes (expand : Bool)
  /-- Check the configuration. -/
  | checkConfig
  /-- Run the reset-password form with a password and its confirmation. -/
  | matchFields (password confirm : String)
  /-- Resolve the URLs again whenever the configuration file changes. -/
  | watch (urls : List String)
deriving Inhabited, DecidableEq

/-- A command with the configuration file it names, if any. -/
structure Invocation where
  /-- The configuration file's path. -/
  config : Option String
  /-- The command. -/
  command : Command
deriving Inhabited, DecidableEq

/-- The outcome of reading the command line. -/
inductive Parsed where
  /-- A command to run. -/
  | run (inv : Invocation)
  /-- A help text to show on standard output. -/
  | help (text : String)
  /-- A refusal to show on standard error. -/
  | refused (text : String)
deriving Inhabited, DecidableEq

/-- A refusal: the message, its tips, the usage line if any, and the pointer to help. -/
def refusal (message : String) (tips : List String) (usage : Option String) : Parsed :=
  .refused ("error: " ++ message ++
    (if tips.isEmpty then "" else "\n" ++ String.join (tips.map fun t => "\n  tip: " ++ t)) ++
    (match usage with
     | some u => "\n\nUsage: " ++ u
     | none => "") ++
    "\n\nFor more information, try '--help'.\n")

/-- The tip naming similar existing names. -/
def similarTip (what : String) : List String → List String
  | [] => []
  | [one] => [s!"a similar {what} exists: '{one}'"]
  | many => ["some similar " ++ what ++ "s exist: " ++ joinWith ", " (many.map fun n => s!"'{n}'")]

/-- The tip for passing a flag-like argument as a value. -/
def valueTip (arg : String) : String := s!"to pass '{arg}' as a value, use '-- {arg}'"

/-- Refuses an argument that is not expected. -/
def unexpected (arg : String) (tips : List String) (usage : String) : Parsed :=
  refusal s!"unexpected argument '{arg}' found" tips (some usage)

/-- Refuses an option given without a value. -/
def missingValue (a : ArgSpec) : Parsed :=
  refusal s!"a value is required for '{a.usageText}' but none was supplied" [] none

/-- Refuses an argument given twice. -/
def givenTwice (c : CommandSpec) (a : ArgSpec) : Parsed :=
  refusal s!"the argument '{a.usageText}' cannot be used multiple times" [] (some c.usage)

/-- Refuses a value given to a flag. -/
def unexpectedValue (c : CommandSpec) (value flag : String) : Parsed :=
  refusal s!"unexpected value '{value}' for '{flag}' found; no more were expected" [] (some c.usage)

/-- Splits a long flag `--name=value` into its name and value. -/
def splitLong (arg : String) : String × Option String :=
  let body := arg.toList.drop 2
  match body.span (· != '=') with
  | (name, []) => (String.ofList name, none)
  | (name, _ :: value) => (String.ofList name, some (String.ofList value))

/-- Whether an argument is a long flag. -/
def isLong (arg : String) : Bool := arg.startsWith "--" && arg != "--"

/-- Whether an argument is a cluster of short flags. -/
def isShort (arg : String) : Bool := arg.startsWith "-" && arg.length ≥ 2 && !arg.startsWith "--"

/-- The first letter of a short flag cluster. -/
def shortLetter (arg : String) : Char := (arg.toList.drop 1).headD ' '

/-- The rest of a short cluster after its first letter, without a leading `=`. -/
def shortRest (arg : String) : String :=
  match arg.toList.drop 2 with
  | '=' :: rest => String.ofList rest
  | rest => String.ofList rest

/-! ### The `help` subcommand -/

/-- Shows the help of the subcommands named in turn, from command `c`. -/
def helpFor (c : CommandSpec) : List String → Parsed
  | [] => .help c.helpText
  | name :: rest =>
    match c.find? name with
    | some sc => helpFor sc rest
    | none => refusal s!"unrecognized subcommand '{name}'" [] (some c.usage)

/-! ### Subcommands -/

/-- What has been read of a subcommand's arguments. -/
structure Gathered where
  /-- The positional values, in order. -/
  values : List String := []
  /-- Whether `--expand` was given. -/
  expand : Bool := false
  /-- Whether `--` was seen. -/
  trailing : Bool := false

/-- The arguments given so far, for usage lines. -/
def Gathered.used (c : CommandSpec) (g : Gathered) : List ArgSpec :=
  (if g.expand then c.options.filter (·.long == some "expand") else []) ++
    (c.positionals.take g.values.length)

/-- How many positional values a subcommand takes at most (`none`: no bound). -/
def capacity (c : CommandSpec) : Option Nat :=
  if c.positionals.any fun a => a.shape matches .positional _ _ true then none
  else some c.positionals.length

/-- The command read from a subcommand's gathered arguments, or the refusal for the
missing ones. -/
def finishSubcommand (c : CommandSpec) (g : Gathered) : Except Parsed Command :=
  let missing := (c.positionals.drop g.values.length).filter fun a =>
    a.shape matches .positional _ true _
  if !missing.isEmpty then
    .error (refusal ("the following required arguments were not provided:" ++
        String.join (missing.map fun a => "\n  " ++ a.usageText)) []
      (some (c.usageWith c.positionals)))
  else
    match c.name, g.values with
    | "resolve", urls => .ok (.resolve urls)
    | "routes", _ => .ok (.routes g.expand)
    | "check-config", _ => .ok .checkConfig
    | "match-fields", [p, q] => .ok (.matchFields p q)
    | "watch", urls => .ok (.watch urls)
    | _, _ => .error (refusal "unexpected arguments" [] (some c.usage))

/-- Reads a subcommand's arguments. -/
def subcommandArgs (c : CommandSpec) : List String → Gathered → Except Parsed Command
  | [], g => finishSubcommand c g
  | a :: rest, g =>
    if !g.trailing && a == "--" then subcommandArgs c rest { g with trailing := true }
    else if !g.trailing && isLong a then
      let (name, value) := splitLong a
      if name == "help" then .error (.help c.helpText)
      else if name == "expand" && c.longs.contains "expand" then
        match value with
        | some v => .error (unexpectedValue c v "--expand")
        | none =>
          if g.expand then .error (givenTwice c ((c.options.find? (·.long == some "expand")).getD helpFlag))
          else subcommandArgs c rest { g with expand := true }
      else
        match Similar.best name c.longs with
        | some s =>
          let suggested := c.options.filter (·.long == some s)
          .error (unexpected a [s!"a similar argument exists: '--{s}'"]
            (c.usageWith (g.used c ++ suggested)))
        | none =>
          .error (unexpected a (if c.positionals.isEmpty then [] else [valueTip a])
            (c.usageWith (g.used c)))
    else if !g.trailing && isShort a then
      if shortLetter a == 'h' then .error (.help c.helpText)
      else
        let flag := "-" ++ (shortLetter a).toString
        .error (unexpected flag (if c.positionals.isEmpty then [] else [valueTip flag]) c.usage)
    else
      match capacity c with
      | some n =>
        if g.values.length < n then subcommandArgs c rest { g with values := g.values ++ [a] }
        else .error (unexpected a [] c.usage)
      | none => subcommandArgs c rest { g with values := g.values ++ [a] }

/-! ### The program's own arguments -/

/-- What has been read of the program's own arguments. -/
structure RootState where
  /-- The configuration file, once given. -/
  config : Option String := none
  /-- Whether `--config` waits for its value. -/
  pending : Bool := false
  /-- Whether `--` was seen. -/
  trailing : Bool := false
  /-- Whether any argument was given. -/
  anything : Bool := false

/-- The arguments given so far, for usage lines. -/
def RootState.used (s : RootState) : List ArgSpec :=
  if s.config.isSome || s.pending then [configArg] else []

/-- Sets the configuration file, refusing a second one. -/
def RootState.setConfig (s : RootState) (value : String) : Except Parsed RootState :=
  if s.config.isSome then .error (givenTwice rootSpec configArg)
  else if value.isEmpty then .error (missingValue configArg)
  else .ok { s with config := some value, pending := false }

/-- Refuses a word where a subcommand was expected, naming similar subcommands. -/
def notASubcommand (word : String) : Parsed :=
  match Similar.suggestions word (subcommands.map (·.name)) with
  | [] => refusal s!"unrecognized subcommand '{word}'" [] (some rootSpec.usage)
  | similar =>
    refusal s!"unrecognized subcommand '{word}'" (similarTip "subcommand" similar)
      (some rootSpec.usage)

/-- Refuses an unknown long flag of the program, naming a similar flag of the program or
of a subcommand named later. -/
def unknownRootFlag (s : RootState) (arg name : String) (later : List String) : Parsed :=
  match Similar.best name rootSpec.longs with
  | some flag =>
    let suggested := rootSpec.options.filter (·.long == some flag)
    unexpected arg [s!"a similar argument exists: '--{flag}'"] (rootSpec.usageWith (s.used ++ suggested))
  | none =>
    let named := subcommands.filterMap fun sc =>
      match Similar.best name sc.longs, later.idxOf? sc.name with
      | some flag, some place => some (place, sc.name, flag)
      | _, _ => none
    let closest := named.foldl (fun best x =>
      match best with
      | some b => if x.1 < b.1 then some x else some b
      | none => some x) none
    match closest with
    | some (_, sub, flag) => unexpected arg [s!"'{sub} --{flag}' exists"] (rootSpec.usageWith s.used)
    | none => unexpected arg [] (rootSpec.usageWith s.used)

/-- Reads the program's own arguments, then a subcommand's. -/
def rootArgs : List String → RootState → Parsed
  | [], s =>
    if s.pending then missingValue configArg
    else if !s.anything then .refused rootSpec.helpText
    else
      refusal ("'" ++ programName ++ "' requires a subcommand but one was not provided\n  [subcommands: " ++
        joinWith ", " (subcommands.map (·.name)) ++ "]") [] (some rootSpec.usage)
  | a :: rest, s =>
    let s' := { s with anything := true }
    if !s.trailing && a == "help" then helpFor rootSpec rest
    else if !s.trailing && (subcommands.any (·.name == a)) then
      let sc := (subcommands.find? (·.name == a)).getD helpSpec
      match subcommandArgs sc rest {} with
      | .error p => p
      | .ok cmd => if s.pending then missingValue configArg else .run ⟨s.config, cmd⟩
    else if !s.trailing && a == "--" then rootArgs rest { s' with trailing := true }
    else if !s.trailing && isLong a then
      let (name, value) := splitLong a
      if name == "help" then
        match value with
        | some v => unexpectedValue rootSpec v "--help"
        | none => .help rootSpec.helpText
      else if name == "config" then
        match value with
        | some v =>
          match s'.setConfig v with
          | .ok s'' => rootArgs rest s''
          | .error p => p
        | none =>
          if s.config.isSome then givenTwice rootSpec configArg
          else rootArgs rest { s' with pending := true }
      else unknownRootFlag s a name rest
    else if !s.trailing && isShort a then
      match shortLetter a with
      | 'h' => .help rootSpec.helpText
      | 'c' =>
        let value := shortRest a
        if value.isEmpty then
          if s.config.isSome then givenTwice rootSpec configArg
          else rootArgs rest { s' with pending := true }
        else
          match s'.setConfig value with
          | .ok s'' => rootArgs rest s''
          | .error p => p
      | letter => unexpected ("-" ++ letter.toString) [] rootSpec.usage
    else if s.pending && !s.trailing then
      match s'.setConfig a with
      | .ok s'' => rootArgs rest s''
      | .error p => p
    else notASubcommand a

/-- Reads the arguments after the program's name. -/
def parseArgs (args : List String) : Parsed := rootArgs args {}

end Cli

end SwitchAdmin
