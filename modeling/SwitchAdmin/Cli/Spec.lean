import SwitchAdmin.Text.Pieces

/-!
# The command line's grammar and help

The program takes an optional `-c`/`--config <CONFIG>` and one subcommand:
`resolve <URLS>...`, `routes [--expand]`, `check-config`,
`match-fields <PASSWORD> <CONFIRM>`, `watch <URLS>...`, or `help [COMMAND]...`. Every
command but `help` also takes `-h`/`--help`.

`CommandSpec` describes a command: its arguments with their help lines, and for the
program itself its subcommands. From it come the help text (`CommandSpec.helpText`),
which lists subcommands, positional arguments and options in sections whose columns are
aligned within each section, and the one-line usage (`CommandSpec.usage`).
-/

namespace SwitchAdmin

namespace Cli

/-- How an argument takes its values. -/
inductive ArgShape where
  /-- A flag: present or not. -/
  | flag
  /-- An option with one value, named in help. -/
  | option (value : String)
  /-- A positional argument, named in help; it may be required and may repeat. -/
  | positional (value : String) (required : Bool) (many : Bool)
deriving DecidableEq, Inhabited

/-- One argument of a command. -/
structure ArgSpec where
  /-- Its one-letter form. -/
  short : Option Char := none
  /-- Its long form. -/
  long : Option String := none
  /-- Its help line. -/
  help : String
  /-- How it takes values. -/
  shape : ArgShape
deriving Inhabited

namespace ArgSpec

/-- Whether the argument is positional. -/
def isPositional (a : ArgSpec) : Bool :=
  match a.shape with
  | .positional .. => true
  | _ => false

/-- The argument as usage writes it: `--config <CONFIG>`, `--expand`, `<URLS>...`. -/
def usageText (a : ArgSpec) : String :=
  match a.shape with
  | .positional v required many =>
    (if required then s!"<{v}>" else s!"[{v}]") ++ (if many then "..." else "")
  | shape =>
    let name := match a.long, a.short with
      | some l, _ => "--" ++ l
      | none, some c => "-" ++ c.toString
      | none, none => ""
    match shape with
    | .option v => name ++ s!" <{v}>"
    | _ => name

/-- The argument as the options section writes it: `-c, --config <CONFIG>` or
`    --expand`. -/
def optionText (a : ArgSpec) : String :=
  let names := match a.short, a.long with
    | some c, some l => "-" ++ c.toString ++ ", --" ++ l
    | some c, none => "-" ++ c.toString
    | none, some l => "    --" ++ l
    | none, none => ""
  match a.shape with
  | .option v => names ++ s!" <{v}>"
  | _ => names

end ArgSpec

/-- The help flag every command but `help` has. -/
def helpFlag : ArgSpec := { short := some 'h', long := some "help", help := "Print help", shape := .flag }

/-- A command: its name in usage (with the program's name before a subcommand's), its
description, its arguments and its subcommands with their descriptions. -/
structure CommandSpec where
  /-- The command's own name. -/
  name : String
  /-- The name usage writes: the program, then the subcommand. -/
  usageName : String
  /-- What the command does. -/
  about : String
  /-- Its arguments, the help flag last. -/
  args : List ArgSpec
  /-- Its subcommands' names and descriptions. -/
  commands : List (String × String) := []
deriving Inhabited

/-- The program's name. -/
def programName : String := "switch-admin-ui"

/-- A subcommand of the program, without the help flag. -/
def bareSubcommand (name about : String) (args : List ArgSpec) : CommandSpec :=
  { name, usageName := programName ++ " " ++ name, about, args }

/-- A subcommand of the program, with the help flag after its arguments. -/
def subcommand (name about : String) (args : List ArgSpec) : CommandSpec :=
  bareSubcommand name about (args ++ [helpFlag])

/-- `resolve <URLS>...`. -/
def resolveSpec : CommandSpec :=
  subcommand "resolve" "Resolve URLs against the route table" [{ help := "", shape := .positional "URLS" true true }]

/-- `routes [--expand]`. -/
def routesSpec : CommandSpec :=
  subcommand "routes" "Print the route table"
    [{ long := some "expand", help := "Load lazy tables and views", shape := .flag }]

/-- `check-config`. -/
def checkConfigSpec : CommandSpec :=
  subcommand "check-config" "Validate the configuration file" []

/-- `match-fields <PASSWORD> <CONFIRM>`. -/
def matchFieldsSpec : CommandSpec :=
  subcommand "match-fields" "Run the reset-password form with two values"
    [{ help := "", shape := .positional "PASSWORD" true false },
     { help := "", shape := .positional "CONFIRM" true false }]

/-- `watch <URLS>...`. -/
def watchSpec : CommandSpec :=
  subcommand "watch" "Re-resolve URLs whenever the configuration file changes"
    [{ help := "", shape := .positional "URLS" true true }]

/-- `help [COMMAND]...`. -/
def helpSpec : CommandSpec :=
  bareSubcommand "help" "Print this message or the help of the given subcommand(s)"
    [{ help := "Print help for the subcommand(s)", shape := .positional "COMMAND" false true }]

/-- The subcommands, in the order help lists them. -/
def subcommands : List CommandSpec :=
  [resolveSpec, routesSpec, checkConfigSpec, matchFieldsSpec, watchSpec, helpSpec]

/-- The `--config` option. -/
def configArg : ArgSpec :=
  { short := some 'c', long := some "config",
    help := "TOML configuration file. Defaults apply when omitted", shape := .option "CONFIG" }

/-- The program itself. -/
def rootSpec : CommandSpec :=
  { name := programName, usageName := programName,
    about := "Route resolution and form validation for the switch admin UI",
    args := [configArg, helpFlag],
    commands := subcommands.map fun c => (c.name, c.about) }

namespace CommandSpec

/-- The subcommand of this name. -/
def find? (c : CommandSpec) (name : String) : Option CommandSpec :=
  if c.commands.isEmpty then none else subcommands.find? (·.name = name)

/-- The positional arguments. -/
def positionals (c : CommandSpec) : List ArgSpec := c.args.filter ArgSpec.isPositional

/-- The options and flags. -/
def options (c : CommandSpec) : List ArgSpec := c.args.filter fun a => !a.isPositional

/-- The long names of the options and flags. -/
def longs (c : CommandSpec) : List String := c.options.filterMap ArgSpec.long

/-- Whether usage shows `[OPTIONS]`: some option other than help. -/
def hasOptions (c : CommandSpec) : Bool := c.options.any fun a => a.long != some "help"

/-- The usage line: the command, `[OPTIONS]` when there are options besides help, the
positional arguments, and `<COMMAND>` when a subcommand is needed. -/
def usage (c : CommandSpec) : String :=
  c.usageName ++ (if c.hasOptions then " [OPTIONS]" else "") ++
    String.join (c.positionals.map fun a => " " ++ a.usageText) ++
    (if c.commands.isEmpty then "" else " <COMMAND>")

/-- The usage line naming the arguments given (`used`) besides the required ones. -/
def usageWith (c : CommandSpec) (used : List ArgSpec) : String :=
  if used.isEmpty then c.usage
  else
    let opts := used.filter fun a => !a.isPositional
    let poss := c.positionals.filter fun a =>
      match a.shape with
      | .positional _ required _ => required || used.any fun u => u.usageText == a.usageText
      | _ => false
    c.usageName ++ String.join (opts.map fun a => " " ++ a.usageText) ++
      String.join (poss.map fun a => " " ++ a.usageText) ++
      (if c.commands.isEmpty then "" else " <COMMAND>")

end CommandSpec

/-- Spaces. -/
def pad (n : Nat) : String := String.ofList (List.replicate n ' ')

/-- A help section: its title, then each entry's name padded to the widest and its help. -/
def helpSection (title : String) (rows : List (String × String)) : String :=
  if rows.isEmpty then ""
  else
    let width := rows.foldl (fun w r => max w r.1.length) 0
    "\n" ++ title ++ ":\n" ++
      String.join (rows.map fun (name, help) =>
        "  " ++ name ++ pad (width - name.length) ++ "  " ++ help ++ "\n")

/-- The help text of a command. -/
def CommandSpec.helpText (c : CommandSpec) : String :=
  c.about ++ "\n\nUsage: " ++ c.usage ++ "\n" ++
    helpSection "Commands" c.commands ++
    helpSection "Arguments" (c.positionals.map fun a => (a.usageText, a.help)) ++
    helpSection "Options" (c.options.map fun a => (a.optionText, a.help))

end Cli

end SwitchAdmin
