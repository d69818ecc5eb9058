import TopicBridge.Text.Quoted
/-!
# The command tree

The command line is a tree of **commands**. Each command has a name (the first word of its
use line), a one-line description, optionally a long one, its own flags, flags it passes
down to every command below it (**persistent** flags), and an action. A command without
an action only groups the commands below it.

Every command accepts `-h`/`--help`, described as `help for <name>`.

Help is rendered as follows:
* the **usage** lists the use line (for commands with an action), `<path> [command]` (for
  commands with subcommands), the subcommands sorted by name with their descriptions, the
  command's own flags, the flags it inherits, and a pointer to `--help`;
* the **help** is the long description (or the short one), a blank line, and the usage.

A flag table aligns the descriptions after the longest flag column, and shows a text
flag's default when it is not empty.

* `TopicBridge.Cli.program`, `TopicBridge.Cli.usageText`, `TopicBridge.Cli.helpText`.
-/

namespace TopicBridge.Cli

/-- The value a flag takes. -/
inductive FlagKind where
  /-- A text, with its default. -/
  | text (default : String)
  /-- A switch: given alone it is true. -/
  | switch
  deriving DecidableEq, Repr

/-- A flag of the command line. -/
structure Flag where
  /-- The long name, given after `--`. -/
  name : String
  /-- The one-letter name, given after `-`. -/
  shorthand : Option Char := none
  /-- The description. -/
  usage : String
  /-- The value it takes. -/
  kind : FlagKind
  deriving DecidableEq, Repr

/-- What a command does when it runs. -/
inductive Action where
  /-- Prints the route table. -/
  | printRoutes
  /-- Runs the HTTP bridge. -/
  | serve
  /-- Creates the journal tables. -/
  | migrate
  /-- Feeds Kafka records through a route. -/
  | ingest
  /-- Relays MQTT messages to event sinks. -/
  | relay
  /-- Prints the help of another command. -/
  | helpTopic
  /-- Prints a completion script for a shell. -/
  | completionScript (shell : String)
  deriving DecidableEq, Repr

/-- A command of the tree. -/
structure Command where
  /-- The names from the root to the command, the root's name first. -/
  path : List String
  /-- The use line, its first word the command's name. -/
  use : String
  /-- The one-line description. -/
  short : String
  /-- The long description; empty when there is none. -/
  long : String := ""
  /-- The flags of this command alone. -/
  localFlags : List Flag := []
  /-- The flags of this command and of every command below it. -/
  persistentFlags : List Flag := []
  /-- What the command does; none for a command that only groups others. -/
  action : Option Action := none
  /-- Whether positional arguments are refused. -/
  noArgs : Bool := false
  /-- Whether the use line leaves out `[flags]`. -/
  bareUseLine : Bool := false
  deriving Repr

namespace Command

/-- The command's name: the first word of its use line. -/
def name (c : Command) : String := (c.use.splitOn " ").headD ""

/-- The names from the root, joined by spaces. -/
def commandPath (c : Command) : String := " ".intercalate c.path

/-- Whether the command does something when run. -/
def runnable (c : Command) : Bool := c.action.isSome

end Command

/-- The name of the program. -/
def programName : String := "mqtt-bridge"

/-- The settings file flag. -/
def configFlag : Flag :=
  { name := "config", usage := "path to YAML config file", kind := .text "config.yaml" }

/-- The flag of shells without descriptions in completions. -/
def noDescriptionsFlag : Flag :=
  { name := "no-descriptions", usage := "disable completion descriptions", kind := .switch }

/-- A completion command for a shell. -/
def completionCommand (shell : String) : Command :=
  { path := [programName, "completion", shell], use := shell,
    short := "Generate the autocompletion script for " ++ shell,
    localFlags := [noDescriptionsFlag], action := some (.completionScript shell), noArgs := true,
    bareUseLine := true }

/-- The commands of the program, each group before its members, members in the order they
were added. -/
def program : List Command := [
  { path := [programName], use := programName, short := "HTTP to MQTT request bridge",
    persistentFlags := [configFlag] },
  { path := [programName, "serve"], use := "serve", short := "Run the HTTP bridge",
    action := some .serve },
  { path := [programName, "migrate"], use := "migrate",
    short := "Create the exchanges journal (dev: DROP & CREATE tables)",
    localFlags := [{ name := "dir", usage := "directory holding the SQL migrations",
                     kind := .text "migrations" }],
    action := some .migrate },
  { path := [programName, "routes"], use := "routes", short := "Print the effective route table",
    action := some .printRoutes },
  { path := [programName, "worker"], use := "worker", short := "Run background workers" },
  { path := [programName, "worker", "ingest"], use := "ingest",
    short := "Feed Kafka records through a bridge route", action := some .ingest },
  { path := [programName, "worker", "relay"], use := "relay",
    short := "Forward MQTT messages to event sinks as CloudEvents",
    localFlags := [{ name := "twin",
                     usage := "twin instance name; derives <name>-to-virtual and ktwin.real.<name>.generated",
                     kind := .text "" }],
    action := some .relay },
  { path := [programName, "help"], use := "help [command]", short := "Help about any command",
    long := "Help provides help for any command in the application.\nSimply type " ++ programName ++
      " help [path to command] for full details.",
    action := some .helpTopic },
  { path := [programName, "completion"], use := "completion",
    short := "Generate the autocompletion script for the specified shell",
    long := "Generate the autocompletion script for " ++ programName ++
      " for the specified shell.\nSee each sub-command\x27s help for details on how to use the generated script.\n",
    noArgs := true },
  completionCommand "bash", completionCommand "fish", completionCommand "powershell",
  completionCommand "zsh"]

/-- The root command. -/
def root : Command := (program.head?).getD { path := [programName], use := programName, short := "" }

/-- The commands directly below a command, in the order they were added. -/
def children (c : Command) : List Command :=
  program.filter fun d => d.path.dropLast == c.path && d.path.length == c.path.length + 1

/-- The command above a command, if any. -/
def parent? (c : Command) : Option Command :=
  if c.path.length ≤ 1 then none else program.find? (·.path == c.path.dropLast)

/-- Whether a command is the help command of the root. -/
def isHelpCommand (c : Command) : Bool := c.path == [programName, "help"]

/-- Whether a command is offered in lists: it is not the help command, and it runs or has
subcommands that are offered. -/
def isAvailable : Nat → Command → Bool
  | 0, _ => false
  | fuel + 1, c => !isHelpCommand c && (c.runnable || (children c).any (isAvailable fuel))

/-- Whether a command has subcommands that are offered. -/
def hasAvailableChildren (c : Command) : Bool := (children c).any (isAvailable program.length)

/-- The help flag of a command. -/
def helpFlag (c : Command) : Flag :=
  { name := "help", shorthand := some 'h', usage := "help for " ++ c.name, kind := .switch }

/-- The persistent flags of the commands above a command, nearest first. -/
def inheritedFlags (c : Command) : List Flag :=
  let above := (List.range (c.path.length - 1)).reverse.filterMap fun n =>
    program.find? (·.path == c.path.take (n + 1))
  let flags := above.flatMap (·.persistentFlags)
  flags.filter fun f => !(c.localFlags ++ c.persistentFlags).any (·.name == f.name)

/-- The flags a command defines itself, the help flag included when it is set up. -/
def ownFlags (c : Command) (withHelp : Bool) : List Flag :=
  c.localFlags ++ c.persistentFlags ++ (if withHelp then [helpFlag c] else [])

/-- Every flag a command accepts. -/
def allFlags (c : Command) (withHelp : Bool) : List Flag := ownFlags c withHelp ++ inheritedFlags c

/-- Sorts flags by name. -/
def sortFlags (fs : List Flag) : List Flag := fs.mergeSort fun a b => decide (a.name ≤ b.name)

/-- The left column of a flag's row, with a mark where the padding goes. -/
def flagColumn (f : Flag) : String :=
  let names := match f.shorthand with
    | some c => "  -" ++ String.singleton c ++ ", --" ++ f.name
    | none => "      --" ++ f.name
  match f.kind with
  | .text _ => names ++ " string"
  | .switch => names

/-- The description column of a flag's row. -/
def flagDescription (f : Flag) : String :=
  match f.kind with
  | .text d => if d.isEmpty then f.usage else f.usage ++ " (default " ++ Text.quote d ++ ")"
  | .switch => f.usage

/-- The rows of a flag table, sorted by name, descriptions aligned one space after the
longest left column. -/
def flagTable (fs : List Flag) : String :=
  let fs := sortFlags fs
  let width := fs.foldl (fun w f => max w ((flagColumn f).length + 1)) 0
  String.join (fs.map fun f =>
    let col := flagColumn f
    col ++ " " ++ String.ofList (List.replicate (width - col.length) ' ') ++ " " ++
      flagDescription f ++ "\n")

/-- A text without the blanks at its end. -/
def trimEnd (s : String) : String :=
  String.ofList (s.toList.reverse.dropWhile (fun c => c == ' ' || c == '\n' || c == '\t' || c == '\r')).reverse

/-- A name padded with spaces to a width. -/
def padRight (s : String) (w : Nat) : String := s ++ String.ofList (List.replicate (w - s.length) ' ')

/-- The width names are padded to in a command's list: the longest name among the
command's siblings, at least eleven. -/
def namePadding (c : Command) : Nat :=
  match parent? c with
  | some p => max 11 ((children p).foldl (fun w d => max w d.name.length) 0)
  | none => 11

/-- The use line: the path above, the use, and `[flags]`. -/
def useLine (c : Command) : String :=
  let line := match parent? c with
    | some p => p.commandPath ++ " " ++ c.use
    | none => c.use
  if c.bareUseLine || (line.splitOn "[flags]").length > 1 then line else line ++ " [flags]"

/-- The usage of a command; `withHelp` tells whether its help flag is set up. -/
def usageText (c : Command) (withHelp : Bool) : String :=
  let subs := hasAvailableChildren c
  let listed := ((children c).mergeSort fun a b => decide (a.name ≤ b.name)).filter fun d =>
    isAvailable program.length d || d.name == "help"
  let own := ownFlags c withHelp
  let inherited := inheritedFlags c
  "Usage:" ++
  (if c.runnable then "\n  " ++ useLine c else "") ++
  (if subs then "\n  " ++ c.commandPath ++ " [command]" else "") ++
  (if subs then "\n\nAvailable Commands:" ++
    String.join (listed.map fun d => "\n  " ++ padRight d.name (namePadding d) ++ " " ++ d.short)
   else "") ++
  (if own.isEmpty then "" else "\n\nFlags:\n" ++ trimEnd (flagTable own)) ++
  (if inherited.isEmpty then "" else "\n\nGlobal Flags:\n" ++ trimEnd (flagTable inherited)) ++
  (if subs then "\n\nUse \"" ++ c.commandPath ++ " [command] --help\" for more information about a command."
   else "") ++ "\n"

/-- The help of a command: its description, a blank line, and its usage. -/
def helpText (c : Command) (withHelp : Bool) : String :=
  let text := if c.long.isEmpty then c.short else c.long
  (if text.isEmpty then "" else trimEnd text ++ "\n\n") ++
  (if c.runnable || !(children c).isEmpty then usageText c withHelp else "")

end TopicBridge.Cli
