import TopicBridge.Cli.Command
import TopicBridge.Num.Literal
import TopicBridge.Text.Case
/-!
# Reading the command line

**Finding the command.** The words of the command line are read from the root down: at
each command, the first word that is neither a flag nor a flag's value names the next
command, if a command below has that name. A flag `--name` or `-x` without `=` counts its
next word as its value unless it is a known switch; when that value would be the last word,
the search stops. At the root, a word that names no command is refused, with the commands
whose names are close to it (at most two edits apart, or starting with it) as suggestions.

**Reading flags.** The words left are read against the flags of the command found:
* `--name=value`, `--name value`, and `--name` alone for a switch;
* `-x=value`, `-xvalue`, `-x value`, and groups of switches such as `-hv`;
* `--` ends the flags; any other word is a positional argument.
The first word that cannot be read stops the reading with an error.

* `TopicBridge.Cli.findCommand`, `TopicBridge.Cli.readFlags`.
-/

namespace TopicBridge.Cli

/-- Why the words of a command line could not be read. -/
inductive ArgError where
  /-- A word starting with three dashes, or `--=`. -/
  | badSyntax (word : String)
  /-- An unknown long flag. -/
  | unknownFlag (name : String)
  /-- An unknown one-letter flag, with the group it stands in. -/
  | unknownShorthand (c : Char) (group : String)
  /-- A long flag without its value, as written. -/
  | needsValue (word : String)
  /-- A one-letter flag without its value, with the group it stands in. -/
  | needsValueShort (c : Char) (group : String)
  /-- A switch given a value that is not a boolean. -/
  | badSwitchValue (value flagNames : String)
  /-- A word naming no command, with the suggested commands. -/
  | unknownCommand (word path : String) (suggestions : List String)
  deriving DecidableEq, Repr

/-- The character a one-letter flag error names: the character itself when it is ASCII,
otherwise the character whose number is the first byte of its encoding. -/
def shownLetter (c : Char) : Char :=
  if c.toNat < 0x80 then c else Char.ofNat ((String.singleton c).toUTF8.get! 0).toNat

/-- The message of a command line error. -/
def ArgError.message : ArgError → String
  | .badSyntax w => "bad flag syntax: " ++ w
  | .unknownFlag n => "unknown flag: --" ++ n
  | .unknownShorthand c g => "unknown shorthand flag: " ++ Text.quoteRune (shownLetter c) ++ " in -" ++ g
  | .needsValue w => "flag needs an argument: " ++ w
  | .needsValueShort c g => "flag needs an argument: " ++ Text.quoteRune (shownLetter c) ++ " in -" ++ g
  | .badSwitchValue v names =>
    "invalid argument " ++ Text.quote v ++ " for " ++ Text.quote names ++ " flag: " ++
      Num.LiteralFault.malformed.message "ParseBool" v
  | .unknownCommand w p s =>
    "unknown command " ++ Text.quote w ++ " for " ++ Text.quote p ++
      (if s.isEmpty then "" else "\n\nDid you mean this?\n" ++ String.join (s.map fun n => "\t" ++ n ++ "\n"))

/-! ### Finding the command -/

/-- Whether a flag is a switch. -/
def Flag.isSwitch (f : Flag) : Bool := f.kind == .switch

/-- Whether a word is a flag whose value is the next word. -/
def takesNextWord (flags : List Flag) (w : String) : Bool :=
  let cs := w.toList
  if cs.contains '=' then false
  else match cs with
    | '-' :: '-' :: name => !(flags.any fun f => f.name == String.ofList name && f.isSwitch)
    | ['-', c] => c.toNat < 0x80 && !(flags.any fun f => f.shorthand == some c && f.isSwitch)
    | _ => false

/-- The words that may name commands: those that are neither flags nor flag values. -/
def commandWords (flags : List Flag) : List String → List String
  | [] => []
  | w :: rest =>
    if w == "--" then []
    else if takesNextWord flags w then
      match rest with
      | [] | [_] => []
      | _ :: more => commandWords flags more
    else if !w.isEmpty && !w.startsWith "-" then w :: commandWords flags rest
    else commandWords flags rest

/-- The words without the first plain occurrence of a command name. -/
def dropCommandWord (flags : List Flag) (name : String) : List String → List String
  | [] => []
  | w :: rest =>
    if w == "--" then w :: rest
    else if takesNextWord flags w then
      match rest with
      | [] => [w]
      | v :: more => w :: v :: dropCommandWord flags name more
    else if !w.startsWith "-" && w == name then rest
    else w :: dropCommandWord flags name rest

/-- The number of single-element edits between two lists. -/
def editDistance (s t : List Nat) : Nat :=
  let row0 := List.range (t.length + 1)
  let last := s.foldl (fun (row : List Nat) (a : Nat) =>
    let first := row.headD 0 + 1
    let (_, out) := (t.zip (row.zip row.tail)).foldl (fun (acc : Nat × List Nat) (b, diag, up) =>
      let left := acc.1
      let cost := if a == b then 0 else 1
      let v := min (min (up + 1) (left + 1)) (diag + cost)
      (v, acc.2 ++ [v])) (first, [first])
    out) row0
  last.getLastD 0

/-- The bytes of a text, as numbers. -/
def byteList (s : String) : List Nat := s.toUTF8.toList.map (·.toNat)

/-- The commands below the root suggested for a word that names none: those whose names,
ignoring case, are at most two byte edits from it or start with it. -/
def suggestions (word : String) : List String :=
  let w := Text.toLower word
  ((children root).filter fun c => isAvailable program.length c &&
    (editDistance (byteList (Text.toLower c.name)) (byteList w) ≤ 2 ||
      (Text.toLower c.name).startsWith w)).map (·.name)

/-- Finds the command a command line names, below a command, within `fuel` levels; also
gives the words left for it. -/
def findBelow : Nat → Command → List String → Command × List String
  | 0, c, words => (c, words)
  | fuel + 1, c, words =>
    match commandWords (allFlags c false) words with
    | [] => (c, words)
    | next :: _ =>
      match (children c).find? (·.name == next) with
      | some d => findBelow fuel d (dropCommandWord (allFlags c false) next words)
      | none => (c, words)

/-- Finds the command a command line names, with the words left for it. A word at the
root that names no command is refused. -/
def findCommand (words : List String) : Command × List String × Option ArgError :=
  let (c, rest) := findBelow program.length root words
  if c.path.length == 1 && !(children c).isEmpty then
    match commandWords (allFlags c false) rest with
    | w :: _ => (c, rest, some (.unknownCommand w c.commandPath (suggestions w)))
    | [] => (c, rest, none)
  else (c, rest, none)

/-! ### Reading flags -/

/-- Flag values and positional arguments, in the order given. -/
structure FlagValues where
  /-- Flag names and values; a later value of a flag wins. -/
  values : List (String × String) := []
  /-- Positional arguments. -/
  args : List String := []
  deriving Repr

/-- The value of a flag: the last one given, else its default. -/
def FlagValues.get (v : FlagValues) (f : Flag) : String :=
  match (v.values.reverse.find? (·.1 == f.name)) with
  | some (_, x) => x
  | none => match f.kind with
    | .text d => d
    | .switch => "false"

/-- The names a flag is shown with in errors. -/
def Flag.shownNames (f : Flag) : String :=
  match f.shorthand with
  | some c => "-" ++ String.singleton c ++ ", --" ++ f.name
  | none => "--" ++ f.name

/-- Sets a flag to a value, checking a switch's value. -/
def setFlag (acc : FlagValues) (f : Flag) (value : String) : Except ArgError FlagValues :=
  if f.isSwitch then
    match Num.parseBool value with
    | .ok b => .ok { acc with values := acc.values ++ [(f.name, if b then "true" else "false")] }
    | .error _ => .error (.badSwitchValue value f.shownNames)
  else .ok { acc with values := acc.values ++ [(f.name, value)] }

/-- Reads a group of one-letter flags; gives the values and whether the next word was
taken as a value. -/
def readShortGroup (flags : List Flag) (acc : FlagValues) (next : Option String) :
    List Char → Except ArgError (FlagValues × Bool)
  | [] => .ok (acc, false)
  | group@(c :: more) =>
    if (String.ofList group).startsWith "test." then .ok (acc, false)
    else match flags.find? (·.shorthand == some c) with
      | none => .error (.unknownShorthand c (String.ofList group))
      | some f =>
        match more with
        | '=' :: v@(_ :: _) => do
          let acc ← setFlag acc f (String.ofList v)
          .ok (acc, false)
        | _ =>
          if f.isSwitch then do
            let acc ← setFlag acc f "true"
            readShortGroup flags acc next more
          else if !more.isEmpty then do
            let acc ← setFlag acc f (String.ofList more)
            .ok (acc, false)
          else match next with
            | some v => do
              let acc ← setFlag acc f v
              .ok (acc, true)
            | none => .error (.needsValueShort c (String.ofList group))

/-- Reads the words against a command's flags. -/
def readFlags (flags : List Flag) : List String → FlagValues → Except ArgError FlagValues
  | [], acc => .ok acc
  | w :: rest, acc =>
    match w.toList with
    | '-' :: '-' :: [] => .ok { acc with args := acc.args ++ rest }
    | '-' :: '-' :: body => do
      match body with
      | '-' :: _ | '=' :: _ => throw (.badSyntax w)
      | _ => pure ()
      let name := String.ofList (body.takeWhile (· != '='))
      let given := if body.contains '=' then some (String.ofList (body.dropWhile (· != '=')).tail) else none
      match flags.find? (·.name == name) with
      | none => throw (.unknownFlag name)
      | some f =>
        match given with
        | some v => readFlags flags rest (← setFlag acc f v)
        | none =>
          if f.isSwitch then readFlags flags rest (← setFlag acc f "true")
          else match rest with
            | v :: rest' => readFlags flags rest' (← setFlag acc f v)
            | [] => throw (.needsValue w)
    | '-' :: group@(_ :: _) => do
      let (acc, used) ← readShortGroup flags acc rest.head? group
      readFlags flags (if used then rest.drop 1 else rest) acc
    | _ => readFlags flags rest { acc with args := acc.args ++ [w] }
termination_by ws => ws.length
decreasing_by
  all_goals simp_wf
  all_goals first
    | omega
    | (split <;> (try rw [List.length_tail]) <;> omega)

end TopicBridge.Cli
