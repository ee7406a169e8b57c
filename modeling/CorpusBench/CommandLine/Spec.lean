/-!
# Command-line grammars

The grammar of a program with subcommands: each subcommand takes positional arguments, options
with a value, and flags; every command also takes `-h`/`--help` and `-V`/`--version`.

* A **positional** argument is written `<NAME>` and read in order.
* An **option** is written `--long <NAME>`; it takes one value, as the next argument or after
  `=`.  A repeatable option collects every occurrence; any other may be given once.
* A **flag** is written `--long` and takes no value.
* An option or flag may fall back to an environment variable and then to a default.
* Every value passes its parameter's check, which gives the reason of a refusal.

## Main definitions

* `CommandLine.Param` — one parameter of a subcommand.
* `CommandLine.Command`, `CommandLine.Program`.
* `CommandLine.Param.display` — a parameter as messages name it.
-/

namespace CorpusBench

namespace CommandLine

/-- What a parameter is. -/
inductive Shape where
  /-- A value given by position. -/
  | positional
  /-- `--long <NAME>`: a named value. -/
  | option
  /-- `--long`: present or not. -/
  | flag
  deriving DecidableEq, Repr

/-- One parameter of a subcommand. -/
structure Param where
  /-- The key of the parameter's values. -/
  id : String
  shape : Shape
  /-- The long name, without the leading `--`. -/
  long : String := ""
  /-- The placeholder of the value, such as `SEEDS`. -/
  valueName : String := ""
  help : String
  required : Bool := false
  repeated : Bool := false
  default : Option String := none
  env : Option String := none
  /-- Check a value: the reason it is refused, if it is. -/
  check : String → Option String := fun _ => none

namespace Param

/-- The parameter as messages name it: `<NAME>`, `--long <NAME>` or `--long`. -/
def display (p : Param) : String :=
  match p.shape with
  | .positional => "<" ++ p.valueName ++ ">"
  | .option => "--" ++ p.long ++ " <" ++ p.valueName ++ ">"
  | .flag => "--" ++ p.long

/-- Whether the parameter takes a value. -/
def takesValue (p : Param) : Bool := p.shape != .flag

end Param

/-- The built-in flag that prints the help page. -/
def helpFlag : Param := { id := "help", shape := .flag, long := "help", help := "Print help" }

/-- The built-in flag that prints the version. -/
def versionFlag : Param :=
  { id := "version", shape := .flag, long := "version", help := "Print version" }

/-- The built-in flags of every command. -/
def builtinFlags : List Param := [helpFlag, versionFlag]

/-- A subcommand. -/
structure Command where
  name : String
  about : String
  params : List Param

namespace Command

/-- The positional parameters, in order. -/
def positionals (c : Command) : List Param := c.params.filter (·.shape == .positional)

/-- The named parameters, in order. -/
def named (c : Command) : List Param := c.params.filter (·.shape != .positional)

/-- The named parameter with a long name. -/
def findLong (c : Command) (long : String) : Option Param := c.named.find? (·.long == long)

/-- The long names the command knows, the built-in ones last. -/
def longs (c : Command) : List String := (c.named ++ builtinFlags).map (·.long)

/-- The named parameter, built-in ones included, of an id. -/
def findNamed (c : Command) (id : String) : Option Param :=
  (c.named ++ builtinFlags).find? (·.id == id)

end Command

/-- A program with subcommands. -/
structure Program where
  name : String
  about : String
  version : String
  commands : List Command

/-- What the built-in `help` subcommand says of itself. -/
def helpAbout : String := "Print this message or the help of the given subcommand(s)"

namespace Program

/-- The names of the subcommands, the built-in `help` last. -/
def commandNames (p : Program) : List String := p.commands.map (·.name) ++ ["help"]

/-- The subcommand of a name. -/
def command? (p : Program) (name : String) : Option Command := p.commands.find? (·.name == name)

end Program

end CommandLine

end CorpusBench
