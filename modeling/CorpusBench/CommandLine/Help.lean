import CorpusBench.CommandLine.Spec

/-!
# Usage lines and help pages

How a program describes itself, for a terminal 100 columns wide.

* **Usage.**  The full usage of a subcommand is its name, `[OPTIONS]` when it has an optional
  named parameter, its required options and all its positional arguments.  Error messages use a
  shorter usage naming only the required parameters and those already given: options first,
  then positional arguments in order.
* **Help page.**  The about line, the usage, then the sections `Commands:`, `Arguments:` and
  `Options:`.  An entry is indented by two columns, a named parameter without short form by
  four more; descriptions start in one column two places after the longest entry, with the
  environment variable (and its value) and the default in brackets after them.
* **Long descriptions.**  When the entries take more than 40% of the width and some
  description does not fit beside them, every description of the section goes on its own line,
  indented by ten columns.  Descriptions wrap at word boundaries, continuing at their column.

## Main definitions

* `CommandLine.wrapWords` — wrap a text to a width.
* `CommandLine.fullUsage`, `CommandLine.shortUsage`.
* `CommandLine.commandHelp`, `CommandLine.programHelp`.
-/

namespace CorpusBench

namespace CommandLine

/-- The width help pages are laid out for. -/
def termWidth : Nat := 100

/-- The words of a line, each with the spaces after it. -/
def spacedWords (cs : List Char) : List (List Char) :=
  let rec go : List Char → List Char → Bool → List (List Char)
    | [], cur, _ => if cur.isEmpty then [] else [cur.reverse]
    | c :: rest, cur, inSpace =>
      if inSpace && c != ' ' then cur.reverse :: go rest [c] false
      else go rest (c :: cur) (c == ' ')
  go cs [] false

/-- A word without the spaces after it. -/
def trimWord (w : List Char) : List Char := (w.reverse.dropWhile (· == ' ')).reverse

/-- Lay words out on lines of at most `width` columns (a word longer than a line stands alone);
a break drops the spaces before it. -/
def layoutWords (width : Nat) : List (List Char) → Nat → Bool → List Char
  | [], _, _ => []
  | w :: rest, used, first =>
    let shown := (trimWord w).length
    if !first && width < used + shown then
      '\n' :: w ++ layoutWords width rest (w.length) false
    else w ++ layoutWords width rest (used + w.length) false

/-- Wrap a text to `width` columns, without trailing spaces. -/
def wrapWords (width : Nat) (text : String) : String :=
  let laid := layoutWords width (spacedWords text.toList) 0 true
  -- drop the spaces left at the end of each line
  let lines := (laid.splitOn '\n').map trimWord
  String.ofList (trimWord (List.intercalate ['\n'] lines))

/-- Indent every line after the first by `n` columns. -/
def indentRest (n : Nat) (s : String) : String := s.replace "\n" ("\n" ++ "".pushn ' ' n)

/-- Spaces. -/
def spaces (n : Nat) : String := "".pushn ' ' n

/-- The brackets after a description: the environment variable and its value, then the
default. -/
def specValues (env : String → Option String) (p : Param) : String :=
  let envPart := match p.env with
    | some var => ["[env: " ++ var ++ "=" ++ (env var).getD "" ++ "]"]
    | none => []
  let defaultPart := match p.default with
    | some d => if p.takesValue then ["[default: " ++ d ++ "]"] else []
    | none => []
  " ".intercalate (envPart ++ defaultPart)

/-- A description with its brackets. -/
def describe (env : String → Option String) (p : Param) : String :=
  let spec := specValues env p
  if spec.isEmpty then p.help else if p.help.isEmpty then spec else p.help ++ " " ++ spec

/-- One entry of a section: its text, its width for alignment, its description, and the
width the description is judged by (without the space before the brackets). -/
structure Entry where
  text : String
  width : Nat
  description : String
  measure : Nat := description.length

/-- Lay out a section of entries: descriptions beside the entries, or each on its own line when
the entries are wide and some description does not fit beside them. -/
def renderEntries (entries : List Entry) : List String :=
  let longest := entries.foldl (fun m e => max m e.width) 2
  let taken := longest + 4
  let nextLine := entries.any fun e =>
    termWidth ≥ taken && taken * 10 > termWidth * 4 && e.measure > termWidth - taken
  entries.map fun e =>
    if nextLine then
      "  " ++ e.text ++ "\n" ++ spaces 10 ++ indentRest 10 (wrapWords (termWidth - 10) e.description)
    else
      "  " ++ e.text ++ spaces (longest + 2 - e.width) ++
        indentRest taken (wrapWords (termWidth - taken) e.description)

/-- The entry of a named parameter. -/
def namedEntry (env : String → Option String) (p : Param) : Entry :=
  ⟨"    " ++ p.display, p.display.length + 4, describe env p,
    p.help.length + (specValues env p).length⟩

/-- The built-in entries of every command. -/
def builtinEntries : List Entry :=
  [{ text := "-h, --help", width := 10, description := "Print help" },
   { text := "-V, --version", width := 13, description := "Print version" }]

/-- A section with its title. -/
def titled (title : String) (lines : List String) : String :=
  title ++ ":\n" ++ "\n".intercalate lines

/-- The usage of a subcommand with all its parameters. -/
def fullUsage (program : String) (c : Command) : String :=
  let optional := c.named.any fun p => !p.required
  let parts := [program ++ " " ++ c.name] ++ (if optional then ["[OPTIONS]"] else []) ++
    (c.named.filter (·.required)).map Param.display ++ c.positionals.map Param.display
  " ".intercalate parts

/-- The usage of a subcommand naming only its required parameters and the `used` ones: options
first, then positional arguments in order. -/
def shortUsage (program : String) (c : Command) (used : List String) : String :=
  let wanted := fun (p : Param) => p.required || used.contains p.id
  let requiredFirst := (c.named.filter (·.required)).map (·.id)
  let order := requiredFirst ++ used.filter fun i => !requiredFirst.contains i
  let opts := order.filterMap fun i => (c.findNamed i).map Param.display
  let pos := (c.positionals.filter wanted).map Param.display
  " ".intercalate ([program ++ " " ++ c.name] ++ opts.eraseDups ++ pos)

/-- The help page of a subcommand; `env` gives the variables shown beside the parameters. -/
def commandHelp (program : String) (env : String → Option String) (c : Command) : String :=
  let arguments := c.positionals.map fun p =>
    ({ text := p.display, width := p.display.length, description := p.help } : Entry)
  let options := c.named.map (namedEntry env) ++ builtinEntries
  let sections :=
    (if arguments.isEmpty then [] else [titled "Arguments" (renderEntries arguments)]) ++
      [titled "Options" (renderEntries options)]
  c.about ++ "\n\nUsage: " ++ fullUsage program c ++ "\n\n" ++ "\n\n".intercalate sections ++ "\n"

/-- The usage of the program itself. -/
def programUsage (p : Program) : String := p.name ++ " <COMMAND>"

/-- The help page of the program. -/
def programHelp (p : Program) : String :=
  let commands := (p.commands.map fun c =>
      ({ text := c.name, width := c.name.length, description := c.about } : Entry)) ++
    [{ text := "help", width := 4, description := helpAbout }]
  p.about ++ "\n\nUsage: " ++ programUsage p ++ "\n\n" ++
    titled "Commands" (renderEntries commands) ++ "\n\n" ++
    titled "Options" (renderEntries builtinEntries) ++ "\n"

/-- The help page of the built-in `help` subcommand. -/
def helpCommandHelp (p : Program) : String :=
  helpAbout ++ "\n\nUsage: " ++ p.name ++ " help [COMMAND]...\n\n" ++
    titled "Arguments" (renderEntries
      [{ text := "[COMMAND]...", width := 12, description := "Print help for the subcommand(s)" }]) ++ "\n"

/-- The version line of the program, or of one of its subcommands. -/
def versionLine (p : Program) (command : Option String) : String :=
  match command with
  | some c => p.name ++ "-" ++ c ++ " " ++ p.version ++ "\n"
  | none => p.name ++ " " ++ p.version ++ "\n"

end CommandLine

end CorpusBench
