import CorpusBench.CommandLine.Help
import CorpusBench.CommandLine.Similar

/-!
# Reading a command line

A command line names a subcommand and then gives its parameters.  Reading it ends in one of
three ways: the parameters of a subcommand to run, a text to print (help or version), or a
refusal with its message.

* **The program's own arguments.**  Before the subcommand only `-h`/`--help`,
  `-V`/`--version` and `--` are known.  A program given nothing, or only `--`, shows its help
  as a refusal.  `help` followed by subcommand names shows the help of the last one.
* **Pending values.**  An option waits for its value, the next argument that does not look
  like a flag.  A value is taken for good — checked and recorded — when the next flag, option,
  positional value or `--` arrives, or at the end; a failure there refuses the line.  Before an
  unknown argument is reported, the waiting value is taken quietly: its failure is dropped.
* **After the arguments.**  A parameter not given falls back to its environment variable,
  whose value is checked as well (a flag's must read `true` or `false`), then to its default.
  The required parameters must then be present.
* **Refusals.**  A refusal reads `error: ` and its message, then tips, then a usage line when
  the fault is about the shape of the line, and last a pointer to `--help`.  Unknown names get
  the most similar known name as a tip.

## Main definitions

* `CommandLine.Fault` — why a command line is refused, with `Fault.render`.
* `CommandLine.Matches` — the parameters of a subcommand, with their values.
* `CommandLine.Parsed` — how reading ends.
* `CommandLine.Program.read` — read a command line.

## Main results

* `CommandLine.Program.read_nil` — an empty command line shows the help page as a
  refusal.
* `CommandLine.settle_idle` — with nothing pending, taking the pending values
  changes nothing.
-/

namespace CorpusBench

namespace CommandLine

/-- Why a command line is refused. -/
inductive Fault where
  /-- An argument no parameter takes, with the most similar long name, a tip naming the
  subcommand that has a similar name, whether to suggest `--` before it, and the usage. -/
  | unexpected (arg : String) (similar : Option String) (elsewhere : Option String)
      (valueTip : Bool) (usage : String)
  /-- A value attached to a flag. -/
  | extraValue (value param usage : String)
  /-- A name that is no subcommand, with the similar names. -/
  | unknownCommand (name : String) (similar : List String) (usage : String)
  /-- A subcommand name after `--`. -/
  | needlessEscape (name usage : String)
  /-- Required parameters not given. -/
  | missing (params : List String) (usage : String)
  /-- An option without its value. -/
  | emptyValue (param : String)
  /-- A value outside a fixed set of choices, with the most similar choice. -/
  | notAChoice (value param : String) (choices : List String) (similar : Option String)
  /-- A value its parameter's check refuses, with the reason. -/
  | rejected (value param reason : String)
  /-- A parameter given twice that may be given once. -/
  | repeated (param usage : String)

namespace Fault

/-- The first line's message of a refusal. -/
def headline : Fault → String
  | .unexpected arg .. => "unexpected argument '" ++ arg ++ "' found"
  | .extraValue v p _ => "unexpected value '" ++ v ++ "' for '" ++ p ++ "' found; no more were expected"
  | .unknownCommand n .. => "unrecognized subcommand '" ++ n ++ "'"
  | .needlessEscape .. => "unexpected argument '--' found"
  | .missing ps _ => "the following required arguments were not provided:" ++
      String.join (ps.map ("\n  " ++ ·))
  | .emptyValue p => "a value is required for '" ++ p ++ "' but none was supplied"
  | .notAChoice v p cs _ =>
    (if v.isEmpty then "a value is required for '" ++ p ++ "' but none was supplied"
     else "invalid value '" ++ v ++ "' for '" ++ p ++ "'") ++
      "\n  [possible values: " ++ ", ".intercalate cs ++ "]"
  | .rejected v p reason => "invalid value '" ++ v ++ "' for '" ++ p ++ "': " ++ reason
  | .repeated p _ => "the argument '" ++ p ++ "' cannot be used multiple times"

/-- The "similar name" tip of a refusal. -/
def similarTip : Fault → Option String
  | .unexpected _ (some s) .. => some ("a similar argument exists: '" ++ s ++ "'")
  | .unknownCommand _ [n] _ => some ("a similar subcommand exists: '" ++ n ++ "'")
  | .unknownCommand _ (n :: ns) _ =>
    some ("some similar subcommands exist: " ++ ", ".intercalate ((n :: ns).map fun c => "'" ++ c ++ "'"))
  | .notAChoice _ _ _ (some s) => some ("a similar value exists: '" ++ s ++ "'")
  | _ => none

/-- The other tips of a refusal. -/
def tips : Fault → List String
  | .unexpected arg _ elsewhere valueTip _ =>
    (if valueTip then ["to pass '" ++ arg ++ "' as a value, use '-- " ++ arg ++ "'"] else []) ++
      (match elsewhere with
       | some e => ["'" ++ e ++ "' exists"]
       | none => [])
  | .needlessEscape n _ => ["subcommand '" ++ n ++ "' exists; to use it, remove the '--' before it"]
  | _ => []

/-- The usage line shown with a refusal about the shape of the line. -/
def usage? : Fault → Option String
  | .unexpected _ _ _ _ u | .extraValue _ _ u | .unknownCommand _ _ u | .needlessEscape _ u
  | .missing _ u | .repeated _ u => some u
  | _ => none

/-- The whole message of a refusal. -/
def render (f : Fault) : String :=
  let similar := match f.similarTip with
    | some t => "\n\n  tip: " ++ t
    | none => ""
  let tips := match f.tips with
    | [] => ""
    | ts => (if f.similarTip.isSome then "" else "\n") ++ String.join (ts.map ("\n  tip: " ++ ·))
  let usage := match f.usage? with
    | some u => "\n\nUsage: " ++ u
    | none => ""
  "error: " ++ f.headline ++ similar ++ tips ++ usage ++
    "\n\nFor more information, try '--help'.\n"

end Fault

/-- The values of one parameter, and whether they were given (on the command line or in the
environment) rather than defaulted. -/
structure Given where
  id : String
  values : List String
  explicit : Bool

/-- The parameters of a subcommand to run, with their values. -/
structure Matches where
  command : Command
  given : List Given

namespace Matches

/-- The values of a parameter, in the order given. -/
def values (m : Matches) (id : String) : List String :=
  ((m.given.find? (·.id == id)).map (·.values)).getD []

/-- The value of a parameter given once. -/
def value? (m : Matches) (id : String) : Option String := (m.values id).head?

/-- Whether a flag is raised. -/
def flag (m : Matches) (id : String) : Bool := m.value? id == some "true"

end Matches

/-- How reading a command line ends. -/
inductive Parsed where
  /-- A subcommand to run. -/
  | run (m : Matches)
  /-- A text for standard output, and nothing else to do. -/
  | show (text : String)
  /-- A refusal, with its text for standard error. -/
  | refuse (text : String)

/-- Where reading a subcommand's arguments stands. -/
structure Scan where
  given : List Given := []
  /-- A parameter whose values are not yet taken for good. -/
  pending : Option (Param × List String) := none
  /-- Whether the pending parameter is an option still waiting for its value. -/
  awaiting : Bool := false
  /-- How many positional values were read. -/
  position : Nat := 0
  /-- Whether `--` was read: every argument after it is a positional value. -/
  trailing : Bool := false

namespace Scan

/-- The parameters given, in the order they were taken. -/
def used (s : Scan) : List String := (s.given.filter (·.explicit)).map (·.id)

/-- Whether a parameter has values. -/
def has (s : Scan) (id : String) : Bool := s.given.any (·.id == id)

/-- Record given values of a parameter, after its earlier ones. -/
def record (s : Scan) (id : String) (vs : List String) : Scan :=
  if s.has id then
    { s with given := s.given.map fun g => if g.id == id then { g with values := g.values ++ vs } else g }
  else { s with given := s.given ++ [⟨id, vs, true⟩] }

/-- Record a default, which does not count as given. -/
def recordDefault (s : Scan) (id : String) (v : String) : Scan :=
  { s with given := s.given ++ [⟨id, [v], false⟩] }

end Scan

/-- The first value a parameter's check refuses. -/
def firstRefusal (p : Param) : List String → Option Fault
  | [] => none
  | v :: rest =>
    match p.check v with
    | some reason => some (.rejected v p.display reason)
    | none => firstRefusal p rest

/-- The usage line of a refusal: the full usage when nothing was given, else the short one. -/
def usageFor (program : String) (c : Command) (used : List String) : String :=
  if used.isEmpty then fullUsage program c else shortUsage program c used

/-- Take the pending values for good: an option must have its value, a parameter given once
must not be given again, and every value must pass the check. -/
def settle (program : String) (c : Command) (s : Scan) : Except Fault Scan :=
  match s.pending with
  | none => .ok s
  | some (p, vs) =>
    let s := { s with pending := none, awaiting := false }
    if vs.isEmpty then .error (.emptyValue p.display)
    else if !p.repeated && s.has p.id then .error (.repeated p.display (fullUsage program c))
    else match firstRefusal p vs with
      | some f => .error f
      | none => .ok (s.record p.id vs)

/-- Take the pending values, dropping a failure: a repeated parameter loses its earlier values
and a refused one keeps those before the refusal. -/
def settleQuietly (s : Scan) : Scan :=
  match s.pending with
  | none => s
  | some (p, vs) =>
    let s := { s with pending := none, awaiting := false }
    if vs.isEmpty then s
    else if !p.repeated && s.has p.id then { s with given := s.given.filter (·.id != p.id) }
    else s.record p.id (vs.takeWhile fun v => (p.check v).isNone)

/-- Raise a flag. -/
def takeFlag (program : String) (c : Command) (s : Scan) (p : Param) : Except Fault Scan := do
  let s ← settle program c s
  if s.has p.id then throw (.repeated p.display (fullUsage program c))
  return s.record p.id ["true"]

/-- Take an option's value written after `=`. -/
def takeAttached (program : String) (c : Command) (s : Scan) (p : Param) (v : String) :
    Except Fault Scan := do
  let s ← settle program c s
  if !p.repeated && s.has p.id then throw (.repeated p.display (fullUsage program c))
  match p.check v with
  | some reason => throw (.rejected v p.display reason)
  | none => return s.record p.id [v]

/-- The most similar of some names, the last of the most similar ones. -/
def mostSimilar (v : String) (names : List String) : Option String := (similarNames v names).getLast?

/-- The refusal of an unknown long name (without its dashes); a similar name counts as given
in the usage line. -/
def unknownLong (program : String) (c : Command) (s : Scan) (name : String) : Fault :=
  let s := settleQuietly s
  match mostSimilar name c.longs with
  | some near =>
    let used := match (c.named ++ builtinFlags).find? (·.long == near) with
      | some p => if s.has p.id then s.used else s.used ++ [p.id]
      | none => s.used
    .unexpected ("--" ++ name) (some ("--" ++ near)) none false (usageFor program c used)
  | none =>
    .unexpected ("--" ++ name) none none (!s.trailing && !c.positionals.isEmpty)
      (usageFor program c s.used)

/-- The refusal of an unknown short flag. -/
def unknownShort (program : String) (c : Command) (s : Scan) (flag : Char) : Fault :=
  .unexpected ("-" ++ flag.toString) none none (!s.trailing && !c.positionals.isEmpty)
    (fullUsage program c)

/-- Split a long argument (without its dashes) at its first `=`. -/
def splitAttached (body : String) : String × Option String :=
  match body.toList.span (· != '=') with
  | (name, []) => (String.ofList name, none)
  | (name, _ :: rest) => (String.ofList name, some (String.ofList rest))

/-- What stops reading a subcommand's arguments early. -/
inductive Halt where
  | fault (f : Fault)
  | help
  | version

/-- Read one long argument. -/
def readLong (program : String) (c : Command) (s : Scan) (name : String) (attached : Option String) :
    Except Halt Scan :=
  let flagged (p : Param) : Except Halt Scan :=
    match attached with
    | some v =>
      let s := settleQuietly s
      let used := (s.used.filter fun i => !(c.params.any fun q => q.id == i && q.required)) ++ [p.id]
      .error (.fault (.extraValue v p.display (usageFor program c used)))
    | none => .ok s
  if name == "help" then do
    let _ ← flagged helpFlag
    match settle program c s with
    | .ok _ => .error .help
    | .error f => .error (.fault f)
  else if name == "version" then do
    let _ ← flagged versionFlag
    match settle program c s with
    | .ok _ => .error .version
    | .error f => .error (.fault f)
  else match c.findLong name with
    | none => .error (.fault (unknownLong program c s name))
    | some p =>
      if p.takesValue then
        match attached with
        | some v => (takeAttached program c s p v).mapError .fault
        | none =>
          match settle program c s with
          | .ok s => .ok { s with pending := some (p, []), awaiting := true }
          | .error f => .error (.fault f)
      else do
        let s ← flagged p
        (takeFlag program c s p).mapError .fault

/-- Read one argument that is no flag: the awaited value of an option, or the next positional
value. -/
def readValue (program : String) (c : Command) (s : Scan) (a : String) : Except Halt Scan :=
  if s.awaiting then
    match s.pending with
    | some (p, vs) => .ok { s with pending := some (p, vs ++ [a]), awaiting := false }
    | none => .ok { s with awaiting := false }
  else match c.positionals[s.position]? with
    | some p =>
      match settle program c s with
      | .ok s => .ok { s with pending := some (p, [a]), position := s.position + 1 }
      | .error f => .error (.fault f)
    | none => .error (.fault (.unexpected a none none false (fullUsage program c)))

/-- Read a subcommand's arguments. -/
def readArgs (program : String) (c : Command) : List String → Scan → Except Halt Scan
  | [], s => .ok s
  | a :: rest, s =>
    if s.trailing then do readArgs program c rest (← readValue program c s a)
    else if a == "--" then
      match settle program c s with
      | .ok s => readArgs program c rest { s with trailing := true }
      | .error f => .error (.fault f)
    else if a.startsWith "--" then do
      let (name, attached) := splitAttached (a.drop 2).toString
      readArgs program c rest (← readLong program c s name attached)
    else if a.startsWith "-" && a.length > 1 then
      match (a.drop 1).toString.toList with
      | 'h' :: _ =>
        match settle program c s with
        | .ok _ => .error .help
        | .error f => .error (.fault f)
      | 'V' :: _ =>
        match settle program c s with
        | .ok _ => .error .version
        | .error f => .error (.fault f)
      | f :: _ => .error (.fault (unknownShort program c (settleQuietly s) f))
      | [] => .error (.fault (unknownShort program c s ' '))
    else do readArgs program c rest (← readValue program c s a)

/-- Fall back to the environment for a parameter not given: a flag's variable must read `true`
or `false`, any other value must pass the check. -/
def fromEnvironment (env : String → Option String) (s : Scan) (p : Param) : Except Fault Scan :=
  if s.has p.id then .ok s
  else match p.env.bind env with
    | none => .ok s
    | some v =>
      if p.takesValue then
        match p.check v with
        | some reason => .error (.rejected v p.display reason)
        | none => .ok (s.record p.id [v])
      else if v == "true" || v == "false" then .ok (s.record p.id [v])
      else .error (.notAChoice v p.display ["true", "false"] (mostSimilar v ["true", "false"]))

/-- The defaults of the parameters still without values. -/
def withDefaults (c : Command) (s : Scan) : Scan :=
  c.params.foldl (fun s p =>
    if s.has p.id then s
    else match p.default with
      | some d => s.recordDefault p.id d
      | none => if p.shape == .flag then s.recordDefault p.id "false" else s) s

/-- Finish reading a subcommand: take the pending values, fall back to the environment and
the defaults, and check that the required parameters are present. -/
def finish (program : String) (c : Command) (env : String → Option String) (s : Scan) :
    Except Fault Matches := do
  let s ← settle program c s
  let s ← c.params.foldlM (fromEnvironment env) s
  let s := withDefaults c s
  let missing := (c.named ++ c.positionals).filter fun p => p.required && !s.used.contains p.id
  if missing.isEmpty then return ⟨c, s.given⟩
  throw (.missing (missing.map Param.display) (shortUsage program c (s.used ++ missing.map (·.id))))

namespace Program

/-- The usage of the program naming the built-in flags `used`. -/
def usageWith (p : Program) (used : List String) : String :=
  " ".intercalate ([p.name] ++ used.map ("--" ++ ·) ++ ["<COMMAND>"])

/-- The help page of the subcommand a `help` line names, or the refusal of an unknown name. -/
def helpOf (p : Program) (env : String → Option String) : Option Command → Bool → List String → Parsed
  | none, false, [] => .show (programHelp p)
  | some c, _, [] => .show (commandHelp p.name env c)
  | none, true, [] => .show (helpCommandHelp p)
  | none, false, a :: rest =>
    if a == "help" then helpOf p env none true rest
    else match p.command? a with
      | some c => helpOf p env (some c) false rest
      | none => .refuse (Fault.unknownCommand a [] (programUsage p)).render
  | some c, _, a :: _ => .refuse (Fault.unknownCommand a [] (fullUsage p.name c)).render
  | none, true, a :: _ => .refuse (Fault.unknownCommand a [] (p.name ++ " help [COMMAND]...")).render

/-- Read a subcommand's arguments to the end. -/
def readCommand (p : Program) (env : String → Option String) (c : Command) (args : List String) :
    Parsed :=
  match readArgs p.name c args {} with
  | .error .help => .show (commandHelp p.name env c)
  | .error .version => .show (versionLine p (some c.name))
  | .error (.fault f) => .refuse f.render
  | .ok s =>
    match finish p.name c env s with
    | .ok m => .run m
    | .error f => .refuse f.render

/-- The refusal of a name that is no subcommand. -/
def unknownName (p : Program) (trailing : Bool) (a : String) : Parsed :=
  if trailing && p.commandNames.contains a then
    .refuse (Fault.needlessEscape a (programUsage p)).render
  else .refuse (Fault.unknownCommand a (similarNames a p.commandNames) (programUsage p)).render

/-- The refusal of an unknown long name before the subcommand: a similar built-in flag, or a
similar parameter of a subcommand named further on. -/
def unknownTopLong (p : Program) (name : String) (rest : List String) : Fault :=
  match mostSimilar name (builtinFlags.map (·.long)) with
  | some near => .unexpected ("--" ++ name) (some ("--" ++ near)) none false (p.usageWith [near])
  | none =>
    let offers := p.commands.filterMap fun c =>
      match mostSimilar name c.longs, rest.idxOf? c.name with
      | some near, some at_ => some (at_, c.name ++ " --" ++ near)
      | _, _ => none
    let best := offers.foldl (fun (b : Option (Nat × String)) o =>
      match b with
      | some x => if o.1 < x.1 then some o else some x
      | none => some o) none
    .unexpected ("--" ++ name) none (best.map (·.2)) false (programUsage p)

/-- Read a command line (without the program's name); `env` gives the environment variables. -/
def read (p : Program) (env : String → Option String) : Bool → List String → Parsed
  | _, [] => .refuse (programHelp p)
  | true, a :: _ => unknownName p true a
  | false, a :: rest =>
    if a == "--" then read p env true rest
    else if a == "help" then helpOf p env none false rest
    else match p.command? a with
      | some c => readCommand p env c rest
      | none =>
        if a.startsWith "--" then
          let (name, attached) := splitAttached (a.drop 2).toString
          if name == "help" || name == "version" then
            match attached with
            | some v => .refuse (Fault.extraValue v ("--" ++ name) (p.usageWith [name])).render
            | none => if name == "help" then .show (programHelp p) else .show (versionLine p none)
          else .refuse (unknownTopLong p name rest).render
        else if a.startsWith "-" && a.length > 1 then
          match (a.drop 1).toString.toList with
          | 'h' :: _ => .show (programHelp p)
          | 'V' :: _ => .show (versionLine p none)
          | f :: _ => .refuse (Fault.unexpected ("-" ++ f.toString) none none false (programUsage p)).render
          | [] => unknownName p false a
        else unknownName p false a

theorem read_nil (p : Program) (env : String → Option String) (trailing : Bool) :
    p.read env trailing [] = .refuse (programHelp p) := by
  cases trailing <;> simp [read]

end Program

theorem settle_idle (program : String) (c : Command) (s : Scan) (h : s.pending = none) :
    settle program c s = .ok s := by
  unfold settle
  rw [h]

end CommandLine

end CorpusBench
