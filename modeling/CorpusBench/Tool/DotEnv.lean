import CorpusBench.Text.Blank

/-!
# Environment files

An environment file sets variables, one `KEY=value` a line, that the environment does not
already have.  Reading stops at the first line that does not parse; the lines before it keep
their effect.

* **Lines.**  Blank lines and lines starting with `#` are skipped.  A value may run over
  several lines while a quote is open.  After a blank, `#` starts a comment.  Blanks at the
  end of a line, a carriage return among them, are not part of it.
* **Keys.**  A key starts with an ASCII letter or `_` and goes on with ASCII letters, digits,
  `_` and `.`; an `export` before it is dropped.  Blanks may stand around the `=`.
* **Values.**  Single quotes keep their text as it is.  Double quotes allow the escapes `\\`,
  `\'`, `\"`, `\$`, `\ ` and `\n`, which are allowed unquoted too.  `$NAME` and `${NAME}` are
  replaced by the variable's value, or by nothing.  An unquoted blank ends the value; only
  blanks and a comment may follow it.

## Main definitions

* `DotEnv.logicalLines` — the lines of a file, quoted line breaks joined.
* `DotEnv.parseLine` — the variable a line sets.
* `DotEnv.load` — the environment after reading a file.
-/

namespace CorpusBench

namespace DotEnv

/-- Where the quoting stands at the end of a physical line. -/
inductive LineState where
  | complete
  | escape
  | strongOpen
  | weakOpen
  | weakOpenEscape
  | whiteSpace
  /-- A comment started; the line ends before its `#`. -/
  | comment
  deriving DecidableEq

/-- The state after one character outside a comment. -/
def nextState (st : LineState) (c : Char) : LineState :=
  match st with
  | .whiteSpace =>
    if c = '#' then .comment
    else if c = '\\' then .escape
    else if c = '"' then .weakOpen
    else if c = '\'' then .strongOpen
    else .complete
  | .escape => .complete
  | .complete =>
    if Text.isBlank c && c ≠ '\n' && c ≠ '\r' then .whiteSpace
    else if c = '\\' then .escape
    else if c = '"' then .weakOpen
    else if c = '\'' then .strongOpen
    else .complete
  | .weakOpen => if c = '\\' then .weakOpenEscape else if c = '"' then .complete else .weakOpen
  | .weakOpenEscape => .weakOpen
  | .strongOpen => if c = '\'' then .complete else .strongOpen
  | .comment => .comment

/-- Follow the quoting through a physical line: the state at its end, and where a comment
starts. -/
def endState (st : LineState) : List Char → Nat → LineState × Nat
  | [], i => (st, i)
  | c :: rest, i =>
    match nextState st c with
    | .comment => (.comment, i)
    | st => endState st rest (i + 1)

/-- The physical lines of a text, each with its line break. -/
def physicalLines (cs : List Char) : List (List Char) :=
  let (lines, current) := cs.foldl (fun (acc : List (List Char) × List Char) c =>
    if c = '\n' then ((c :: acc.2).reverse :: acc.1, []) else (acc.1, c :: acc.2)) ([], [])
  (if current.isEmpty then lines else current.reverse :: lines).reverse

/-- A finished logical line without its line break. -/
def dropBreak (cs : List Char) : List Char :=
  match cs.reverse with
  | '\n' :: '\r' :: rest => rest.reverse
  | '\n' :: rest => rest.reverse
  | _ => cs

/-- Join physical lines into logical ones, starting from the text `buf` gathered so far in the
quoting state `st`; `none` stands for a line whose quote never closes. -/
def gather (buf : List Char) (st : LineState) : List (List Char) → List (Option (List Char))
  | [] => if buf.isEmpty then [] else [none]
  | line :: rest =>
    let joined := buf ++ line
    if (Text.dropBlanks joined).head? = some '#' then some [] :: gather [] .complete rest
    else
      match endState st line 0 with
      | (.complete, _) => some (dropBreak joined) :: gather [] .complete rest
      | (.comment, at_) => some (buf ++ line.take at_) :: gather [] .complete rest
      | (st, _) => gather joined st rest

/-- The logical lines of a file, after a byte order mark. -/
def logicalLines (text : String) : List (Option (List Char)) :=
  let cs := match text.toList with
    | c :: rest => if c.toNat = 0xFEFF then rest else c :: rest
    | [] => []
  gather [] .complete (physicalLines cs)

/-- The kind of `$` substitution being read. -/
inductive Substitution where
  | off
  | plain
  | braced
  deriving DecidableEq

/-- Where reading a value stands. -/
structure ValueScan where
  out : String := ""
  strong : Bool := false
  weak : Bool := false
  escaped : Bool := false
  expectingEnd : Bool := false
  mode : Substitution := .off
  name : String := ""

/-- Replace the variable name read so far by its value. -/
def ValueScan.substitute (lookup : String → Option String) (s : ValueScan) : ValueScan :=
  { s with out := s.out ++ (lookup s.name).getD "", name := "" }

/-- The end of a value: an open quote or `${` refuses it. -/
def finishValue (lookup : String → Option String) (s : ValueScan) : Option String :=
  if s.mode = .braced || s.strong || s.weak then none else some (s.substitute lookup).out

/-- Read a value; `none` when it does not parse. -/
def readValue (lookup : String → Option String) : List Char → ValueScan → Option String
  | [], s => finishValue lookup s
  | c :: rest, s =>
    if s.expectingEnd then
      if c = ' ' || c = '\t' then readValue lookup rest s
      else if c = '#' then finishValue lookup s
      else none
    else if s.escaped then
      if c = '\\' || c = '\'' || c = '"' || c = '$' || c = ' ' then
        readValue lookup rest { s with out := s.out.push c, escaped := false }
      else if c = 'n' then readValue lookup rest { s with out := s.out.push '\n', escaped := false }
      else none
    else if s.strong then
      if c = '\'' then readValue lookup rest { s with strong := false }
      else readValue lookup rest { s with out := s.out.push c }
    else if s.mode ≠ .off then
      if c.isAlphanum then readValue lookup rest { s with name := s.name.push c }
      else if s.mode = .plain then
        if c = '{' && s.name.isEmpty then readValue lookup rest { s with mode := .braced }
        else
          let s := s.substitute lookup
          if c = '$' then readValue lookup rest { s with mode := .plain }
          else readValue lookup rest { s with mode := .off, out := s.out.push c }
      else if c = '}' then readValue lookup rest { s.substitute lookup with mode := .off }
      else readValue lookup rest { s with name := s.name.push c }
    else if c = '$' then readValue lookup rest { s with mode := .plain }
    else if s.weak then
      if c = '"' then readValue lookup rest { s with weak := false }
      else if c = '\\' then readValue lookup rest { s with escaped := true }
      else readValue lookup rest { s with out := s.out.push c }
    else if c = '\'' then readValue lookup rest { s with strong := true }
    else if c = '"' then readValue lookup rest { s with weak := true }
    else if c = '\\' then readValue lookup rest { s with escaped := true }
    else if c = ' ' || c = '\t' then readValue lookup rest { s with expectingEnd := true }
    else readValue lookup rest { s with out := s.out.push c }

/-- Read a key at the start of `cs`, with what follows it. -/
def readKey (cs : List Char) : Option (String × List Char) :=
  match cs with
  | c :: _ =>
    if c.isAlpha || c = '_' then
      let (key, rest) := cs.span fun d => d.isAlphanum || d = '_' || d = '.'
      some (String.ofList key, rest)
    else none
  | [] => none

/-- Drop an `=` at the start of `cs`. -/
def readEquals : List Char → Option (List Char)
  | '=' :: rest => some rest
  | _ => none

/-- The key before the `=` of a line, with the text after the `=`; an `export` before the key
is dropped. -/
def readAssignment (cs : List Char) : Option (String × List Char) := do
  let (key, rest) ← readKey cs
  let rest := Text.dropBlanks rest
  if key = "export" then
    match readEquals rest with
    | some after => return (key, after)
    | none =>
      let (key, rest) ← readKey rest
      return (key, ← readEquals (Text.dropBlanks rest))
  else return (key, ← readEquals rest)

/-- The variable a logical line sets: `ok none` for a blank or comment line, `error` for a line
that does not parse.  Blanks at the end of the line are dropped first. -/
def parseLine (lookup : String → Option String) (line : List Char) :
    Except Unit (Option (String × String)) :=
  let cs := Text.dropBlanks (Text.dropBlanks line.reverse).reverse
  if cs.isEmpty || cs.head? = some '#' then .ok none
  else match readAssignment cs with
    | none => .error ()
    | some (key, rest) =>
      let rest := Text.dropBlanks rest
      if rest.isEmpty || rest.head? = some '#' then .ok (some (key, ""))
      else match readValue lookup rest {} with
        | some v => .ok (some (key, v))
        | none => .error ()

/-- The value of a variable: the first binding. -/
def lookupIn (env : List (String × String)) (k : String) : Option String := List.lookup k env

/-- Set the variables of the lines in order, each one only when the environment lacks it;
stop at the first line that does not parse. -/
def loadLines (env : List (String × String)) : List (Option (List Char)) → List (String × String)
  | [] => env
  | none :: _ => env
  | some line :: rest =>
    match parseLine (lookupIn env) line with
    | .error () => env
    | .ok none => loadLines env rest
    | .ok (some (k, v)) =>
      loadLines (if (lookupIn env k).isSome then env else env ++ [(k, v)]) rest

/-- The environment after reading an environment file. -/
def load (env : List (String × String)) (text : String) : List (String × String) :=
  loadLines env (logicalLines text)

theorem load_keeps (env : List (String × String)) (text : String) (k v : String)
    (h : lookupIn env k = some v) : lookupIn (load env text) k = some v := by
  unfold load
  generalize logicalLines text = lines
  induction lines generalizing env with
  | nil => simpa [loadLines] using h
  | cons l rest ih =>
    cases l with
    | none => simpa [loadLines] using h
    | some line =>
      simp only [loadLines]
      split
      · exact h
      · exact ih env h
      · split
        · exact ih env h
        · apply ih
          simp [lookupIn, List.lookup_append, show List.lookup k env = some v from h]

end DotEnv

end CorpusBench
