import CorpusBench.Command.Reply
import CorpusBench.Json.Value
import CorpusBench.Text.Numeral
import CorpusBench.Json.Decode

/-!
# Command arguments

Readers for the members of a command object.  Each names the member it reads in its fault:
a missing member, a member of the wrong JSON type, or an integer outside the range of its
field is a malformed command.

## Main definitions

* `Command.Args.str`, `strOpt`, `bool`, `boolOr`, `nat`, `natOpt`, `array`, … —
  required and optional members by type.
-/

namespace CorpusBench

namespace Command

namespace Args

/-- The member `k`, present and not `null`. -/
def get? (req : Json) (k : String) : Option Json := req.getPresent? k

/-- A required member of any type. -/
def value (req : Json) (k : String) : Step Json :=
  match get? req k with
  | some v => .ok v
  | none => bad ("missing field " ++ k)

/-- Read a string. -/
def asStr (k : String) (v : Json) : Step String :=
  match v with
  | .str s => .ok s
  | _ => bad ("field " ++ k ++ " must be a string")

/-- A required string member. -/
def str (req : Json) (k : String) : Step String := do asStr k (← value req k)

/-- An optional string member. -/
def strOpt (req : Json) (k : String) : Step (Option String) :=
  match get? req k with
  | some v => some <$> asStr k v
  | none => .ok none

/-- An optional string member with a default. -/
def strOr (req : Json) (k : String) (d : String) : Step String := do
  return (← strOpt req k).getD d

/-- Read a flag. -/
def asBool (k : String) (v : Json) : Step Bool :=
  match v with
  | .bool b => .ok b
  | _ => bad ("field " ++ k ++ " must be a boolean")

/-- A required flag. -/
def bool (req : Json) (k : String) : Step Bool := do asBool k (← value req k)

/-- An optional flag with a default. -/
def boolOr (req : Json) (k : String) (d : Bool) : Step Bool :=
  match get? req k with
  | some v => asBool k v
  | none => .ok d

/-- Read an unsigned integer of the width `w`. -/
def asNat (k : String) (w : Width) (v : Json) : Step Nat :=
  match v with
  | .num (.nat n) =>
    if n ≤ w.max then .ok n else bad ("field " ++ k ++ " out of range for " ++ w.name)
  | .num _ => bad ("field " ++ k ++ " out of range for " ++ w.name)
  | _ => bad ("field " ++ k ++ " must be an integer")

/-- A required unsigned integer of the width `w`. -/
def nat (req : Json) (k : String) (w : Width) : Step Nat := do asNat k w (← value req k)

/-- An optional unsigned integer of the width `w`. -/
def natOpt (req : Json) (k : String) (w : Width) : Step (Option Nat) :=
  match get? req k with
  | some v => some <$> asNat k w v
  | none => .ok none

/-- An optional unsigned integer with a default. -/
def natOr (req : Json) (k : String) (w : Width) (d : Nat) : Step Nat := do
  return (← natOpt req k w).getD d

/-- Read a number as a double. -/
def asFloat (k : String) (v : Json) : Step Float :=
  match v with
  | .num n => .ok n.toFloat
  | _ => bad ("field " ++ k ++ " must be a number")

/-- A required number. -/
def float (req : Json) (k : String) : Step Float := do asFloat k (← value req k)

/-- An optional number. -/
def floatOpt (req : Json) (k : String) : Step (Option Float) :=
  match get? req k with
  | some v => some <$> asFloat k v
  | none => .ok none

/-- Read an array. -/
def asArray (k : String) (v : Json) : Step (List Json) :=
  match v with
  | .arr xs => .ok xs
  | _ => bad ("field " ++ k ++ " must be an array")

/-- A required array. -/
def array (req : Json) (k : String) : Step (List Json) := do asArray k (← value req k)

/-- An optional array, empty when absent. -/
def arrayOr (req : Json) (k : String) : Step (List Json) :=
  match get? req k with
  | some v => asArray k v
  | none => .ok []

/-- Read an array of strings. -/
def asStrList (k : String) (v : Json) : Step (List String) := do
  (← asArray k v).mapM (asStr k)

/-- An optional array of strings, empty when absent. -/
def strListOr (req : Json) (k : String) : Step (List String) := do
  (← arrayOr req k).mapM (asStr k)

/-- Read an object. -/
def asObject (k : String) (v : Json) : Step Json.Fields :=
  match v with
  | .obj fs => .ok fs
  | _ => bad ("field " ++ k ++ " must be an object")

/-- An optional object, empty when absent. -/
def objectOr (req : Json) (k : String) : Step Json.Fields :=
  match get? req k with
  | some v => asObject k v
  | none => .ok []

/-- Read a pair of strings written as a two-element array. -/
def asStrPair (k : String) (v : Json) : Step (String × String) :=
  match v with
  | .arr [.str a, .str b] => .ok (a, b)
  | _ => bad ("field " ++ k ++ " must hold [string, string] pairs")

/-- An optional array of string pairs, empty when absent. -/
def pairsOr (req : Json) (k : String) : Step (List (String × String)) := do
  (← arrayOr req k).mapM (asStrPair k)

/-- A member decoded as a library value, a failure being a malformed command. -/
def decodeWith {α : Type} (what : String) (d : Decoder α) (j : Json) : Step α :=
  match d j with
  | .ok a => .ok a
  | .error e => bad (what ++ ": " ++ e.message)

end Args

end Command

end CorpusBench
