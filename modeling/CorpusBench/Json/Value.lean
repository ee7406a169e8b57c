import CorpusBench.Data.StrMap

/-!
# JSON values

The document model that every wire type of the client is read from and written to.

A number keeps the kind it was read or built as: a non-negative integer, a negative integer or
a finite double.  The kind is visible in output (`1` and `1.0` are different answers), so it is
part of the value and never recovered from the digits.

An object keeps its members sorted by key with no key twice, which is the order in which every
answer writes them and the order in which a reader of a record's fields iterates them.

## Main definitions

* `JsonNumber`, `Json` — numbers by kind, and documents.
* `Json.mkObj` — an object from members in any order, the last write of a key
  winning.
* `Json.get?`, `Json.asString?`, … — the accessors wire types are read
  with.
-/

namespace CorpusBench

/-- A JSON number by kind: integers that fit 64 bits stay integers, everything else is a
double. -/
inductive JsonNumber where
  /-- A non-negative integer below `2^64`. -/
  | nat (n : Nat)
  /-- A negative integer not below `-2^63`. -/
  | neg (n : Int)
  /-- A finite double. -/
  | float (x : Float)

/-- A JSON document. -/
inductive Json where
  | null
  | bool (b : Bool)
  | num (n : JsonNumber)
  | str (s : String)
  | arr (items : List Json)
  | obj (fields : List (String × Json))

instance : Inhabited Json := ⟨.null⟩

namespace JsonNumber

/-- Numbers of one kind compare by value; numbers of different kinds differ. -/
def beq : JsonNumber → JsonNumber → Bool
  | .nat a, .nat b => a == b
  | .neg a, .neg b => a == b
  | .float a, .float b => a == b
  | _, _ => false

instance : BEq JsonNumber := ⟨beq⟩

/-- The number as a double, exact for integers below `2^53`. -/
def toFloat : JsonNumber → Float
  | .nat n => Float.ofNat n
  | .neg n => -(Float.ofNat n.natAbs)
  | .float x => x

end JsonNumber

namespace Json

/-- The members of an object, sorted by key. -/
abbrev Fields := StrMap Json

mutual

/-- Structural equality; doubles compare as numbers. -/
def beq : Json → Json → Bool
  | .null, .null => true
  | .bool a, .bool b => a == b
  | .num a, .num b => a == b
  | .str a, .str b => a == b
  | .arr a, .arr b => beqList a b
  | .obj a, .obj b => beqFields a b
  | _, _ => false

/-- Element-wise equality of two arrays. -/
def beqList : List Json → List Json → Bool
  | [], [] => true
  | a :: as, b :: bs => beq a b && beqList as bs
  | _, _ => false

/-- Member-wise equality of two sorted objects. -/
def beqFields : Fields → Fields → Bool
  | [], [] => true
  | (k, a) :: as, (l, b) :: bs => k == l && beq a b && beqFields as bs
  | _, _ => false

end

instance : BEq Json := ⟨beq⟩


/-- An object from members in any order (the later of two equal keys wins). -/
def mkObj (pairs : List (String × Json)) : Json := .obj (StrMap.ofList pairs)

/-- A string value. -/
def ofString (s : String) : Json := .str s

/-- An unsigned integer value. -/
def ofNat (n : Nat) : Json := .num (.nat n)

/-- An integer value, of the kind its sign gives it. -/
def ofInt (n : Int) : Json :=
  if n < 0 then .num (.neg n) else .num (.nat n.toNat)

/-- A double; a value that is not finite is written as `null`, as the wire format has no
spelling for it. -/
def ofFloat (x : Float) : Json := if x.isFinite then .num (.float x) else .null

/-- An optional value, `null` when absent. -/
def ofOption {α : Type} (f : α → Json) : Option α → Json
  | some a => f a
  | none => .null

/-- The member `k` of an object. -/
def get? (j : Json) (k : String) : Option Json :=
  match j with
  | .obj fs => StrMap.lookup k fs
  | _ => none

/-- The member `k` of an object, with absent members and `null` both read as missing. -/
def getPresent? (j : Json) (k : String) : Option Json :=
  match j.get? k with
  | some .null => none
  | other => other

/-- The text of a string value. -/
def asString? : Json → Option String
  | .str s => some s
  | _ => none

/-- The flag of a boolean value. -/
def asBool? : Json → Option Bool
  | .bool b => some b
  | _ => none

/-- The items of an array. -/
def asArray? : Json → Option (List Json)
  | .arr xs => some xs
  | _ => none

/-- The members of an object. -/
def asObject? : Json → Option Fields
  | .obj fs => some fs
  | _ => none

/-- A number as a double, from any kind. -/
def asFloat? : Json → Option Float
  | .num n => some n.toFloat
  | _ => none

/-- Whether the value is `null`. -/
def isNull : Json → Bool
  | .null => true
  | _ => false

end Json

end CorpusBench
