import CorpusBench.Json.Decode

/-!
# Node labels

How a node's label is shown: in full, hidden, or cut to at most a number of characters
(code points) with an ellipsis after a label that was cut.

## Main definitions

* `LabelMode`, `LabelMode.format`.

## Main results

* `LabelMode.format_truncated_of_le` — a label that fits is shown unchanged.
-/

namespace CorpusBench

/-- How node labels are shown. -/
inductive LabelMode where
  | full
  /-- At most this many characters, then an ellipsis. -/
  | truncated (chars : Nat)
  | hidden
  deriving DecidableEq, Repr, Inhabited

namespace LabelMode

/-- Labels are cut to twenty characters unless configured otherwise. -/
def standard : LabelMode := .truncated 20

/-- The label as shown. -/
def format (m : LabelMode) (label : String) : String :=
  match m with
  | .full => label
  | .hidden => ""
  | .truncated n =>
    if label.length ≤ n then label else String.ofList (label.toList.take n) ++ "…"

theorem format_truncated_of_le (n : Nat) (label : String) (h : label.length ≤ n) :
    (LabelMode.truncated n).format label = label := by
  simp [format, h]

def toJson : LabelMode → Json
  | .full => Json.mkObj [("mode", .str "full")]
  | .truncated n => Json.mkObj [("mode", .str "truncated"), ("chars", Json.ofNat n)]
  | .hidden => Json.mkObj [("mode", .str "hidden")]

/-- The payload of a variant without data, when one is written: only `null`. -/
def unitContent (variant : String) : Option Json → Except DecodeError Unit
  | none | some .null => .ok ()
  | some j => Decoder.mismatch ("unit variant LabelMode::" ++ variant) j

def decoder : Decoder LabelMode :=
  Decoder.adjacentTag "LabelMode" "mode" "chars" ["full", "truncated", "hidden"] fun name c =>
    match name with
    | "truncated" =>
      match c with
      | some j => LabelMode.truncated <$> Decoder.word .usize j
      | none => .error (.missingField "chars")
    | "full" => do unitContent "Full" c; return .full
    | _ => do unitContent "Hidden" c; return .hidden

end LabelMode

end CorpusBench
