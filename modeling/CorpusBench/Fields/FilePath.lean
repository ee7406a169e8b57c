import CorpusBench.Error
import CorpusBench.Text.Blank

/-!
# File paths

File and image fields store a path relative to the record's file store.  A path is trimmed
and loses one leading `./`; it must then be non-empty, must not be absolute, hold a backslash
or a `://`, and no segment may be empty, `.` or `..`.

The name shown for a path or link is its last segment, the query and fragment cut off and
trailing slashes ignored; a path with no name shows as `upload`.

## Main definitions

* `FilePath.validate`, `FilePath.fileName`.

## Main results

* `FilePath.fileName_ne_empty` — a shown name is never empty.
-/

namespace CorpusBench

namespace FilePath

/-- The path a raw value names, or why it is refused. -/
def validate (raw : String) : Except ClientError String :=
  let path := Text.trim raw
  let path := if path.startsWith "./" then String.ofList (path.toList.drop 2) else path
  if path.isEmpty then .error (.validation "file path is empty")
  else if path.startsWith "/" || path.contains '\\' || (path.splitOn "://").length > 1 then
    .error (.validation ("file path must be relative to the content's files: " ++ path))
  else if (path.splitOn "/").any (fun seg => seg.isEmpty || seg = "." || seg = "..") then
    .error (.validation ("invalid file path: " ++ path))
  else .ok path

/-- The last segment of a path or link, without query or fragment or trailing slashes. -/
def lastSegment (path : String) : List Char :=
  let cs := path.toList.takeWhile fun c => c != '?' && c != '#'
  let cs := (cs.reverse.dropWhile (· = '/')).reverse
  (cs.reverse.takeWhile (· != '/')).reverse

/-- A name, or `upload` for none. -/
def nameOr (cs : List Char) : String := if cs.isEmpty then "upload" else String.ofList cs

/-- The name shown for a path or link. -/
def fileName (path : String) : String := nameOr (lastSegment path)

theorem fileName_ne_empty (path : String) : fileName path ≠ "" := by
  unfold fileName nameOr
  split
  · decide
  · rename_i h
    intro e
    apply h
    have := congrArg String.toList e
    simpa using this

end FilePath

end CorpusBench
