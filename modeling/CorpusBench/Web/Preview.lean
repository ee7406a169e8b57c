import CorpusBench.Fields.Html
import CorpusBench.Text.Entities
import CorpusBench.Text.Case
import CorpusBench.Json.Write

/-!
# Link previews

What a link field shows beside its address, read from the page's markup.

* Every `<meta` tag (in any case, followed by a blank, up to the first `>`) is read for its
  attributes `name="value"` or `name='value'`.  Its key is its `property` or `name` attribute,
  in lower case, the last of them winning; its content is its `content` attribute with
  character references decoded.  A tag with a key and non-blank content sets the title
  (`og:title`), the description (`og:description`, or `description` when there is none yet)
  or the thumbnail (`og:image`); a later tag overrides an earlier one.
* Without an `og:title`, the title is the text of the first `<title>` element, trimmed and
  decoded, when not empty.

## Main definitions

* `LinkPreview` — with `isEmpty`.
* `LinkPreview.parse` — the preview of a page.

## Main results

* `LinkPreview.parse_empty` — a page without markup shows nothing.
-/

namespace CorpusBench

/-- What a link field shows beside the address. -/
structure LinkPreview where
  url : String
  title : Option String := none
  description : Option String := none
  thumbnail : Option String := none

namespace LinkPreview

/-- Whether there is nothing to show. -/
def isEmpty (p : LinkPreview) : Bool := p.title.isNone && p.description.isNone && p.thumbnail.isNone

def toJson (p : LinkPreview) : Json :=
  Json.mkObj [("url", .str p.url), ("title", Json.ofOption .str p.title),
    ("description", Json.ofOption .str p.description), ("thumbnail", Json.ofOption .str p.thumbnail)]

/-- The characters of attribute names: ASCII letters in either case (and the two letters that
fold onto `k` and `s`), `:`, `_` and `-`. -/
def isNameChar (c : Char) : Bool :=
  c.isAlpha || c = ':' || c = '_' || c = '-' || c.toNat = 0x212A || c.toNat = 0x17F

/-- The attribute that starts a text, with the number of characters it takes. -/
def attributeAt (cs : List Char) : Option (String × String × Nat) :=
  let name := cs.takeWhile isNameChar
  if name.isEmpty then none
  else
    let rest := cs.drop name.length
    let gap1 := rest.takeWhile Text.isBlank
    match rest.drop gap1.length with
    | '=' :: rest =>
      let gap2 := rest.takeWhile Text.isBlank
      match rest.drop gap2.length with
      | q :: rest =>
        if q = '"' || q = '\'' then
          let value := rest.takeWhile (· != q)
          if rest.length > value.length then
            some (String.ofList name, String.ofList value,
              name.length + gap1.length + 1 + gap2.length + 1 + value.length + 1)
          else none
        else none
      | [] => none
    | _ => none

/-- The attributes of a tag, in order. -/
def attributes : List Char → List (String × String)
  | [] => []
  | c :: rest =>
    match attributeAt (c :: rest) with
    | some (k, v, n) => (k, v) :: attributes ((c :: rest).drop (max n 1))
    | none => attributes rest
termination_by cs => cs.length

/-- The `<meta` tags of a page, in order. -/
def metaTags : List Char → List (List Char)
  | [] => []
  | c :: rest =>
    let opensTag := Html.startsCaseBlind "<meta".toList (c :: rest) &&
      match (c :: rest).drop 5 with
      | d :: _ => Text.isBlank d
      | [] => false
    if opensTag then
      match Html.afterClose rest with
      | some after =>
        let n := rest.length - after.length + 1
        ((c :: rest).take n) :: metaTags ((c :: rest).drop (max n 1))
      | none => metaTags rest
    else metaTags rest
termination_by cs => cs.length

/-- The key and content of a `<meta` tag. -/
def tagEntry (tag : List Char) : Option String × Option String :=
  (attributes tag).foldl (fun (key, content) (name, value) =>
    match Text.asciiLowerString name with
    | "property" | "name" => (some (Text.asciiLowerString value), content)
    | "content" => (key, some (Text.decodeEntities value))
    | _ => (key, content)) (none, none)

/-- Take in one `<meta` tag. -/
def withTag (p : LinkPreview) (tag : List Char) : LinkPreview :=
  match tagEntry tag with
  | (some key, some content) =>
    if Text.isBlankText content then p
    else match key with
      | "og:title" => { p with title := some content }
      | "og:description" => { p with description := some content }
      | "description" => if p.description.isNone then { p with description := some content } else p
      | "og:image" => { p with thumbnail := some content }
      | _ => p
  | _ => p

/-- The text after the first occurrence of a case-blind pattern. -/
def afterPattern (pat : List Char) : List Char → Option (List Char)
  | [] => none
  | c :: rest =>
    match Html.dropCaseBlind pat (c :: rest) with
    | some after => some after
    | none => afterPattern pat rest

/-- The text before the first occurrence of a case-blind pattern. -/
def beforePattern (pat : List Char) : List Char → Option (List Char)
  | [] => none
  | c :: rest =>
    if Html.startsCaseBlind pat (c :: rest) then some []
    else (c :: ·) <$> beforePattern pat rest

/-- The text of the first `<title>` element. -/
def titleText (cs : List Char) : Option (List Char) := do
  let afterOpen ← afterPattern "<title".toList cs
  let body ← Html.afterClose afterOpen
  beforePattern "</title>".toList body

/-- The preview of a page. -/
def parse (url html : String) : LinkPreview :=
  let p := (metaTags html.toList).foldl withTag { url := url }
  if p.title.isSome then p
  else
    match titleText html.toList with
    | some t =>
      let t := Text.decodeEntities (Text.trim (String.ofList t))
      { p with title := if t.isEmpty then none else some t }
    | none => p

theorem parse_empty (url : String) : (parse url "").isEmpty = true := by
  simp [parse, metaTags, titleText, afterPattern, isEmpty]

end LinkPreview

end CorpusBench
