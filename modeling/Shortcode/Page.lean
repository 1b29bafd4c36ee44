import Shortcode.Page.Slug
import Shortcode.Value.Display

/-!
# Pages

The page value that templates see: title, slug, collection and tags.  The head of the file gives
them; title and slug fall back to the file's name, and the collection is the first folder below the
content root.
-/

namespace Shortcode

/-- Why a file has no page value. -/
inductive PageError where
  /-- The tags are a value of this kind, which has no items. -/
  | notIterable (kind : String)
  | tooLong (what : TooLong)
deriving DecidableEq, Repr

/-- The wording of an error. -/
def PageError.message : PageError → String
  | .notIterable kind => "'" ++ kind ++ "' object is not iterable"
  | .tooLong what => what.message

namespace Page

/-- The value under a key of the head, if it counts as set. -/
def set? (head : List (Value × Value)) (key : String) : Option Value :=
  (Value.find? (.text key) head).filter Value.isTrue

/-- The text of a value of the head. -/
def written (content : Value) : Except PageError String := content.written.mapError .tooLong

/-- The tags of a page: one text, or the items of a list, or the keys of a mapping. -/
def tags (head : List (Value × Value)) : Except PageError (List String) :=
  match set? head "tags" with
  | none => .ok []
  | some (.text tag) => .ok [tag]
  | some other =>
    match other.items? with
    | some items => items.mapM written
    | none => .error (.notIterable other.kindWord)

/-- The slug of a page, which its name gives if the head does not. -/
def slug (name : String) (head : List (Value × Value)) : Except PageError String :=
  match set? head "slug" with
  | some content => written content
  | none => .ok (slugify name)

/-- The first folder below the content root that leads to the file, if there is one. -/
def collection (directory file : Path) (root : Option Path) : String :=
  match root with
  | none => ""
  | some root =>
    if file.hasNull || root.hasNull then ""
    else match (directory.resolve file).below? (directory.resolve root) with
    | some (folder :: _ :: _) => folder
    | _ => ""

/-- The page value of a file, whose path and content root start at a directory. -/
def context (directory file : Path) (root : Option Path) (head : List (Value × Value)) :
    Except PageError Value := do
  let slug ← slug file.stem head
  let tags ← tags head
  return Value.record [
    ("title", (set? head "title").getD (.text (titleize file.name))),
    ("slug", .text slug),
    ("collection", .text (collection directory file root)),
    ("tags", .list (tags.map .text))]

end Page

end Shortcode
