import ContentFilter.Text.Blank

/-!
# What a list says about itself

The comments at the head of a list may name it and say where it comes
from, as `! Title: …` and `! Homepage: …`. Of several such comments the
first one counts, wherever in the list it stands.
-/

namespace ContentFilter

/-- **What a list says about itself.** -/
structure Metadata where
  /-- The title of the list. -/
  title? : Option Text := none
  /-- The homepage of the list. -/
  homepage? : Option Text := none
  deriving DecidableEq, Repr

namespace Metadata

/-- **The key and the value of a comment**, parted by its first colon. -/
def keyed? (line : Text) : Option (Text × Text) :=
  match line with
  | '!' :: comment =>
    (Search.splitFirst? ':' comment).map fun (key, value) => (Text.trim key, Text.trim value)
  | _ => none

/-- The value of a comment with the given key. -/
def valueOf? (key : Text) (line : Text) : Option Text :=
  (keyed? line).bind fun (k, value) => if k = key then some value else none

/-- The key of a title. -/
def titleKey : Text := "Title".toList

/-- The key of a homepage. -/
def homepageKey : Text := "Homepage".toList

/-- **What some lines say about the list they are in**, each without blanks
at its ends. -/
def ofLines (lines : List Text) : Metadata where
  title? := lines.findSome? (valueOf? titleKey)
  homepage? := lines.findSome? (valueOf? homepageKey)

end Metadata

end ContentFilter
