import ContentFilter.Pattern.Basic

/-!
# Regular expressions

The part of the language of regular expressions that patterns are written in,
as trees. A character stands for itself, `.` for a byte that is no line feed, a
class for one of its bytes; `^` and `$` ask for the start and for the end of the
text; there are expressions one after the other, alternatives, and `*` for any
number of times.
-/

namespace ContentFilter

/-- **A regular expression.** -/
inductive Expression where
  /-- Nothing is asked for. -/
  | nothing
  /-- A character that stands for itself. -/
  | char (c : Char)
  /-- A byte that is no line feed. -/
  | anyByte
  /-- A byte of one of some characters. -/
  | oneOf (cs : Text)
  /-- The start of the text. -/
  | atStart
  /-- The end of the text. -/
  | atEnd
  /-- Any number of times. -/
  | many (e : Expression)
  /-- One after the other. -/
  | sequence (e f : Expression)
  /-- One or the other. -/
  | either (e f : Expression)
  deriving DecidableEq, Repr

namespace Expression

/-- **Expressions one after the other.** -/
def ofItems : List Expression → Expression
  | [] => nothing
  | e :: es => sequence e (ofItems es)

/-- **The bytes an expression asks for**, if it asks for a single one. -/
def askedByte? : Expression → Option (UInt8 → Bool)
  | anyByte => some (· != Pattern.lineFeed)
  | oneOf cs => some cs.utf8.contains
  | _ => none

end Expression

end ContentFilter
