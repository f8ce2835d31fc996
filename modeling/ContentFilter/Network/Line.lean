import ContentFilter.Text.Basic

/-!
# The parts of a network rule

A network rule is a line of five parts in a row: `@@` if it is an
exception, an anchor `|` or `||`, the pattern, an anchor `|`, and the
options behind a `$`. Only the pattern is always there, and it may be
empty. The options start at the last `$` of the line, so a `$` before that
one belongs to the pattern.

Cutting a line into its parts loses nothing: `NetworkLine.toText_ofText` says that
the parts written one after the other are the line.
-/

namespace ContentFilter

/-- **Where the pattern of a rule starts.** -/
inductive StartAnchor where
  /-- Anywhere. -/
  | none
  /-- At the start of the URL: `|`. -/
  | url
  /-- Behind a hostname of the URL: `||`. -/
  | hostname
  deriving DecidableEq, Repr

namespace StartAnchor

/-- An anchor as it is written. -/
def toText : StartAnchor → Text
  | none => []
  | url => ['|']
  | hostname => ['|', '|']

/-- **The anchor at the start of a text, and the rest.** -/
def read : Text → StartAnchor × Text
  | '|' :: '|' :: rest => (hostname, rest)
  | '|' :: rest => (url, rest)
  | rest => (none, rest)

/-- An anchor and the rest are the text. -/
theorem toText_read (t : Text) : (read t).1.toText ++ (read t).2 = t := by
  unfold read
  split <;> rfl

end StartAnchor

/-- **A network rule in its parts.** -/
structure NetworkLine where
  /-- Whether the rule is an exception. -/
  isException : Bool
  /-- Where the pattern starts. -/
  start : StartAnchor
  /-- The pattern, with the hostname it may start with. -/
  pattern : Text
  /-- Whether the pattern is anchored to the end. -/
  anchoredEnd : Bool
  /-- The options, as written. -/
  options? : Option Text
  deriving DecidableEq, Repr

namespace NetworkLine

/-- A mark as it is written, if it is there. -/
def markToText (mark : Text) (isThere : Bool) : Text :=
  if isThere then mark else []

/-- Options as they are written. -/
def optionsToText : Option Text → Text
  | none => []
  | some options => '$' :: options

/-- **A rule as it is written.** -/
def toText (l : NetworkLine) : Text :=
  markToText ['@', '@'] l.isException ++ l.start.toText ++ l.pattern ++
    markToText ['|'] l.anchoredEnd ++ optionsToText l.options?

/-- The mark of an exception at the start of a text, and the rest. -/
def readException : Text → Bool × Text
  | '@' :: '@' :: rest => (true, rest)
  | rest => (false, rest)

/-- The text before the last `$`, and the options behind it. -/
def readOptions (t : Text) : Text × Option Text :=
  match Search.splitLast? '$' t with
  | some (body, options) => (body, some options)
  | none => (t, none)

/-- The text before an anchor at the end, and whether there is one. -/
def readEnd (t : Text) : Text × Bool :=
  match Search.dropEnd? ['|'] t with
  | some body => (body, true)
  | none => (t, false)

/-- **The parts of a line.** -/
def ofText (t : Text) : NetworkLine :=
  let (isException, rest) := readException t
  let (body, options?) := readOptions rest
  let (start, body) := StartAnchor.read body
  let (pattern, anchoredEnd) := readEnd body
  { isException, start, pattern, anchoredEnd, options? }

/-- **Cutting a line into its parts loses nothing.** -/
theorem toText_ofText (t : Text) : (ofText t).toText = t := by
  have exception (t : Text) :
      markToText ['@', '@'] (readException t).1 ++ (readException t).2 = t := by
    unfold readException
    split <;> rfl
  have options (t : Text) :
      (readOptions t).1 ++ optionsToText (readOptions t).2 = t := by
    unfold readOptions
    split
    · next h => exact (Search.splitLast?_eq_some.1 h).1.symm
    · exact List.append_nil t
  have endAnchor (t : Text) :
      (readEnd t).1 ++ markToText ['|'] (readEnd t).2 = t := by
    unfold readEnd
    split
    · next h => exact (Search.dropEnd?_eq_some.1 h).symm
    · exact List.append_nil t
  have joined : (ofText t).toText =
      markToText ['@', '@'] (readException t).1 ++
        (((StartAnchor.read (readOptions (readException t).2).1).1.toText ++
          ((readEnd (StartAnchor.read (readOptions (readException t).2).1).2).1 ++
            markToText ['|']
              (readEnd (StartAnchor.read (readOptions (readException t).2).1).2).2)) ++
          optionsToText (readOptions (readException t).2).2) := by
    simp [toText, ofText]
  rw [joined, endAnchor, StartAnchor.toText_read, options, exception]

end NetworkLine

end ContentFilter
