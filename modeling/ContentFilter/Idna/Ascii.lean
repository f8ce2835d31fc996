import ContentFilter.Hostname.IdnaService
import ContentFilter.Idna.Label
import ContentFilter.Idna.Mapping
import ContentFilter.Idna.Punycode

/-!
# The ASCII form of a hostname

A hostname in lower case is brought into ASCII label by label. Its
characters are mapped and composed first, and only then is it split at the
dots, since a full stop of another script is a dot by then. A label that
is ASCII is kept; any other is written as its Punycode behind `xn--`. A
label that already starts with `xn--` has to be one that this would have
written: its Punycode can be decoded, and the result is not ASCII and
needs neither mapping nor composition.

Nothing is asked of the ASCII characters of a hostname, of the lengths of
its ASCII labels, or of hyphens, and labels may be empty. Since the work
of writing and reading Punycode grows with the square of the length, it is
bounded: `maxLabelLength` characters are written and `maxPunycodeLength`
read.
-/

namespace ContentFilter.Idna

/-- The mark of a label in Punycode. -/
def punycodeMark : Text := ['x', 'n', '-', '-']

/-- The most characters of a label beyond ASCII. -/
def maxLabelLength : Nat := 1000

/-- The most characters that are read as Punycode. -/
def maxPunycodeLength : Nat := 2000

/-- Whether a label is short enough to be written. -/
def isWritable (label : Text) : Bool :=
  Text.isAscii label || label.length ≤ maxLabelLength

/-- **The label that one in Punycode stands for.** -/
def decodeLabel? (punycode : Text) : Option Text := do
  let label ← if punycode.length ≤ maxPunycodeLength then Punycode.decode? punycode else none
  if Text.isAscii label || !label.all isMapped || Unicode.composed label ≠ label then none
  else some label

/-- **A label as it is read**: decoded, if it is marked. -/
def readLabel? (label : Text) : Option Text :=
  match Search.dropStart? punycodeMark label with
  | some punycode => decodeLabel? punycode
  | none => some label

/-- **A label as it is written**: in Punycode, unless it is ASCII. -/
def writeLabel (label : Text) : Text :=
  if Text.isAscii label then label else punycodeMark ++ Punycode.encode label

/-- **The ASCII form of a hostname**; `none` if it has no such form. -/
def toAscii? (hostname : Text) : Option Text := do
  let mapped ← map? hostname
  let labels ← ((Unicode.composed mapped).splitOn '.').mapM readLabel?
  if labels.all isWritable && labels.all isValidLabel && directionsFit labels then
    some (Text.join ['.'] (labels.map writeLabel))
  else none

/-- **The service in use.** -/
instance service : IdnaService where
  toAscii? := toAscii?

end ContentFilter.Idna
