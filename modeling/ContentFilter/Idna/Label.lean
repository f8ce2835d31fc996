import ContentFilter.Unicode.Composition
import ContentFilter.Unicode.Direction
import ContentFilter.Unicode.Joining

/-!
# Labels beyond ASCII

What a label of a hostname has to satisfy besides being made of characters
that may occur:

* it does not start with a mark;
* a joiner stands behind a sign that asks for one (a virama); the
  non-joiner may also stand between two letters that would otherwise join;
* in a hostname with right-to-left characters, each label runs in one
  direction: it starts with a letter, holds nothing of the other
  direction, ends with a letter or a digit, and does not mix Arabic and
  European digits if it runs from right to left.
-/

namespace ContentFilter.Idna

open Unicode (Direction direction)

/-- Whether a label starts with a mark. -/
def startsWithMark (label : Text) : Bool :=
  label.head?.any Unicode.isMark

/-! ## Joiners -/

/-- The class of the signs that join two consonants. -/
def viramaClass : Nat := 9

/-- The first character that joining does not pass over. -/
def firstLetter? (t : Text) : Option Char :=
  t.find? fun c => !Unicode.isTransparent c

/-- **Whether a joiner may stand** between two texts, the one before it in
reverse. -/
def allowsJoiner (joiner : Char) (before after : Text) : Bool :=
  before.head?.any (fun c => Unicode.combiningClass c == viramaClass)
    || (joiner == '\u200c'
      && (firstLetter? before).any Unicode.joinsNext
      && (firstLetter? after).any Unicode.joinsPrevious)

/-- Whether every joiner of a text that follows another one, given in
reverse, may stand where it does. -/
def joinersFit (before : Text) : Text → Bool
  | [] => true
  | c :: t =>
    (!(c == '\u200c' || c == '\u200d') || allowsJoiner c before t) && joinersFit (c :: before) t

/-! ## Directions -/

/-- Whether a class is one of right-to-left hostnames. -/
def isRightToLeft (d : Direction) : Bool :=
  d = .right || d = .arabic || d = .arabicNumber

/-- Whether a class fits any label, whichever its direction. -/
def fitsAnyDirection (d : Direction) : Bool :=
  d = .europeanNumber || d = .europeanSeparator || d = .europeanTerminator
    || d = .commonSeparator || d = .nonspacingMark || d = .boundaryNeutral || d = .otherNeutral

/-- **Whether a label runs in one direction**, given by the classes of its
characters. -/
def runsInOneDirection (ds : List Direction) : Bool :=
  let last? := ds.reverse.find? (· ≠ .nonspacingMark)
  match ds.head? with
  | none => true
  | some .left =>
    ds.all (fun d => d = .left || fitsAnyDirection d)
      && last?.any (fun d => d = .left || d = .europeanNumber)
  | some .right | some .arabic =>
    ds.all (fun d => isRightToLeft d || fitsAnyDirection d)
      && last?.any (fun d => isRightToLeft d || d = .europeanNumber)
      && !(ds.contains .europeanNumber && ds.contains .arabicNumber)
  | some _ => false

/-- **Whether the directions of all labels of a hostname fit.** -/
def directionsFit (labels : List Text) : Bool :=
  let directions := labels.map (·.map direction)
  !(directions.any (·.any isRightToLeft)) || directions.all runsInOneDirection

/-! ## Validity -/

/-- **A label that may occur in a hostname**, apart from its direction. -/
def isValidLabel (label : Text) : Bool :=
  !startsWithMark label && joinersFit [] label

end ContentFilter.Idna
