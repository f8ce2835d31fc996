import ContentFilter.Expression.Basic
import ContentFilter.Pattern.Expression

/-!
# Reading a regular expression

How the text of a regular expression is read, as far as patterns need it: a
character alone or behind a backslash, `.`, a class in brackets, `^`, `$`,
`*`, `|`, and groups that are not captured. Characters are read one by one and
from left to right. A `*` belongs to the item right before it, a `|` parts what
stands in a group, and a group is an item once it is closed, so that beside the
level that is being read only the levels around it have to be kept.

What is not of this form has no reading: counted and optional items, ranges
and negations in classes, and whatever else expressions may hold. That no
pattern is written with them is part of what is proved about patterns.
-/

namespace ContentFilter

namespace Expression

/-! ## Levels -/

/-- **What was read of a group**, or of the whole expression. -/
structure Level where
  /-- The alternatives that are complete, the last one first. -/
  alternatives : List Expression
  /-- The items of the one that is being read, the last one first. -/
  items : List Expression

namespace Level

/-- A level of which nothing was read. -/
def empty : Level :=
  ⟨[], []⟩

/-- One more item. -/
def push (l : Level) (e : Expression) : Level :=
  { l with items := e :: l.items }

/-- The last item, any number of times. -/
def repeatLast? (l : Level) : Option Level :=
  match l.items with
  | [] => none
  | e :: items => some { l with items := many e :: items }

/-- The start of a further alternative. -/
def part (l : Level) : Level :=
  ⟨ofItems l.items.reverse :: l.alternatives, []⟩

/-- **The expression of a level** that is complete. -/
def close (l : Level) : Expression :=
  l.alternatives.foldl (fun later e => either e later) (ofItems l.items.reverse)

end Level

/-! ## Characters -/

/-- **What the next character is read as.** -/
inductive Mode where
  /-- An item, or what stands between items. -/
  | item
  /-- What stands behind a backslash. -/
  | escaped
  /-- What stands behind the `(` of a group. -/
  | opened
  /-- What stands behind the `(?` of a group. -/
  | marked
  /-- A member of a class, of which some were read, the last one first. -/
  | inClass (cs : Text)

/-- **A reading**: what was read so far. -/
structure Reading where
  /-- What the next character is read as. -/
  mode : Mode
  /-- The level that is being read. -/
  level : Level
  /-- The levels around it, the closest one first. -/
  outer : List Level

/-- The characters that do not stand for themselves. -/
def metaChars : Text :=
  '*' :: '^' :: Pattern.escapedChars

/-- **A character that may stand in a class for itself.** Each one stands there
once. -/
def isClassChar (c : Char) : Bool :=
  Text.isAsciiChar c && !("[]\\^-~".toList.contains c)

namespace Reading

/-- **A reading of which nothing was read.** -/
def start : Reading :=
  ⟨.item, .empty, []⟩

/-- One more item was read. -/
def push (r : Reading) (e : Expression) : Reading :=
  ⟨.item, r.level.push e, r.outer⟩

/-- The end of a group, which is an item of the level around it. -/
def close? (r : Reading) : Option Reading :=
  match r.outer with
  | [] => none
  | level :: outer => some ⟨.item, level.push r.level.close, outer⟩

/-- A character that does not stand for itself. -/
def stepMeta? (r : Reading) (c : Char) : Option Reading :=
  match c with
  | '\\' => some { r with mode := .escaped }
  | '(' => some { r with mode := .opened }
  | '[' => some { r with mode := .inClass [] }
  | '.' => some (r.push .anyByte)
  | '^' => some (r.push .atStart)
  | '$' => some (r.push .atEnd)
  | '*' => r.level.repeatLast?.map fun level => { r with level := level }
  | '|' => some { r with level := r.level.part }
  | ')' => r.close?
  | _ => none

/-- A character of a class. -/
def stepClass? (r : Reading) (cs : Text) (c : Char) : Option Reading :=
  if c = ']' then
    if cs = [] then none else some (r.push (.oneOf cs.reverse))
  else if isClassChar c && !cs.contains c then some { r with mode := .inClass (c :: cs) }
  else none

/-- **One character is read.** -/
def step? (r : Reading) (c : Char) : Option Reading :=
  match r.mode with
  | .item => if metaChars.contains c then r.stepMeta? c else some (r.push (.char c))
  | .escaped => if Pattern.escapedChars.contains c then some (r.push (.char c)) else none
  | .opened => if c = '?' then some { r with mode := .marked } else none
  | .marked => if c = ':' then some ⟨.item, .empty, r.level :: r.outer⟩ else none
  | .inClass cs => r.stepClass? cs c

/-- A character that has no meaning of its own is read as itself. -/
theorem step?_of_not_meta {c : Char} (h : metaChars.contains c = false) (level : Level)
    (outer : List Level) :
    step? ⟨.item, level, outer⟩ c = some ⟨.item, level.push (.char c), outer⟩ := by
  simp only [step?, h]
  rfl

/-- Behind a backslash a character that has a meaning of its own is read as
itself. -/
theorem step?_escaped {c : Char} (h : Pattern.escapedChars.contains c = true) (level : Level)
    (outer : List Level) :
    step? ⟨.escaped, level, outer⟩ c = some ⟨.item, level.push (.char c), outer⟩ := by
  simp only [step?, h]
  rfl

/-- **Some characters are read**, one after the other. -/
def run? (r : Reading) (t : Text) : Option Reading :=
  t.foldlM step? r

/-- The first character is read first. -/
theorem run?_cons (r : Reading) (c : Char) (t : Text) :
    r.run? (c :: t) = (r.step? c).bind (·.run? t) :=
  List.foldlM_cons

/-- A text is read part by part. -/
theorem run?_append (r : Reading) (s t : Text) :
    r.run? (s ++ t) = (r.run? s).bind (·.run? t) :=
  List.foldlM_append

/-- **The expression that was read**, if nothing is left open. -/
def finish? (r : Reading) : Option Expression :=
  match r.mode, r.outer with
  | .item, [] => some r.level.close
  | _, _ => none

end Reading

/-- **The expression a text is read as.** -/
def read? (t : Text) : Option Expression :=
  (Reading.start.run? t).bind Reading.finish?

end Expression

end ContentFilter
