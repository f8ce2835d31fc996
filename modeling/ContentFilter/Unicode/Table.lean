import ContentFilter.Text.Blank

/-!
# Tables of code points

The properties of Unicode are tables, and they are written down here as
the standard writes them: code points in hexadecimal, ranges with a
hyphen, entries separated by blanks. `ranges` reads a table of ranges and
`runs` one of runs, in which each code point of a range has an image.

In a run `0100-012E/2=0101` every second code point from `0100` to `012E`
has an image, the first one `0101` and the others at the same distance.
-/

namespace ContentFilter.Unicode

/-- The value of a hexadecimal digit. -/
def hexDigit (c : Char) : Nat :=
  if c.isDigit then c.toNat - '0'.toNat else c.toNat - 'A'.toNat + 10

/-- The number a text of hexadecimal digits stands for. -/
def hexNumber (t : Text) : Nat :=
  t.foldl (fun n c => n * 16 + hexDigit c) 0

/-- The parts of a text before and after the first `c`; all of it and
nothing, if there is no `c`. -/
def partsAt (c : Char) (t : Text) : Text × Text :=
  (Search.splitFirst? c t).getD (t, [])

/-- **A range of code points**, both ends included. -/
structure Range where
  /-- The first code point. -/
  first : Nat
  /-- The last code point. -/
  last : Nat
  deriving DecidableEq, Repr

namespace Range

/-- A range as it is written, `0300-036F`, or `00AD` for one code point. -/
def ofText (t : Text) : Range :=
  match Search.splitFirst? '-' t with
  | some (first, last) => ⟨hexNumber first, hexNumber last⟩
  | none => ⟨hexNumber t, hexNumber t⟩

/-- **Whether a character is in a range.** -/
def contains (r : Range) (c : Char) : Bool :=
  r.first ≤ c.toNat && c.toNat ≤ r.last

end Range

/-- **A table of ranges.** -/
def ranges (table : String) : List Range :=
  (Text.words table.toList).map Range.ofText

/-- **Whether a character is in one of the ranges.** -/
def covers (rs : List Range) (c : Char) : Bool :=
  rs.any (·.contains c)

/-- **A run**: code points at equal steps, with images at the same steps. -/
structure Run where
  /-- The code points the run spans. -/
  range : Range
  /-- The distance between neighbours of the run. -/
  step : Nat
  /-- The image of the first code point. -/
  image : Nat
  deriving DecidableEq, Repr

namespace Run

/-- A run as it is written, `0100-012E/2=0101`. -/
def ofText (t : Text) : Run :=
  let (source, image) := partsAt '=' t
  let (range, step) := partsAt '/' source
  ⟨Range.ofText range, max 1 (hexNumber step), hexNumber image⟩

/-- **The image of a character** that is on a run. -/
def image? (r : Run) (c : Char) : Option Char :=
  if r.range.contains c && (c.toNat - r.range.first) % r.step == 0 then
    some (Char.ofNat (r.image + (c.toNat - r.range.first)))
  else none

end Run

/-- **A table of runs.** -/
def runs (table : String) : List Run :=
  (Text.words table.toList).map Run.ofText

/-- **The image of a character** on the first run it is on. -/
def image? (rs : List Run) (c : Char) : Option Char :=
  rs.findSome? (·.image? c)

/-- A table that gives every range a number. -/
def numbered (table : String) : List (Range × Nat) :=
  (Text.words table.toList).map fun t =>
    let (range, number) := partsAt '=' t
    (Range.ofText range, hexNumber number)

/-- **The number of a character**; zero if no range has it. -/
def number (entries : List (Range × Nat)) (c : Char) : Nat :=
  ((entries.find? (·.1.contains c)).map (·.2)).getD 0

end ContentFilter.Unicode
