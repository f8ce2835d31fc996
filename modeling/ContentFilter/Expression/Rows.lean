import ContentFilter.Expression.Reading
import ContentFilter.Pattern.Program

/-!
# Running regular expressions

An engine that tries no way of matching after the other. What is left of an
expression from some part on has a **row**, which says of every place in the
text whether it matches from there. The row in front of a part is found from
the row behind it in one pass over the text, and the rows of an expression from
its last part back to the first, so the work is the product of both lengths.

A row has one entry for each byte of the text and one for its end.

The engine takes the expressions in which nothing but a single byte is
repeated.
-/

namespace ContentFilter

namespace Expression

/-! ## Rows -/

/-- **A row**: one entry per byte of a text, and one for the end. -/
abbrev Row := List Bool

namespace Row

/-- The entry for the place a row starts at. -/
def here (r : Row) : Bool :=
  r.headD false

/-- The row in front of one byte that is asked for. -/
def ofByte (asked : UInt8 → Bool) : List UInt8 → Row → Row
  | [], _ => [false]
  | x :: text, behind => (asked x && here behind.tail) :: ofByte asked text behind.tail

/-- The row in front of some bytes, one after the other. -/
def ofBytes (bytes text : List UInt8) (behind : Row) : Row :=
  bytes.foldr (fun b behind => ofByte (· == b) text behind) behind

/-- The row in front of any number of bytes that are asked for. -/
def ofRun (asked : UInt8 → Bool) : List UInt8 → Row → Row
  | [], behind => behind
  | x :: text, behind =>
    let later := ofRun asked text behind.tail
    (here behind || (asked x && here later)) :: later

/-- A row at the start of the text, and at no other place. -/
def ofStart (behind : Row) : Row :=
  here behind :: behind.tail.map fun _ => false

/-- A row at the end of the text, and at no other place. -/
def ofEnd : List UInt8 → Row → Row
  | [], behind => behind
  | _ :: text, behind => false :: ofEnd text behind.tail

end Row

/-- **The row in front of an expression**, from the row behind it. -/
def row : Expression → List UInt8 → Row → Row
  | nothing, _, behind => behind
  | char c, text, behind => .ofBytes (String.utf8EncodeChar c) text behind
  | anyByte, text, behind => .ofByte (· != Pattern.lineFeed) text behind
  | oneOf cs, text, behind => .ofByte cs.utf8.contains text behind
  | atStart, _, behind => .ofStart behind
  | atEnd, text, behind => .ofEnd text behind
  | many e, text, behind =>
    match e.askedByte? with
    | some asked => .ofRun asked text behind
    | none => behind
  | sequence e f, text, behind => e.row text (f.row text behind)
  | either e f, text, behind => List.zipWith or (e.row text behind) (f.row text behind)

/-- **Whether an expression is found in a text**, by its row: nothing is asked of
what follows. -/
def findsByRows (e : Expression) (text : List UInt8) : Bool :=
  (e.row text (List.replicate (text.length + 1) true)).any id

/-! ## What the engine takes -/

/-- **Whether nothing but a single byte is repeated.** -/
def repeatsBytes : Expression → Bool
  | many e => e.askedByte?.isSome
  | sequence e f | either e f => e.repeatsBytes && f.repeatsBytes
  | _ => true

end Expression

/-- **The engine that goes by rows.** -/
def Engine.byRows : Engine := fun source =>
  match Expression.read? source with
  | some e => if e.repeatsBytes then some e.findsByRows else none
  | none => none

end ContentFilter
