import ContentFilter.Text.Basic

/-!
# Addresses

When a text is the address of a host: four decimal numbers between dots,
or groups of hexadecimal digits between colons.

A decimal number is at most 255 and has no leading zero. Of the groups
there are eight, of one to four digits each; `::` may stand once for one
group or more, and the last two groups may be written as four decimal
numbers.
-/

namespace ContentFilter.Address

/-- A decimal number of an address. -/
def isOctet (t : Text) : Bool :=
  t ≠ [] && t.length ≤ 3 && t.all Char.isDigit && (t.length = 1 || t.head? ≠ some '0')
    && t.foldl (fun n c => n * 10 + (c.toNat - '0'.toNat)) 0 ≤ 255

/-- **Four decimal numbers between dots.** -/
def isDotted (t : Text) : Bool :=
  let octets := t.splitOn '.'
  octets.length = 4 && octets.all isOctet

/-- A hexadecimal digit. -/
def isHexDigit (c : Char) : Bool :=
  c.isDigit || ('a' ≤ c && c ≤ 'f') || ('A' ≤ c && c ≤ 'F')

/-- A group of hexadecimal digits. -/
def isGroup (t : Text) : Bool :=
  t ≠ [] && t.length ≤ 4 && t.all isHexDigit

/-- **The number of groups** that pieces between colons make up, if they
do. Where it is allowed, the last piece may be dotted and count twice. -/
def groupCount? (allowsDotted : Bool) : List Text → Option Nat
  | [] => some 0
  | [t] => if isGroup t then some 1 else if allowsDotted && isDotted t then some 2 else none
  | t :: ts => if isGroup t then (groupCount? allowsDotted ts).map (· + 1) else none

/-- The pieces of a part of an address; an empty part has none. -/
def pieces (t : Text) : List Text :=
  if t = [] then [] else t.splitOn ':'

/-- The parts of an address before and after its first `::`. -/
def splitGap? : Text → Option (Text × Text)
  | [] => none
  | ':' :: ':' :: t => some ([], t)
  | c :: t => (splitGap? t).map fun (head, tail) => (c :: head, tail)

/-- **Groups between colons.** -/
def isGrouped (t : Text) : Bool :=
  match splitGap? t with
  | none => groupCount? true (pieces t) = some 8
  | some (head, tail) =>
    match groupCount? false (pieces head), groupCount? true (pieces tail) with
    | some m, some n => m + n ≤ 7
    | _, _ => false

/-- **The address of a host.** -/
def isAddress (t : Text) : Bool :=
  isDotted t || isGrouped t

end ContentFilter.Address
