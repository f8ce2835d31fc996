import ContentFilter.SortedList
import ContentFilter.Text.Basic

/-!
# Punycode

The ASCII form of a label. The ASCII characters of the label come first,
in order, then a hyphen if there are any, then a list of numbers that says
where the other characters go, from the lowest code point to the highest:
each number counts the places passed over since the last insertion, one
round through the growing label for each code point in between.

A number is written with digits of base 36, least first. The digit that
ends it is told by a threshold, which moves with a **bias** that follows
the size of the numbers written so far (`adapt`).

`decode?` undoes `encode`. It fails on characters that are no digits, on a
number cut short, and on code points that no character has.
-/

namespace ContentFilter.Idna.Punycode

/-! ## Digits and thresholds -/

/-- The digit of a value below 36: letters first, then `0` to `9`. -/
def digit (d : Nat) : Char :=
  Char.ofNat (if d < 26 then 'a'.toNat + d else '0'.toNat + (d - 26))

/-- The value of a digit. -/
def digitValue? (c : Char) : Option Nat :=
  if 'a' ≤ c && c ≤ 'z' then some (c.toNat - 'a'.toNat)
  else if c.isDigit then some (c.toNat - '0'.toNat + 26)
  else none

/-- **The threshold of a digit**, between 1 and 26: a digit below it ends
the number. The digits of a number have the positions 36, 72, and so on. -/
def threshold (bias position : Nat) : Nat :=
  max 1 (min 26 (position - bias))

/-- A threshold is never zero. -/
theorem threshold_pos (bias position : Nat) : 1 ≤ threshold bias position := by
  unfold threshold
  omega

/-- A threshold is at most 26. -/
theorem threshold_le (bias position : Nat) : threshold bias position ≤ 26 := by
  unfold threshold
  omega

/-- The bias that fits a number, by how often it can be divided. -/
def biasOf (delta steps : Nat) : Nat :=
  if 455 < delta then biasOf (delta / 35) (steps + 36)
  else steps + 36 * delta / (delta + 38)
termination_by delta
decreasing_by omega

/-- **The bias behind a number** `delta`, when `count` characters have been
placed; the first number counts for less. -/
def adapt (delta count : Nat) (isFirst : Bool) : Nat :=
  let delta := if isFirst then delta / 700 else delta / 2
  biasOf (delta + delta / count) 0

/-! ## Writing -/

/-- **The digits of a number.** -/
def writeNumber (bias position q : Nat) : Text :=
  let t := threshold bias position
  if q < t then [digit q]
  else digit (t + (q - t) % (36 - t)) :: writeNumber bias (position + 36) ((q - t) / (36 - t))
termination_by q
decreasing_by
  have := threshold_pos bias position
  exact Nat.lt_of_le_of_lt (Nat.div_le_self _ _) (by omega)

/-- **Writing being under way.** -/
structure Writer where
  /-- The places passed over since the last insertion. -/
  delta : Nat
  /-- The bias for the next number. -/
  bias : Nat
  /-- The number of characters placed. -/
  placed : Nat
  /-- The digits written, in the order of the numbers. -/
  digits : Text

/-- Pass one character of the label while the code point `n` is placed. -/
def Writer.pass (basic n : Nat) (w : Writer) (c : Char) : Writer :=
  if c.toNat < n then { w with delta := w.delta + 1 }
  else if c.toNat = n then
    { delta := 0
      bias := adapt w.delta (w.placed + 1) (w.placed == basic)
      placed := w.placed + 1
      digits := w.digits ++ writeNumber w.bias 36 w.delta }
  else w

/-- Place code points in rising order, all below `n` being done. -/
def Writer.place (label : Text) (basic : Nat) : Nat → Writer → List Nat → Writer
  | _, w, [] => w
  | n, w, m :: rest =>
    let start := { w with delta := w.delta + (m - n) * (w.placed + 1) }
    let done := label.foldl (Writer.pass basic m) start
    Writer.place label basic (m + 1) { done with delta := done.delta + 1 } rest

/-- **The Punycode of a label.** -/
def encode (label : Text) : Text :=
  let basic := label.filter Text.isAsciiChar
  let others := (label.filter fun c => !Text.isAsciiChar c).map Char.toNat
  let written := Writer.place label basic.length 0x80 ⟨0, 72, basic.length, []⟩
    (SortedList.ofList others)
  basic ++ (if basic = [] then [] else ['-']) ++ written.digits

/-! ## Reading -/

/-- Numbers, and the weights of their digits, are of 32 bits. -/
def numberBound : Nat := 0x100000000

/-- **A number read off the front of a text**, added up behind `i` with
digits worth `weight`; and the rest of the text. -/
def readNumber? (bias : Nat) : (position weight i : Nat) → Text → Option (Nat × Text)
  | _, _, _, [] => none
  | position, weight, i, c :: rest =>
    match digitValue? c with
    | none => none
    | some d =>
      let t := threshold bias position
      let j := i + d * weight
      if numberBound ≤ j then none
      else if d < t then some (j, rest)
      else if numberBound ≤ weight * (36 - t) then none
      else readNumber? bias (position + 36) (weight * (36 - t)) j rest

/-- A number takes up at least one digit. -/
theorem length_lt_of_readNumber? {bias position weight i j : Nat} {t rest : Text}
    (h : readNumber? bias position weight i t = some (j, rest)) : rest.length < t.length := by
  induction t generalizing position weight i with
  | nil => simp [readNumber?] at h
  | cons c t ih =>
    rw [readNumber?] at h
    split at h
    · simp at h
    · simp only at h
      split at h
      · simp at h
      · split at h
        · simp only [Option.some.injEq, Prod.mk.injEq] at h
          simp [← h.2]
        · split at h
          · simp at h
          · exact Nat.lt_succ_of_lt (ih h)

/-- The character of a code point, if there is one. -/
def charOf? (n : Nat) : Option Char :=
  if h : n.isValidChar then some (Char.ofNatAux n h) else none

/-- Insert characters as the numbers of a text say, the next one with a
code point from `n` on and not before the place `i`. -/
def insertAll? (n i bias : Nat) (label : Text) (t : Text) : Option Text :=
  if t = [] then some label
  else
    match _h : readNumber? bias 36 1 i t with
    | none => none
    | some (j, rest) =>
      let count := label.length + 1
      let m := n + j / count
      match charOf? m with
      | none => none
      | some c =>
        insertAll? m (j % count + 1) (adapt (j - i) count (i == 0))
          (label.insertIdx (j % count) c) rest
termination_by t.length
decreasing_by exact length_lt_of_readNumber? _h

/-- **The label with the given Punycode.** -/
def decode? (t : Text) : Option Text :=
  match Search.splitLast? '-' t with
  | some (basic, digits) =>
    if basic = [] || !Text.isAscii basic then none else insertAll? 0x80 0 72 basic digits
  | none => insertAll? 0x80 0 72 [] t

end ContentFilter.Idna.Punycode
