import ContentFilter.Search

/-!
# Text

Rules, lists, hostnames and URLs are texts: Unicode scalar values in
order. A text is a plain list of characters, so that whatever is known
of lists – splitting, joining, initial and final segments – is known of
texts.

## Two kinds of case and class

The language of rules is ASCII: its delimiters, its option names and the
letters it compares without case. `lower` and `isAlphanumeric` are
therefore the ASCII notions, and every other character is left as it is
and belongs to no class. Hostnames follow the rules of all of Unicode and
are handled in `ContentFilter.Hostname`.

## Lines

A list is split at line feeds. A carriage return right before a line feed
belongs to the line end, and a line feed at the very end of the text
starts no further line.
-/

namespace ContentFilter

/-- **A text**: Unicode scalar values in order. -/
abbrev Text := List Char

namespace Text

/-- **An ASCII character**: one of the first 128. -/
def isAsciiChar (c : Char) : Bool :=
  c.val < 0x80

/-- **An ASCII text.** -/
def isAscii (t : Text) : Bool :=
  t.all isAsciiChar

/-- Texts one behind the other are ASCII if both are. -/
theorem isAscii_append {s t : Text} (hs : isAscii s = true) (ht : isAscii t = true) :
    isAscii (s ++ t) = true := by
  unfold isAscii
  rw [List.all_append, Bool.and_eq_true]
  exact ⟨hs, ht⟩

/-- The lower case of an ASCII character is ASCII. -/
theorem isAsciiChar_toLower {c : Char} (h : isAsciiChar c = true) :
    isAsciiChar c.toLower = true := by
  have all : ∀ n : Fin 128, isAsciiChar (Char.ofNat n.val).toLower = true := by decide
  have hc : c.val.toNat < 128 := UInt32.lt_iff_toNat_lt.1 (of_decide_eq_true h)
  exact Char.ofNat_toNat c ▸ all ⟨c.toNat, hc⟩

/-- **Lower case of the ASCII letters**; all else is kept. -/
def lower (t : Text) : Text :=
  t.map Char.toLower

/-- Lowering distributes over concatenation. -/
@[simp] theorem lower_append (s t : Text) : lower (s ++ t) = lower s ++ lower t := by
  simp [lower]

/-- Lowering keeps the number of characters. -/
@[simp] theorem length_lower (t : Text) : (lower t).length = t.length := by
  simp [lower]

/-- **An ASCII letter or digit.** -/
def isAlphanumeric (c : Char) : Bool :=
  c.isAlphanum

/-- Letters and digits are ASCII. -/
theorem isAsciiChar_of_isAlphanumeric {c : Char} (h : isAlphanumeric c = true) :
    isAsciiChar c = true := by
  have below {l : Char} (hl : l.val < 0x80) (hle : c.val ≤ l.val) : isAsciiChar c = true :=
    decide_eq_true (UInt32.lt_of_le_of_lt hle hl)
  rcases Bool.or_eq_true_iff.1 (show (c.isAlpha || c.isDigit) = true from h) with hletter | hdigit
  · rcases Bool.or_eq_true_iff.1 (show (c.isUpper || c.isLower) = true from hletter) with hu | hl
    · have range : c.val ≥ 'A'.val ∧ c.val ≤ 'Z'.val := of_decide_eq_true hu
      exact below (by decide) range.2
    · exact below (l := 'z') (by decide) (of_decide_eq_true (Bool.and_eq_true_iff.1 hl).2)
  · exact below (l := '9') (by decide) (of_decide_eq_true (Bool.and_eq_true_iff.1 hdigit).2)

/-! ## Lines -/

/-- A line without the carriage return that ends it, if one does. -/
def dropReturn (line : Text) : Text :=
  (Search.dropEnd? ['\r'] line).getD line

/-- **The lines among the pieces between line feeds**: the last piece is a
line only if something stands in it, and no line feed follows it. -/
def linesOfPieces : List Text → List Text
  | [] => []
  | [last] => if last = [] then [] else [last]
  | piece :: rest => dropReturn piece :: linesOfPieces rest

/-- **The lines of a text.** -/
def lines (t : Text) : List Text :=
  linesOfPieces (t.splitOn '\n')

/-- The empty text has no line. -/
@[simp] theorem lines_nil : lines [] = [] := by
  simp [lines, linesOfPieces]

/-! ## Joining -/

/-- **Pieces joined by a separator.** -/
def join (separator : Text) (pieces : List Text) : Text :=
  separator.intercalate pieces

end Text

end ContentFilter
