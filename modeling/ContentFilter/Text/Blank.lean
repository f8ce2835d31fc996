import ContentFilter.Text.Basic

/-!
# Blanks

The characters of Unicode's `White_Space` property, and the two things
rules do with them: a line, a selector or an argument is trimmed of the
blanks at both ends, and a line of a hosts file is split into words at
runs of blanks.
-/

namespace ContentFilter.Text

/-- **A blank**: a character with the property `White_Space`. -/
def isBlank (c : Char) : Bool :=
  let n := c.toNat
  (0x09 ≤ n && n ≤ 0x0D) || n == 0x20 || n == 0x85 || n == 0xA0 || n == 0x1680
    || (0x2000 ≤ n && n ≤ 0x200A) || n == 0x2028 || n == 0x2029 || n == 0x202F
    || n == 0x205F || n == 0x3000

/-- A text without the blanks at its start. -/
def trimStart (t : Text) : Text :=
  t.dropWhile isBlank

/-- A text without the blanks at its end. -/
def trimEnd (t : Text) : Text :=
  Search.dropEndWhile isBlank t

/-- **A text without the blanks at both ends.** -/
def trim (t : Text) : Text :=
  trimEnd (trimStart t)

/-- The empty text has nothing to trim. -/
@[simp] theorem trim_nil : trim [] = [] := rfl

/-- A trimmed text does not start with a blank. -/
theorem head?_trim {t : Text} {c : Char} (h : (trim t).head? = some c) : isBlank c = false := by
  obtain ⟨r, hr⟩ := Search.dropEndWhile_initial isBlank (trimStart t)
  have hc : (trimStart t).head? = some c := by
    rw [← hr, List.head?_append, show (Search.dropEndWhile isBlank (trimStart t)).head? = some c
      from h]
    rfl
  have := List.head?_dropWhile_not isBlank t
  rw [show (t.dropWhile isBlank).head? = some c from hc] at this
  simpa using this

/-- A trimmed text does not end with a blank. -/
theorem getLast?_trim {t : Text} {c : Char} (h : (trim t).getLast? = some c) :
    isBlank c = false :=
  Search.getLast?_dropEndWhile h

/-- **Trimming twice is trimming once.** -/
@[simp] theorem trim_trim (t : Text) : trim (trim t) = trim t := by
  have start : trimStart (trim t) = trim t := by
    rw [trimStart]
    cases ht : trim t with
    | nil => rfl
    | cons c r =>
      have : isBlank c = false := head?_trim (by rw [ht]; rfl)
      rw [List.dropWhile_cons_of_neg (by simp [this])]
  rw [trim, start]
  exact Search.dropEndWhile_eq_self fun c hc => getLast?_trim hc

/-- **The words of a text**: its maximal runs of characters that are not
blank. -/
def words (t : Text) : List Text :=
  (t.splitOnP isBlank).filter (· ≠ [])

end ContentFilter.Text
