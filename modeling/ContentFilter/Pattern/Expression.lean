import ContentFilter.Pattern.Basic

/-!
# Patterns as regular expressions

A pattern with its anchors can be written as a regular expression, and it
is shown in that form. Three passes write it: what has a meaning of its own
in expressions gets a backslash, then `*` becomes `.*`, and then `^` becomes
the class of the separating characters or the end. No pass meets what it
looks for in what an earlier one wrote, so each character has an expression
of its own (`expression_eq_flatMap`).
-/

namespace ContentFilter.Pattern

/-- The characters with a meaning of their own in expressions. -/
def escapedChars : Text :=
  "|.$+?\x7b\x7d()[]\\".toList

/-- The expression for a separator. -/
def separatorExpression : Text :=
  "(?:[".toList ++ separators ++ "]|$)".toList

/-- **A pass over a text**: each character that is asked for is replaced. -/
def replaceEach (isReplaced : Char → Bool) (replacement : Char → Text) (t : Text) : Text :=
  t.flatMap fun c => if isReplaced c then replacement c else [c]

/-- A pass goes over the parts of a text one after the other. -/
@[simp] theorem replaceEach_append (isReplaced : Char → Bool) (replacement : Char → Text)
    (s t : Text) :
    replaceEach isReplaced replacement (s ++ t) =
      replaceEach isReplaced replacement s ++ replaceEach isReplaced replacement t :=
  List.flatMap_append

/-- A pass leaves a character that is not asked for. -/
theorem replaceEach_singleton (isReplaced : Char → Bool) (replacement : Char → Text) {c : Char}
    (h : isReplaced c = false) : replaceEach isReplaced replacement [c] = [c] := by
  rw [replaceEach, List.flatMap_singleton, h]
  rfl

/-- The pass that puts a backslash before what has a meaning of its own. -/
def escape (t : Text) : Text :=
  replaceEach escapedChars.contains (fun c => ['\\', c]) t

/-- The pass that writes the wildcards. -/
def writeWildcards (t : Text) : Text :=
  replaceEach (· == '*') (fun _ => ['.', '*']) t

/-- The pass that writes the separators. -/
def writeSeparators (t : Text) : Text :=
  replaceEach (· == '^') (fun _ => separatorExpression) t

/-- **The expression for a pattern**, without its anchors. -/
def expression (pattern : Text) : Text :=
  writeSeparators (writeWildcards (escape pattern))

/-- The expression for a pattern is made part by part. -/
@[simp] theorem expression_append (s t : Text) :
    expression (s ++ t) = expression s ++ expression t := by
  simp [expression, escape, writeWildcards, writeSeparators]

/-- **The expression for one character of a pattern.** -/
def expressionOfChar (c : Char) : Text :=
  if c = '*' then ['.', '*']
  else if c = '^' then separatorExpression
  else if escapedChars.contains c then ['\\', c]
  else [c]

/-- **No pass goes over what an earlier one wrote** for a character. -/
theorem expression_singleton (c : Char) : expression [c] = expressionOfChar c := by
  by_cases hescaped : escapedChars.contains c = true
  · have escaped : (escapedChars.all fun c => expression [c] = expressionOfChar c) = true := by
      decide
    exact of_decide_eq_true (List.all_eq_true.1 escaped c (List.contains_iff_mem.1 hescaped))
  by_cases hwildcard : c = '*'
  · subst hwildcard
    decide
  by_cases hseparator : c = '^'
  · subst hseparator
    decide
  rw [Bool.not_eq_true] at hescaped
  rw [expression, escape, replaceEach_singleton _ _ hescaped, writeWildcards,
    replaceEach_singleton (· == '*') _ (beq_false_of_ne hwildcard), writeSeparators,
    replaceEach_singleton (· == '^') _ (beq_false_of_ne hseparator), expressionOfChar,
    if_neg hwildcard, if_neg hseparator, hescaped]
  rfl

/-- **The passes replace every character at once.** -/
theorem expression_eq_flatMap (pattern : Text) :
    expression pattern = pattern.flatMap expressionOfChar := by
  induction pattern with
  | nil => rfl
  | cons c pattern ih =>
    rw [← List.singleton_append, expression_append, expression_singleton, ih]
    rfl

/-- **A pattern and where it is anchored.** -/
structure Anchored where
  /-- The pattern. -/
  pattern : Text
  /-- Whether it has to start where the text starts. -/
  left : Bool
  /-- Whether it has to end where the text ends. -/
  right : Bool
  deriving DecidableEq, Repr

namespace Anchored

/-- **The expression for an anchored pattern.** -/
def expression (a : Anchored) : Text :=
  (if a.left then ['^'] else []) ++ Pattern.expression a.pattern ++
    (if a.right then ['$'] else [])

end Anchored

end ContentFilter.Pattern
