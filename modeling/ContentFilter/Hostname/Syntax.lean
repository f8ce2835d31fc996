import ContentFilter.Hostname.Labels

/-!
# Domain names

When a hostname is a domain name at all. One dot at the very end is
allowed and dropped first. What is left is a sequence of labels between
dots, and

* a label has 1 to 63 characters: letters and digits of ASCII, characters
  beyond ASCII, and hyphens, with no hyphen at either end;
* a name of more than one label has at most 253 characters and 127 labels;
* the last label is not a number, which rules out addresses. A number is a
  run of digits with an optional exponent, or one of the words for
  infinities and undefined values (`isNumeral`).
-/

namespace ContentFilter.Hostname

/-- **A text without one final dot.** -/
def dropFinalDot (t : Text) : Text :=
  (Search.dropEnd? ['.'] t).getD t

/-- The character may start or end a label. -/
def isLabelEnd (c : Char) : Bool :=
  Text.isAlphanumeric c || !Text.isAsciiChar c

/-- **A label of a domain name.** -/
def isLabel (l : Text) : Bool :=
  l ≠ [] && l.length ≤ 63 && l.all (fun c => isLabelEnd c || c == '-')
    && l.head?.all isLabelEnd && l.getLast?.all isLabelEnd

/-- A run of one or more digits. -/
def isDigits (t : Text) : Bool :=
  t ≠ [] && t.all Char.isDigit

/-- An exponent: digits behind an optional sign. -/
def isExponent (t : Text) : Bool :=
  match t with
  | '+' :: r | '-' :: r => isDigits r
  | _ => isDigits t

/-- **A numeral**: digits with an optional exponent, or a word for a value
that is not finite. -/
def isNumeral (t : Text) : Bool :=
  let t := Text.lower t
  isDigits t
    || (match Search.splitFirst? 'e' t with
      | some (mantissa, exponent) => isDigits mantissa && isExponent exponent
      | none => false)
    || t = "inf".toList || t = "infinity".toList || t = "nan".toList

/-- **A domain name.** -/
def isDomainName (t : Text) : Bool :=
  let name := dropFinalDot t
  let ls := labels name
  (ls.length ≤ 1 || (name.length ≤ 253 && ls.length ≤ 127))
    && ls.all isLabel && !(ls.getLast?.any isNumeral)

end ContentFilter.Hostname
