import ContentFilter.Network.Filter
import ContentFilter.Network.Line
import ContentFilter.Network.OptionTally
import ContentFilter.SortedList

/-!
# From rules to network filters

A network rule becomes a filter in three steps. The line is cut into its
parts (`NetworkLine.ofText`); its options are read, and the first that cannot be
read refuses the rule; and the hostname at the front of a pattern behind
`||` is brought into normal form, which may refuse the rule as well.

## Wildcards at the ends

A wildcard at an end of a pattern says what is true of any pattern that is
not anchored there, so it is dropped together with the anchor. At the end
that goes for every `*`. At the start it goes for one `*`, and only if the
pattern follows no hostname and holds no other wildcard or separator.

## The flags

The mask starts with what the options add up to. Then the anchors are set,
and those are cleared again where a wildcard was dropped; last comes whether
what is left of the pattern holds a wildcard or a separator.
-/

namespace ContentFilter

/-- **A rule that has been read**: its parts and its options. -/
structure NetworkRule where
  /-- The parts of the line. -/
  line : NetworkLine
  /-- The options. -/
  options : List FilterOption
  deriving DecidableEq, Repr

namespace NetworkRule

/-- **The rule on a line.** -/
def ofText [IdnaService] (t : Text) : Except NetworkError NetworkRule :=
  let line := NetworkLine.ofText t
  match line.options? with
  | none => .ok ⟨line, []⟩
  | some options => (FilterOption.listOfText options).map fun options => ⟨line, options⟩

/-- **What the options add up to.** -/
def tally (r : NetworkRule) : OptionTally :=
  .ofOptions r.line.isException r.options

/-! ## The pattern -/

/-- **A character of a hostname** behind `||`. -/
def isHostnameChar (c : Char) : Bool :=
  Text.isAlphanumeric c || c == '.' || c == '-' || c == '_' || !Text.isAsciiChar c

/-- **The hostname of a rule**, as written: it runs as long as the
characters are those of hostnames. -/
def hostname (r : NetworkRule) : Text :=
  match r.line.start with
  | .hostname => r.line.pattern.takeWhile isHostnameChar
  | _ => []

/-- What is left of the pattern behind the hostname. -/
def body (r : NetworkRule) : Text :=
  match r.line.start with
  | .hostname => r.line.pattern.dropWhile isHostnameChar
  | _ => r.line.pattern

/-- Whether wildcards at the end are dropped. -/
def dropsEnd (r : NetworkRule) : Bool :=
  r.body.getLast? = some '*'

/-- The body without the wildcards at its end. -/
def endDropped (r : NetworkRule) : Text :=
  Search.dropEndWhile (· == '*') r.body

/-- Whether a wildcard at the start is dropped. -/
def dropsStart (r : NetworkRule) : Bool :=
  r.line.start ≠ .hostname && r.endDropped.head? = some '*' && Pattern.isPlain r.endDropped.tail

/-- The body without the wildcards at its ends that are dropped. -/
def bothDropped (r : NetworkRule) : Text :=
  if r.dropsStart then r.endDropped.tail else r.endDropped

/-- Whether the case of letters matters. -/
def matchesCase (r : NetworkRule) : Bool :=
  r.tally.mask.has .matchCase

/-- **The pattern of the filter.** -/
def pattern (r : NetworkRule) : Text :=
  if r.matchesCase then r.bothDropped else Text.lower r.bothDropped

/-! ## The flags -/

/-- **The mask of the filter.** -/
def mask (r : NetworkRule) : Mask :=
  let m := r.tally.maskWithKinds
  let m := if r.line.anchoredEnd then m.put .rightAnchor true else m
  let m :=
    match r.line.start with
    | .hostname => m.put .hostnameAnchor true
    | .url => m.put .leftAnchor true
    | .none => m
  let m := if r.dropsEnd then m.put .rightAnchor false else m
  let m := if r.dropsStart then m.put .leftAnchor false else m
  m.put .regex (!Pattern.isPlain r.bothDropped)

/-- **The filter of a rule.** -/
def toFilter [IdnaService] (r : NetworkRule) (rawLine? : Option Text) :
    Except NetworkError NetworkFilter :=
  match Hostname.normalize? r.hostname with
  | none => .error .hostnameNotAscii
  | some hostname =>
    .ok (.make r.mask r.pattern hostname
      (SortedList.ofList r.tally.domains) (SortedList.ofList r.tally.excludedDomains)
      r.tally.redirect rawLine?)

end NetworkRule

/-- **The network filter of a line.** The line itself is kept if asked for. -/
def NetworkFilter.ofLine [IdnaService] (line : Text) (keepsLine : Bool) :
    Except NetworkError NetworkFilter :=
  match NetworkRule.ofText line with
  | .error e => .error e
  | .ok rule => rule.toFilter (if keepsLine then some line else none)

end ContentFilter
