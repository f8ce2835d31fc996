import ContentFilter.Text.Blank

/-!
# Kinds of lines

What a line of a list holds is told before it is read, from marks alone:

* a single byte, a comment or a header is nothing to be read. Comments
  start with `!`, or with a `#` that starts no separator of a cosmetic
  rule; headers start with `[Adblock` or stand in brackets;
* one of the usual addresses of hosts files and a blank start a line of a
  hosts file;
* an anchor `|` starts a network rule, also behind `@@`;
* otherwise the first **marker** decides, a `#` followed by more of a
  separator. The separators of other programs are not supported. `##` and
  `#@#` make a cosmetic rule, unless a `$` stands before them: then the
  marker is part of an option of a network rule;
* everything else is a network rule, if it holds no `$$`.
-/

namespace ContentFilter

/-- **What a line of a list holds.** -/
inductive LineKind where
  /-- A network rule. -/
  | network
  /-- A cosmetic rule. -/
  | cosmetic
  /-- A line of a hosts file. -/
  | hosts
  /-- Nothing that is read. -/
  | unsupported
  deriving DecidableEq, Repr

namespace LineKind

/-- **A comment or a header**, or a line of one byte. -/
def isRemark (line : Text) : Bool :=
  (line.length = 1 && Text.isAscii line)
    || line.head? = some '!'
    || (line.head? = some '#' && !Search.startsWith ['#', '#'] line
      && !Search.startsWith ['#', '@', '#'] line)
    || Search.startsWith "[Adblock".toList line
    || (line.head? = some '[' && line.getLast? = some ']')

/-- The addresses that usually precede the hostnames of a hosts file. -/
def hostsAddresses : List Text :=
  ["127.0.0.1", "0.0.0.0", "::1", "::"].map String.toList

/-- **A line of a hosts file** by its looks. -/
def isHostsLine (line : Text) : Bool :=
  hostsAddresses.any fun address =>
    (Search.dropStart? address line).any fun rest => rest.head?.any Text.isBlank

/-- **What a `#` marks**, by what follows it. -/
inductive Marker where
  /-- It starts the separator of a cosmetic rule. -/
  | element
  /-- It starts a separator that is not supported. -/
  | foreign
  deriving DecidableEq, Repr

/-- What follows the `#` of a separator that is not supported. -/
def foreignEnds : List Text :=
  ["@$#", "@%#", "@?#", "%#", "$#", "?#"].map String.toList

/-- **The marker a `#` makes with what follows it**, if it makes one. -/
def marker? (after : Text) : Option Marker :=
  if foreignEnds.any (Search.startsWith · after) then some .foreign
  else if Search.startsWith ['#'] after || Search.startsWith ['@', '#'] after then some .element
  else none

/-- **The first marker of a line**, and what stands before it. -/
def firstMarker? : Text → Option (Text × Marker)
  | [] => none
  | c :: rest =>
    match if c = '#' then marker? rest else none with
    | some m => some ([], m)
    | none => (firstMarker? rest).map fun (before, m) => (c :: before, m)

/-- The kind of a line that holds no cosmetic rule. -/
def withoutElements (line : Text) : LineKind :=
  if Search.occursIn ['$', '$'] line then unsupported else network

/-- **The kind of a line.** -/
def ofLine (line : Text) : LineKind :=
  if isRemark line then unsupported
  else if isHostsLine line then hosts
  else if line.head? = some '|' || Search.startsWith ['@', '@', '|'] line then network
  else
    match firstMarker? line with
    | some (_, .foreign) => unsupported
    | some (before, .element) => if before.contains '$' then withoutElements line else cosmetic
    | none => withoutElements line

end LineKind

end ContentFilter
