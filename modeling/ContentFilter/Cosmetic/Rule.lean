import ContentFilter.Cosmetic.Filter
import ContentFilter.Hostname.Normal
import ContentFilter.Text.Blank

/-!
# From rules to cosmetic filters

A cosmetic rule is a list of hostnames between commas, a separator, and a
selector. The separator is the first `##` or `#@#` of the line; the second
one takes back what other rules hide, and then at least one hostname has
to be named.

A selector that starts with `script:contains(` names scripts to block,
and one that starts with `script:inject(` or `+js(` a script to inject;
both have to end with `)`, and what stands between is kept. The pattern of
scripts to block may be written between two slashes, which are dropped.
The arguments of a script to inject are trimmed and joined anew. Whatever
is left as the selector may not be empty.

What is wrong with a rule is found in this order: no separator, a hostname
without an ASCII form, no hostname where one is needed, a script that is
not closed, an empty selector.
-/

namespace ContentFilter

/-- **Why a cosmetic rule is refused.** -/
inductive CosmeticError where
  /-- There is no separator. -/
  | noSeparator
  /-- A rule that takes back names no hostname. -/
  | unhideWithoutHostnames
  /-- The selector is empty. -/
  | emptySelector
  /-- A script is not closed. -/
  | scriptNotClosed
  /-- A hostname has no ASCII form. -/
  | hostnameNotAscii
  deriving DecidableEq, Repr

/-- The wording of an error. -/
def CosmeticError.message : CosmeticError → String
  | noSeparator => "missing ## or #@# separator"
  | unhideWithoutHostnames => "unhide rule without hostnames"
  | emptySelector => "empty selector"
  | scriptNotClosed => "invalid script syntax"
  | hostnameNotAscii => "punycode error"

/-- **A cosmetic rule in its parts.** -/
structure CosmeticLine where
  /-- What stands before the separator. -/
  hostnames : Text
  /-- Whether the separator is `#@#`. -/
  isUnhide : Bool
  /-- What stands behind the separator. -/
  selector : Text
  deriving DecidableEq, Repr

namespace CosmeticLine

/-- **The parts of a line**, cut at the first separator. -/
def ofText? : Text → Option CosmeticLine
  | [] => none
  | '#' :: '#' :: rest => some ⟨[], false, rest⟩
  | '#' :: '@' :: '#' :: rest => some ⟨[], true, rest⟩
  | c :: rest => (ofText? rest).map fun l => { l with hostnames := c :: l.hostnames }

/-- **The hostname patterns of a line**, as written. -/
def patterns (l : CosmeticLine) : List Text :=
  ((l.hostnames.splitOn ',').map Text.trim).filter (· ≠ [])

end CosmeticLine

namespace HostnamePattern

/-- The end of an entity. -/
def entityEnd : Text := ['.', '*']

/-- **The normal form of a hostname pattern.** The `~` at its start and the
end of an entity are no part of the hostname. -/
def normalize? [IdnaService] (pattern : Text) : Option Text :=
  let lowered := Unicode.lowercase pattern
  if Text.isAscii lowered then some lowered
  else
    let (negation, rest) :=
      match lowered with
      | '~' :: rest => (['~'], rest)
      | _ => ([], lowered)
    let (core, entity) :=
      match Search.dropEnd? entityEnd rest with
      | some core => (core, entityEnd)
      | none => (rest, [])
    (IdnaService.toAscii? core).map fun core => negation ++ core ++ entity

end HostnamePattern

/-- **What a selector asks for.** -/
inductive SelectorKind where
  /-- Elements to hide. -/
  | elements
  /-- Scripts to block. -/
  | scriptBlock
  /-- A script to inject. -/
  | scriptInject
  deriving DecidableEq, Repr

namespace SelectorKind

/-- A text without a slash at both ends. -/
def dropSlashes (t : Text) : Text :=
  match t with
  | '/' :: rest => (Search.dropEnd? ['/'] rest).getD t
  | _ => t

/-- Arguments trimmed and joined anew. -/
def joinArguments (t : Text) : Text :=
  Text.join [',', ' '] ((t.splitOn ',').map Text.trim)

/-- The text behind the start of a script to inject. -/
def afterInject? (t : Text) : Option Text :=
  (Search.dropStart? "script:inject(".toList t).or (Search.dropStart? "+js(".toList t)

/-- **What a selector asks for, and what is kept of it.** -/
def read (t : Text) : Except CosmeticError (SelectorKind × Text) :=
  match Search.dropStart? "script:contains(".toList t with
  | some rest =>
    match Search.dropEnd? [')'] rest with
    | some body => .ok (scriptBlock, dropSlashes body)
    | none => .error .scriptNotClosed
  | none =>
    match afterInject? t with
    | some rest =>
      match Search.dropEnd? [')'] rest with
      | some arguments => .ok (scriptInject, joinArguments arguments)
      | none => .error .scriptNotClosed
    | none => .ok (elements, t)

end SelectorKind

namespace CosmeticLine

/-- **Whether a flag holds** for a line with a selector of some kind. -/
def holds (l : CosmeticLine) (kind : SelectorKind) : CosmeticFlag → Bool
  | .unhide => l.isUnhide
  | .scriptBlock => kind = .scriptBlock
  | .scriptInject => kind = .scriptInject
  | .unicode => l.patterns.any fun p => !Text.isAscii p

/-- **The filter of a line.** -/
def toFilter [IdnaService] (l : CosmeticLine) (rawLine? : Option Text) :
    Except CosmeticError CosmeticFilter :=
  match l.patterns.mapM HostnamePattern.normalize? with
  | none => .error .hostnameNotAscii
  | some hostnames =>
    if l.isUnhide && hostnames = [] then .error .unhideWithoutHostnames
    else
      match SelectorKind.read (Text.trim l.selector) with
      | .error e => .error e
      | .ok (kind, selector) =>
        if selector = [] then .error .emptySelector
        else .ok (.make (.of (l.holds kind)) hostnames selector rawLine?)

end CosmeticLine

/-- **The cosmetic filter of a line.** The line itself is kept if asked
for. -/
def CosmeticFilter.ofLine [IdnaService] (line : Text) (keepsLine : Bool) :
    Except CosmeticError CosmeticFilter :=
  match CosmeticLine.ofText? line with
  | none => .error .noSeparator
  | some l => l.toFilter (if keepsLine then some line else none)

end ContentFilter
