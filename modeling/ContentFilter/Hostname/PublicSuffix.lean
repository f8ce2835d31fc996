import ContentFilter.Hostname.Resolver
import ContentFilter.Hostname.Syntax

/-!
# Public suffix rules

A list of rules says which suffixes are public. A plain rule makes its
own labels a suffix, a wildcard rule every name of one label more, and an
exception takes one such name out again, so that its labels but the first
are the suffix. An exception that applies wins; otherwise the rule that
covers the most labels does, and where no rule applies the last label is
the suffix.

`PublicSuffix.resolver` is the service these rules give for hostnames that
are domain names, and `PublicSuffix.standard` is the list in use.
-/

namespace ContentFilter.PublicSuffix

/-- **A rule of a public suffix list**, with the labels it names. -/
inductive Rule where
  /-- The labels are a suffix. -/
  | plain (labels : List Text)
  /-- The labels with one more in front are a suffix. -/
  | wildcard (labels : List Text)
  /-- The labels are not a suffix, though a wildcard covers them. -/
  | exception (labels : List Text)
  deriving DecidableEq, Repr

namespace Rule

/-- **The rule written as a line**: `*.` in front marks a wildcard and `!`
an exception. -/
def ofLine (line : Text) : Rule :=
  match line with
  | '*' :: '.' :: rest => wildcard (Hostname.labels rest)
  | '!' :: rest => exception (Hostname.labels rest)
  | _ => plain (Hostname.labels line)

/-- The number of labels that an exception leaves as the suffix, if it
covers the name. -/
def excepted? (name : List Text) : Rule → Option Nat
  | exception ls => if ls.isSuffixOf name then some (ls.length - 1) else none
  | _ => none

/-- **The number of labels a rule makes the suffix of a name**, if it covers
the name. -/
def covered? (name : List Text) : Rule → Option Nat
  | plain ls => if ls.isSuffixOf name then some ls.length else none
  | wildcard ls =>
    if ls.isSuffixOf name && ls.length < name.length then some (ls.length + 1) else none
  | exception _ => none

end Rule

/-- **The number of labels of the public suffix** of a name. -/
def suffixSize (rules : List Rule) (name : List Text) : Nat :=
  match rules.findSome? (Rule.excepted? name) with
  | some n => n
  | none => (rules.filterMap (Rule.covered? name)).foldl max 1

/-- **The public suffix of a hostname** that is a domain name; a final dot
belongs to it. -/
def suffix? (rules : List Rule) (hostname : Text) : Option Text :=
  if Hostname.isDomainName hostname then
    let name := Hostname.labels (Hostname.dropFinalDot hostname)
    let suffix := Text.join ['.'] (name.drop (name.length - suffixSize rules name))
    some (if hostname.getLast? = some '.' then suffix ++ ['.'] else suffix)
  else none

/-- **The service a list of rules gives.** -/
def resolver (rules : List Rule) : Resolver where
  isValid := Hostname.isDomainName
  suffix? := suffix? rules

/-- **The rules in use** beyond single labels, which need none. -/
def standard : List Rule :=
  ["co.uk", "com.au", "edu.au", "co.jp", "com.ua", "github.io", "*.ck", "!www.ck",
    "*.kawasaki.jp", "!city.kawasaki.jp"].map fun line => Rule.ofLine line.toList

end ContentFilter.PublicSuffix
