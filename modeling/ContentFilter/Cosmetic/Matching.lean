import ContentFilter.Cosmetic.Filter
import ContentFilter.Hostname.Resolver

/-!
# Matching pages

A cosmetic filter without hostnames applies everywhere. Any other one
applies on a page if one of its hostname patterns fits the hostname of the
page, and the first that fits is reported. A `~` in front of a pattern
makes no difference here: what it negates is for the caller to act upon.

A hostname fits if the page is on it or on a subdomain. An entity is
compared with the hostname without its public suffix. Both comparisons
count bytes from the end of the hostname, and counting may fail: a
service may answer with a suffix that is longer than the hostname. Then
matching fails too. A failure is `none`, and what matching says otherwise
is in a `some`.
-/

namespace ContentFilter

/-- **Whether a hostname ends with a name at a label**: the byte before the
name is read from its place. -/
def Hostname.endsAtLabel? (name hostname : Text) : Option Bool :=
  if Search.endsWith name hostname then do
    let place ← Text.placeFromEnd? name.byteLength hostname
    if place = 0 then some true
    else (hostname.utf8[place - 1]?).map (· = '.'.val.toUInt8)
  else some false

namespace HostnamePattern

/-- A pattern without one `~` in front. -/
def dropNegation (pattern : Text) : Text :=
  match pattern with
  | '~' :: rest => rest
  | _ => pattern

/-- **Whether a pattern fits a hostname.** There is no answer if bytes are
counted below zero. -/
def fits? (r : Resolver) (pattern hostname : Text) : Option Bool :=
  match Search.dropEnd? ['.', '*'] pattern with
  | some entity =>
    if r.isValid hostname then
      match r.suffix? hostname with
      | none => some false
      | some suffix => do
        -- the length of the suffix is not compared before
        let place ← Text.placeFromEnd? suffix.byteLength hostname
        match Hostname.frontAt? place hostname with
        | none => some false
        | some front =>
          if front = [] then some false
          else Hostname.endsAtLabel? (dropNegation entity) front
    else some false
  | none => Hostname.endsAtLabel? (dropNegation pattern) hostname

end HostnamePattern

/-- **Where a cosmetic filter applies.** -/
inductive CosmeticMatch where
  /-- On every page. -/
  | everywhere
  /-- On the pages that a hostname pattern of the filter fits. -/
  | hostname (pattern : Text)
  deriving DecidableEq, Repr

namespace CosmeticFilter

/-- **How a filter applies on the page of a hostname**, if it does. The
patterns are asked one by one up to the first that fits, and there is no
answer if one of them has none. -/
def match? (f : CosmeticFilter) (r : Resolver) (hostname : Text) :
    Option (Option CosmeticMatch) :=
  if f.hostnames = [] then some (some .everywhere)
  else if hostname = [] then some none
  else do
    let pattern? ← f.hostnames.findM? (HostnamePattern.fits? r · hostname)
    some (pattern?.map .hostname)

end CosmeticFilter

end ContentFilter
