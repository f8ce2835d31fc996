import ContentFilter.Network.Filter
import ContentFilter.Request.Basic
import ContentFilter.SortedList

/-!
# Matching requests

A network filter matches a request if both its options and its pattern
do.

The options ask for the kind of the request, for the parties it runs
between, and for the domain of the page it comes from. The pattern is
compared with the URL, in the way the shape of the filter asks for. Behind
`||` two things are asked. The hostname of the filter has to start at a
label of the request's hostname (`isAnchoredBy`), and the pattern is then
compared with what follows the first occurrence of that hostname in the
URL (`offsetBehind?`).

Places in a URL are counted in bytes, and are found in the URL with its
letters in lower case. The lower case of an ASCII letter takes as many
bytes as the letter, so the places are the same in the URL as given.
-/

namespace ContentFilter

/-- **Whether a hostname starts with `name` at one of its labels.** The
first occurrence of `name` decides, and nothing occurs everywhere. -/
def isAnchoredBy (name hostname : Text) : Bool :=
  name = [] ||
    match Search.firstIndex? name.utf8 hostname.utf8 with
    | none => false
    | some 0 => true
    | some (n + 1) => hostname.utf8[n]? = some '.'.val.toUInt8

namespace Request

/-- **The place in the URL right behind the first occurrence of a
hostname.** -/
def offsetBehind? (r : Request) (hostname : Text) : Option Nat :=
  (Search.firstIndex? hostname.utf8 r.lowerUrl.utf8).map (· + hostname.byteLength)

end Request

namespace NetworkFilter

/-- **The URL as this filter compares it**, in bytes. -/
def comparedUrl (f : NetworkFilter) (r : Request) : List UInt8 :=
  (r.comparedUrl (f.mask.has .matchCase)).utf8

/-- **What the URL has behind the filter's hostname**, if the filter is
anchored by a hostname of the request. -/
def behindHostname? (f : NetworkFilter) (r : Request) : Option (List UInt8) :=
  if isAnchoredBy f.hostname r.hostname then
    (r.offsetBehind? f.hostname).map fun n => (f.comparedUrl r).drop n
  else none

/-- **Whether the pattern matches.** Two shapes leave it to an engine. -/
def matchesPattern (f : NetworkFilter) (engine : Engine) (r : Request) : Bool :=
  match f.shape with
  | .hostnameRegex => (f.behindHostname? r).any (f.program engine).isMatch
  | .hostnameRightAnchor => (f.behindHostname? r).any (· = f.pattern.utf8)
  | .hostnameAnchored => (f.behindHostname? r).any (Search.startsWith f.pattern.utf8)
  | .regex => (f.program engine).isMatch (f.comparedUrl r)
  | .leftRightAnchor => f.comparedUrl r = f.pattern.utf8
  | .leftAnchor => Search.startsWith f.pattern.utf8 (f.comparedUrl r)
  | .rightAnchor => Search.endsWith f.pattern.utf8 (f.comparedUrl r)
  | .plain => Search.occursIn f.pattern.utf8 (f.comparedUrl r)

/-- Whether the source of a request is among some domains: its general
domain or its hostname is. -/
def isAmong (domains : List Text) (r : Request) : Bool :=
  SortedList.contains domains r.sourceDomain || SortedList.contains domains r.sourceHostname

/-- **Whether the options match.** -/
def matchesOptions (f : NetworkFilter) (r : Request) : Bool :=
  f.mask.has (.kind r.kind)
    && (if r.isThirdParty then f.mask.has .thirdParty else f.mask.has .firstParty)
    && (f.domains = [] || isAmong f.domains r)
    && !(isAmong f.excludedDomains r)

/-- **Whether a filter matches a request.** -/
def isMatch (f : NetworkFilter) (engine : Engine) (r : Request) : Bool :=
  f.matchesOptions r && f.matchesPattern engine r

end NetworkFilter

end ContentFilter
