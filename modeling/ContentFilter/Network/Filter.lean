import ContentFilter.Network.Shape
import ContentFilter.Pattern.Program
import ContentFilter.Token

/-!
# Network filters

A network filter is a rule as it is applied: a mask of flags, the pattern
to compare with URLs, the hostname the pattern follows, the domains the
rule is limited to or excluded from, and the resource it redirects to.

Beside these it carries two things that follow from them, its shape and
its identity, and the line it was made from if that was to be kept.
`NetworkFilter.make` fills in what follows. Two filters are the same
(`isSame`) if they agree in everything but what follows, so a stored
filter whose identity was tampered with is still the same filter.

## Identity

The identity of a filter is mixed from the words that describe it,
`identityWords`. Two separators keep apart the domains from the excluded
domains and the pattern from the hostname.
-/

namespace ContentFilter

/-- **A filter for network requests.** -/
structure NetworkFilter where
  /-- What the filter says by yes or no. -/
  mask : Mask
  /-- How the pattern is compared with a URL. -/
  shape : Shape
  /-- The pattern. -/
  pattern : Text
  /-- The hostname the pattern follows, or nothing. -/
  hostname : Text
  /-- The domains the filter is limited to; none if it is not limited. -/
  domains : List Text
  /-- The domains the filter does not apply on. -/
  excludedDomains : List Text
  /-- The resource to redirect to, or nothing. -/
  redirect : Text
  /-- The line the filter was made from, if it was kept. -/
  rawLine? : Option Text
  /-- The identity. -/
  id : Hash
  deriving DecidableEq, Repr

namespace NetworkFilter

/-- **The words a filter is identified by.** -/
def identityWords (pattern hostname : Text) (domains excludedDomains : List Text)
    (redirect : Text) : List UInt32 :=
  redirect.codePoints ++ domains.map Hash.ofText ++ ['~'.val] ++
    excludedDomains.map Hash.ofText ++ pattern.codePoints ++ ['|'.val] ++ hostname.codePoints

/-- **The identity of a filter.** -/
def identity (mask : Mask) (pattern hostname : Text) (domains excludedDomains : List Text)
    (redirect : Text) : Hash :=
  Hash.mix (Hash.seed mask.bits)
    (identityWords pattern hostname domains excludedDomains redirect)

/-- **A filter with the shape and the identity that follow from the rest.** -/
def make (mask : Mask) (pattern hostname : Text) (domains excludedDomains : List Text)
    (redirect : Text) (rawLine? : Option Text) : NetworkFilter where
  mask := mask
  shape := Shape.ofMask mask
  pattern := pattern
  hostname := hostname
  domains := domains
  excludedDomains := excludedDomains
  redirect := redirect
  rawLine? := rawLine?
  id := identity mask pattern hostname domains excludedDomains redirect

/-- **Whether two filters are the same**, whatever their shapes and
identities. -/
def isSame (f g : NetworkFilter) : Bool :=
  f.mask = g.mask && f.pattern = g.pattern && f.hostname = g.hostname
    && f.domains = g.domains && f.excludedDomains = g.excludedDomains
    && f.redirect = g.redirect && f.rawLine? = g.rawLine?

/-- Every filter is the same as itself. -/
@[simp] theorem isSame_self (f : NetworkFilter) : f.isSame f = true := by
  simp [isSame]

/-- **The tokens of a filter**: those of its pattern and its hostname, and
the domain it is limited to if there is just one and none is excluded. -/
def tokens (f : NetworkFilter) : List Hash :=
  (match f.domains, f.excludedDomains with
    | [domain], [] => [Hash.ofText domain]
    | _, _ => []) ++ patternTokens f.pattern ++ patternTokens f.hostname

/-- **A filter as it is written**: the line it was made from, or else its
marks, hostname and pattern. Options are not written. -/
def toText (f : NetworkFilter) : Text :=
  match f.rawLine? with
  | some line => line
  | none =>
    (if f.mask.has .exception then ['@', '@'] else []) ++
      (if f.mask.has .hostnameAnchor then ['|', '|'] ++ f.hostname
        else if f.mask.has .leftAnchor then ['|']
        else []) ++
      f.pattern ++ (if f.mask.has .rightAnchor then ['|'] else [])

/-- **The pattern with its anchors.** Behind a hostname a pattern has to
follow directly. -/
def anchored (f : NetworkFilter) : Pattern.Anchored where
  pattern := f.pattern
  left := f.mask.has .leftAnchor || f.mask.has .hostnameAnchor
  right := f.mask.has .rightAnchor

/-- **The program an engine makes of a filter's pattern.** -/
def program (f : NetworkFilter) (engine : Engine) : Pattern.Program :=
  .compile engine f.anchored

end NetworkFilter

end ContentFilter
