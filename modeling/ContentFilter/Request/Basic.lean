import ContentFilter.Hostname.Resolver
import ContentFilter.Request.Kind
import ContentFilter.Url

/-!
# Requests

A request as rules see it: its URL, the hostname it goes to, the hostname
of the page it comes from, the general domains of both, and its kind.

There are three ways to one. `make` takes all parts as given, `ofHostnames`
asks a resolver for the general domains, and `ofUrls?` takes the hostnames
from two URLs as well. All three lower the ASCII letters of every part but
the URL, of which both forms are at hand (`url` and `lowerUrl`).

A source without a host leaves the source hostname and the source domain
empty. The domain a request goes to is then never the same, so such a
request is between two parties.
-/

namespace ContentFilter

/-- **A network request.** -/
structure Request where
  /-- What the request is for. -/
  kind : RequestKind
  /-- The URL, as given. -/
  url : Text
  /-- The hostname the request goes to. -/
  hostname : Text
  /-- The hostname of the page the request comes from. -/
  sourceHostname : Text
  /-- The general domain of the source. -/
  sourceDomain : Text
  /-- The general domain the request goes to. -/
  hostDomain : Text
  deriving DecidableEq, Repr

/-- **Why no request could be made.** -/
inductive RequestError where
  /-- The URL has no host. -/
  | noHost
  deriving DecidableEq, Repr

/-- The wording of an error. -/
def RequestError.message : RequestError → String
  | noHost => "hostname parsing failed"

namespace Request

/-- **The URL with its ASCII letters in lower case.** -/
def lowerUrl (r : Request) : Text :=
  Text.lower r.url

/-- **The form of the URL that is compared**: as given if case matters. -/
def comparedUrl (r : Request) (matchCase : Bool) : Text :=
  if matchCase then r.url else r.lowerUrl

/-- **A request from all its parts.** -/
def make (url hostname sourceHostname sourceDomain hostDomain : Text) (kind : RequestKind) :
    Request where
  kind := kind
  url := url
  hostname := Text.lower hostname
  sourceHostname := Text.lower sourceHostname
  sourceDomain := Text.lower sourceDomain
  hostDomain := Text.lower hostDomain

/-- **A request between two hostnames.** A hostname without a general
domain stands for itself. -/
def ofHostnames (url hostname sourceHostname : Text) (kind : RequestKind) (r : Resolver) :
    Request :=
  let hostname := Text.lower hostname
  let sourceHostname := Text.lower sourceHostname
  make url hostname sourceHostname (r.generalDomain sourceHostname) (r.generalDomain hostname)
    kind

/-- **A request for one URL from the page at another.** -/
def ofUrls? (url source : Text) (kind : String) (r : Resolver) : Except RequestError Request :=
  match Url.host? url with
  | none => .error .noHost
  | some hostname =>
    .ok (ofHostnames url hostname ((Url.host? source).getD []) (RequestKind.ofName kind) r)

/-- **Whether the request is between two parties.** -/
def isThirdParty (r : Request) : Bool :=
  r.sourceDomain ≠ r.hostDomain

end Request

end ContentFilter
