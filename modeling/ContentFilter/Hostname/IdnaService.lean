import ContentFilter.Text.Basic

/-!
# The service for international hostnames

Hostnames with characters beyond ASCII are brought into ASCII by a service.
Nothing is assumed of its answers where rules are read. What has to be known
of them is stated where it is used, as laws of the service.
-/

namespace ContentFilter

/-- **A service for international hostnames.** -/
class IdnaService where
  /-- The ASCII form of a hostname in lower case; `none` if it has no such
  form. -/
  toAscii? : Text → Option Text

end ContentFilter
