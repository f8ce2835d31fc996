import ContentFilter.Network.Mask

/-!
# Shapes of patterns

How a pattern is anchored and whether it holds wildcards or separators
decides how it is compared with a URL. There are eight ways, the shapes of
patterns. The shape of a filter follows from its mask (`Shape.ofMask`) and
is kept beside it, since it is stored.
-/

namespace ContentFilter

/-- **The shape of a pattern.** -/
inductive Shape where
  /-- Behind a hostname, with wildcards or separators. -/
  | hostnameRegex
  /-- Behind a hostname, up to the end. -/
  | hostnameRightAnchor
  /-- Behind a hostname. -/
  | hostnameAnchored
  /-- With wildcards or separators. -/
  | regex
  /-- The whole URL. -/
  | leftRightAnchor
  /-- The start of the URL. -/
  | leftAnchor
  /-- The end of the URL. -/
  | rightAnchor
  /-- Any part of the URL. -/
  | plain
  deriving DecidableEq, Repr

namespace Shape

/-- Every shape. -/
def all : List Shape :=
  [hostnameRegex, hostnameRightAnchor, hostnameAnchored, regex, leftRightAnchor, leftAnchor,
    rightAnchor, plain]

/-- **The shape a mask asks for.** -/
def ofMask (m : Mask) : Shape :=
  if m.has .hostnameAnchor then
    if m.has .regex then hostnameRegex
    else if m.has .rightAnchor then hostnameRightAnchor
    else hostnameAnchored
  else if m.has .regex then regex
  else if m.has .leftAnchor then
    if m.has .rightAnchor then leftRightAnchor else leftAnchor
  else if m.has .rightAnchor then rightAnchor
  else plain

/-- **The name a shape is stored under.** -/
def name : Shape → String
  | hostnameRegex => "HostnameRegex"
  | hostnameRightAnchor => "HostnameRightAnchor"
  | hostnameAnchored => "HostnameAnchored"
  | regex => "Regex"
  | leftRightAnchor => "LeftRightAnchor"
  | leftAnchor => "LeftAnchor"
  | rightAnchor => "RightAnchor"
  | plain => "Plain"

/-- **The shape stored under a name**, if the name is one of them. -/
def ofName? (s : String) : Option Shape :=
  all.find? (·.name = s)

/-- A stored name reads back. -/
@[simp] theorem ofName?_name (s : Shape) : ofName? s.name = some s := by
  cases s <;> decide

end Shape

end ContentFilter
