import ContentFilter.Hostname.Labels
import ContentFilter.Text.Bytes

/-!
# General domains

Whether a request stays within one party is decided on **general
domains**: the general domain of a hostname is its public suffix and one
label more, so `foo.co.uk` for `sub.foo.co.uk`. Which suffixes are public
is not a matter of syntax. It is asked of a `Resolver`, and nothing is
assumed of its answers: it may name a suffix the hostname does not end
in, or one longer than the hostname. All that is ever used of a suffix is
how many bytes it has.

`front?` cuts a hostname before that many bytes and drops the dot in
front of the cut, and has no value for a suffix that is longer. The
general domain starts from it. Entity patterns are matched from the place
of the cut (`Hostname.frontAt?`), which they count from the end of the
hostname without comparing the lengths before.
-/

namespace ContentFilter

/-- **A public suffix service**: two arbitrary functions of a hostname. -/
structure Resolver where
  /-- Whether a hostname is one the service can reason about. -/
  isValid : Text → Bool
  /-- The public suffix of a hostname. -/
  suffix? : Text → Option Text

/-- **What stands before a place of a hostname and the dot before it.** -/
def Hostname.frontAt? (place : Nat) (hostname : Text) : Option Text := do
  let (front, _) ← Text.cutBytes? place hostname
  Search.dropEnd? ['.'] front

namespace Resolver

/-- **A suffix overshoots a hostname** if it is longer. -/
def Overshoots (r : Resolver) (hostname : Text) : Prop :=
  r.isValid hostname = true ∧
    ∃ suffix, r.suffix? hostname = some suffix ∧
      Text.byteLength hostname < Text.byteLength suffix

/-- **The part of a hostname before the dot before its suffix**, together
with the suffix: the hostname's own last bytes, as many as the service's
answer has. -/
def front? (r : Resolver) (hostname : Text) : Option (Text × Text) := do
  if r.isValid hostname then
    let suffix ← r.suffix? hostname
    let (front, tail) ← Text.cutLastBytes? (Text.byteLength suffix) hostname
    let front ← Search.dropEnd? ['.'] front
    some (front, tail)
  else none

/-- A hostname is its front, a dot and its suffix. -/
theorem front?_eq_some {r : Resolver} {hostname front tail : Text} :
    r.front? hostname = some (front, tail) ↔
      r.isValid hostname = true ∧ hostname = front ++ '.' :: tail ∧
        ∃ suffix, r.suffix? hostname = some suffix ∧
          Text.byteLength tail = Text.byteLength suffix := by
  rw [front?]
  split
  · next hv =>
    simp only [Option.bind_eq_bind, Option.bind_eq_some_iff, Option.some.injEq, Prod.mk.injEq,
      Prod.exists, Text.cutLastBytes?_eq_some, Search.dropEnd?_eq_some, hv, true_and]
    constructor
    · rintro ⟨suffix, hs, p, q, ⟨hpq, hq⟩, f, hp, rfl, rfl⟩
      exact ⟨by simp [hpq, hp], suffix, hs, hq⟩
    · rintro ⟨ht, suffix, hs, hq⟩
      exact ⟨suffix, hs, front ++ ['.'], tail, ⟨by simp [ht], hq⟩, front, rfl, rfl, rfl⟩
  · next hv => simp [hv]

/-- **The general domain of a hostname**: its suffix and one more label. -/
def generalDomain? (r : Resolver) (hostname : Text) : Option Text := do
  let (front, tail) ← r.front? hostname
  let label := Hostname.lastLabel front
  if label = [] then none else some (label ++ '.' :: tail)

/-- The general domain is one label more than the suffix, the last one
before it. -/
theorem generalDomain?_eq_some {r : Resolver} {hostname domain : Text} :
    r.generalDomain? hostname = some domain ↔
      ∃ front tail, r.front? hostname = some (front, tail) ∧ Hostname.lastLabel front ≠ [] ∧
        domain = Hostname.lastLabel front ++ '.' :: tail := by
  rw [generalDomain?, Option.bind_eq_bind, Option.bind_eq_some_iff]
  simp only [Prod.exists, Option.ite_none_left_eq_some, Option.some.injEq, ne_eq]
  exact exists_congr fun front => exists_congr fun tail => and_congr_right fun _ =>
    and_congr_right fun _ => eq_comm

/-- The general domain, or the hostname itself where there is none. -/
def generalDomain (r : Resolver) (hostname : Text) : Text :=
  (r.generalDomain? hostname).getD hostname

/-! ## Simple services -/

/-- **The last label is the suffix**, and every hostname that is not empty
is valid. -/
def lastLabelOnly : Resolver where
  isValid hostname := hostname ≠ []
  suffix? hostname := some (Hostname.lastLabel hostname)

/-- **A fixed answer** for every hostname that is not empty. -/
def fixed (suffix : Option Text) : Resolver where
  isValid hostname := hostname ≠ []
  suffix? _ := suffix

/-- **The first suffix of a list** that the hostname is or lies under, or
else its last label. Hostnames that are empty, hold a `/` or start with a
dot are not valid. -/
def ofSuffixes (suffixes : List Text) : Resolver where
  isValid hostname := hostname ≠ [] && !hostname.contains '/' && hostname.head? != some '.'
  suffix? hostname := some ((suffixes.find? (Hostname.isUnder · hostname)).getD
    (Hostname.lastLabel hostname))

end Resolver

end ContentFilter
