import ContentFilter.Hostname.Normal
import ContentFilter.Proofs.Text.Signs

/-!
# Laws of the service for international hostnames

Three things are asked of the service where hostnames in normal form are looked at
more closely: that it writes ASCII, that it writes no capitals, and that it keeps the
signs of hostnames once it has prepared them. A service prepares a hostname by
replacing each character by what it stands for and composing the result; only then is
it cut at the dots, and each label is written by itself.

A normal form is either a lower case, which is then looked at for characters beyond
ASCII, or what the service has written, and so the first two laws hold of all normal
forms.
-/

namespace ContentFilter

namespace IdnaService

/-- **The service writes ASCII.** -/
class WritesAscii [IdnaService] : Prop where
  /-- The ASCII form of a hostname is ASCII. -/
  isAscii {hostname name : Text} : toAscii? hostname = some name → Text.isAscii name = true

/-- **The service writes no capitals.** -/
class WritesNoCapitals [IdnaService] : Prop where
  /-- The ASCII form of a hostname has no capitals. -/
  notUpper {hostname name : Text} :
    toAscii? hostname = some name → ∀ c ∈ name, c.isUpper = false

/-- **The service prepares hostnames** before it writes them label by label. -/
class Prepares [IdnaService] where
  /-- A hostname with its characters replaced by what they stand for, and composed. -/
  prepare? : Text → Option Text
  /-- Writing a hostname that was prepared keeps its signs. -/
  exists_hasSignsOf {hostname name : Text} : toAscii? hostname = some name →
    ∃ prepared, prepare? hostname = some prepared ∧ Text.HasSignsOf name prepared

end IdnaService

/-- **The normal form of a hostname is ASCII.** -/
theorem Hostname.isAscii_of_normalize? [IdnaService] [IdnaService.WritesAscii]
    {name hostname : Text} (h : normalize? name = some hostname) :
    Text.isAscii hostname = true := by
  unfold normalize? at h
  dsimp only at h
  split at h
  · next ascii =>
    cases h
    exact ascii
  · exact IdnaService.WritesAscii.isAscii h

/-- **A hostname in normal form has no capitals.** -/
theorem Hostname.isUpper_of_mem_normalize? [IdnaService] [IdnaService.WritesNoCapitals]
    {hostname name : Text} (h : normalize? hostname = some name) :
    ∀ c ∈ name, c.isUpper = false := by
  unfold normalize? at h
  dsimp only at h
  split at h
  · cases h
    exact Text.lower_eq_self_iff.1 (Unicode.lower_lowercase hostname)
  · exact IdnaService.WritesNoCapitals.notUpper h

end ContentFilter
