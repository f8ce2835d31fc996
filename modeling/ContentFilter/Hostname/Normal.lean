import ContentFilter.Hostname.IdnaService
import ContentFilter.Unicode.Lowercase

/-!
# Hostnames in normal form

Every hostname a rule names is kept in lower case and in ASCII, so that it
can be compared with the hostnames of requests character by character. A
hostname that is ASCII once it is in lower case is taken as it is; any
other one is brought into its ASCII form, which may fail.
-/

namespace ContentFilter.Hostname

/-- **The normal form of a hostname.** -/
def normalize? [IdnaService] (hostname : Text) : Option Text :=
  let name := Unicode.lowercase hostname
  if Text.isAscii name then some name else IdnaService.toAscii? name

/-- The normal form of an ASCII hostname is its lower case. -/
theorem normalize?_of_isAscii [IdnaService] {hostname : Text} (h : Text.isAscii hostname = true) :
    normalize? hostname = some (Text.lower hostname) := by
  have h' : Text.isAscii (Text.lower hostname) = true := by
    rw [Text.isAscii, Text.lower, List.all_map, List.all_eq_true]
    intro c hc
    exact Text.isAsciiChar_toLower (List.all_eq_true.1 h c hc)
  rw [normalize?, Unicode.lowercase_eq_lower h, if_pos h']

end ContentFilter.Hostname
