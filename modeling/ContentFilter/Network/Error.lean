/-!
# Why a network rule is refused

A rule is refused for what is behind its `$`, or for a hostname. The
options are read first, from left to right, and the first fault found is
the one reported; the hostname the pattern starts with is looked at only
if all options could be read. The entry of a hosts file has no options,
and its name is refused if it is none that can be blocked.
-/

namespace ContentFilter

/-- **Why a network rule is refused.** -/
inductive NetworkError where
  /-- The entry of a hosts file names no hostname that can be blocked. -/
  | notAHostname
  /-- `important` is negated. -/
  | negatedImportant
  /-- `match-case` is negated. -/
  | negatedMatchCase
  /-- `redirect` is negated. -/
  | negatedRedirect
  /-- `domain` is negated. -/
  | negatedDomain
  /-- `redirect` names no resource. -/
  | emptyRedirect
  /-- No option has this name. -/
  | unknownOption
  /-- A hostname has no ASCII form. -/
  | hostnameNotAscii
  /-- `domain` names no hostname. -/
  | noDomains
  deriving DecidableEq, Repr

/-- The wording of an error. -/
def NetworkError.message : NetworkError → String
  | notAHostname => "failed to parse filter"
  | negatedImportant => "negated important"
  | negatedMatchCase => "negated match-case"
  | negatedRedirect => "negated redirection"
  | negatedDomain => "negated domain"
  | emptyRedirect => "empty redirection"
  | unknownOption => "unrecognised option"
  | hostnameNotAscii => "punycode error"
  | noDomains => "no supported domains"

end ContentFilter
