import ContentFilter.Hostname.Normal
import ContentFilter.Network.Error
import ContentFilter.Network.Filter
import ContentFilter.Text.Blank

/-!
# Entries of hosts files

A hosts file names hostnames to block, each with all its subdomains. An
entry becomes the filter that `||` in front of the hostname would give,
marked as coming from a hosts file.

An entry is refused if it holds a character that no hostname has, and if
it would block a whole top-level domain: it has to have a dot, other than
just one at its start, and none at its end. Dots at the start are then
dropped.
-/

namespace ContentFilter

namespace HostsEntry

/-- The characters no hostname has, besides blanks. -/
def refusedChars : Text :=
  "/^*!?$&()\x7b\x7d[]+=~\x60|@,'\"><:;#".toList

/-- **A character no hostname has.** -/
def isRefused (c : Char) : Bool :=
  refusedChars.contains c || Text.isBlank c

/-- **An entry that names a hostname to block.** -/
def isHostname (t : Text) : Bool :=
  t ≠ [] && !t.any isRefused && t.contains '.'
    && !(t.head? = some '.' && !t.tail.contains '.') && t.getLast? ≠ some '.'

/-- **The flags of a filter made from an entry.** -/
def holds : Flag → Bool
  | .kind _ | .anyKind | .thirdParty | .firstParty | .hostnameAnchor | .hostname => true
  | _ => false

end HostsEntry

/-- **The network filter of an entry of a hosts file.** If a line is to be
kept, it is the hostname in normal form. -/
def NetworkFilter.ofHostsEntry [IdnaService] (entry : Text) (keepsLine : Bool) :
    Except NetworkError NetworkFilter :=
  if HostsEntry.isHostname entry then
    match Hostname.normalize? (entry.dropWhile (· == '.')) with
    | none => .error .hostnameNotAscii
    | some hostname =>
      .ok (.make (.of HostsEntry.holds) [] hostname [] [] []
        (if keepsLine then some hostname else none))
  else .error .notAHostname

end ContentFilter
