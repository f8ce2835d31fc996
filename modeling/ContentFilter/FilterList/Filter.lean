import ContentFilter.Address
import ContentFilter.Cosmetic.Rule
import ContentFilter.FilterList.LineKind
import ContentFilter.FilterList.Options
import ContentFilter.Network.HostsEntry
import ContentFilter.Network.Rule

/-!
# The filter of a line

`Filter.ofLine` reads one line of a list. The line is trimmed, its kind is
told (`LineKind.ofLine`), and it is read as what it is if rules of that
type are to be loaded. In a list in the format of hosts files each line is
an entry.

A line of a hosts file has a hostname, alone or behind an address, and may
end with a comment behind a `#`. Behind an address only the first word is
looked at, and any further ones are passed over. Several words without an
address in front are not supported.
-/

namespace ContentFilter

/-- **A filter of either type.** -/
inductive Filter where
  /-- A filter for network requests. -/
  | network (f : NetworkFilter)
  /-- A filter for the content of pages. -/
  | cosmetic (f : CosmeticFilter)
  deriving DecidableEq, Repr

/-- **Why a line gives no filter.** -/
inductive LineError where
  /-- The network rule is refused. -/
  | network (e : NetworkError)
  /-- The cosmetic rule is refused. -/
  | cosmetic (e : CosmeticError)
  /-- The line holds nothing that is to be read. -/
  | unsupported
  /-- The line is empty. -/
  | empty
  deriving DecidableEq, Repr

/-- The wording of an error. -/
def LineError.message : LineError → String
  | network e => "network filter error: " ++ e.message
  | cosmetic e => "cosmetic filter error: " ++ e.message
  | unsupported => "unsupported"
  | empty => "empty"

/-- **Whether an error means that a rule is at fault**, and not that there
is none. -/
def LineError.isFault : LineError → Bool
  | network _ | cosmetic _ => true
  | unsupported | empty => false

/-! ## Lines of hosts files -/

namespace HostsLine

/-- A line without the comment at its end. -/
def dropComment (line : Text) : Text :=
  match Search.splitFirst? '#' line with
  | some (before, _) => before
  | none => line

/-- **The hostname on a line**, alone or behind an address. -/
def hostname? (line : Text) : Option Text :=
  if line.head? = some '!' then none
  else
    match Text.words (dropComment line) with
    | [hostname] => some hostname
    | address :: hostname :: _ => if Address.isAddress address then some hostname else none
    | [] => none

end HostsLine

/-! ## Lines of any kind -/

namespace Filter

/-- The filter of a network rule. -/
def ofNetworkLine [IdnaService] (line : Text) (keepsLine : Bool) : Except LineError Filter :=
  match NetworkFilter.ofLine line keepsLine with
  | .ok f => .ok (network f)
  | .error e => .error (.network e)

/-- The filter of a cosmetic rule. -/
def ofCosmeticLine [IdnaService] (line : Text) (keepsLine : Bool) : Except LineError Filter :=
  match CosmeticFilter.ofLine line keepsLine with
  | .ok f => .ok (cosmetic f)
  | .error e => .error (.cosmetic e)

/-- The filter of a line of a hosts file. -/
def ofHostsLine [IdnaService] (line : Text) (keepsLine : Bool) : Except LineError Filter :=
  match HostsLine.hostname? line with
  | none => .error .unsupported
  | some hostname =>
    match NetworkFilter.ofHostsEntry hostname keepsLine with
    | .ok f => .ok (network f)
    | .error e => .error (.network e)

/-- **The filter of a line** in the standard format. -/
def ofStandardLine [IdnaService] (line : Text) (keepsLine : Bool) (types : RuleTypes) :
    Except LineError Filter :=
  match LineKind.ofLine line with
  | .network => if types.loadsNetwork then ofNetworkLine line keepsLine else .error .unsupported
  | .hosts => if types.loadsNetwork then ofHostsLine line keepsLine else .error .unsupported
  | .cosmetic =>
    if types.loadsCosmetic then ofCosmeticLine line keepsLine else .error .unsupported
  | .unsupported => .error .unsupported

/-- **The filter of a line of a list.** -/
def ofLine [IdnaService] (line : Text) (keepsLine : Bool) (options : ParseOptions) :
    Except LineError Filter :=
  let line := Text.trim line
  if line = [] then .error .empty
  else
    match options.format with
    | .standard => ofStandardLine line keepsLine options.ruleTypes
    | .hosts =>
      if options.ruleTypes.loadsNetwork then ofHostsLine line keepsLine
      else .error .unsupported

/-- The identity of a filter. -/
def id : Filter → Hash
  | network f => f.id
  | cosmetic f => f.id

/-- A filter as it is written. -/
def toText : Filter → Text
  | network f => f.toText
  | cosmetic f => f.toText

end Filter

end ContentFilter
