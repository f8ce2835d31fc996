import ContentFilter.Network.FilterOption
import ContentFilter.Network.Mask

/-!
# Adding up the options of a rule

The options of a rule are gone through one after the other. Most of them
give a flag of the mask a value. The kinds of requests are collected in two
masks of their own, those that are named and those that are negated, since
what they mean is known only at the end: a rule applies to the kinds it
names, or to all if it names none, and in either case not to those it
negates.
-/

namespace ContentFilter

/-- **What the options of a rule add up to.** -/
structure OptionTally where
  /-- The flags so far. -/
  mask : Mask
  /-- The kinds that were named. -/
  included : Mask
  /-- The kinds that were negated. -/
  excluded : Mask
  /-- The domains the filter applies on, in the order they were named. -/
  domains : List Text
  /-- The domains it does not apply on. -/
  excludedDomains : List Text
  /-- Where it redirects to. -/
  redirect : Text
  deriving DecidableEq, Repr

namespace OptionTally

/-- **Before the first option**: both parties, and no kind. -/
def start (isException : Bool) : OptionTally where
  mask :=
    let parties := Mask.of fun f => f = .thirdParty || f = .firstParty
    if isException then parties.put .exception true else parties
  included := .empty
  excluded := .empty
  domains := []
  excludedDomains := []
  redirect := []

/-- One more domain. -/
def addDomain (t : OptionTally) (e : DomainEntry) : OptionTally :=
  if e.isExcluded then { t with excludedDomains := t.excludedDomains ++ [e.hostname] }
  else { t with domains := t.domains ++ [e.hostname] }

/-- **One more option.** -/
def add (t : OptionTally) : FilterOption → OptionTally
  | .domain entries => entries.foldl addDomain t
  | .important => { t with mask := t.mask.put .important true }
  | .matchCase => { t with mask := t.mask.put .matchCase true }
  | .thirdParty true | .firstParty false => { t with mask := t.mask.put .thirdParty false }
  | .thirdParty false | .firstParty true => { t with mask := t.mask.put .firstParty false }
  | .redirect resource =>
    { t with mask := t.mask.put .redirect true, redirect := resource }
  | .kind k false => { t with included := t.included.put (.kind k) true }
  | .kind k true => { t with excluded := t.excluded.put (.kind k) true }

/-- **All options**, one after the other. -/
def ofOptions (isException : Bool) (options : List FilterOption) : OptionTally :=
  options.foldl add (start isException)

/-- **The flags with the kinds of requests**, all of them if none was named. -/
def maskWithKinds (t : OptionTally) : Mask :=
  let all := Mask.of fun
    | .kind _ | .anyKind => true
    | _ => false
  (t.mask.union (if t.included.isEmpty then all else t.included)).without t.excluded

end OptionTally

end ContentFilter
