import ContentFilter.Hostname.Normal
import ContentFilter.Network.Error
import ContentFilter.Request.Kind

/-!
# The options of a network rule

Behind its `$` a rule has options between commas. An option is a name,
with any number of `~` in front that negate it, and a value behind the
first `=` if it takes one; the value of an option that takes none is not
looked at. Some names have a second spelling (`OptionName.spellings`).

`FilterOption.ofText` reads one option, `FilterOption.listOfText` all of
them. The first option that cannot be read, from left to right, gives the
error.
-/

namespace ContentFilter

/-- **The name of an option.** -/
inductive OptionName where
  | domain
  | important
  | matchCase
  | thirdParty
  | firstParty
  | redirect
  /-- The name of a kind of request. -/
  | kind (k : RequestKind)
  deriving DecidableEq, Repr

namespace OptionName

/-- Every name. -/
def all : List OptionName :=
  [domain, important, matchCase, thirdParty, firstParty, redirect] ++ RequestKind.all.map kind

/-- No name is missing from the list of all of them. -/
@[simp] theorem mem_all (n : OptionName) : n ∈ all := by
  cases n <;> simp [all]

/-- **The spellings of a name.** -/
def spellings : OptionName → List String
  | domain => ["domain"]
  | important => ["important"]
  | matchCase => ["match-case"]
  | thirdParty => ["third-party", "3p"]
  | firstParty => ["first-party", "1p"]
  | redirect => ["redirect"]
  | kind .image => ["image"]
  | kind .media => ["media"]
  | kind .object => ["object"]
  | kind .objectSubrequest => ["object-subrequest"]
  | kind .other => ["other"]
  | kind .ping => ["ping", "beacon"]
  | kind .script => ["script"]
  | kind .font => ["font"]
  | kind .stylesheet => ["stylesheet", "css"]
  | kind .subdocument => ["subdocument", "frame"]
  | kind .xmlHttpRequest => ["xmlhttprequest", "xhr"]
  | kind .websocket => ["websocket"]

/-- **The name with a spelling**, if there is one. -/
def ofText? (t : Text) : Option OptionName :=
  all.find? fun n => n.spellings.any fun s => s.toList = t

/-- Every spelling of a name is read as that name. -/
theorem ofText?_of_mem {n : OptionName} {s : String} (h : s ∈ n.spellings) :
    ofText? s.toList = some n := by
  have all : ∀ n ∈ all, ∀ s ∈ n.spellings, ofText? s.toList = some n := by decide
  exact all n (mem_all n) s h

end OptionName

/-- **An entry of a `domain` option.** -/
structure DomainEntry where
  /-- Whether the filter does not apply on the domain. -/
  isExcluded : Bool
  /-- The domain, in normal form. -/
  hostname : Text
  deriving DecidableEq, Repr

namespace DomainEntry

/-- An entry as it is written: whether it is excluded, and its hostname. -/
def split (t : Text) : Bool × Text :=
  match t with
  | '~' :: hostname => (true, hostname)
  | _ => (false, t)

/-- **The entries of a value**, those without a hostname left out. -/
def listOfText [IdnaService] (value : Text) : Except NetworkError (List DomainEntry) :=
  (((value.splitOn '|').map split).filter (·.2 ≠ [])).mapM fun (isExcluded, hostname) =>
    match Hostname.normalize? hostname with
    | some hostname => .ok ⟨isExcluded, hostname⟩
    | none => .error .hostnameNotAscii

end DomainEntry

/-- **An option of a network rule.** What can be negated says so. -/
inductive FilterOption where
  /-- The domains the filter applies on, or does not. -/
  | domain (entries : List DomainEntry)
  /-- The filter wins over exceptions. -/
  | important
  /-- The case of letters matters. -/
  | matchCase
  /-- The filter applies between parties only, or within one party only. -/
  | thirdParty (isNegated : Bool)
  /-- The filter applies within one party only, or between parties only. -/
  | firstParty (isNegated : Bool)
  /-- Matching requests are redirected to a resource. -/
  | redirect (resource : Text)
  /-- The filter applies to a kind of request, or does not. -/
  | kind (k : RequestKind) (isNegated : Bool)
  deriving DecidableEq, Repr

namespace FilterOption

/-- **An option of a name**, with its value and whether it is negated. -/
def ofName [IdnaService] (name : OptionName) (isNegated : Bool) (value : Text) :
    Except NetworkError FilterOption :=
  match name, isNegated with
  | .domain, true => .error .negatedDomain
  | .domain, false =>
    match DomainEntry.listOfText value with
    | .error e => .error e
    | .ok [] => .error .noDomains
    | .ok entries => .ok (domain entries)
  | .important, true => .error .negatedImportant
  | .important, false => .ok important
  | .matchCase, true => .error .negatedMatchCase
  | .matchCase, false => .ok matchCase
  | .thirdParty, n => .ok (thirdParty n)
  | .firstParty, n => .ok (firstParty n)
  | .redirect, true => .error .negatedRedirect
  | .redirect, false => if value = [] then .error .emptyRedirect else .ok (redirect value)
  | .kind k, n => .ok (kind k n)

/-- **An option as it is written.** -/
def ofText [IdnaService] (t : Text) : Except NetworkError FilterOption :=
  let body := t.dropWhile (· == '~')
  let (name, value) := (Search.splitFirst? '=' body).getD (body, [])
  match OptionName.ofText? name with
  | none => .error .unknownOption
  | some name => ofName name (Search.startsWith ['~'] t) value

/-- **All options**, from what stands behind the `$`. -/
def listOfText [IdnaService] (t : Text) : Except NetworkError (List FilterOption) :=
  (t.splitOn ',').mapM ofText

end FilterOption

end ContentFilter
