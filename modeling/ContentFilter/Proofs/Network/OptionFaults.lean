import ContentFilter.Proofs.Network.WrittenOptions

/-!
# What is wrong with an option

An option is valid (`FilterOption.IsValid`) or has a fault
(`FilterOption.Fault`), and both are told by how it is written: the name that
stands behind the marks and in front of the first `=`, whether there is a mark,
and the value. A fault is reported as such (`FilterOption.ofText_of_fault`) and
a valid option can be read (`FilterOption.exists_ofText_of_isValid`); since an
option cannot be neither, each of these is an equivalence.

The names that cannot be negated are few, and each of them has an error of its
own (`OptionName.negationFault?`). A domain option is the only one whose value
is taken apart, and one hostname without a normal form is enough to refuse it.
-/

namespace ContentFilter

/-- **What is wrong with negating an option**, if it cannot be negated. -/
def OptionName.negationFault? : OptionName → Option NetworkError
  | domain => some .negatedDomain
  | important => some .negatedImportant
  | matchCase => some .negatedMatchCase
  | redirect => some .negatedRedirect
  | thirdParty | firstParty | kind _ => none

/-- **An option may be written** with a name, a negation and a value. -/
structure OptionName.Allows [IdnaService]
    (name : OptionName) (isNegated : Bool) (value : Text) : Prop where
  /-- What is negated can be. -/
  negation : isNegated = true → name.negationFault? = none
  /-- What redirects names a resource. -/
  resource : name = .redirect → value ≠ []
  /-- What names domains names at least one. -/
  domains : name = .domain → ∃ piece ∈ value.splitOn '|', (DomainEntry.split piece).2 ≠ []
  /-- All domains have a normal form. -/
  normal : name = .domain → ∀ piece ∈ value.splitOn '|', (DomainEntry.split piece).2 ≠ [] →
    ∃ hostname, Hostname.normalize? (DomainEntry.split piece).2 = some hostname

namespace FilterOption

variable {option : Text} {e : NetworkError}

/-- **A valid option.** -/
def IsValid [IdnaService] (option : Text) : Prop :=
  ∃ name isNegated value, OptionName.IsWritten name isNegated value option ∧
    name.Allows isNegated value

/-- **What is wrong with an option.** -/
inductive Fault [IdnaService] (option : Text) : NetworkError → Prop
  /-- No option has this name. -/
  | unknown (h : ∀ name isNegated value, ¬ OptionName.IsWritten name isNegated value option) :
      Fault option .unknownOption
  /-- An option is negated that cannot be. -/
  | negated {name : OptionName} {value : Text} {e : NetworkError}
      (h : name.IsWritten true value option) (he : name.negationFault? = some e) : Fault option e
  /-- No resource is named. -/
  | resource (h : OptionName.redirect.IsWritten false [] option) : Fault option .emptyRedirect
  /-- A domain has no normal form. -/
  | hostname {value piece : Text} (h : OptionName.domain.IsWritten false value option)
      (hpiece : piece ∈ value.splitOn '|') (hne : (DomainEntry.split piece).2 ≠ [])
      (none : Hostname.normalize? (DomainEntry.split piece).2 = none) :
      Fault option .hostnameNotAscii
  /-- No domain is named. -/
  | domains {value : Text} (h : OptionName.domain.IsWritten false value option)
      (empty : ∀ piece ∈ value.splitOn '|', (DomainEntry.split piece).2 = []) :
      Fault option .noDomains

/-- **An option is valid or has a fault.** -/
theorem isValid_or_fault [IdnaService] (option : Text) : IsValid option ∨ ∃ e, Fault option e := by
  by_cases known : ∃ name isNegated value, OptionName.IsWritten name isNegated value option
  · obtain ⟨name, isNegated, value, written⟩ := known
    cases isNegated with
    | true =>
      cases fault : name.negationFault? with
      | some e => exact .inr ⟨e, .negated written fault⟩
      | none =>
        -- domain and redirect options cannot be negated
        refine .inl ⟨name, true, value, written, fun _ => fault, ?_, ?_, ?_⟩ <;> rintro rfl
        all_goals cases fault
    | false =>
      by_cases redirects : name = .redirect
      · subst redirects
        by_cases empty : value = []
        · subst empty
          exact .inr ⟨_, .resource written⟩
        · exact .inl ⟨_, _, value, written, nofun, fun _ => empty, nofun, nofun⟩
      · by_cases lists : name = .domain
        · subst lists
          by_cases normal : ∀ piece ∈ value.splitOn '|', (DomainEntry.split piece).2 ≠ [] →
              ∃ hostname, Hostname.normalize? (DomainEntry.split piece).2 = some hostname
          · by_cases named : ∃ piece ∈ value.splitOn '|', (DomainEntry.split piece).2 ≠ []
            · exact .inl ⟨_, _, value, written, nofun, nofun, fun _ => named, fun _ => normal⟩
            · refine .inr ⟨_, .domains written fun piece hpiece => ?_⟩
              exact not_not.1 fun hne => named ⟨piece, hpiece, hne⟩
          · obtain ⟨piece, hnot⟩ := not_forall.1 normal
            obtain ⟨hpiece, hnot⟩ := Classical.not_imp.1 hnot
            obtain ⟨hne, none⟩ := Classical.not_imp.1 hnot
            exact .inr ⟨_, .hostname written hpiece hne
              (Option.eq_none_iff_forall_ne_some.2 (not_exists.1 none))⟩
        · exact .inl ⟨name, _, value, written, nofun, fun h => absurd h redirects,
            fun h => absurd h lists, fun h => absurd h lists⟩
  · refine .inr ⟨_, .unknown fun name isNegated value written => ?_⟩
    exact known ⟨name, isNegated, value, written⟩

end FilterOption

/-! ## Domains -/

namespace DomainEntry

variable {value : Text}

/-- A piece with a hostname is one of those that are read. -/
theorem mem_parts {piece : Text} (hpiece : piece ∈ value.splitOn '|')
    (hne : (split piece).2 ≠ []) :
    split piece ∈ ((value.splitOn '|').map split).filter (·.2 ≠ []) :=
  List.mem_filter.2 ⟨List.mem_map_of_mem hpiece, decide_eq_true hne⟩

/-- **A domain without a normal form** is the fault of its value. -/
theorem listOfText_of_not_normal [IdnaService] {piece : Text} (hpiece : piece ∈ value.splitOn '|')
    (hne : (split piece).2 ≠ []) (none : Hostname.normalize? (split piece).2 = none) :
    listOfText value = .error .hostnameNotAscii := by
  cases h : listOfText value with
  | ok entries =>
    obtain ⟨entry, hentry⟩ := exists_of_mapM_eq_ok h (mem_parts hpiece hne)
    dsimp only at hentry
    rw [none] at hentry
    cases hentry
  | error e =>
    obtain ⟨-, a, -, -, -, ha⟩ := mapM_eq_error_iff.1 h
    dsimp only at ha
    split at ha
    · cases ha
    · cases ha
      rfl

/-- A value without a hostname has no entries. -/
theorem listOfText_of_empty [IdnaService]
    (empty : ∀ piece ∈ value.splitOn '|', (split piece).2 = []) : listOfText value = .ok [] := by
  have none : ((value.splitOn '|').map split).filter (·.2 ≠ []) = [] := by
    rw [List.filter_eq_nil_iff]
    intro parts hparts hne
    obtain ⟨piece, hpiece, rfl⟩ := List.mem_map.1 hparts
    exact of_decide_eq_true hne (empty piece hpiece)
  unfold listOfText
  rw [none]
  rfl

/-- **Domains that have normal forms** are read, and there is an entry if one
is named. -/
theorem exists_listOfText [IdnaService] (named : ∃ piece ∈ value.splitOn '|', (split piece).2 ≠ [])
    (normal : ∀ piece ∈ value.splitOn '|', (split piece).2 ≠ [] →
      ∃ hostname, Hostname.normalize? (split piece).2 = some hostname) :
    ∃ entry entries, listOfText value = .ok (entry :: entries) := by
  have read : ∃ entries, listOfText value = .ok entries := by
    refine exists_mapM_eq_ok_iff.2 fun parts hparts => ?_
    obtain ⟨hmem, hne⟩ := List.mem_filter.1 hparts
    obtain ⟨piece, hpiece, rfl⟩ := List.mem_map.1 hmem
    obtain ⟨hostname, hname⟩ := normal piece hpiece (of_decide_eq_true hne)
    refine ⟨⟨(split piece).1, hostname⟩, ?_⟩
    dsimp only
    rw [hname]
  obtain ⟨entries, hread⟩ := read
  obtain ⟨piece, hpiece, hne⟩ := named
  obtain ⟨entry, hentry⟩ := exists_of_mapM_eq_ok hread (mem_parts hpiece hne)
  have hmem := (mem_of_mapM_eq_ok hread).2 ⟨_, mem_parts hpiece hne, hentry⟩
  obtain ⟨first, rest, rfl⟩ := List.exists_cons_of_ne_nil (List.ne_nil_of_mem hmem)
  exact ⟨first, rest, hread⟩

end DomainEntry

namespace FilterOption

variable {option : Text} {e : NetworkError}

/-! ## Reading -/

/-- An option that cannot be negated is refused for its negation. -/
theorem ofName_of_negationFault [IdnaService] {name : OptionName} (h : name.negationFault? = some e)
    (value : Text) : ofName name true value = .error e := by
  cases name with
  | domain | important | matchCase | redirect =>
    cases h
    rfl
  | thirdParty | firstParty | kind => cases h

/-- **A fault is reported.** -/
theorem ofText_of_fault [IdnaService] (h : Fault option e) : ofText option = .error e := by
  cases h with
  | unknown unwritten =>
    rcases exists_isWritten_or_unknown option with ⟨name, isNegated, value, written⟩ | unknown
    · exact absurd written (unwritten name isNegated value)
    · exact unknown
  | negated written fault =>
    rw [ofText_of_isWritten written]
    exact ofName_of_negationFault fault _
  | resource written =>
    rw [ofText_of_isWritten written]
    rfl
  | hostname written hpiece hne none =>
    rw [ofText_of_isWritten written]
    unfold ofName
    dsimp only
    rw [DomainEntry.listOfText_of_not_normal hpiece hne none]
  | domains written empty =>
    rw [ofText_of_isWritten written]
    unfold ofName
    dsimp only
    rw [DomainEntry.listOfText_of_empty empty]

/-- What is allowed has an option. -/
theorem exists_ofName_of_allows [IdnaService] {name : OptionName} {isNegated : Bool} {value : Text}
    (h : name.Allows isNegated value) : ∃ o, ofName name isNegated value = .ok o := by
  cases isNegated with
  | true =>
    cases name with
    | domain | important | matchCase | redirect => cases h.negation rfl
    | thirdParty | firstParty | kind => exact ⟨_, rfl⟩
  | false =>
    cases name with
    | domain =>
      obtain ⟨entry, entries, read⟩ := DomainEntry.exists_listOfText (h.domains rfl) (h.normal rfl)
      unfold ofName
      dsimp only
      rw [read]
      exact ⟨_, rfl⟩
    | redirect => exact ⟨_, if_neg (h.resource rfl)⟩
    | important | matchCase | thirdParty | firstParty | kind => exact ⟨_, rfl⟩

/-- **A valid option can be read.** -/
theorem exists_ofText_of_isValid [IdnaService] (h : IsValid option) :
    ∃ o, ofText option = .ok o := by
  obtain ⟨name, isNegated, value, written, allows⟩ := h
  rw [ofText_of_isWritten written]
  exact exists_ofName_of_allows allows

/-- **An option can be read exactly if it is valid.** -/
theorem exists_ofText_eq_ok_iff [IdnaService] : (∃ o, ofText option = .ok o) ↔ IsValid option := by
  constructor
  · rintro ⟨o, h⟩
    rcases isValid_or_fault option with valid | ⟨e, fault⟩
    · exact valid
    · rw [ofText_of_fault fault] at h
      cases h
  · exact exists_ofText_of_isValid

/-- **An option is refused exactly for its fault.** -/
theorem ofText_eq_error_iff [IdnaService] : ofText option = .error e ↔ Fault option e := by
  constructor
  · intro h
    rcases isValid_or_fault option with valid | ⟨e', fault⟩
    · obtain ⟨o, read⟩ := exists_ofText_of_isValid valid
      rw [h] at read
      cases read
    · rw [ofText_of_fault fault] at h
      cases h
      exact fault
  · exact ofText_of_fault

end FilterOption

end ContentFilter
