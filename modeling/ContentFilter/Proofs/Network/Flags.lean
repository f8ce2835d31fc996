import ContentFilter.Network.Rule
import Mathlib.Data.List.Induction

/-!
# The flags of a rule

A rule goes through its options one after the other, and each changes what was
there before it. Which flags the filter has in the end is stated here flag by flag,
and of the options only asks which are among them (`NetworkRule.holds`). The step
lemma `OptionTally.Counts.add` says what one option changes, and from it, by
induction, that the options add up to what they say together
(`OptionTally.counts_ofOptions`). That neither their order nor their repetition
matters can be read off the statement.
-/

namespace ContentFilter

/-! ## What options say together -/

namespace FilterOption

/-- Whether an option names a kind, without negating it. -/
def isIncludedKind : FilterOption → Bool
  | kind _ isNegated => !isNegated
  | _ => false

/-- The entries of an option that names domains. -/
def domainEntries : FilterOption → List DomainEntry
  | domain entries => entries
  | _ => []

/-- Such an option is a kind that is not negated. -/
theorem isIncludedKind_iff {o : FilterOption} : o.isIncludedKind = true ↔ ∃ k, o = kind k false := by
  constructor
  · intro h
    cases o with
    | kind k isNegated =>
      cases isNegated with
      | false => exact ⟨k, rfl⟩
      | true => cases h
    | domain | important | matchCase | thirdParty | firstParty | redirect => cases h
  · rintro ⟨k, rfl⟩
    rfl

/-- **The domains some options name**, those excluded or those not. -/
def domains (isExcluded : Bool) (options : List FilterOption) : List Text :=
  ((options.flatMap domainEntries).filter (·.isExcluded == isExcluded)).map (·.hostname)

/-- The resource of an option that redirects. -/
def resource? : FilterOption → Option Text
  | redirect resource => some resource
  | _ => none

/-- **Where some options redirect to**: the last resource named, or nothing. -/
def redirection (options : List FilterOption) : Text :=
  ((options.filterMap resource?).getLast?).getD []

end FilterOption

namespace OptionTally

/-- **The flags that options give a value**, one by one. -/
def flags (isException : Bool) (options : List FilterOption) : Flag → Bool
  | .important => options.contains .important
  | .matchCase => options.contains .matchCase
  | .redirect => options.any fun o => o.resource?.isSome
  | .thirdParty => !(options.contains (.thirdParty true) || options.contains (.firstParty false))
  | .firstParty => !(options.contains (.thirdParty false) || options.contains (.firstParty true))
  | .exception => isException
  | _ => false

/-- **The kinds that options name**, or those they negate. -/
def kinds (isNegated : Bool) (options : List FilterOption) : Flag → Bool
  | .kind k => options.contains (.kind k isNegated)
  | _ => false

/-- The kinds a tally has as named, or those it has as negated. -/
def kindMask (t : OptionTally) (isNegated : Bool) : Mask :=
  if isNegated then t.excluded else t.included

/-- The domains of a tally, those excluded or those not. -/
def domainList (t : OptionTally) (isExcluded : Bool) : List Text :=
  if isExcluded then t.excludedDomains else t.domains

/-- **A tally is what some options say together.** -/
structure Counts (isException : Bool) (options : List FilterOption) (t : OptionTally) : Prop where
  /-- The flags are those the options give. -/
  mask : t.mask = .of (flags isException options)
  /-- The kinds are those the options name, or negate. -/
  kindMask (isNegated : Bool) : t.kindMask isNegated = .of (kinds isNegated options)
  /-- The domains are those the options name, in their order. -/
  domainList (isExcluded : Bool) : t.domainList isExcluded = FilterOption.domains isExcluded options
  /-- The last resource is the one that counts. -/
  redirect : t.redirect = FilterOption.redirection options

/-- Before the first option there is what no options say. -/
theorem counts_start (isException : Bool) : Counts isException [] (start isException) where
  mask := by cases isException <;> rfl
  kindMask isNegated := by cases isNegated <;> rfl
  domainList isExcluded := by cases isExcluded <;> rfl
  redirect := rfl

/-- The domains of one option are added in their order. -/
theorem add_domain (t : OptionTally) (entries : List DomainEntry) :
    t.add (.domain entries) =
      { t with
        domains := t.domains ++ (entries.filter (·.isExcluded == false)).map (·.hostname)
        excludedDomains :=
          t.excludedDomains ++ (entries.filter (·.isExcluded == true)).map (·.hostname) } := by
  rw [add]
  induction entries generalizing t with
  | nil => simp
  | cons e entries ih =>
    rw [List.foldl_cons, ih, addDomain]
    cases he : e.isExcluded <;> simp [he]

variable {isException : Bool} {options : List FilterOption} {t : OptionTally}

/-- **The flag an option gives a value**, if it is not about kinds or domains. -/
def given? : FilterOption → Option (Flag × Bool)
  | .important => some (.important, true)
  | .matchCase => some (.matchCase, true)
  | .redirect _ => some (.redirect, true)
  | .thirdParty true | .firstParty false => some (.thirdParty, false)
  | .thirdParty false | .firstParty true => some (.firstParty, false)
  | .domain _ | .kind _ _ => none

/-- One more option gives its flag its value. -/
theorem flags_append_of_given? {o : FilterOption} {g : Flag} {value : Bool}
    (h : given? o = some (g, value)) :
    flags isException (options ++ [o]) =
      fun f => if g = f then value else flags isException options f := by
  funext f
  cases o with
  | domain | kind => cases h
  | important | matchCase | redirect =>
    cases h
    cases f <;> simp [flags, FilterOption.resource?]
  | thirdParty isNegated | firstParty isNegated =>
    cases isNegated <;> cases h <;> cases f <;> simp [flags, FilterOption.resource?]

/-- An option about kinds or domains gives no flag a value. -/
theorem flags_append_of_given?_eq_none {o : FilterOption} (h : given? o = none) :
    flags isException (options ++ [o]) = flags isException options := by
  funext f
  cases o with
  | domain | kind => cases f <;> simp [flags, FilterOption.resource?]
  | important | matchCase | redirect => cases h
  | thirdParty isNegated | firstParty isNegated => cases isNegated <;> cases h

/-- An option about a kind names it or negates it. -/
theorem kinds_append_kind (k : RequestKind) (isNegated : Bool) :
    kinds isNegated (options ++ [.kind k isNegated]) =
      fun f => if .kind k = f then true else kinds isNegated options f := by
  funext f
  cases f <;> simp [kinds, eq_comm, or_comm]

/-- Any other option says nothing of kinds. -/
theorem kinds_append_of_ne {o : FilterOption} {isNegated : Bool}
    (h : ∀ k, o ≠ .kind k isNegated) :
    kinds isNegated (options ++ [o]) = kinds isNegated options := by
  funext f
  cases f with
  | kind k => simp [kinds, (h k).symm]
  | _ => rfl

/-- The domains of one more option follow those of the others. -/
theorem domains_append (isExcluded : Bool) (o : FilterOption) :
    FilterOption.domains isExcluded (options ++ [o]) = FilterOption.domains isExcluded options ++
      (o.domainEntries.filter (·.isExcluded == isExcluded)).map (·.hostname) := by
  simp [FilterOption.domains]

/-- One more option may redirect elsewhere. -/
theorem redirection_append (o : FilterOption) :
    FilterOption.redirection (options ++ [o]) =
      o.resource?.getD (FilterOption.redirection options) := by
  unfold FilterOption.redirection
  cases h : o.resource? <;> simp [h]

/-- The mask changes where the option gives a flag a value. -/
theorem Counts.mask_add (h : Counts isException options t) (o : FilterOption) :
    (t.add o).mask = .of (flags isException (options ++ [o])) := by
  have put {g : Flag} {value : Bool} (hg : given? o = some (g, value)) :
      t.mask.put g value = .of (flags isException (options ++ [o])) := by
    rw [flags_append_of_given? hg, h.mask, Mask.put_of]
  have same (hg : given? o = none) : t.mask = .of (flags isException (options ++ [o])) := by
    rw [flags_append_of_given?_eq_none hg, h.mask]
  cases o with
  | domain entries =>
    rw [add_domain]
    exact same rfl
  | important | matchCase | redirect => exact put rfl
  | thirdParty isNegated | firstParty isNegated => cases isNegated <;> exact put rfl
  | kind k isNegated => cases isNegated <;> exact same rfl

/-- The kinds change where the option names or negates one. -/
theorem Counts.kindMask_add (h : Counts isException options t) (o : FilterOption)
    (isNegated : Bool) : (t.add o).kindMask isNegated = .of (kinds isNegated (options ++ [o])) := by
  have same (ho : ∀ k, o ≠ .kind k isNegated) :
      t.kindMask isNegated = .of (kinds isNegated (options ++ [o])) := by
    rw [kinds_append_of_ne ho, h.kindMask]
  cases o with
  | domain entries =>
    rw [add_domain]
    exact same nofun
  | important | matchCase | redirect => exact same nofun
  | thirdParty isParty | firstParty isParty => cases isParty <;> exact same nofun
  | kind k negates =>
    by_cases hsame : negates = isNegated
    · subst hsame
      rw [kinds_append_kind, ← Mask.put_of, ← h.kindMask]
      cases negates <;> rfl
    · refine Eq.trans ?_ (same fun _ ho => hsame (FilterOption.kind.inj ho).2)
      obtain rfl : negates = !isNegated := Bool.eq_not_of_ne hsame
      cases isNegated <;> rfl

/-- The domains change where the option names some. -/
theorem Counts.domainList_add (h : Counts isException options t) (o : FilterOption)
    (isExcluded : Bool) :
    (t.add o).domainList isExcluded = FilterOption.domains isExcluded (options ++ [o]) := by
  rw [domains_append, ← h.domainList]
  cases o with
  | domain entries =>
    rw [add_domain]
    cases isExcluded <;> rfl
  | important | matchCase | redirect => exact (List.append_nil _).symm
  | thirdParty isNegated | firstParty isNegated | kind _ isNegated =>
    cases isNegated <;> exact (List.append_nil _).symm

/-- **One more option changes what it says**, and nothing else. -/
theorem Counts.add (h : Counts isException options t) (o : FilterOption) :
    Counts isException (options ++ [o]) (t.add o) where
  mask := h.mask_add o
  kindMask := h.kindMask_add o
  domainList := h.domainList_add o
  redirect := by
    rw [redirection_append, ← h.redirect]
    cases o with
    | domain entries =>
      rw [add_domain]
      rfl
    | important | matchCase | redirect => rfl
    | thirdParty isNegated | firstParty isNegated | kind _ isNegated => cases isNegated <;> rfl

/-- **Options add up to what they say together.** -/
theorem counts_ofOptions (isException : Bool) (options : List FilterOption) :
    Counts isException options (ofOptions isException options) := by
  induction options using List.reverseRecOn with
  | nil => exact counts_start isException
  | append_singleton options o ih =>
    rw [ofOptions, List.foldl_append]
    exact ih.add o

/-- Some kind is named if an option names one. -/
theorem any_kinds_false : Flag.all.any (kinds false options) =
    options.any FilterOption.isIncludedKind := by
  rw [Bool.eq_iff_iff, List.any_eq_true, List.any_eq_true]
  constructor
  · rintro ⟨f, -, named⟩
    cases f with
    | kind k => exact ⟨.kind k false, List.contains_iff_mem.1 named, rfl⟩
    | _ => cases named
  · rintro ⟨o, mem, named⟩
    obtain ⟨k, rfl⟩ := FilterOption.isIncludedKind_iff.1 named
    exact ⟨.kind k, Flag.mem_all _, List.contains_iff_mem.2 mem⟩

/-- **The kinds a rule applies to**: those that are named, or all if none is, and in
either case none that is negated. -/
theorem Counts.maskWithKinds_eq (h : Counts isException options t) :
    t.maskWithKinds = .of fun
      | .kind k =>
        (!options.any FilterOption.isIncludedKind || options.contains (.kind k false))
          && !options.contains (.kind k true)
      | .anyKind => !options.any FilterOption.isIncludedKind
      | f => flags isException options f := by
  have included : t.included = .of (kinds false options) := h.kindMask false
  have excluded : t.excluded = .of (kinds true options) := h.kindMask true
  rw [maskWithKinds, h.mask, included, excluded, Mask.isEmpty_of, any_kinds_false]
  cases hnamed : options.any FilterOption.isIncludedKind with
  | false =>
    rw [Bool.not_false, if_pos rfl, Mask.union_of, Mask.without_of]
    refine congrArg Mask.of (funext fun f => ?_)
    cases f <;> simp [kinds, flags]
  | true =>
    rw [Bool.not_true, if_neg Bool.false_ne_true, Mask.union_of, Mask.without_of]
    refine congrArg Mask.of (funext fun f => ?_)
    cases f <;> simp [kinds, flags]

end OptionTally

namespace NetworkRule

/-- **Whether a flag holds** for a rule, whatever the order of its options. -/
def holds (r : NetworkRule) : Flag → Bool
  | .kind k =>
    (!r.options.any FilterOption.isIncludedKind || r.options.contains (.kind k false))
      && !r.options.contains (.kind k true)
  | .anyKind => !r.options.any FilterOption.isIncludedKind
  | .important => r.options.contains .important
  | .matchCase => r.options.contains .matchCase
  | .redirect => r.options.any fun o => o.resource?.isSome
  | .thirdParty =>
    !(r.options.contains (.thirdParty true) || r.options.contains (.firstParty false))
  | .firstParty =>
    !(r.options.contains (.thirdParty false) || r.options.contains (.firstParty true))
  | .regex => !Pattern.isPlain r.bothDropped
  | .leftAnchor => r.line.start = .url && !r.dropsStart
  | .rightAnchor => r.line.anchoredEnd && !r.dropsEnd
  | .hostnameAnchor => r.line.start = .hostname
  | .exception => r.line.isException
  | .hostname => false

/-- One of two masks. -/
theorem ite_of (c : Prop) [Decidable c] (p q : Flag → Bool) :
    (if c then Mask.of p else .of q) = .of fun f => if c then p f else q f := by
  by_cases hc : c <;> simp only [hc, if_true, if_false]

/-- **The mask of a rule is that of the flags that hold.** -/
theorem mask_eq (r : NetworkRule) : r.mask = .of r.holds := by
  unfold mask
  rw [tally, (OptionTally.counts_ofOptions _ _).maskWithKinds_eq]
  cases hstart : r.line.start
  all_goals
    simp only [ite_of, Mask.put_of]
    refine congrArg Mask.of (funext fun f => ?_)
    cases f <;> simp [holds, OptionTally.flags, hstart, Bool.and_comm]

/-- **The mask has exactly the flags that hold.** -/
@[simp] theorem has_mask (r : NetworkRule) (f : Flag) : r.mask.has f = r.holds f := by
  rw [mask_eq, Mask.has_of]

/-- The case of letters matters if an option says so. -/
theorem matchesCase_eq (r : NetworkRule) : r.matchesCase = r.options.contains .matchCase := by
  rw [matchesCase, tally, (OptionTally.counts_ofOptions _ _).mask, Mask.has_of]
  rfl

/-- The pattern of a rule by its flags. -/
theorem pattern_eq (r : NetworkRule) :
    r.pattern = if r.holds .matchCase then r.bothDropped else Text.lower r.bothDropped := by
  rw [pattern, matchesCase_eq]
  rfl

/-- **The filter of a rule by what its options say together.** -/
theorem toFilter_eq [IdnaService] (r : NetworkRule) (rawLine? : Option Text) :
    r.toFilter rawLine? =
      match Hostname.normalize? r.hostname with
      | none => .error .hostnameNotAscii
      | some hostname =>
        .ok (.make (.of r.holds) r.pattern hostname
          (SortedList.ofList (FilterOption.domains false r.options))
          (SortedList.ofList (FilterOption.domains true r.options))
          (FilterOption.redirection r.options) rawLine?) := by
  have counts := OptionTally.counts_ofOptions r.line.isException r.options
  have domains : (OptionTally.ofOptions r.line.isException r.options).domains =
      FilterOption.domains false r.options :=
    counts.domainList false
  have excludedDomains : (OptionTally.ofOptions r.line.isException r.options).excludedDomains =
      FilterOption.domains true r.options :=
    counts.domainList true
  cases hname : Hostname.normalize? r.hostname with
  | none => simp only [toFilter, hname]
  | some hostname =>
    simp only [toFilter, hname, mask_eq, tally, domains, excludedDomains, counts.redirect]

end NetworkRule

end ContentFilter
