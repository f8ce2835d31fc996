import ContentFilter.Proofs.Idna.Capitals
import ContentFilter.Proofs.Network.HostsEntry
import ContentFilter.Proofs.Network.Meaning
import ContentFilter.Proofs.Network.Rearrangement
import ContentFilter.Proofs.Network.StoredHostname

/-!
# What holds of every filter that was made from a text

A filter is matched, looked up and compared without a second look at how it was
made: the shape says how the pattern is compared, a domain is found by halving,
and two filters are taken for the same without their shapes and identities
(`NetworkFilter.isSame`). All this is sound because of what making a filter
leaves true of it (`NetworkFilter.IsWellFormed`), whether it was made from a line
or from an entry of a hosts file.

Two of these facts need an argument. The pattern ends in no wildcard after both
its ends were cut, in the order in which they are cut
(`NetworkRule.getLast?_pattern_ne`). And the domains, sorted by their characters,
are sorted by their bytes as well, because what is stored of them is ASCII.

Of filters that are well formed the shape and the identity follow from the rest.
So two of them that are the same are equal, and match the same requests
(`NetworkFilter.isWellFormed_of_isParsed`).
-/

namespace ContentFilter

/-- **A hostname as it is stored**: ASCII without capital letters. -/
structure Hostname.IsNormal (name : Text) : Prop where
  /-- All characters are ASCII. -/
  isAscii : Text.isAscii name = true
  /-- No letter is a capital. -/
  notUpper : ∀ c ∈ name, c.isUpper = false

/-- **A normal form is normal.** -/
theorem Hostname.isNormal_of_normalize? [IdnaService] [IdnaService.WritesAscii]
    [IdnaService.WritesNoCapitals] {written name : Text}
    (h : normalize? written = some name) : IsNormal name :=
  ⟨isAscii_of_normalize? h, isUpper_of_mem_normalize? h⟩

/-- **A normal hostname is its own normal form.** -/
theorem Hostname.IsNormal.normalize?_eq [IdnaService] {name : Text} (h : IsNormal name) :
    normalize? name = some name := by
  rw [normalize?_of_isAscii h.isAscii, Text.lower_eq_self_iff.2 h.notUpper]

/-- A part of a normal hostname is normal. -/
theorem Hostname.IsNormal.of_subset {name part : Text} (h : IsNormal name) (hpart : part ⊆ name) :
    IsNormal part where
  isAscii := List.all_eq_true.2 fun c hc => List.all_eq_true.1 h.isAscii c (hpart hc)
  notUpper := fun c hc => h.notUpper c (hpart hc)

/-! ## The pattern of a rule -/

namespace NetworkRule

/-- **No pattern ends in a wildcard.** Those at the end of the body are dropped
first, and a wildcard at the start is dropped only if none is left behind it. -/
theorem getLast?_pattern_ne (rule : NetworkRule) : rule.pattern.getLast? ≠ some '*' := by
  have kept : rule.bothDropped.getLast? ≠ some '*' := by
    unfold bothDropped
    cases hdrops : rule.dropsStart with
    | false =>
      intro hlast
      have hnot := Search.getLast?_dropEndWhile hlast
      cases hnot
    | true =>
      rw [dropsStart, Bool.and_eq_true, Pattern.isPlain_iff] at hdrops
      exact fun hlast => hdrops.2.1 (List.mem_of_getLast? hlast)
  unfold pattern
  split
  · exact kept
  · rwa [Ne, Text.getLast?_lower_eq_iff rfl]

/-- **The flag for wildcards and separators** tells whether the pattern has any. -/
theorem holds_regex_iff (rule : NetworkRule) :
    rule.holds .regex = true ↔ '*' ∈ rule.pattern ∨ '^' ∈ rule.pattern := by
  have plain : Pattern.isPlain rule.bothDropped = Pattern.isPlain rule.pattern :=
    (Pattern.isPlain_lowerUnless rule.matchesCase rule.bothDropped).symm
  rw [show rule.holds .regex = !Pattern.isPlain rule.bothDropped from rfl, plain,
    Bool.not_eq_true', ← Bool.not_eq_true, Pattern.isPlain_iff, Classical.not_and_iff_not_or_not,
    Classical.not_not, Classical.not_not]

/-- **A pattern has no capital letter** unless case matters. -/
theorem isUpper_of_mem_pattern {rule : NetworkRule} (h : rule.holds .matchCase = false) :
    ∀ c ∈ rule.pattern, c.isUpper = false := by
  rw [NetworkRule.pattern_eq, if_neg (Bool.eq_false_iff.1 h)]
  exact Text.lower_eq_self_iff.1 (Text.lower_lower _)

/-- **Only behind `||` is there a hostname.** -/
theorem holds_hostnameAnchor_of_hostname_ne {rule : NetworkRule} (h : rule.hostname ≠ []) :
    rule.holds .hostnameAnchor = true := by
  refine decide_eq_true ?_
  by_contra hstart
  exact h (hostname_of_start_ne hstart)

/-- A pattern is not anchored by a hostname and by the start of the URL. -/
theorem not_hostnameAnchor_and_leftAnchor (rule : NetworkRule) :
    ¬ (rule.holds .hostnameAnchor = true ∧ rule.holds .leftAnchor = true) := by
  simp only [holds, Bool.and_eq_true, decide_eq_true_eq]
  rintro ⟨behindHostname, atStart, -⟩
  rw [behindHostname] at atStart
  cases atStart

/-! ## The options of a rule -/

variable {line : Text} {rule : NetworkRule}

/-- **The flag for redirecting** tells whether there is a resource to redirect to,
since an option without one refuses the rule. -/
theorem holds_redirect_iff [IdnaService] (h : ofText line = .ok rule) :
    rule.holds .redirect = true ↔ FilterOption.redirection rule.options ≠ [] := by
  have named : ∀ resource ∈ rule.options.filterMap FilterOption.resource?, resource ≠ [] := by
    intro resource hmem
    obtain ⟨option, hoption, hresource⟩ := List.mem_filterMap.1 hmem
    cases option with
    | redirect value =>
      cases hresource
      obtain ⟨t, -, hread⟩ := (mem_of_mapM_eq_ok (mapM_optionTexts h)).1 hoption
      exact (FilterOption.ofText_eq_redirect_iff.1 hread).2
    | domain | important | matchCase | thirdParty | firstParty | kind => cases hresource
  have some_iff : rule.holds .redirect = true ↔
      rule.options.filterMap FilterOption.resource? ≠ [] := by
    simp [holds, List.filterMap_eq_nil_iff, Option.isSome_iff_ne_none]
  rw [some_iff, FilterOption.redirection]
  cases hlast : (rule.options.filterMap FilterOption.resource?).getLast? with
  | none => exact iff_of_false (not_not.2 (List.getLast?_eq_none_iff.1 hlast)) (not_not.2 rfl)
  | some resource =>
    have hmem := List.mem_of_getLast? hlast
    exact iff_of_true (List.ne_nil_of_mem hmem) (named resource hmem)

/-- **The domains of a rule are normal.** -/
theorem isNormal_of_mem_domains [IdnaService] [IdnaService.WritesAscii]
    [IdnaService.WritesNoCapitals]
    (h : ofText line = .ok rule) {isExcluded : Bool} {domain : Text}
    (hdomain : domain ∈ FilterOption.domains isExcluded rule.options) :
    Hostname.IsNormal domain := by
  obtain ⟨-, -, -, -, -, -, written, -, hnormal, -⟩ := (mem_domains_iff h).1 hdomain
  exact Hostname.isNormal_of_normalize? hnormal

end NetworkRule

/-- **Normal names in order are in the order of their bytes.** -/
theorem SortedList.pairwise_utf8_lt {names : List Text} (sorted : Sorted names)
    (normal : ∀ name ∈ names, Hostname.IsNormal name) : names.Pairwise fun a b => a.utf8 < b.utf8 :=
  sorted.imp_of_mem fun ha hb =>
    Text.utf8_lt_of_compare_eq_lt (normal _ ha).isAscii (normal _ hb).isAscii

/-! ## Filters -/

namespace NetworkFilter

/-- **A filter that was made from a text**: a line of a list, or an entry of a
hosts file. The text itself may have been kept or not. -/
inductive IsParsed [IdnaService] (f : NetworkFilter) : Prop
  /-- The filter of a line. -/
  | line {line : Text} {keepsLine : Bool} (h : ofLine line keepsLine = .ok f)
  /-- The filter of an entry of a hosts file. -/
  | hostsEntry {entry : Text} {keepsLine : Bool} (h : ofHostsEntry entry keepsLine = .ok f)

/-- **A well-formed filter**: its fields go together. -/
structure IsWellFormed (f : NetworkFilter) : Prop where
  /-- The shape is the one of the mask. -/
  shape_eq : f.shape = Shape.ofMask f.mask
  /-- The mask tells whether the pattern holds wildcards or separators. -/
  regex_iff : f.mask.has .regex = true ↔ '*' ∈ f.pattern ∨ '^' ∈ f.pattern
  /-- The pattern does not end in a wildcard. -/
  getLast?_ne : f.pattern.getLast? ≠ some '*'
  /-- The pattern follows a hostname or starts the URL, and not both. -/
  oneAnchor : ¬ (f.mask.has .hostnameAnchor = true ∧ f.mask.has .leftAnchor = true)
  /-- Where there is a hostname, the pattern follows it. -/
  hostnameAnchor : f.hostname ≠ [] → f.mask.has .hostnameAnchor = true
  /-- The mask tells whether there is a resource to redirect to. -/
  redirect_iff : f.mask.has .redirect = true ↔ f.redirect ≠ []
  /-- The pattern has no capital letter, unless case matters. -/
  notUpper : f.mask.has .matchCase = false → ∀ c ∈ f.pattern, c.isUpper = false
  /-- The domains are strictly increasing, byte by byte. -/
  domains_increasing : f.domains.Pairwise fun a b => a.utf8 < b.utf8
  /-- The excluded domains are strictly increasing, byte by byte. -/
  excludedDomains_increasing : f.excludedDomains.Pairwise fun a b => a.utf8 < b.utf8
  /-- All names that are stored are normal. -/
  isNormal : ∀ name ∈ f.hostname :: f.domains ++ f.excludedDomains, Hostname.IsNormal name
  /-- A filter from a hosts file has no pattern, and is compared behind a hostname. -/
  ofHosts : f.mask.has .hostname = true → f.pattern = [] ∧ f.shape = .hostnameAnchored
  /-- The identity is the one of the fields that are stored. -/
  id_eq : f.id =
    identity f.mask f.pattern f.hostname f.domains f.excludedDomains f.redirect

variable {f g : NetworkFilter}

/-- **The filter of a line is well formed.** -/
theorem isWellFormed_ofLine [IdnaService] [IdnaService.WritesAscii]
    [IdnaService.WritesNoCapitals]
    {line : Text} {keepsLine : Bool} (h : ofLine line keepsLine = .ok f) : f.IsWellFormed := by
  obtain ⟨rule, hrule, isFilter⟩ := exists_isFilterOf_of_ofLine h
  have made := eq_make_of_ofLine h
  have normal {isExcluded : Bool} :
      ∀ name ∈ SortedList.ofList (FilterOption.domains isExcluded rule.options),
        Hostname.IsNormal name := fun name hmem =>
    NetworkRule.isNormal_of_mem_domains hrule (SortedList.mem_ofList.1 hmem)
  have redirect_eq : f.redirect = FilterOption.redirection rule.options := by
    simp only [ofLine, NetworkRule.toFilter_eq, hrule, isFilter.hostname_eq] at h
    exact (congrArg NetworkFilter.redirect (Except.ok.inj h)).symm
  exact
    { shape_eq := isFilter.shape_eq
      regex_iff := by
        rw [isFilter.has_eq, isFilter.pattern_eq]
        exact rule.holds_regex_iff
      getLast?_ne := by
        rw [isFilter.pattern_eq]
        exact rule.getLast?_pattern_ne
      oneAnchor := by
        rw [isFilter.has_eq, isFilter.has_eq]
        exact rule.not_hostnameAnchor_and_leftAnchor
      hostnameAnchor := fun hne => by
        rw [isFilter.has_eq]
        refine NetworkRule.holds_hostnameAnchor_of_hostname_ne fun hnil => hne ?_
        -- nothing has nothing as its normal form
        have hnormal := isFilter.hostname_eq
        rw [hnil] at hnormal
        exact (Option.some.inj hnormal).symm
      redirect_iff := by
        rw [isFilter.has_eq, redirect_eq]
        exact NetworkRule.holds_redirect_iff hrule
      notUpper := by
        rw [isFilter.has_eq, isFilter.pattern_eq]
        exact NetworkRule.isUpper_of_mem_pattern
      domains_increasing := by
        rw [isFilter.domains_eq]
        exact SortedList.pairwise_utf8_lt (SortedList.sorted_ofList _) normal
      excludedDomains_increasing := by
        rw [isFilter.excludedDomains_eq]
        exact SortedList.pairwise_utf8_lt (SortedList.sorted_ofList _) normal
      isNormal := by
        rw [isFilter.domains_eq, isFilter.excludedDomains_eq]
        simp only [List.cons_append, List.forall_mem_cons, List.forall_mem_append]
        exact ⟨Hostname.isNormal_of_normalize? isFilter.hostname_eq, normal, normal⟩
      ofHosts := fun hflag => by
        rw [isFilter.has_eq] at hflag
        cases hflag
      id_eq := congrArg NetworkFilter.id made }

/-- **The filter of an entry of a hosts file is well formed.** -/
theorem isWellFormed_ofHostsEntry [IdnaService] [IdnaService.WritesAscii]
    [IdnaService.WritesNoCapitals]
    {entry : Text} {keepsLine : Bool} (h : ofHostsEntry entry keepsLine = .ok f) :
    f.IsWellFormed := by
  have normal := Hostname.isNormal_of_normalize? (isRead_of_ofHostsEntry h).hostname_eq
  have consistent := isConsistent_ofHostsEntry h
  have anchored := shape_ofHostsEntry h
  obtain ⟨hostname, rawLine?, rfl⟩ := exists_make_of_ofHostsEntry h
  have has_eq : ∀ flag, (make (.of HostsEntry.holds) [] hostname [] [] [] rawLine?).mask.has flag =
      HostsEntry.holds flag :=
    Mask.has_of HostsEntry.holds
  exact
    { shape_eq := consistent.shape_eq
      regex_iff := by
        rw [has_eq]
        exact iff_of_false nofun nofun
      getLast?_ne := nofun
      oneAnchor := by
        rw [has_eq .leftAnchor]
        exact fun both => nomatch both.2
      hostnameAnchor := fun _ => has_eq .hostnameAnchor
      redirect_iff := by
        rw [has_eq]
        exact iff_of_false nofun fun hne => hne rfl
      notUpper := fun _ => nofun
      domains_increasing := List.Pairwise.nil
      excludedDomains_increasing := List.Pairwise.nil
      isNormal := List.forall_mem_singleton.2 normal
      ofHosts := fun _ => ⟨rfl, anchored⟩
      id_eq := rfl }

/-- **The shape and the identity are not compared.** -/
theorem isSame_of_shape_of_id (f : NetworkFilter) (shape : Shape) (id : Hash) :
    f.isSame { f with shape := shape, id := id } = true :=
  f.isSame_self

/-- A well-formed filter is made of what is compared. -/
theorem IsWellFormed.eq_make (hf : f.IsWellFormed) :
    f = make f.mask f.pattern f.hostname f.domains f.excludedDomains f.redirect f.rawLine? := by
  rw [make, ← hf.shape_eq, ← hf.id_eq]

/-- **Well-formed filters that are the same are equal.** -/
theorem IsWellFormed.eq_of_isSame (hf : f.IsWellFormed) (hg : g.IsWellFormed)
    (same : f.isSame g = true) : f = g := by
  obtain ⟨mask, pattern, hostname, domains, excludedDomains, redirect, rawLine?⟩ :=
    isSame_iff.1 same
  rw [hf.eq_make, hg.eq_make, mask, pattern, hostname, domains, excludedDomains, redirect, rawLine?]

/-- **Every filter that was made from a text is well formed.** So two such filters
that are the same share their shape and their identity and match the same requests,
although neither shape nor identity is looked at when they are compared. -/
theorem isWellFormed_of_isParsed [IdnaService] [IdnaService.WritesAscii]
    [IdnaService.WritesNoCapitals] (hf : f.IsParsed) :
    f.IsWellFormed ∧
      (∀ shape id, f.isSame { f with shape := shape, id := id } = true) ∧
      ∀ g : NetworkFilter, g.IsParsed → f.isSame g = true →
        f.id = g.id ∧ f.shape = g.shape ∧ ∀ engine r, f.isMatch engine r = g.isMatch engine r := by
  have wellFormed {k : NetworkFilter} (hk : k.IsParsed) : k.IsWellFormed := by
    cases hk with
    | line h => exact isWellFormed_ofLine h
    | hostsEntry h => exact isWellFormed_ofHostsEntry h
  refine ⟨wellFormed hf, f.isSame_of_shape_of_id, fun g hg same => ?_⟩
  obtain rfl := (wellFormed hf).eq_of_isSame (wellFormed hg) same
  exact ⟨rfl, rfl, fun _ _ => rfl⟩

/-- One filter, written with its options in one order and in another. -/
theorem isWellFormed_of_isParsed_reordered :
    ∃ f g : NetworkFilter, f.IsParsed ∧ g.IsParsed ∧ f.isSame g = true ∧ f.IsWellFormed ∧
      f.id = g.id ∧ f.shape = g.shape ∧ ∀ engine r, f.isMatch engine r = g.isMatch engine r := by
  obtain ⟨f, hf⟩ : ∃ f, ofLine "||Foo.com/Ads^*$domain=b.com|~a.com,redirect=noop".toList false =
    .ok f := ⟨_, rfl⟩
  obtain ⟨g, hg⟩ : ∃ g, ofLine "||foo.com/ads^$redirect=noop,domain=~A.com|b.com".toList false =
    .ok g := ⟨_, rfl⟩
  have same : f.isSame g = true := by
    cases hf
    cases hg
    decide +kernel
  obtain ⟨wellFormed, -, follows⟩ := isWellFormed_of_isParsed (.line hf)
  exact ⟨f, g, .line hf, .line hg, same, wellFormed, follows g (.line hg) same⟩

end NetworkFilter

end ContentFilter
