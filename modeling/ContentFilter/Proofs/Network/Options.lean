import ContentFilter.Idna.Ascii
import ContentFilter.Network.Matching
import ContentFilter.Proofs.Network.Rule
import ContentFilter.Proofs.Network.WrittenOptions

/-!
# What the options of a rule allow

Three questions are asked of the options of a rule: whether they allow the
kind of a request, the parties it runs between, and the page it comes from.
Here each is answered from the line itself, in the words of an author of
rules (`NetworkLine.AllowsKind`, `NetworkLine.AllowsParties`,
`NetworkLine.AllowsSource`). The answers ask which names and domains the line
has among its options and nothing else, so they do not depend on the order of
options, nor on repetitions, and options that contradict each other simply
allow no request.

`NetworkFilter.matchesOptions_ofLine_iff` says that the filter of a line gives
these answers, although it looks at bits of a mask and halves sorted lists.
-/

namespace ContentFilter

namespace NetworkLine

/-- **The options allow a kind of request**: they do not negate it, and if
they name any kinds without negating them, they name this one. -/
def AllowsKind (line : Text) (k : RequestKind) : Prop :=
  ¬ Names line (.kind k) true ∧
    ((∃ k, Names line (.kind k) false) → Names line (.kind k) false)

/-- **The options allow a request from one domain to another.** -/
def AllowsParties (line : Text) (source host : Text) : Prop :=
  (Names line .thirdParty false ∨ Names line .firstParty true → source ≠ host) ∧
    (Names line .thirdParty true ∨ Names line .firstParty false → source = host)

/-- **The options allow requests from a page**, given by its domain and its
hostname: if they list domains, one of the two is listed, and neither is
excluded. -/
def AllowsSource [IdnaService] (line : Text) (domain hostname : Text) : Prop :=
  ((∃ listed, ListsDomain line false listed) →
      ListsDomain line false domain ∨ ListsDomain line false hostname) ∧
    ¬ ListsDomain line true domain ∧ ¬ ListsDomain line true hostname

end NetworkLine

/-! ## Sorted lists of domains -/

/-- Sorting leaves nothing only of nothing. -/
@[simp] theorem SortedList.ofList_eq_nil {l : List Text} : SortedList.ofList l = [] ↔ l = [] := by
  simp only [List.eq_nil_iff_forall_not_mem, SortedList.mem_ofList]

/-- **A source is found among sorted domains if it is one of them.** -/
theorem NetworkFilter.isAmong_ofList {domains : List Text} {r : Request} :
    isAmong (SortedList.ofList domains) r = true ↔
      r.sourceDomain ∈ domains ∨ r.sourceHostname ∈ domains := by
  have sorted := SortedList.sorted_ofList domains
  rw [isAmong, Bool.or_eq_true, SortedList.contains_iff sorted, SortedList.contains_iff sorted,
    SortedList.mem_ofList, SortedList.mem_ofList]

/-- **A filter without limits matches all options.** -/
theorem NetworkFilter.matchesOptions_of_unlimited {f : NetworkFilter} {r : Request}
    (kind : f.mask.has (.kind r.kind) = true) (third : f.mask.has .thirdParty = true)
    (first : f.mask.has .firstParty = true) (domains : f.domains = [])
    (excluded : f.excludedDomains = []) : f.matchesOptions r = true := by
  have notExcluded : isAmong [] r = false := by
    rw [Bool.eq_false_iff, show ([] : List Text) = SortedList.ofList [] from rfl, Ne,
      isAmong_ofList]
    simp
  unfold matchesOptions
  rw [kind, third, first, domains, excluded, notExcluded, ite_self]
  rfl

/-! ## The flags of a rule -/

namespace NetworkRule

variable {line : Text} {rule : NetworkRule}

/-- Some kind is named without being negated exactly if the line names one. -/
theorem any_isIncludedKind_iff [IdnaService] (h : ofText line = .ok rule) :
    rule.options.any FilterOption.isIncludedKind = true ↔
      ∃ k, NetworkLine.Names line (.kind k) false := by
  rw [List.any_eq_true]
  constructor
  · rintro ⟨o, ho, hkind⟩
    obtain ⟨k, rfl⟩ := FilterOption.isIncludedKind_iff.1 hkind
    exact ⟨k, (exists_option_iff h).1 ⟨_, ho, rfl, rfl⟩⟩
  · rintro ⟨k, hk⟩
    have included : rule.options.contains (.kind k false) = true ↔
        NetworkLine.Names line (.kind k) false := contains_option_iff h nofun nofun
    exact ⟨.kind k false, List.contains_iff_mem.1 (included.2 hk), rfl⟩

/-- **A rule has a flag for a kind exactly if its options allow the kind.** -/
theorem holds_kind_iff [IdnaService] (h : ofText line = .ok rule) {k : RequestKind} :
    rule.holds (.kind k) = true ↔ NetworkLine.AllowsKind line k := by
  have negated : rule.options.contains (.kind k true) = true ↔
      NetworkLine.Names line (.kind k) true := contains_option_iff h nofun nofun
  have included : rule.options.contains (.kind k false) = true ↔
      NetworkLine.Names line (.kind k) false := contains_option_iff h nofun nofun
  unfold NetworkLine.AllowsKind
  rw [← negated, ← included, ← any_isIncludedKind_iff h, holds, Bool.and_eq_true, and_comm]
  refine and_congr ?_ ?_
  · rw [Bool.not_eq_true', Bool.not_eq_true]
  -- if no kind is named, all are included
  · cases rule.options.any FilterOption.isIncludedKind <;> simp

/-- The flag for requests between parties is missing exactly if the line names
an option that rules them out. -/
theorem holds_thirdParty_iff [IdnaService] (h : ofText line = .ok rule) :
    rule.holds .thirdParty = true ↔
      ¬ (NetworkLine.Names line .thirdParty true ∨ NetworkLine.Names line .firstParty false) := by
  have third : rule.options.contains (.thirdParty true) = true ↔
      NetworkLine.Names line .thirdParty true := contains_option_iff h nofun nofun
  have first : rule.options.contains (.firstParty false) = true ↔
      NetworkLine.Names line .firstParty false := contains_option_iff h nofun nofun
  rw [← third, ← first, ← Bool.or_eq_true, Bool.not_eq_true, holds, Bool.not_eq_true']

/-- The flag for requests within one party is missing exactly if the line
names an option that rules them out. -/
theorem holds_firstParty_iff [IdnaService] (h : ofText line = .ok rule) :
    rule.holds .firstParty = true ↔
      ¬ (NetworkLine.Names line .thirdParty false ∨ NetworkLine.Names line .firstParty true) := by
  have third : rule.options.contains (.thirdParty false) = true ↔
      NetworkLine.Names line .thirdParty false := contains_option_iff h nofun nofun
  have first : rule.options.contains (.firstParty true) = true ↔
      NetworkLine.Names line .firstParty true := contains_option_iff h nofun nofun
  rw [← third, ← first, ← Bool.or_eq_true, Bool.not_eq_true, holds, Bool.not_eq_true']

/-- **The domains of a rule are those its line lists.** -/
theorem mem_domains_iff [IdnaService] (h : ofText line = .ok rule) {isExcluded : Bool}
    {domain : Text} :
    domain ∈ FilterOption.domains isExcluded rule.options ↔
      NetworkLine.ListsDomain line isExcluded domain := by
  rw [← exists_domain_iff h, FilterOption.domains, List.mem_map]
  constructor
  · rintro ⟨entry, hentry, rfl⟩
    obtain ⟨hmem, hexcluded⟩ := List.mem_filter.1 hentry
    rwa [← eq_of_beq hexcluded]
  · intro hmem
    exact ⟨⟨isExcluded, domain⟩, List.mem_filter.2 ⟨hmem, beq_self_eq_true _⟩, rfl⟩

end NetworkRule

/-! ## The filter of a line -/

namespace NetworkFilter

variable {line : Text} {keepsLine : Bool} {f : NetworkFilter}

/-- The flags for the parties are what the options allow. -/
theorem allowsParties_iff [IdnaService] {rule : NetworkRule}
    (h : NetworkRule.ofText line = .ok rule) (r : Request) :
    (if r.isThirdParty then rule.holds .thirdParty else rule.holds .firstParty) = true ↔
      NetworkLine.AllowsParties line r.sourceDomain r.hostDomain := by
  unfold NetworkLine.AllowsParties
  by_cases same : r.sourceDomain = r.hostDomain
  · have within : r.isThirdParty = false := by simp [Request.isThirdParty, same]
    rw [within, if_neg Bool.false_ne_true, NetworkRule.holds_firstParty_iff h]
    exact ⟨fun hn => ⟨fun hnamed => absurd hnamed hn, fun _ => same⟩,
      fun ha hnamed => ha.1 hnamed same⟩
  · have between : r.isThirdParty = true := by simp [Request.isThirdParty, same]
    rw [between, if_pos rfl, NetworkRule.holds_thirdParty_iff h]
    exact ⟨fun hn => ⟨fun _ => same, fun hnamed => absurd hnamed hn⟩,
      fun ha hnamed => same (ha.2 hnamed)⟩

/-- The sorted lists of domains are what the options allow. -/
theorem allowsSource_iff [IdnaService] {rule : NetworkRule} (h : NetworkRule.ofText line = .ok rule)
    (r : Request) :
    (SortedList.ofList (FilterOption.domains false rule.options) = [] ∨
        isAmong (SortedList.ofList (FilterOption.domains false rule.options)) r = true) ∧
      ¬ isAmong (SortedList.ofList (FilterOption.domains true rule.options)) r = true ↔
      NetworkLine.AllowsSource line r.sourceDomain r.sourceHostname := by
  have unlimited : SortedList.ofList (FilterOption.domains false rule.options) = [] ↔
      ¬ ∃ listed, NetworkLine.ListsDomain line false listed := by
    rw [SortedList.ofList_eq_nil, List.eq_nil_iff_forall_not_mem, not_exists]
    exact forall_congr' fun d => not_congr (NetworkRule.mem_domains_iff h)
  unfold NetworkLine.AllowsSource
  rw [unlimited, isAmong_ofList, isAmong_ofList, NetworkRule.mem_domains_iff h,
    NetworkRule.mem_domains_iff h, NetworkRule.mem_domains_iff h, NetworkRule.mem_domains_iff h,
    Classical.or_iff_not_imp_left, Classical.not_not, not_or]

/-- **A filter matches the options of a request exactly if the options on its
line allow the kind, the parties and the source.** -/
theorem matchesOptions_ofLine_iff [IdnaService] (h : ofLine line keepsLine = .ok f) (r : Request) :
    f.matchesOptions r = true ↔
      NetworkLine.AllowsKind line r.kind ∧
        NetworkLine.AllowsParties line r.sourceDomain r.hostDomain ∧
        NetworkLine.AllowsSource line r.sourceDomain r.sourceHostname := by
  obtain ⟨rule, hrule, hf⟩ := exists_isFilterOf_of_ofLine h
  rw [← NetworkRule.holds_kind_iff hrule, ← allowsParties_iff hrule r, ← allowsSource_iff hrule r]
  unfold matchesOptions
  rw [hf.has_eq, hf.has_eq, hf.has_eq, hf.domains_eq, hf.excludedDomains_eq]
  -- four tests, the last two of which are about the source
  rw [Bool.and_eq_true, Bool.and_eq_true, Bool.and_eq_true, Bool.or_eq_true, decide_eq_true_eq,
    Bool.not_eq_true', Bool.not_eq_true, and_assoc, and_assoc]

/-- The options of a line with a kind, a party, and domains of both sorts. -/
theorem matchesOptions_ofLine_scripts :
    ∃ f, ofLine "ads$script,~first-party,domain=a.com|~b.a.com".toList false = .ok f ∧
      ∀ r, f.matchesOptions r = true ↔
        NetworkLine.AllowsKind "ads$script,~first-party,domain=a.com|~b.a.com".toList r.kind ∧
          NetworkLine.AllowsParties "ads$script,~first-party,domain=a.com|~b.a.com".toList
            r.sourceDomain r.hostDomain ∧
          NetworkLine.AllowsSource "ads$script,~first-party,domain=a.com|~b.a.com".toList
            r.sourceDomain r.sourceHostname :=
  ⟨_, rfl, fun r => matchesOptions_ofLine_iff rfl r⟩

end NetworkFilter

end ContentFilter
