import ContentFilter.Proofs.Network.WrittenOptions

/-!
# What the options of a rule say together

The filter of a rule does not depend on the order of its options, on how often
one is given, or on which of several domain options names a domain. What options
say together is a set: the options that are among them, and the entries of those
that name domains (`FilterOption.SaySame`). Each flag asks whether some option is
in this set, and the domains are sorted and kept without repetition.

Only the resource is looked for in order, and the last one named is the one
redirected to. That is no exception as long as no two are named: the filters of
two rules with the same parts and options that say the same are then equal
(`NetworkRule.toFilter_eq_of_saySame`).
-/

namespace ContentFilter

/-- **Sorting depends on the members alone.** -/
theorem SortedList.ofList_congr {α : Type} [Ord α] [Std.TransOrd α] [Std.LawfulEqOrd α]
    {l l' : List α} (h : ∀ a, a ∈ l ↔ a ∈ l') : ofList l = ofList l' := by
  have nodup (l : List α) : (ofList l).Nodup := (sorted_ofList l).imp fun {a b} hab heq => by
    rw [heq, Std.compare_self] at hab
    cases hab
  have perm : (ofList l).Perm (ofList l') :=
    (List.perm_ext_iff_of_nodup (nodup l) (nodup l')).2 fun a => by rw [mem_ofList, mem_ofList, h]
  refine perm.eq_of_pairwise (fun a b _ _ hab hba => ?_) (sorted_ofList l) (sorted_ofList l')
  exact absurd hba (Std.OrientedCmp.not_lt_of_lt hab)

namespace FilterOption

variable {options options' options'' : List FilterOption}

/-- **Two lists of options say the same** if the same options are among them, where
the domains may be spread over several. -/
structure SaySame (options options' : List FilterOption) : Prop where
  /-- Of the options that name no domain the same are among them. -/
  mem_iff : ∀ o : FilterOption, o.name ≠ .domain → (o ∈ options ↔ o ∈ options')
  /-- They name the same domains. -/
  mem_entries_iff : ∀ e, e ∈ options.flatMap domainEntries ↔ e ∈ options'.flatMap domainEntries

namespace SaySame

/-- Options say the same in any order, and however often they are given. -/
theorem of_mem_iff (h : ∀ o, o ∈ options ↔ o ∈ options') : SaySame options options' where
  mem_iff o _ := h o
  mem_entries_iff e := by simp only [List.mem_flatMap, h]

/-- Options that name nothing but domains say the same if they name the same. -/
theorem of_domains (h : ∀ o ∈ options, o.name = .domain) (h' : ∀ o ∈ options', o.name = .domain)
    (same : ∀ e, e ∈ options.flatMap domainEntries ↔ e ∈ options'.flatMap domainEntries) :
    SaySame options options' where
  mem_iff o ho := iff_of_false (fun hmem => ho (h o hmem)) fun hmem => ho (h' o hmem)
  mem_entries_iff := same

/-- Saying the same is transitive. -/
theorem trans (h : SaySame options options') (h' : SaySame options' options'') :
    SaySame options options'' where
  mem_iff o ho := (h.mem_iff o ho).trans (h'.mem_iff o ho)
  mem_entries_iff e := (h.mem_entries_iff e).trans (h'.mem_entries_iff e)

/-- Saying the same is saying the same among others. -/
theorem within (h : SaySame options options') (before after : List FilterOption) :
    SaySame (before ++ options ++ after) (before ++ options' ++ after) where
  mem_iff o ho := by simp only [List.mem_append, h.mem_iff o ho]
  mem_entries_iff e := by
    simp only [List.flatMap_append, List.mem_append, h.mem_entries_iff e]

/-- Whether an option is among them that names no domain. -/
theorem contains_eq (h : SaySame options options') {o : FilterOption} (ho : o.name ≠ .domain) :
    options.contains o = options'.contains o := by
  rw [Bool.eq_iff_iff, List.contains_iff_mem, List.contains_iff_mem]
  exact h.mem_iff o ho

/-- Whether an option is among them of a sort that names no domain. -/
theorem any_eq (h : SaySame options options') {p : FilterOption → Bool}
    (hp : ∀ o, p o = true → o.name ≠ .domain) : options.any p = options'.any p := by
  rw [Bool.eq_iff_iff, List.any_eq_true, List.any_eq_true]
  refine exists_congr fun o => and_congr_left fun ho => h.mem_iff o (hp o ho)

/-- The domains they name, once these are sorted. -/
theorem ofList_domains_eq (h : SaySame options options') (isExcluded : Bool) :
    SortedList.ofList (domains isExcluded options) =
      SortedList.ofList (domains isExcluded options') := by
  refine SortedList.ofList_congr fun domain => ?_
  simp only [domains, List.mem_map, List.mem_filter, h.mem_entries_iff]

end SaySame

/-- The resources some options name. -/
theorem mem_filterMap_resource?_iff {resource : Text} :
    resource ∈ options.filterMap resource? ↔ redirect resource ∈ options := by
  rw [List.mem_filterMap]
  constructor
  · intro h
    obtain ⟨o, ho, hresource⟩ := h
    cases o with
    | redirect => exact Option.some.inj hresource ▸ ho
    | domain | important | matchCase | thirdParty | firstParty | kind => cases hresource
  · intro h
    exact ⟨redirect resource, h, rfl⟩

/-- **At most one resource is named.** -/
def NamesOneResource (options : List FilterOption) : Prop :=
  ∀ resource resource', redirect resource ∈ options → redirect resource' ∈ options →
    resource = resource'

/-- **The resource redirected to** is the only one named. -/
theorem redirection_eq_of_mem (one : NamesOneResource options) {resource : Text}
    (h : redirect resource ∈ options) : redirection options = resource := by
  have hmem := mem_filterMap_resource?_iff.2 h
  have hlast := List.getLast?_eq_some_getLast (List.ne_nil_of_mem hmem)
  rw [redirection, hlast]
  exact one _ _ (mem_filterMap_resource?_iff.1 (List.getLast_mem _)) h

/-- Options that say the same redirect to the same resource, if they name at most
one. -/
theorem SaySame.redirection_eq (h : SaySame options options') (one : NamesOneResource options) :
    redirection options = redirection options' := by
  have named (resource : Text) : redirect resource ∈ options ↔ redirect resource ∈ options' :=
    h.mem_iff _ nofun
  have one' : NamesOneResource options' := fun r r' hr hr' =>
    one r r' ((named r).2 hr) ((named r').2 hr')
  by_cases some : ∃ resource, redirect resource ∈ options
  · obtain ⟨resource, hmem⟩ := some
    rw [redirection_eq_of_mem one hmem, redirection_eq_of_mem one' ((named resource).1 hmem)]
  · have none {os : List FilterOption} (hos : ∀ r, redirect r ∉ os) : redirection os = [] := by
      rw [redirection, List.eq_nil_iff_forall_not_mem.2 fun r hr =>
        hos r (mem_filterMap_resource?_iff.1 hr)]
      rfl
    have lacks := not_exists.1 some
    rw [none lacks, none fun r hr => lacks r ((named r).2 hr)]

end FilterOption

namespace NetworkRule

variable {options options' : List FilterOption}

/-- **The flags of a rule** depend on what its options say. -/
theorem holds_eq_of_saySame (h : FilterOption.SaySame options options') (line : NetworkLine)
    (options? : Option Text) (flag : Flag) :
    (⟨{ line with options? := options? }, options'⟩ : NetworkRule).holds flag =
      (⟨line, options⟩ : NetworkRule).holds flag := by
  have given (o : FilterOption) (ho : o.name ≠ .domain) :
      options'.contains o = options.contains o := (h.contains_eq ho).symm
  have kinds : options'.any FilterOption.isIncludedKind = options.any FilterOption.isIncludedKind :=
    (h.any_eq fun o ho => by
      obtain ⟨k, rfl⟩ := FilterOption.isIncludedKind_iff.1 ho
      simp [FilterOption.name]).symm
  have ofKind (k : RequestKind) (isNegated : Bool) :
      options'.contains (.kind k isNegated) = options.contains (.kind k isNegated) :=
    given _ (by simp [FilterOption.name])
  cases flag with
  | kind k => simp only [holds, kinds, ofKind]
  | anyKind => simp only [holds, kinds]
  | important => exact given .important (by decide)
  | matchCase => exact given .matchCase (by decide)
  | redirect =>
    refine (h.any_eq fun o ho => ?_).symm
    cases o with
    | redirect => simp [FilterOption.name]
    | domain | important | matchCase | thirdParty | firstParty | kind => cases ho
  | thirdParty =>
    simp only [holds, given (.thirdParty true) (by decide), given (.firstParty false) (by decide)]
  | firstParty =>
    simp only [holds, given (.thirdParty false) (by decide), given (.firstParty true) (by decide)]
  | regex | leftAnchor | rightAnchor | hostnameAnchor | exception | hostname => rfl

/-- **Rules with the same parts whose options say the same make the same
filter**, if they name at most one resource. -/
theorem toFilter_eq_of_saySame [IdnaService] (h : FilterOption.SaySame options options')
    (one : FilterOption.NamesOneResource options) (line : NetworkLine) (options? : Option Text)
    (rawLine? : Option Text) :
    (⟨{ line with options? := options? }, options'⟩ : NetworkRule).toFilter rawLine? =
      (⟨line, options⟩ : NetworkRule).toFilter rawLine? := by
  have flags := funext (holds_eq_of_saySame h line options?)
  have pattern : (⟨{ line with options? := options? }, options'⟩ : NetworkRule).pattern =
      (⟨line, options⟩ : NetworkRule).pattern := by
    rw [pattern_eq, pattern_eq, flags]
    rfl
  rw [toFilter_eq, toFilter_eq, flags, pattern, ← h.ofList_domains_eq, ← h.ofList_domains_eq,
    ← h.redirection_eq one]
  rfl

end NetworkRule

end ContentFilter
