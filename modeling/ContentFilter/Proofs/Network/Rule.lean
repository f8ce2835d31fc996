import ContentFilter.Proofs.Network.Flags

/-!
# The filter of a rule

What is known of a filter that was made from a line: there is a rule on the
line that could be read, and the filter has that rule's flags, pattern,
hostname and domains (`NetworkFilter.IsFilterOf`). Nothing that is said about
such filters later looks at how they are made. Of the pattern of a rule it is
known what is dropped at its ends.
-/

namespace ContentFilter

namespace NetworkRule

/-- The pattern of a line is the hostname and what follows it. -/
theorem hostname_append_body (rule : NetworkRule) :
    rule.hostname ++ rule.body = rule.line.pattern := by
  unfold hostname body
  cases rule.line.start with
  | hostname => exact List.takeWhile_append_dropWhile
  | none | url => rfl

/-! ## What is dropped of a pattern -/

/-- Behind `||` the pattern starts with the hostname. -/
theorem hostname_of_start_eq {rule : NetworkRule} (h : rule.line.start = .hostname) :
    rule.hostname = rule.line.pattern.takeWhile isHostnameChar := by
  unfold hostname
  rw [h]

/-- Otherwise there is no hostname. -/
theorem hostname_of_start_ne {rule : NetworkRule} (h : rule.line.start ≠ .hostname) :
    rule.hostname = [] := by
  unfold hostname
  split
  · contradiction
  · rfl

/-- No hostname is cut off in front of the pattern, then. -/
theorem body_of_start_ne {rule : NetworkRule} (h : rule.line.start ≠ .hostname) :
    rule.body = rule.line.pattern := by
  unfold body
  split
  · contradiction
  · rfl

/-- Where no wildcard is dropped at the end, the body stays as it is. -/
theorem endDropped_of_not_dropsEnd {rule : NetworkRule} (h : rule.dropsEnd = false) :
    rule.endDropped = rule.body := by
  refine Search.dropEndWhile_eq_self fun c hc => beq_eq_false_iff_ne.2 ?_
  rintro rfl
  exact of_decide_eq_false h hc

/-- Where no wildcard is dropped at the start, the end of the body is all that is
dropped. -/
theorem bothDropped_of_not_dropsStart {rule : NetworkRule} (h : rule.dropsStart = false) :
    rule.bothDropped = rule.endDropped :=
  if_neg (Bool.eq_false_iff.1 h)

/-- A wildcard is dropped at the start if it stands there without a hostname and
without company. -/
theorem dropsStart_eq_true_iff {rule : NetworkRule} :
    rule.dropsStart = true ↔ rule.line.start ≠ .hostname ∧ rule.endDropped.head? = some '*' ∧
      Pattern.isPlain rule.endDropped.tail = true := by
  simp only [dropsStart, Bool.and_eq_true, decide_eq_true_eq, and_assoc]

/-- Nothing is dropped at the start behind `||`. -/
theorem dropsStart_of_start_eq {rule : NetworkRule} (h : rule.line.start = .hostname) :
    rule.dropsStart = false := by
  rw [Bool.eq_false_iff, Ne, dropsStart_eq_true_iff]
  exact fun dropped => dropped.1 h

/-- Where no wildcard is dropped at either end, the body is kept. -/
theorem bothDropped_eq_body {rule : NetworkRule} (hend : rule.dropsEnd = false)
    (hstart : rule.dropsStart = false) : rule.bothDropped = rule.body :=
  (bothDropped_of_not_dropsStart hstart).trans (endDropped_of_not_dropsEnd hend)

/-- A pattern that does not end in a wildcard keeps its end. -/
theorem dropsEnd_of_getLast?_ne {rule : NetworkRule} (h : rule.line.pattern.getLast? ≠ some '*') :
    rule.dropsEnd = false := by
  refine decide_eq_false fun hlast => h ?_
  rw [← rule.hostname_append_body, List.getLast?_append, hlast, Option.some_or]

/-- A pattern that has no wildcard at its ends keeps its start. -/
theorem dropsStart_of_head?_ne {rule : NetworkRule} (hend : rule.dropsEnd = false)
    (h : rule.line.pattern.head? ≠ some '*') : rule.dropsStart = false := by
  rw [Bool.eq_false_iff, Ne, dropsStart_eq_true_iff, endDropped_of_not_dropsEnd hend]
  rintro ⟨hne, hhead, -⟩
  rw [body_of_start_ne hne] at hhead
  exact h hhead

/-- What dropping leaves of a body is a part of it. -/
theorem bothDropped_sublist (rule : NetworkRule) : rule.bothDropped.Sublist rule.body := by
  have kept : rule.endDropped.Sublist rule.body := (Search.dropEndWhile_initial _ _).sublist
  unfold bothDropped
  split
  · exact (List.tail_sublist _).trans kept
  · exact kept

/-- **Behind a hostname** there is no more of it. -/
theorem isHostnameChar_of_head?_body {rule : NetworkRule} (h : rule.line.start = .hostname)
    {c : Char} (hc : rule.body.head? = some c) : isHostnameChar c = false := by
  unfold body at hc
  rw [h] at hc
  have hnot := List.head?_dropWhile_not isHostnameChar rule.line.pattern
  rwa [hc] at hnot

/-- Nor is there any where wildcards are dropped. -/
theorem isHostnameChar_of_head?_bothDropped {rule : NetworkRule}
    (h : rule.line.start = .hostname) {c : Char} (hc : rule.bothDropped.head? = some c) :
    isHostnameChar c = false := by
  obtain ⟨rest, hrest⟩ := Search.dropEndWhile_initial (· == '*') rule.body
  rw [bothDropped_of_not_dropsStart (dropsStart_of_start_eq h), endDropped] at hc
  refine isHostnameChar_of_head?_body h ?_
  rw [← hrest, List.head?_append, hc, Option.some_or]

/-! ## What a rule is made into -/

/-- **What a rule is made into**, if its hostname has a normal form. -/
theorem toFilter_eq_ok_iff [IdnaService] {rule : NetworkRule} {rawLine? : Option Text}
    {f : NetworkFilter} :
    rule.toFilter rawLine? = .ok f ↔ ∃ hostname, Hostname.normalize? rule.hostname = some hostname ∧
      f = .make (.of rule.holds) rule.pattern hostname
        (SortedList.ofList (FilterOption.domains false rule.options))
        (SortedList.ofList (FilterOption.domains true rule.options))
        (FilterOption.redirection rule.options) rawLine? := by
  rw [toFilter_eq]
  cases Hostname.normalize? rule.hostname with
  | none => exact iff_of_false nofun nofun
  | some hostname => simp [eq_comm]

end NetworkRule

namespace NetworkFilter

/-- **A filter is the one of a rule**, field by field. -/
structure IsFilterOf [IdnaService] (f : NetworkFilter) (rule : NetworkRule) : Prop where
  /-- The mask has the flags that hold for the rule. -/
  has_eq : ∀ flag, f.mask.has flag = rule.holds flag
  /-- The shape is the one of the mask. -/
  shape_eq : f.shape = Shape.ofMask f.mask
  /-- The pattern is the one of the rule. -/
  pattern_eq : f.pattern = rule.pattern
  /-- The hostname is the one of the rule, in normal form. -/
  hostname_eq : Hostname.normalize? rule.hostname = some f.hostname
  /-- The domains are those the options name, in order. -/
  domains_eq : f.domains = SortedList.ofList (FilterOption.domains false rule.options)
  /-- The excluded domains are those the options exclude, in order. -/
  excludedDomains_eq :
    f.excludedDomains = SortedList.ofList (FilterOption.domains true rule.options)

/-- **What a rule is made into is its filter.** -/
theorem isFilterOf_toFilter [IdnaService] {rule : NetworkRule} {rawLine? : Option Text}
    {f : NetworkFilter} (h : rule.toFilter rawLine? = .ok f) : f.IsFilterOf rule := by
  obtain ⟨hostname, hname, rfl⟩ := NetworkRule.toFilter_eq_ok_iff.1 h
  exact ⟨Mask.has_of rule.holds, rfl, rfl, hname, rfl, rfl⟩

/-- **The filter of a line is the filter of the rule on it.** -/
theorem exists_isFilterOf_of_ofLine [IdnaService] {line : Text} {keepsLine : Bool}
    {f : NetworkFilter} (h : ofLine line keepsLine = .ok f) :
    ∃ rule, NetworkRule.ofText line = .ok rule ∧ f.IsFilterOf rule := by
  unfold ofLine at h
  cases hrule : NetworkRule.ofText line with
  | error e =>
    rw [hrule] at h
    cases h
  | ok rule =>
    rw [hrule] at h
    exact ⟨rule, rfl, isFilterOf_toFilter h⟩

/-- **The shape and the identity of a filter that was made from a line** follow
from the rest of it. -/
theorem eq_make_of_ofLine [IdnaService] {line : Text} {keepsLine : Bool} {f : NetworkFilter}
    (h : ofLine line keepsLine = .ok f) :
    f = make f.mask f.pattern f.hostname f.domains f.excludedDomains f.redirect
      (if keepsLine then some line else none) := by
  unfold ofLine NetworkRule.toFilter at h
  split at h
  · cases h
  · split at h
    · cases h
    · cases h
      rfl

/-- **Filters are the same if they agree** in all but the shape and the identity. -/
theorem isSame_iff {f g : NetworkFilter} :
    f.isSame g = true ↔ f.mask = g.mask ∧ f.pattern = g.pattern ∧ f.hostname = g.hostname ∧
      f.domains = g.domains ∧ f.excludedDomains = g.excludedDomains ∧ f.redirect = g.redirect ∧
      f.rawLine? = g.rawLine? := by
  simp only [isSame, Bool.and_eq_true, decide_eq_true_eq, and_assoc]

/-- Filters that were made from lines are equal if they agree in all but the shape
and the identity. -/
theorem eq_of_ofLine [IdnaService] {line line' : Text} {f g : NetworkFilter}
    (hf : ofLine line false = .ok f) (hg : ofLine line' false = .ok g) (mask : f.mask = g.mask)
    (pattern : f.pattern = g.pattern) (hostname : f.hostname = g.hostname)
    (domains : f.domains = g.domains) (excludedDomains : f.excludedDomains = g.excludedDomains)
    (redirect : f.redirect = g.redirect) : f = g := by
  rw [eq_make_of_ofLine hf, eq_make_of_ofLine hg, mask, pattern, hostname, domains, excludedDomains,
    redirect]
  rfl

end NetworkFilter

end ContentFilter
