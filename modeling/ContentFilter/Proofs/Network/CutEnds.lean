import ContentFilter.Proofs.Network.Meaning
import ContentFilter.Proofs.Network.Parts

/-!
# What cutting a line leaves at the ends of a pattern

A line without a `$` is cut into its marks and a pattern, and its pattern is cut again:
a hostname is taken off the start behind `||`, and wildcards are dropped at both ends
with the anchors they make idle. So the pattern that is stored does not have just any
ends (`NetworkFilter.HasCutEnds`): no more of the hostname stands behind it, there is no
second anchor behind the one at the start, and an anchor at the end has something in
front of it.
-/

namespace ContentFilter

/-! ## Rules without options -/

/-- **The rule without options** that has the given parts. -/
def NetworkRule.bare (l : NetworkLine) : NetworkRule :=
  ⟨l, []⟩

/-- A line without a `$` has no options. -/
theorem NetworkLine.Reads.options?_eq_none {l : NetworkLine} {line : Text} (reads : l.Reads line)
    (h : '$' ∉ line) : l.options? = none := by
  cases hoptions : l.options? with
  | none => rfl
  | some options =>
    refine absurd ?_ h
    rw [← reads.toText, NetworkLine.toText, hoptions]
    exact List.mem_append_right _ List.mem_cons_self

/-- The pattern is a part of the line. -/
theorem NetworkLine.Reads.pattern_subset {l : NetworkLine} {line : Text} (reads : l.Reads line) :
    l.pattern ⊆ line := fun c hc => by
  rw [← reads.toText, NetworkLine.toText]
  simp only [List.mem_append, hc, or_true, true_or]

/-- **The filter of a line without a `$`** is that of a rule without options. -/
theorem NetworkFilter.ofLine_eq_ok_iff_of_notMem [IdnaService] {line : Text} {f : NetworkFilter}
    (h : '$' ∉ line) :
    ofLine line false = .ok f ↔
      ∃ l, NetworkLine.Reads l line ∧ (NetworkRule.bare l).toFilter none = .ok f := by
  have reads : (NetworkLine.ofText line).Reads line := NetworkLine.reads_iff.2 rfl
  have rule : NetworkRule.ofText line = .ok (.bare (NetworkLine.ofText line)) := by
    unfold NetworkRule.ofText
    simp only [reads.options?_eq_none h]
    rfl
  have made : ofLine line false = (NetworkRule.bare (NetworkLine.ofText line)).toFilter none := by
    unfold ofLine
    rw [rule]
    rfl
  rw [made]
  constructor
  · exact fun hf => ⟨_, reads, hf⟩
  · rintro ⟨l, reads', hf⟩
    rwa [← reads'.unique reads]

/-! ## The ends of their patterns -/

namespace NetworkRule

variable {rule : NetworkRule} {l : NetworkLine} {line : Text}

/-- The pattern of a rule without options is in lower case. -/
theorem pattern_bare : (bare l).pattern = Text.lower (bare l).bothDropped := by
  rw [pattern_eq]
  rfl

/-- What is left of a body is a part of the pattern on the line. -/
theorem bothDropped_subset (rule : NetworkRule) : rule.bothDropped ⊆ rule.line.pattern := by
  rw [← rule.hostname_append_body]
  exact fun c hc => List.mem_append_right _ (rule.bothDropped_sublist.subset hc)

/-- Dropping and lowering make a body no longer. -/
theorem length_pattern_le (rule : NetworkRule) : rule.pattern.length ≤ rule.body.length := by
  have lowered : rule.pattern.length = rule.bothDropped.length := by
    unfold pattern
    split
    · rfl
    · exact Text.length_lower _
  rw [lowered]
  exact rule.bothDropped_sublist.length_le

/-- A hostname is written in characters of hostnames. -/
theorem isHostnameChar_of_mem_hostname {c : Char} (hc : c ∈ rule.hostname) :
    isHostnameChar c = true := by
  unfold hostname at hc
  split at hc
  · exact List.mem_takeWhile_imp hc
  · cases hc

/-- **Behind the anchor `|`** there is no second one. -/
theorem not_anchor_prefix_bothDropped (reads : l.Reads line)
    (h : (bare l).holds .leftAnchor = true) : ¬ ['|'] <+: (bare l).bothDropped := by
  obtain ⟨hstart, hdrops⟩ : l.start = .url ∧ (bare l).dropsStart = false := by
    rwa [holds, Bool.and_eq_true, decide_eq_true_eq, Bool.not_eq_true'] at h
  have hne : l.start ≠ .hostname := by
    rw [hstart]
    decide
  rw [bothDropped_of_not_dropsStart hdrops]
  intro anchor
  have initial : (bare l).endDropped <+: l.pattern := by
    rw [← show (bare l).body = l.pattern from body_of_start_ne hne]
    exact Search.dropEndWhile_initial _ _
  exact reads.start hne ((anchor.trans initial).trans (List.prefix_append _ _))

/-- **In front of an anchor at the end** there is a pattern, unless there is a
hostname. -/
theorem bothDropped_ne_nil (reads : l.Reads line) (h : (bare l).holds .rightAnchor = true)
    (hne : l.start ≠ .hostname) : (bare l).bothDropped ≠ [] := by
  obtain ⟨hend, hdrops⟩ : l.anchoredEnd = true ∧ (bare l).dropsEnd = false := by
    rwa [holds, Bool.and_eq_true, Bool.not_eq_true'] at h
  have kept : (bare l).endDropped = l.pattern :=
    (endDropped_of_not_dropsEnd hdrops).trans (body_of_start_ne hne)
  intro hnil
  cases hstart : (bare l).dropsStart with
  | true =>
    -- a wildcard alone is dropped at the end already
    obtain ⟨-, hhead, -⟩ := dropsStart_eq_true_iff.1 hstart
    rw [bothDropped, if_pos hstart] at hnil
    have single : (bare l).endDropped = ['*'] := by
      rw [← List.cons_head?_tail hhead, hnil]
    have hlast : (bare l).endDropped.getLast? = some '*' := by
      rw [single]
      rfl
    exact absurd (Search.getLast?_dropEndWhile hlast) (by decide)
  | false =>
    rw [bothDropped_of_not_dropsStart hstart, kept] at hnil
    refine reads.start hne ?_
    rw [hnil, hend]
    exact List.prefix_refl _

/-- **A wildcard that is left at the start** is not the only one. -/
theorem isPlain_tail_bothDropped (hne : rule.line.start ≠ .hostname)
    (h : rule.bothDropped.head? = some '*') : Pattern.isPlain rule.bothDropped.tail = false := by
  cases hstart : rule.dropsStart with
  | true =>
    obtain ⟨-, -, plain⟩ := dropsStart_eq_true_iff.1 hstart
    rw [bothDropped, if_pos hstart] at h
    exact absurd (List.mem_of_head? h) (Pattern.isPlain_iff.1 plain).1
  | false =>
    rw [bothDropped_of_not_dropsStart hstart] at h ⊢
    rw [Bool.eq_false_iff]
    intro plain
    rw [dropsStart_eq_true_iff.2 ⟨hne, h, plain⟩] at hstart
    cases hstart

end NetworkRule

namespace NetworkFilter

variable {f : NetworkFilter} {l : NetworkLine} {line : Text}

/-- **The ends of a pattern as it is stored** for a line without options. -/
structure HasCutEnds (f : NetworkFilter) : Prop where
  /-- Behind a hostname the pattern goes on with a character of no hostname. -/
  behindHostname : f.mask.has .hostnameAnchor = true →
    ∀ c, f.pattern.head? = some c → NetworkRule.isHostnameChar c = false
  /-- Behind the anchor `|` there is no second one. -/
  behindAnchor : f.mask.has .leftAnchor = true → ¬ ['|'] <+: f.pattern
  /-- In front of an anchor at the end there is a pattern, unless there is a hostname. -/
  beforeAnchor : f.mask.has .rightAnchor = true → f.mask.has .hostnameAnchor = false →
    f.pattern ≠ []
  /-- A wildcard at the start is not the only one. -/
  wildcard : f.mask.has .hostnameAnchor = false → f.pattern.head? = some '*' →
    Pattern.isPlain f.pattern.tail = false

/-- **The ends of the pattern of a filter** are those that cutting the line has left. -/
theorem IsFilterOf.hasCutEnds [IdnaService] (hf : f.IsFilterOf (.bare l)) (reads : l.Reads line) :
    f.HasCutEnds := by
  have pattern_eq : f.pattern = Text.lower (NetworkRule.bare l).bothDropped :=
    hf.pattern_eq.trans NetworkRule.pattern_bare
  have behindHostname : f.mask.has .hostnameAnchor = decide (l.start = .hostname) :=
    hf.has_eq .hostnameAnchor
  constructor
  · intro hflag c hc
    rw [behindHostname, decide_eq_true_eq] at hflag
    rw [hf.pattern_eq] at hc
    exact NetworkRule.isHostnameChar_of_head?_pattern hflag hc
  · intro hflag hanchor
    rw [pattern_eq, Text.prefix_lower_iff rfl] at hanchor
    exact NetworkRule.not_anchor_prefix_bothDropped reads (hf.has_eq _ ▸ hflag) hanchor
  · intro hflag hne hnil
    rw [behindHostname, decide_eq_false_iff_not] at hne
    rw [pattern_eq, Text.lower_eq_iff rfl] at hnil
    exact NetworkRule.bothDropped_ne_nil reads (hf.has_eq _ ▸ hflag) hne hnil
  · intro hne hhead
    rw [behindHostname, decide_eq_false_iff_not] at hne
    rw [pattern_eq, Text.head?_lower_eq_iff rfl] at hhead
    have lowered : Pattern.isPlain (Text.lower (NetworkRule.bare l).bothDropped.tail) =
        Pattern.isPlain (NetworkRule.bare l).bothDropped.tail :=
      Pattern.isPlain_lowerUnless false _
    rw [pattern_eq, Text.lower, ← List.map_tail]
    exact lowered.trans (NetworkRule.isPlain_tail_bothDropped hne hhead)

end NetworkFilter

end ContentFilter
