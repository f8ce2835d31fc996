import ContentFilter.Idna.Ascii
import ContentFilter.Proofs.Network.OptionFaults
import ContentFilter.Proofs.Network.Parts
import ContentFilter.Proofs.Network.Rule

/-!
# Which lines are network rules

A line has one reading as the parts of a network rule, so nothing but its
options and its hostname can be wrong with it. The options are looked at first
and from left to right, and the first that has a fault is reported
(`NetworkRule.ofText_eq_error_iff`). The hostname is looked at only where all
options are valid, although it stands in front of them
(`NetworkLine.Fault`).

`NetworkFilter.ofLine_decides_grammar` says so of the filter of a line: there
is one exactly if the line has no fault.
-/

namespace ContentFilter

namespace NetworkLine

/-- **The hostname of a rule has a normal form**: the longest run of hostname
characters behind `||`. -/
def IsNormal [IdnaService] (l : NetworkLine) : Prop :=
  l.start = .hostname →
    ∃ name, Hostname.normalize? (l.pattern.takeWhile NetworkRule.isHostnameChar) = some name

/-- **The first fault of a line.** -/
inductive Fault [IdnaService] (line : Text) : NetworkError → Prop
  /-- An option has a fault, and those before it are valid. -/
  | option {before after : List Text} {option : Text} {e : NetworkError}
      (h : optionTexts line = before ++ option :: after)
      (valid : ∀ o ∈ before, FilterOption.IsValid o) (fault : FilterOption.Fault option e) :
      Fault line e
  /-- The hostname has no normal form, and all options are valid. -/
  | hostname {l : NetworkLine} (reads : l.Reads line)
      (valid : ∀ o ∈ optionTexts line, FilterOption.IsValid o) (h : ¬ l.IsNormal) :
      Fault line .hostnameNotAscii

end NetworkLine

namespace NetworkRule

variable {line : Text} {e : NetworkError}

/-- **A rule can be read exactly if its options are valid.** -/
theorem exists_ofText_eq_ok_iff [IdnaService] :
    (∃ rule, ofText line = .ok rule) ↔
      ∀ option ∈ NetworkLine.optionTexts line, FilterOption.IsValid option := by
  simp only [← FilterOption.exists_ofText_eq_ok_iff]
  rw [← exists_mapM_eq_ok_iff]
  constructor
  · rintro ⟨rule, h⟩
    exact ⟨rule.options, mapM_optionTexts h⟩
  · rintro ⟨options, h⟩
    exact ⟨⟨NetworkLine.ofText line, options⟩, ofText_eq_ok_iff.2 ⟨rfl, h⟩⟩

/-- **A rule is refused exactly for its first option that is not valid.** -/
theorem ofText_eq_error_iff [IdnaService] :
    ofText line = .error e ↔ ∃ before option after,
      NetworkLine.optionTexts line = before ++ option :: after ∧
      (∀ o ∈ before, FilterOption.IsValid o) ∧ FilterOption.Fault option e := by
  have read : ofText line = .error e ↔
      (NetworkLine.optionTexts line).mapM FilterOption.ofText = .error e := by
    rw [ofText_eq]
    cases (NetworkLine.optionTexts line).mapM FilterOption.ofText with
    | error e' => exact ⟨fun h => congrArg _ (Except.error.inj h), fun h => h ▸ rfl⟩
    | ok options => exact iff_of_false nofun nofun
  simp only [read, mapM_eq_error_iff, FilterOption.exists_ofText_eq_ok_iff,
    FilterOption.ofText_eq_error_iff]

/-- The hostname of a rule has a normal form exactly if that of its line does. -/
theorem exists_normalize?_hostname_iff [IdnaService] (rule : NetworkRule) :
    (∃ name, Hostname.normalize? rule.hostname = some name) ↔ rule.line.IsNormal := by
  unfold NetworkLine.IsNormal hostname
  cases rule.line.start with
  | hostname => exact ⟨fun h _ => h, fun h => h rfl⟩
  | none | url => exact iff_of_true ⟨[], rfl⟩ nofun

/-- **A rule that was read has a filter** exactly if its hostname has a normal
form, and is refused for it otherwise. -/
theorem toFilter_cases [IdnaService] (rule : NetworkRule) (rawLine? : Option Text) :
    (rule.line.IsNormal ∧ ∃ f, rule.toFilter rawLine? = .ok f) ∨
      (¬ rule.line.IsNormal ∧ rule.toFilter rawLine? = .error .hostnameNotAscii) := by
  rw [← exists_normalize?_hostname_iff]
  unfold toFilter
  cases Hostname.normalize? rule.hostname with
  | none => exact .inr ⟨nofun, rfl⟩
  | some name => exact .inl ⟨⟨name, rfl⟩, _, rfl⟩

end NetworkRule

namespace NetworkFilter

variable {line : Text} {keepsLine : Bool} {e : NetworkError}

/-- A rule that cannot be read has no filter. -/
theorem ofLine_of_error [IdnaService] (h : NetworkRule.ofText line = .error e) :
    ofLine line keepsLine = .error e := by
  unfold ofLine
  rw [h]

/-- **A rule that was read** has its filter, or its hostname is at fault. -/
theorem ofLine_of_ok [IdnaService] (keepsLine : Bool) {rule : NetworkRule}
    (h : NetworkRule.ofText line = .ok rule) :
    rule.line.Reads line ∧
      ((rule.line.IsNormal ∧ ∃ f, ofLine line keepsLine = .ok f) ∨
        (¬ rule.line.IsNormal ∧ ofLine line keepsLine = .error .hostnameNotAscii)) := by
  refine ⟨NetworkLine.reads_iff.2 (NetworkRule.line_eq_of_ofText h), ?_⟩
  unfold ofLine
  rw [h]
  exact rule.toFilter_cases _

/-- **A line has a filter** exactly if its options are valid and its hostname
has a normal form. -/
theorem exists_ofLine_eq_ok_iff [IdnaService] :
    (∃ f, ofLine line keepsLine = .ok f) ↔ ∃ l : NetworkLine, l.Reads line ∧
      (∀ option ∈ NetworkLine.optionTexts line, FilterOption.IsValid option) ∧ l.IsNormal := by
  constructor
  · rintro ⟨f, h⟩
    cases hrule : NetworkRule.ofText line with
    | error e =>
      rw [ofLine_of_error hrule] at h
      cases h
    | ok rule =>
      have valid := NetworkRule.exists_ofText_eq_ok_iff.1 ⟨rule, hrule⟩
      obtain ⟨reads, ⟨normal, -⟩ | ⟨-, refused⟩⟩ := ofLine_of_ok keepsLine hrule
      · exact ⟨rule.line, reads, valid, normal⟩
      · rw [refused] at h
        cases h
  · rintro ⟨l, reads, valid, normal⟩
    obtain ⟨rule, hrule⟩ := NetworkRule.exists_ofText_eq_ok_iff.2 valid
    obtain ⟨reads', ⟨-, made⟩ | ⟨notNormal, -⟩⟩ := ofLine_of_ok keepsLine hrule
    · exact made
    · exact absurd (reads.unique reads' ▸ normal) notNormal

/-- **A line is refused for its first fault.** -/
theorem ofLine_eq_error_iff [IdnaService] :
    ofLine line keepsLine = .error e ↔ NetworkLine.Fault line e := by
  constructor
  · intro h
    cases hrule : NetworkRule.ofText line with
    | error e' =>
      rw [ofLine_of_error hrule] at h
      cases h
      obtain ⟨before, option, after, split, valid, fault⟩ :=
        NetworkRule.ofText_eq_error_iff.1 hrule
      exact .option split valid fault
    | ok rule =>
      have valid := NetworkRule.exists_ofText_eq_ok_iff.1 ⟨rule, hrule⟩
      obtain ⟨reads, ⟨-, f, made⟩ | ⟨notNormal, refused⟩⟩ := ofLine_of_ok keepsLine hrule
      · rw [made] at h
        cases h
      · rw [refused] at h
        cases h
        exact .hostname reads valid notNormal
  · intro fault
    cases fault with
    | option split valid fault =>
      exact ofLine_of_error (NetworkRule.ofText_eq_error_iff.2 ⟨_, _, _, split, valid, fault⟩)
    | hostname reads valid notNormal =>
      obtain ⟨rule, hrule⟩ := NetworkRule.exists_ofText_eq_ok_iff.2 valid
      obtain ⟨reads', ⟨normal, -⟩ | ⟨-, refused⟩⟩ := ofLine_of_ok keepsLine hrule
      · exact absurd (reads'.unique reads ▸ normal) notNormal
      · exact refused

/-- **No line is refused for not being a hostname**: that is for the entries of
hosts files. -/
theorem ofLine_ne_notAHostname [IdnaService] : ofLine line keepsLine ≠ .error .notAHostname := by
  rw [Ne, ofLine_eq_error_iff]
  intro fault
  cases fault with
  | option _ _ fault =>
    cases fault with
    | @negated name _ _ _ he => cases name <;> cases he

/-- **A line has a filter exactly if its options are valid and its hostname has
a normal form**, and is refused for its first fault otherwise: the leftmost
option that is not valid, or the hostname where all are. The filter is that of
the parts of the line, and these one after the other are the line. -/
theorem ofLine_decides_grammar [IdnaService] (line : Text) (keepsLine : Bool) :
    (∃! l : NetworkLine, l.Reads line) ∧
    ((∃ f, ofLine line keepsLine = .ok f) ↔ ∃ l : NetworkLine, l.Reads line ∧
      (∀ option ∈ NetworkLine.optionTexts line, FilterOption.IsValid option) ∧ l.IsNormal) ∧
    (∀ e, ofLine line keepsLine = .error e ↔ NetworkLine.Fault line e) ∧
    ofLine line keepsLine ≠ .error .notAHostname ∧
    ∀ f, ofLine line keepsLine = .ok f → ∃ rule : NetworkRule, f.IsFilterOf rule ∧
      rule.line.Reads line ∧ rule.line.toText = line := by
  refine ⟨?_, exists_ofLine_eq_ok_iff, fun e => ofLine_eq_error_iff, ofLine_ne_notAHostname,
    fun f h => ?_⟩
  · exact ⟨NetworkLine.ofText line, NetworkLine.reads_iff.2 rfl, fun l => NetworkLine.reads_iff.1⟩
  · obtain ⟨rule, hrule, isFilter⟩ := exists_isFilterOf_of_ofLine h
    obtain ⟨reads, -⟩ := ofLine_of_ok keepsLine hrule
    exact ⟨rule, isFilter, reads, reads.toText⟩

/-- An exception behind a hostname, with a `$` in its pattern and two options. -/
theorem ofLine_decides_grammar_exception :
    ∃ f, ofLine "@@||foo.com$a|$~script,domain=b.com|~".toList false = .ok f ∧
      ∃ rule : NetworkRule, f.IsFilterOf rule ∧
        rule.line.Reads "@@||foo.com$a|$~script,domain=b.com|~".toList ∧
        rule.line.toText = "@@||foo.com$a|$~script,domain=b.com|~".toList :=
  ⟨_, rfl, (ofLine_decides_grammar _ _).2.2.2.2 _ rfl⟩

end NetworkFilter

end ContentFilter
