import ContentFilter.Proofs.Cosmetic.Pages
import ContentFilter.Proofs.Cosmetic.Selector
import ContentFilter.Proofs.Cosmetic.Separator
import ContentFilter.Proofs.Idna.Ascii
import ContentFilter.Proofs.Search.Traversal

/-!
# What a cosmetic rule says

A rule that is cut at its separator either has a first fault, or it says
something: hostnames in normal form, a kind of selector, and what is kept of
it. `CosmeticLine.Fault` and `CosmeticLine.Means` state both without a word on
how a rule is read, and of every rule one of them holds
(`CosmeticLine.exists_fault_or_means`). Reading reports the fault
(`CosmeticLine.toFilter_of_fault`) or makes the filter that says the same
(`CosmeticLine.toFilter_of_means`), so it does the one exactly if there is a
fault, and the other exactly if there is none.

A fault is the first in the order of `CosmeticLine.Fault`: each case asks for
what the cases before it find missing.
-/

namespace ContentFilter

/-- **The normal form of a hostname pattern is ASCII**, as are the `~` and the `.*` around
its hostname. -/
theorem HostnamePattern.isAscii_of_normalize? [IdnaService] [IdnaService.WritesAscii]
    {pattern name : Text} (h : normalize? pattern = some name) : Text.isAscii name = true := by
  unfold normalize? at h
  dsimp only at h
  split at h
  · next hascii =>
    cases h
    exact hascii
  · obtain ⟨core, hcore, rfl⟩ := Option.map_eq_some_iff.1 h
    refine Text.isAscii_append (Text.isAscii_append ?_ (IdnaService.WritesAscii.isAscii hcore)) ?_
    · split <;> rfl
    · split <;> rfl

namespace CosmeticLine

variable {l : CosmeticLine} {hostnames : List Text} {kind : SelectorKind} {selector : Text}

/-- **All hostname patterns have a normal form.** -/
def IsNormal [IdnaService] (l : CosmeticLine) : Prop :=
  ∀ pattern ∈ l.patterns, ∃ name, HostnamePattern.normalize? pattern = some name

/-- **The hostnames a rule lists**: the normal forms of its patterns, one by
one. -/
def Lists [IdnaService] (l : CosmeticLine) (hostnames : List Text) : Prop :=
  List.Forall₂ (fun pattern name => HostnamePattern.normalize? pattern = some name) l.patterns
    hostnames

/-- **A rule that takes back names a hostname.** -/
def IsScoped (l : CosmeticLine) : Prop :=
  l.isUnhide = true → l.patterns ≠ []

/-- **The first fault of a rule**, behind that of having no separator. -/
inductive Fault [IdnaService] (l : CosmeticLine) : CosmeticError → Prop
  /-- Some hostname has no normal form. -/
  | hostname {pattern : Text} (h : pattern ∈ l.patterns)
      (hn : HostnamePattern.normalize? pattern = none) : Fault l .hostnameNotAscii
  /-- A rule that takes back names no hostname. -/
  | scope (normal : l.IsNormal) (h : ¬ l.IsScoped) : Fault l .unhideWithoutHostnames
  /-- A script is not closed. -/
  | script (normal : l.IsNormal) (hscope : l.IsScoped)
      (h : SelectorKind.IsOpen (Text.trim l.selector)) : Fault l .scriptNotClosed
  /-- Nothing is left as the selector. -/
  | selector {kind : SelectorKind} (normal : l.IsNormal) (hscope : l.IsScoped)
      (h : SelectorKind.Asks (Text.trim l.selector) kind []) : Fault l .emptySelector

/-- **What a rule without a fault says.** -/
structure Means [IdnaService] (l : CosmeticLine) (hostnames : List Text) (kind : SelectorKind)
    (selector : Text) : Prop where
  /-- The hostnames are those the rule lists. -/
  hostnames : l.Lists hostnames
  /-- A rule that takes back names a hostname. -/
  isScoped : l.IsScoped
  /-- The selector is what the text behind the separator asks for. -/
  asks : SelectorKind.Asks (Text.trim l.selector) kind selector
  /-- The selector is not empty. -/
  nonempty : selector ≠ []

/-- If all hostnames have a normal form, these can be listed. -/
theorem IsNormal.exists_lists [IdnaService] (normal : l.IsNormal) :
    ∃ hostnames, l.Lists hostnames := by
  cases h : l.patterns.mapM HostnamePattern.normalize? with
  | none =>
    obtain ⟨pattern, hp, none⟩ := mapM_eq_none_iff.1 h
    obtain ⟨name, hname⟩ := normal pattern hp
    rw [none] at hname
    cases hname
  | some hostnames => exact ⟨hostnames, mapM_eq_some_iff.1 h⟩

/-- **A rule has a fault or says something.** -/
theorem exists_fault_or_means [IdnaService] (l : CosmeticLine) :
    (∃ e, l.Fault e) ∨ ∃ hostnames kind selector, l.Means hostnames kind selector := by
  by_cases normal : l.IsNormal
  · by_cases hscope : l.IsScoped
    · obtain ⟨hostnames, listed⟩ := normal.exists_lists
      cases hread : SelectorKind.read (Text.trim l.selector) with
      | error e => exact .inl ⟨_, .script normal hscope (SelectorKind.read_eq_error_iff.1 hread).2⟩
      | ok asked =>
        obtain ⟨kind, selector⟩ := asked
        have asks := SelectorKind.read_eq_ok_iff.1 hread
        by_cases empty : selector = []
        · subst empty
          exact .inl ⟨_, .selector normal hscope asks⟩
        · exact .inr ⟨hostnames, kind, selector, listed, hscope, asks, empty⟩
    · exact .inl ⟨_, .scope normal hscope⟩
  · obtain ⟨pattern, hnot⟩ := not_forall.1 normal
    obtain ⟨hp, none⟩ := Classical.not_imp.1 hnot
    exact .inl ⟨_, .hostname hp (Option.eq_none_iff_forall_ne_some.2 (not_exists.1 none))⟩

/-! ## Reading -/

/-- A rule lists no hostname exactly if it has no pattern. -/
theorem Lists.eq_nil_iff [IdnaService] (h : l.Lists hostnames) :
    hostnames = [] ↔ l.patterns = [] := by
  have lengths : l.patterns.length = hostnames.length := List.Forall₂.length_eq h
  rw [← List.length_eq_zero_iff, ← lengths, List.length_eq_zero_iff]

/-- No hostname is missing exactly if there is one where it is needed. -/
theorem isScoped_iff [IdnaService] (h : l.Lists hostnames) :
    l.IsScoped ↔ ¬ (l.isUnhide && hostnames = []) = true := by
  rw [Bool.and_eq_true, decide_eq_true_eq, not_and, h.eq_nil_iff]
  rfl

/-- The filter of a rule whose hostnames are in order depends on its
selector. -/
theorem toFilter_of_scoped [IdnaService] (h : l.Lists hostnames) (hscope : l.IsScoped)
    (rawLine? : Option Text) :
    l.toFilter rawLine? =
      match SelectorKind.read (Text.trim l.selector) with
      | .error e => .error e
      | .ok (kind, selector) =>
        if selector = [] then .error .emptySelector
        else .ok (.make (.of (l.holds kind)) hostnames selector rawLine?) := by
  unfold toFilter
  rw [mapM_eq_some_iff.2 h]
  exact if_neg ((isScoped_iff h).1 hscope)

/-- **The first fault of a rule is the one reported.** -/
theorem toFilter_of_fault [IdnaService] {e : CosmeticError} (h : l.Fault e)
    (rawLine? : Option Text) : l.toFilter rawLine? = .error e := by
  cases h with
  | hostname hp none =>
    unfold toFilter
    rw [mapM_eq_none_iff.2 ⟨_, hp, none⟩]
  | scope normal unscoped =>
    obtain ⟨hostnames, listed⟩ := normal.exists_lists
    unfold toFilter
    rw [mapM_eq_some_iff.2 listed]
    exact if_pos (not_not.1 (mt (isScoped_iff listed).2 unscoped))
  | script normal hscope opened =>
    obtain ⟨hostnames, listed⟩ := normal.exists_lists
    rw [toFilter_of_scoped listed hscope, SelectorKind.read_eq_error_iff.2 ⟨rfl, opened⟩]
  | selector normal hscope asks =>
    obtain ⟨hostnames, listed⟩ := normal.exists_lists
    rw [toFilter_of_scoped listed hscope, SelectorKind.read_eq_ok_iff.2 asks]
    rfl

/-- **A rule without a fault is made into the filter that says the same.** -/
theorem toFilter_of_means [IdnaService] (h : l.Means hostnames kind selector)
    (rawLine? : Option Text) :
    l.toFilter rawLine? = .ok (.make (.of (l.holds kind)) hostnames selector rawLine?) := by
  rw [toFilter_of_scoped h.hostnames h.isScoped, SelectorKind.read_eq_ok_iff.2 h.asks]
  exact if_neg h.nonempty

/-- **A fault is reported exactly if it is the first one.** -/
theorem toFilter_eq_error_iff [IdnaService] {rawLine? : Option Text} {e : CosmeticError} :
    l.toFilter rawLine? = .error e ↔ l.Fault e := by
  constructor
  · intro h
    rcases exists_fault_or_means l with ⟨e', fault⟩ | ⟨hostnames, kind, selector, means⟩
    · rw [toFilter_of_fault fault] at h
      cases h
      exact fault
    · rw [toFilter_of_means means] at h
      cases h
  · intro fault
    exact toFilter_of_fault fault rawLine?

/-- **A filter is made exactly if the rule says something.** -/
theorem toFilter_eq_ok_iff [IdnaService] {rawLine? : Option Text} {f : CosmeticFilter} :
    l.toFilter rawLine? = .ok f ↔ ∃ hostnames kind selector, l.Means hostnames kind selector ∧
      f = .make (.of (l.holds kind)) hostnames selector rawLine? := by
  constructor
  · intro h
    rcases exists_fault_or_means l with ⟨e, fault⟩ | ⟨hostnames, kind, selector, means⟩
    · rw [toFilter_of_fault fault] at h
      cases h
    · rw [toFilter_of_means means] at h
      cases h
      exact ⟨hostnames, kind, selector, means, rfl⟩
  · rintro ⟨hostnames, kind, selector, means, rfl⟩
    exact toFilter_of_means means rawLine?

end CosmeticLine

namespace CosmeticFilter

variable {line : Text} {keepsLine : Bool} {f : CosmeticFilter}

/-- A line that is cut is read in its parts. -/
theorem ofLine_of_isCut [IdnaService] {l : CosmeticLine} (h : l.IsCut line) :
    ofLine line keepsLine = l.toFilter (if keepsLine then some line else none) := by
  unfold ofLine
  rw [CosmeticLine.ofText?_eq_some_iff.2 h]

/-- A line that is cut does have a separator. -/
theorem ofLine_ne_noSeparator [IdnaService] {l : CosmeticLine} (h : l.IsCut line) :
    ofLine line keepsLine ≠ .error .noSeparator := by
  rw [ofLine_of_isCut h, Ne, CosmeticLine.toFilter_eq_error_iff]
  intro fault
  cases fault

/-- **What is wrong with a line**: it has no separator, or the first fault of
the rule it is cut into. -/
theorem ofLine_eq_error_iff [IdnaService] {e : CosmeticError} :
    ofLine line keepsLine = .error e ↔
      (e = .noSeparator ∧ ∀ before after, line = before ++ '#' :: after →
        ¬ CosmeticLine.EndsSeparator after) ∨
      ∃ l : CosmeticLine, l.IsCut line ∧ l.Fault e := by
  rw [← CosmeticLine.ofText?_eq_none_iff]
  cases h : CosmeticLine.ofText? line with
  | none =>
    have uncut : ∀ l : CosmeticLine, ¬ l.IsCut line := by
      intro l cut
      rw [CosmeticLine.ofText?_eq_some_iff.2 cut] at h
      cases h
    unfold ofLine
    rw [h]
    constructor
    · intro he
      cases he
      exact .inl ⟨rfl, rfl⟩
    · rintro (⟨rfl, -⟩ | ⟨l, cut, -⟩)
      · rfl
      · exact absurd cut (uncut l)
  | some l =>
    have cut := CosmeticLine.ofText?_eq_some_iff.1 h
    rw [ofLine_of_isCut cut, CosmeticLine.toFilter_eq_error_iff]
    constructor
    · intro fault
      exact .inr ⟨l, cut, fault⟩
    · rintro (⟨-, ⟨⟩⟩ | ⟨l', cut', fault⟩)
      rwa [cut.unique cut']

/-- **A line has a filter** exactly if the rule it is cut into says
something. -/
theorem ofLine_eq_ok_iff [IdnaService] :
    ofLine line keepsLine = .ok f ↔ ∃ (l : CosmeticLine) (hostnames : List Text)
      (kind : SelectorKind) (selector : Text), l.IsCut line ∧ l.Means hostnames kind selector ∧
      f = .make (.of (l.holds kind)) hostnames selector
        (if keepsLine then some line else none) := by
  constructor
  · intro h
    cases hcut : CosmeticLine.ofText? line with
    | none =>
      unfold ofLine at h
      rw [hcut] at h
      cases h
    | some l =>
      have cut := CosmeticLine.ofText?_eq_some_iff.1 hcut
      rw [ofLine_of_isCut cut, CosmeticLine.toFilter_eq_ok_iff] at h
      obtain ⟨hostnames, kind, selector, means, rfl⟩ := h
      exact ⟨l, hostnames, kind, selector, cut, means, rfl⟩
  · rintro ⟨l, hostnames, kind, selector, cut, means, rfl⟩
    rw [ofLine_of_isCut cut]
    exact CosmeticLine.toFilter_of_means means _

/-- **A filter says what its rule says.** -/
structure IsFilterOf [IdnaService] (f : CosmeticFilter) (l : CosmeticLine)
    (kind : SelectorKind) : Prop where
  /-- The hostnames and the selector are those of the rule. -/
  means : l.Means f.hostnames kind f.selector
  /-- The hostnames are ASCII. -/
  isAscii : ∀ name ∈ f.hostnames, Text.isAscii name = true
  /-- The filter takes back if the rule does. -/
  unhide : f.mask.has .unhide = true ↔ l.isUnhide = true
  /-- The filter blocks scripts if the selector asks for that. -/
  scriptBlock : f.mask.has .scriptBlock = true ↔ kind = .scriptBlock
  /-- The filter injects a script if the selector asks for that. -/
  scriptInject : f.mask.has .scriptInject = true ↔ kind = .scriptInject
  /-- Some hostname is not ASCII as written if the filter says so. -/
  unicode : f.mask.has .unicode = true ↔ ∃ pattern ∈ l.patterns, Text.isAscii pattern = false

/-- The filter that is made has the flags of its rule. -/
theorem has_mask_make (l : CosmeticLine) (kind : SelectorKind) (hostnames : List Text)
    (selector : Text) (rawLine? : Option Text) (flag : CosmeticFlag) :
    (make (.of (l.holds kind)) hostnames selector rawLine?).mask.has flag = l.holds kind flag :=
  CosmeticMask.has_of _ flag

/-- The filter that is made says what its rule says. -/
theorem isFilterOf_make [IdnaService] [IdnaService.WritesAscii] {l : CosmeticLine}
    {hostnames : List Text} {kind : SelectorKind} {selector : Text}
    (h : l.Means hostnames kind selector) (rawLine? : Option Text) :
    (make (.of (l.holds kind)) hostnames selector rawLine?).IsFilterOf l kind := by
  have has := has_mask_make l kind hostnames selector rawLine?
  have normal := h.hostnames.imp fun pattern name hname =>
    And.intro (HostnamePattern.isAscii_of_normalize? hname) hname
  refine ⟨h, ?_, ?_, ?_, ?_, ?_⟩
  · exact ((List.forall₂_and_left _ _).1 (List.Forall₂.flip normal)).1
  · rw [has]
    rfl
  · rw [has]
    exact decide_eq_true_iff
  · rw [has]
    exact decide_eq_true_iff
  · rw [has, CosmeticLine.holds, List.any_eq_true]
    simp only [Bool.not_eq_true']

/-- **A line is refused for its first fault, or else has the filter that says
what its rule says.** A filter never both blocks and injects scripts, and one
that takes back what others hide applies on pages of its hostnames only. Its
hostnames are ASCII as the service writes ASCII. -/
theorem ofLine_decides_rule [IdnaService] [IdnaService.WritesAscii] (line : Text)
    (keepsLine : Bool) :
    (∀ e, ofLine line keepsLine = .error e ↔
      (e = .noSeparator ∧ ∀ before after, line = before ++ '#' :: after →
        ¬ CosmeticLine.EndsSeparator after) ∨
      ∃ l : CosmeticLine, l.IsCut line ∧ l.Fault e) ∧
    ((∃ f, ofLine line keepsLine = .ok f) ↔ ∃ l : CosmeticLine, l.IsCut line ∧
      ∃ hostnames kind selector, l.Means hostnames kind selector) ∧
    ∀ f, ofLine line keepsLine = .ok f →
      (∃ (l : CosmeticLine) (kind : SelectorKind), l.IsCut line ∧ f.IsFilterOf l kind) ∧
      ¬ (f.mask.has .scriptBlock = true ∧ f.mask.has .scriptInject = true) ∧
      f.rawLine? = (if keepsLine then some line else none) ∧
      (f.mask.has .unhide = true → ∀ r hostname m, f.match? r hostname = some (some m) →
        hostname ≠ [] ∧ ∃ pattern ∈ f.hostnames, m = .hostname pattern) := by
  refine ⟨fun e => ofLine_eq_error_iff, ?_, fun f h => ?_⟩
  · constructor
    · rintro ⟨f, h⟩
      obtain ⟨l, hostnames, kind, selector, cut, means, -⟩ := ofLine_eq_ok_iff.1 h
      exact ⟨l, cut, hostnames, kind, selector, means⟩
    · rintro ⟨l, cut, hostnames, kind, selector, means⟩
      exact ⟨_, ofLine_eq_ok_iff.2 ⟨l, hostnames, kind, selector, cut, means, rfl⟩⟩
  · obtain ⟨l, hostnames, kind, selector, cut, means, rfl⟩ := ofLine_eq_ok_iff.1 h
    have filter := isFilterOf_make means (if keepsLine then some line else none)
    refine ⟨⟨l, kind, cut, filter⟩, ?_, rfl, fun hunhide r hostname m hmatch => ?_⟩
    -- a selector is of one kind only
    · rintro ⟨hblock, hinject⟩
      cases (filter.scriptBlock.1 hblock).symm.trans (filter.scriptInject.1 hinject)
    · have named := means.isScoped (filter.unhide.1 hunhide)
      exact exists_hostname_of_match? (mt means.hostnames.eq_nil_iff.1 named) hmatch

/-- A line that takes back a pattern of scripts, with a blank among its
hostnames. -/
theorem ofLine_decides_rule_script :
    ∃ f, ofLine "Bar.com, ,~foo.*#@#script:contains(/ads/)".toList false = .ok f ∧
      f.hostnames = ["bar.com".toList, "~foo.*".toList] ∧ f.selector = "ads".toList ∧
      (∃ (l : CosmeticLine) (kind : SelectorKind),
        l.IsCut "Bar.com, ,~foo.*#@#script:contains(/ads/)".toList ∧ f.IsFilterOf l kind) ∧
      ¬ (f.mask.has .scriptBlock = true ∧ f.mask.has .scriptInject = true) ∧
      f.mask.has .unhide = true ∧ ∀ r hostname m, f.match? r hostname = some (some m) →
        hostname ≠ [] ∧ ∃ pattern ∈ f.hostnames, m = .hostname pattern := by
  have read : ofLine "Bar.com, ,~foo.*#@#script:contains(/ads/)".toList false =
      .ok (.make (.ofBits true true false false) ["bar.com".toList, "~foo.*".toList]
        "ads".toList none) := by
    decide +kernel
  obtain ⟨isFilter, notBoth, -, matching⟩ := (ofLine_decides_rule _ _).2.2 _ read
  exact ⟨_, read, rfl, rfl, isFilter, notBoth, rfl, matching rfl⟩

end CosmeticFilter

end ContentFilter
