import ContentFilter.Proofs.Network.CutEnds
import ContentFilter.Proofs.Network.WellFormed

/-!
# What a network filter is written as

A filter that has not kept its line is written as what it has stored: the mark of an
exception, the anchors, its hostname and its pattern. This is a line of its own, and
one would expect it to be read as the same filter.

The marks are not stored as they stood on the line, though. A wildcard at an end of a
pattern is dropped with the anchor it makes idle, and bares what stood next to it. If
this is a `|` or `@@`, it was a part of the pattern, and becomes a mark when the filter
is written: `*|ads` is written as `|ads`, which is anchored. A hostname is stored in its
normal form, in which other scripts may have become signs that no hostname is written
with.

Nothing else goes wrong. What cutting a line leaves true of the ends of a pattern
(`NetworkFilter.HasCutEnds`) makes the parts a filter is written in the parts they are
read back as, if the filter is plainly written (`NetworkFilter.IsPlainlyWritten.reads`).
Conversely, whatever parts a rendering is read back as, none of them is shorter than
what it stands for if the filter is to be the same, so together they leave no room for
other ones (`NetworkFilter.eq_written_of_reads`). `NetworkFilter.denotes_toText_iff` puts
the two together.
-/

namespace ContentFilter

/-! ## The marks and their lengths -/

/-- Anchors at the start are written differently. -/
theorem StartAnchor.toText_inj {a b : StartAnchor} (h : a.toText = b.toText) : a = b := by
  revert h
  cases a <;> cases b <;> decide

/-- A mark is written differently if it is there and if it is not. -/
theorem NetworkLine.anchor_inj {a b : Bool} (h : markToText ['|'] a = markToText ['|'] b) :
    a = b := by
  revert h
  cases a <;> cases b <;> decide

/-- Only what is not there is written as nothing. -/
theorem NetworkLine.optionsToText_eq_nil {options? : Option Text}
    (h : optionsToText options? = []) : options? = none := by
  cases options? with
  | none => rfl
  | some options => cases h

/-- Behind a hostname no mark goes on with a character of hostnames. -/
theorem NetworkLine.isHostnameChar_of_head?_anchor (isThere : Bool) :
    ∀ c, (markToText ['|'] isThere).head? = some c → NetworkRule.isHostnameChar c = false := by
  cases isThere with
  | false => nofun
  | true =>
    rintro _ ⟨⟩
    rfl

/-- Nor do the options. -/
theorem NetworkLine.isHostnameChar_of_head?_options (options? : Option Text) :
    ∀ c, (optionsToText options?).head? = some c → NetworkRule.isHostnameChar c = false := by
  cases options? with
  | none => nofun
  | some options =>
    rintro _ ⟨⟩
    rfl

/-- **Parts that leave no room** for anything else are equal: one after the other they
are the same text, and those on the left are no shorter than those on the right. -/
theorem Text.parts_eq_of_length_le {a a' name b b' e e' rest : Text}
    (joined : a ++ (name ++ (b ++ (e ++ rest))) = a' ++ (name ++ (b' ++ e')))
    (ha : a'.length ≤ a.length) (hb : b'.length ≤ b.length) (he : e'.length ≤ e.length) :
    a = a' ∧ b = b' ∧ e = e' ∧ rest = [] := by
  have lengths := congrArg List.length joined
  simp only [List.length_append] at lengths
  obtain ⟨start_eq, behindStart⟩ := List.append_inj joined (by omega)
  obtain ⟨body_eq, behindBody⟩ := List.append_inj (List.append_cancel_left behindStart) (by omega)
  rw [← List.append_nil e'] at behindBody
  obtain ⟨end_eq, hnil⟩ := List.append_inj behindBody (by omega)
  exact ⟨start_eq, body_eq, end_eq, hnil⟩

namespace NetworkFilter

variable {f : NetworkFilter} {l : NetworkLine} {line : Text}

/-! ## The parts of a rendering -/

/-- **The anchor a filter is written with** in front of its pattern. -/
def startAnchor (f : NetworkFilter) : StartAnchor :=
  if f.mask.has .hostnameAnchor then .hostname
  else if f.mask.has .leftAnchor then .url
  else .none

/-- **The parts a filter is written in.** -/
def written (f : NetworkFilter) : NetworkLine where
  isException := f.mask.has .exception
  start := f.startAnchor
  pattern := f.hostname ++ f.pattern
  anchoredEnd := f.mask.has .rightAnchor
  options? := none

/-- The anchor is `||` exactly if the filter has a hostname to follow. -/
theorem startAnchor_eq_hostname_iff :
    f.startAnchor = .hostname ↔ f.mask.has .hostnameAnchor = true := by
  unfold startAnchor
  split
  · next hflag => exact iff_of_true rfl hflag
  · next hflag => split <;> exact iff_of_false nofun hflag

/-- It is `|` exactly if the filter starts where the URL does. -/
theorem IsWellFormed.startAnchor_eq_url_iff (hf : f.IsWellFormed) :
    f.startAnchor = .url ↔ f.mask.has .leftAnchor = true := by
  unfold startAnchor
  split
  · next hflag => exact iff_of_false nofun fun hleft => hf.oneAnchor ⟨hflag, hleft⟩
  · split
    · next hleft => exact iff_of_true rfl hleft
    · next hleft => exact iff_of_false nofun hleft

/-- Only behind `||` is there a hostname to write. -/
theorem IsWellFormed.hostname_eq_nil (hf : f.IsWellFormed)
    (hflag : f.mask.has .hostnameAnchor = false) : f.hostname = [] := by
  by_contra hne
  rw [hf.hostnameAnchor hne] at hflag
  cases hflag

/-- The flag is missing where the anchor is another one. -/
theorem has_hostnameAnchor_of_startAnchor_ne (h : f.startAnchor ≠ .hostname) :
    f.mask.has .hostnameAnchor = false :=
  Bool.eq_false_iff.2 (mt startAnchor_eq_hostname_iff.2 h)

/-- So is the hostname. -/
theorem IsWellFormed.hostname_eq_nil_of_startAnchor_ne (hf : f.IsWellFormed)
    (h : f.startAnchor ≠ .hostname) : f.hostname = [] :=
  hf.hostname_eq_nil (has_hostnameAnchor_of_startAnchor_ne h)

/-- **Written one after the other, the parts are the rendering.** -/
theorem IsWellFormed.toText_written (hf : f.IsWellFormed) (hraw : f.rawLine? = none) :
    f.written.toText = f.toText := by
  unfold NetworkLine.toText toText written startAnchor
  rw [hraw]
  cases hflag : f.mask.has .hostnameAnchor with
  | true => simp [NetworkLine.markToText, StartAnchor.toText, NetworkLine.optionsToText]
  | false =>
    rw [hf.hostname_eq_nil hflag]
    cases f.mask.has .leftAnchor <;>
      simp [NetworkLine.markToText, StartAnchor.toText, NetworkLine.optionsToText]

/-- **A filter that is plainly written**: nothing of its hostname and its pattern can
be taken for a mark, or for the end of the hostname. -/
structure IsPlainlyWritten (f : NetworkFilter) : Prop where
  /-- The hostname is written in characters of hostnames. -/
  hostname : ∀ c ∈ f.hostname, NetworkRule.isHostnameChar c = true
  /-- A pattern without an anchor at the start does not start with one. -/
  start : f.startAnchor = .none → ¬ ['|'] <+: f.pattern
  /-- Nor does it start with the mark of an exception, if the filter is none. -/
  exception : f.startAnchor = .none → f.mask.has .exception = false → ¬ ['@', '@'] <+: f.pattern
  /-- A pattern without an anchor at the end does not end with one. -/
  stop : f.mask.has .rightAnchor = false → ¬ ['|'] <:+ f.pattern

/-! ## When the parts are read back -/

/-- An anchor behind a pattern does not make the pattern start with one. -/
theorem anchor_prefix_append_iff {p : Text} {anchored : Bool} (h : anchored = true → p ≠ []) :
    ['|'] <+: p ++ NetworkLine.markToText ['|'] anchored ↔ ['|'] <+: p := by
  cases p with
  | nil =>
    cases anchored with
    | true => exact absurd rfl (h rfl)
    | false => exact Iff.rfl
  | cons c p => simp only [List.cons_append, List.cons_prefix_cons, List.nil_prefix, and_true]

/-- Nor does it make the mark of an exception. -/
theorem exception_prefix_append_iff {p : Text} {anchored : Bool} :
    ['@', '@'] <+: p ++ NetworkLine.markToText ['|'] anchored ↔ ['@', '@'] <+: p := by
  match p, anchored with
  | [], true | [], false => decide
  | [c], true | [c], false =>
    simp [NetworkLine.markToText, List.cons_prefix_cons]
  | c :: d :: p, _ => simp [List.cons_prefix_cons]

/-- The parts of a filter, one after the other. -/
theorem toText_written_eq (f : NetworkFilter) :
    f.written.toText = NetworkLine.markToText ['@', '@'] (f.mask.has .exception) ++
      (f.startAnchor.toText ++ (f.hostname ++
        (f.pattern ++ NetworkLine.markToText ['|'] (f.mask.has .rightAnchor)))) := by
  simp only [NetworkLine.toText, written, NetworkLine.optionsToText, List.append_nil,
    List.append_assoc]

/-- **What is plainly written is read back in the same parts.** -/
theorem IsPlainlyWritten.reads (plain : f.IsPlainlyWritten) (hf : f.IsWellFormed)
    (ends : f.HasCutEnds) (hraw : f.rawLine? = none) (hdollar : '$' ∉ f.pattern) :
    f.written.Reads f.toText := by
  have lacks {c : Char} (hc : NetworkRule.isHostnameChar c = false) : c ∉ f.hostname :=
    fun hmem => by
      rw [plain.hostname c hmem] at hc
      cases hc
  refine
    { toText := hf.toText_written hraw
      exception := fun hexception hmark => ?_
      options := nofun
      noOptions := fun _ hmem => ?_
      start := fun hne hanchor => ?_
      anchoredEnd := fun hright hanchor => ?_ }
  · -- the mark of an exception could only be a part of the pattern
    rw [← hf.toText_written hraw, toText_written_eq,
      show f.mask.has .exception = false from hexception] at hmark
    cases hstart : f.startAnchor with
    | none =>
      have hnil := hf.hostname_eq_nil_of_startAnchor_ne (by rw [hstart]; decide)
      rw [hstart, hnil] at hmark
      exact plain.exception hstart hexception (exception_prefix_append_iff.1 hmark)
    | url | hostname =>
      rw [hstart] at hmark
      exact absurd (List.cons_prefix_cons.1 hmark).1 (by decide)
  · rw [← hf.toText_written hraw, toText_written_eq] at hmem
    simp only [List.mem_append] at hmem
    rcases hmem with hmark | hstart | hhost | hpattern | hmark
    · revert hmark
      cases f.mask.has .exception <;> decide
    · revert hstart
      cases f.startAnchor <;> decide
    · exact lacks (by decide) hhost
    · exact hdollar hpattern
    · revert hmark
      cases f.mask.has .rightAnchor <;> decide
  · have notHost := has_hostnameAnchor_of_startAnchor_ne hne
    rw [written, hf.hostname_eq_nil notHost, List.nil_append,
      anchor_prefix_append_iff fun hright => ends.beforeAnchor hright notHost] at hanchor
    cases hleft : f.mask.has .leftAnchor with
    | true => exact ends.behindAnchor hleft hanchor
    | false => exact plain.start (by simp [startAnchor, notHost, hleft]) hanchor
  · rw [written, ← Search.getLast?_eq_some_iff, List.getLast?_append] at hanchor
    cases hlast : f.pattern.getLast? with
    | none =>
      rw [hlast, Option.none_or] at hanchor
      exact lacks (by decide) (List.mem_of_getLast? hanchor)
    | some c =>
      rw [hlast, Option.some_or] at hanchor
      exact plain.stop hright (Search.getLast?_eq_some_iff.1 (hlast.trans hanchor))

/-- **What is read back in the same parts is plainly written**, if its hostname is. -/
theorem isPlainlyWritten_of_reads (hf : f.IsWellFormed) (reads : f.written.Reads f.toText)
    (hhost : ∀ c ∈ f.hostname, NetworkRule.isHostnameChar c = true) : f.IsPlainlyWritten := by
  have unanchored (hstart : f.startAnchor = .none) : f.written.start ≠ .hostname ∧
      f.hostname = [] := by
    have hne : f.startAnchor ≠ .hostname := by
      rw [hstart]
      decide
    exact ⟨hne, hf.hostname_eq_nil_of_startAnchor_ne hne⟩
  refine ⟨hhost, fun hstart hanchor => ?_, fun hstart hexception hmark => ?_,
    fun hright hanchor => ?_⟩
  · obtain ⟨hne, hnil⟩ := unanchored hstart
    refine reads.start hne ?_
    rw [written, hnil, List.nil_append]
    exact hanchor.trans (List.prefix_append _ _)
  · refine reads.exception hexception ?_
    rw [← reads.toText, toText_written_eq, hexception, hstart, (unanchored hstart).2]
    exact hmark.trans (List.prefix_append _ _)
  · exact reads.anchoredEnd hright (hanchor.trans (List.suffix_append _ _))

/-! ## What is made of the parts -/

/-- The hostname of the rule that is read back is the one of the filter. -/
theorem hostname_bare_written (hf : f.IsWellFormed) (ends : f.HasCutEnds)
    (hhost : ∀ c ∈ f.hostname, NetworkRule.isHostnameChar c = true) :
    (NetworkRule.bare f.written).hostname = f.hostname := by
  by_cases hstart : f.startAnchor = .hostname
  · rw [NetworkRule.hostname_of_start_eq hstart]
    exact Search.takeWhile_eq_iff.2
      ⟨f.pattern, rfl, hhost, ends.behindHostname (startAnchor_eq_hostname_iff.1 hstart)⟩
  · rw [NetworkRule.hostname_of_start_ne hstart, hf.hostname_eq_nil_of_startAnchor_ne hstart]

/-- **The rule that is read back has nothing to drop**: what is behind its hostname is
the pattern of the filter. -/
theorem bothDropped_bare_written (hf : f.IsWellFormed) (ends : f.HasCutEnds)
    (hhost : ∀ c ∈ f.hostname, NetworkRule.isHostnameChar c = true) :
    (NetworkRule.bare f.written).dropsEnd = false ∧
      (NetworkRule.bare f.written).dropsStart = false ∧
      (NetworkRule.bare f.written).bothDropped = f.pattern := by
  have body_eq : (NetworkRule.bare f.written).body = f.pattern := by
    have joined := (NetworkRule.bare f.written).hostname_append_body
    rw [hostname_bare_written hf ends hhost] at joined
    exact List.append_cancel_left joined
  have notEnd : (NetworkRule.bare f.written).dropsEnd = false := by
    rw [NetworkRule.dropsEnd, body_eq]
    exact decide_eq_false hf.getLast?_ne
  have notStart : (NetworkRule.bare f.written).dropsStart = false := by
    rw [Bool.eq_false_iff, Ne, NetworkRule.dropsStart_eq_true_iff,
      NetworkRule.endDropped_of_not_dropsEnd notEnd, body_eq]
    rintro ⟨hne, hhead, plain⟩
    rw [ends.wildcard (has_hostnameAnchor_of_startAnchor_ne hne) hhead] at plain
    cases plain
  exact ⟨notEnd, notStart, (NetworkRule.bothDropped_eq_body notEnd notStart).trans body_eq⟩

/-- **What is read back in the same parts is the same filter.** -/
theorem ofLine_toText_of_reads [IdnaService] [IdnaService.WritesAscii]
    [IdnaService.WritesNoCapitals]
    (hdollar : '$' ∉ line) (h : ofLine line false = .ok f)
    (ends : f.HasCutEnds) (reads : f.written.Reads f.toText)
    (hhost : ∀ c ∈ f.hostname, NetworkRule.isHostnameChar c = true) :
    ofLine f.toText false = .ok f := by
  have hf := isWellFormed_ofLine h
  obtain ⟨l, -, made⟩ := (ofLine_eq_ok_iff_of_notMem hdollar).1 h
  have isFilter := isFilterOf_toFilter made
  obtain ⟨notEnd, notStart, kept⟩ := bothDropped_bare_written hf ends hhost
  have lowered : Text.lower f.pattern = f.pattern :=
    Text.lower_eq_self_iff.2 (hf.notUpper (isFilter.has_eq .matchCase))
  have pattern_eq : (NetworkRule.bare f.written).pattern = f.pattern := by
    rw [NetworkRule.pattern_bare, kept, lowered]
  have holds_eq (flag : Flag) :
      (NetworkRule.bare f.written).holds flag = (NetworkRule.bare l).holds flag := by
    rw [← isFilter.has_eq flag]
    cases flag with
    | regex => rw [Bool.eq_iff_iff, NetworkRule.holds_regex_iff, hf.regex_iff, pattern_eq]
    | leftAnchor =>
      show (decide (f.startAnchor = .url) && !(NetworkRule.bare f.written).dropsStart) = _
      rw [notStart, Bool.not_false, Bool.and_true, Bool.eq_iff_iff, decide_eq_true_eq,
        hf.startAnchor_eq_url_iff]
    | rightAnchor =>
      show (f.mask.has .rightAnchor && !(NetworkRule.bare f.written).dropsEnd) = _
      rw [notEnd, Bool.not_false, Bool.and_true]
    | hostnameAnchor =>
      show decide (f.startAnchor = .hostname) = _
      rw [Bool.eq_iff_iff, decide_eq_true_eq, startAnchor_eq_hostname_iff]
    | exception => rfl
    | kind | anyKind | important | matchCase | redirect | thirdParty | firstParty | hostname =>
      rw [isFilter.has_eq]
      rfl
  have normal := hf.isNormal f.hostname List.mem_cons_self
  have normalized :
      Hostname.normalize? (NetworkRule.bare f.written).hostname = some f.hostname := by
    rw [hostname_bare_written hf ends hhost, normal.normalize?_eq]
  have flags : (NetworkRule.bare f.written).holds = (NetworkRule.bare l).holds := funext holds_eq
  obtain ⟨hostname, -, made_eq⟩ := NetworkRule.toFilter_eq_ok_iff.1 made
  have hostname_eq : f.hostname = hostname := congrArg NetworkFilter.hostname made_eq
  refine (ofLine_eq_ok_iff_of_notMem (reads.noOptions rfl)).2
    ⟨f.written, reads, NetworkRule.toFilter_eq_ok_iff.2 ⟨f.hostname, normalized, ?_⟩⟩
  rw [flags, pattern_eq, isFilter.pattern_eq, hostname_eq]
  exact made_eq

/-! ## When a rendering denotes its filter -/

/-- **A text denotes a filter** if it is read as a filter with the same mask, shape,
pattern, hostname and identity. -/
def Denotes [IdnaService] (text : Text) (f : NetworkFilter) : Prop :=
  ∃ g, ofLine text false = .ok g ∧ g.mask = f.mask ∧ g.shape = f.shape ∧ g.pattern = f.pattern ∧
    g.hostname = f.hostname ∧ g.id = f.id

/-- Reading a line decides what can be asked of its filter. -/
instance (read : Except NetworkError NetworkFilter) (P : NetworkFilter → Prop) [DecidablePred P] :
    Decidable (∃ f, read = .ok f ∧ P f) :=
  match read with
  | .error _ => isFalse fun ⟨_, h, _⟩ => nomatch h
  | .ok f => decidable_of_iff (P f) ⟨fun h => ⟨f, rfl, h⟩, fun ⟨_, h, hP⟩ => Except.ok.inj h ▸ hP⟩

instance [IdnaService] (text : Text) (f : NetworkFilter) : Decidable (Denotes text f) := by
  unfold Denotes
  infer_instance

section Reading

variable {rule : NetworkRule}

/-- Behind `||`, **a rule has the hostname of a filter** if it has it in normal form, and
if both go on to the same text. -/
theorem hostname_eq_of_pattern_append [IdnaService] (hf : f.IsWellFormed)
    (hstart : rule.line.start = .hostname)
    (hname : Hostname.normalize? rule.hostname = some f.hostname) {after after' : Text}
    (hafter : ∀ c, after.head? = some c → NetworkRule.isHostnameChar c = false)
    (hafter' : ∀ c, after'.head? = some c → NetworkRule.isHostnameChar c = false)
    (joined : rule.line.pattern ++ after = f.hostname ++ after') :
    rule.hostname = f.hostname ∧ ∀ c ∈ f.hostname, NetworkRule.isHostnameChar c = true := by
  have chars : ∀ c ∈ rule.hostname, NetworkRule.isHostnameChar c = true :=
    fun _ => NetworkRule.isHostnameChar_of_mem_hostname
  rw [← rule.hostname_append_body, List.append_assoc] at joined
  have hhost : ∀ c ∈ f.hostname, NetworkRule.isHostnameChar c = true := by
    rcases List.prefix_or_prefix_of_prefix ⟨_, joined⟩ (List.prefix_append f.hostname after') with
      shorter | longer
    · -- a part of a normal hostname is its own normal form
      have normal := (hf.isNormal f.hostname List.mem_cons_self).of_subset shorter.subset
      rw [normal.normalize?_eq] at hname
      rwa [← Option.some.inj hname]
    · exact fun c hc => chars c (longer.subset hc)
  -- both are the run of characters of hostnames that the text starts with
  have stops : ∀ c, (rule.body ++ after).head? = some c → NetworkRule.isHostnameChar c = false :=
    Search.head?_append_not (fun _ => NetworkRule.isHostnameChar_of_head?_body hstart) hafter
  refine ⟨?_, hhost⟩
  rw [← Search.takeWhile_eq_iff.2 ⟨_, rfl, chars, stops⟩, joined]
  exact Search.takeWhile_eq_iff.2 ⟨_, rfl, hhost, hafter'⟩

/-- **A rule has the hostname of a filter** if it has it in normal form, and if it is
written behind the anchor of the filter. -/
theorem hostname_eq_of_append [IdnaService] (hf : f.IsWellFormed) (ends : f.HasCutEnds)
    (behindHostname : rule.holds .hostnameAnchor = f.mask.has .hostnameAnchor)
    (hname : Hostname.normalize? rule.hostname = some f.hostname) {isAnchored : Bool}
    (joined : rule.line.start.toText ++ (rule.line.pattern ++
        (NetworkLine.markToText ['|'] rule.line.anchoredEnd ++
          NetworkLine.optionsToText rule.line.options?)) =
      f.startAnchor.toText ++ (f.hostname ++
        (f.pattern ++ NetworkLine.markToText ['|'] isAnchored))) :
    rule.hostname = f.hostname ∧ ∀ c ∈ f.hostname, NetworkRule.isHostnameChar c = true := by
  by_cases hstart : rule.line.start = .hostname
  · have hflag : f.mask.has .hostnameAnchor = true := behindHostname ▸ decide_eq_true hstart
    rw [hstart, startAnchor_eq_hostname_iff.2 hflag] at joined
    exact hostname_eq_of_pattern_append hf hstart hname
      (Search.head?_append_not (NetworkLine.isHostnameChar_of_head?_anchor _)
        (NetworkLine.isHostnameChar_of_head?_options _))
      (Search.head?_append_not (ends.behindHostname hflag)
        (NetworkLine.isHostnameChar_of_head?_anchor _))
      (List.append_cancel_left joined)
  · rw [NetworkRule.hostname_of_start_ne hstart,
      hf.hostname_eq_nil (behindHostname ▸ decide_eq_false hstart)]
    exact ⟨rfl, fun c hc => absurd hc List.not_mem_nil⟩

/-- The anchor of a filter is the one of its rule, unless a wildcard was dropped with
it. -/
theorem startAnchor_eq_of_holds
    (left : rule.holds .leftAnchor = f.mask.has .leftAnchor)
    (behindHostname : rule.holds .hostnameAnchor = f.mask.has .hostnameAnchor) :
    f.startAnchor = if rule.dropsStart then .none else rule.line.start := by
  unfold startAnchor
  rw [← left, ← behindHostname]
  cases hdrops : rule.dropsStart with
  | true =>
    have hne := (NetworkRule.dropsStart_eq_true_iff.1 hdrops).1
    simp [NetworkRule.holds, hdrops, hne]
  | false => cases hstart : rule.line.start <;> simp [NetworkRule.holds, hdrops, hstart]

/-- **A rule with the marks, the hostname and the pattern of a filter** that is read
from its rendering has no options and nothing to drop, so its parts are the ones the
filter is written in. -/
theorem eq_written_of_reads [IdnaService] (hf : f.IsWellFormed) (ends : f.HasCutEnds)
    (hraw : f.rawLine? = none) (reads : rule.line.Reads f.toText)
    (exception : rule.holds .exception = f.mask.has .exception)
    (left : rule.holds .leftAnchor = f.mask.has .leftAnchor)
    (right : rule.holds .rightAnchor = f.mask.has .rightAnchor)
    (behindHostname : rule.holds .hostnameAnchor = f.mask.has .hostnameAnchor)
    (pattern_eq : rule.pattern = f.pattern)
    (hname : Hostname.normalize? rule.hostname = some f.hostname) :
    rule.line = f.written ∧ ∀ c ∈ f.hostname, NetworkRule.isHostnameChar c = true := by
  have joined : rule.line.start.toText ++ (rule.line.pattern ++
      (NetworkLine.markToText ['|'] rule.line.anchoredEnd ++
        NetworkLine.optionsToText rule.line.options?)) =
      f.startAnchor.toText ++ (f.hostname ++
        (f.pattern ++ NetworkLine.markToText ['|'] (f.mask.has .rightAnchor))) := by
    have same : rule.line.toText = f.written.toText :=
      reads.toText.trans (hf.toText_written hraw).symm
    rw [toText_written_eq, ← exception] at same
    simp only [NetworkLine.toText, List.append_assoc] at same
    exact List.append_cancel_left same
  obtain ⟨hostname_eq, hhost⟩ := hostname_eq_of_append hf ends behindHostname hname joined
  refine ⟨?_, hhost⟩
  rw [← rule.hostname_append_body, hostname_eq, List.append_assoc] at joined
  -- no part of the rule is shorter than what it stands for in the rendering
  have start_le : f.startAnchor.toText.length ≤ rule.line.start.toText.length := by
    rw [startAnchor_eq_of_holds left behindHostname]
    split
    · exact Nat.zero_le _
    · exact Nat.le_refl _
  have body_le : f.pattern.length ≤ rule.body.length := pattern_eq ▸ rule.length_pattern_le
  have end_le : (NetworkLine.markToText ['|'] (f.mask.has .rightAnchor)).length ≤
      (NetworkLine.markToText ['|'] rule.line.anchoredEnd).length := by
    rw [← right, NetworkRule.holds]
    cases rule.line.anchoredEnd with
    | false => exact Nat.le_refl _
    | true => cases rule.dropsEnd <;> decide
  obtain ⟨start_eq, body_eq, end_eq, options_eq⟩ :=
    Text.parts_eq_of_length_le joined start_le body_le end_le
  show rule.line = ⟨f.mask.has .exception, f.startAnchor, f.hostname ++ f.pattern,
    f.mask.has .rightAnchor, none⟩
  rw [← exception, ← StartAnchor.toText_inj start_eq, ← NetworkLine.anchor_inj end_eq,
    ← NetworkLine.optionsToText_eq_nil options_eq, ← hostname_eq, ← body_eq,
    rule.hostname_append_body]
  rfl

/-- What a line in ASCII has for a hostname is written in characters of hostnames. -/
theorem IsFilterOf.isHostnameChar_of_isAscii [IdnaService] (hf : f.IsFilterOf rule)
    (ascii : Text.isAscii rule.line.pattern = true) :
    ∀ c ∈ f.hostname, NetworkRule.isHostnameChar c = true := by
  intro c hc
  have hascii : Text.isAscii rule.hostname = true := List.all_eq_true.2 fun d hd =>
    List.all_eq_true.1 ascii d (rule.hostname_append_body ▸ List.mem_append_left _ hd)
  have hname := hf.hostname_eq
  rw [Hostname.normalize?_of_isAscii hascii] at hname
  rw [← Option.some.inj hname] at hc
  obtain ⟨d, hd, rfl⟩ := List.mem_map.1 hc
  rw [NetworkRule.isHostnameChar_toLower]
  exact NetworkRule.isHostnameChar_of_mem_hostname hd

end Reading

/-- **A line that loses nothing is plainly written**: one in ASCII whose pattern has no
wildcard at its ends. -/
theorem isPlainlyWritten_of_kept [IdnaService] (hf : f.IsFilterOf (.bare l)) (reads : l.Reads line)
    (ascii : Text.isAscii line = true) (head : l.pattern.head? ≠ some '*')
    (last : l.pattern.getLast? ≠ some '*') : f.IsPlainlyWritten := by
  have notEnd : (NetworkRule.bare l).dropsEnd = false := NetworkRule.dropsEnd_of_getLast?_ne last
  have notStart : (NetworkRule.bare l).dropsStart = false :=
    NetworkRule.dropsStart_of_head?_ne notEnd head
  have startAnchor_eq : f.startAnchor = l.start := by
    rw [startAnchor_eq_of_holds (hf.has_eq _).symm (hf.has_eq _).symm, notStart]
    rfl
  have pattern_eq : f.pattern = Text.lower (NetworkRule.bare l).body := by
    rw [hf.pattern_eq, NetworkRule.pattern_bare, NetworkRule.bothDropped_eq_body notEnd notStart]
  have unanchored (hstart : f.startAnchor = .none) : l.start ≠ .hostname ∧
      f.pattern = Text.lower l.pattern := by
    have hne : l.start ≠ .hostname := by
      rw [← startAnchor_eq, hstart]
      decide
    rw [pattern_eq]
    exact ⟨hne, congrArg Text.lower (NetworkRule.body_of_start_ne hne)⟩
  refine
    { hostname := hf.isHostnameChar_of_isAscii (List.all_eq_true.2 fun c hc =>
        List.all_eq_true.1 ascii c (reads.pattern_subset hc))
      start := fun hstart hanchor => ?_
      exception := fun hstart hexception hmark => ?_
      stop := fun hright hanchor => ?_ }
  · obtain ⟨hne, lowered⟩ := unanchored hstart
    rw [lowered, Text.prefix_lower_iff rfl] at hanchor
    exact reads.start hne (hanchor.trans (List.prefix_append _ _))
  · rw [(unanchored hstart).2, Text.prefix_lower_iff rfl] at hmark
    have hexception' : l.isException = false := (hf.has_eq .exception).symm.trans hexception
    refine reads.exception hexception' ?_
    rw [← reads.toText, NetworkLine.toText, hexception', ← startAnchor_eq, hstart,
      List.append_assoc]
    exact hmark.trans (List.prefix_append _ _)
  · rw [pattern_eq, Text.suffix_lower_iff rfl] at hanchor
    have hend : l.anchoredEnd = false := by
      have hright' : (l.anchoredEnd && !(NetworkRule.bare l).dropsEnd) = false :=
        (hf.has_eq .rightAnchor).symm.trans hright
      rwa [notEnd, Bool.not_false, Bool.and_true] at hright'
    refine reads.anchoredEnd hend (hanchor.trans ?_)
    exact ⟨_, (NetworkRule.bare l).hostname_append_body⟩

/-- **When the rendering of a filter denotes it.** The filter of a line without a `$` is
read back from its rendering exactly if it is plainly written: its hostname has
characters of hostnames only, and where it has no anchor at an end, its pattern has no
`|` there, nor `@@` at the start unless it is an exception. It is then the same filter.
Lines in ASCII with no wildcard at an end of their patterns are always read back. -/
theorem denotes_toText_iff [IdnaService] [IdnaService.WritesAscii]
    [IdnaService.WritesNoCapitals]
    (hdollar : '$' ∉ line) (h : ofLine line false = .ok f) :
    (Denotes f.toText f ↔ f.IsPlainlyWritten) ∧
      (f.IsPlainlyWritten → ofLine f.toText false = .ok f) ∧
      (Text.isAscii line = true → ∀ l : NetworkLine, l.Reads line → l.pattern.head? ≠ some '*' →
        l.pattern.getLast? ≠ some '*' → f.IsPlainlyWritten) := by
  obtain ⟨l, reads, made⟩ := (ofLine_eq_ok_iff_of_notMem hdollar).1 h
  have hf := isWellFormed_ofLine h
  have isFilter := isFilterOf_toFilter made
  have ends := isFilter.hasCutEnds reads
  have hraw : f.rawLine? = none := by
    rw [eq_make_of_ofLine h]
    rfl
  have lacks : '$' ∉ f.pattern := by
    rw [isFilter.pattern_eq, NetworkRule.pattern_bare, Text.mem_lower rfl]
    exact fun hmem => hdollar (reads.pattern_subset (NetworkRule.bothDropped_subset _ hmem))
  have restored (plain : f.IsPlainlyWritten) : ofLine f.toText false = .ok f :=
    ofLine_toText_of_reads hdollar h ends (plain.reads hf ends hraw lacks) plain.hostname
  refine ⟨⟨?_, fun plain => ⟨f, restored plain, rfl, rfl, rfl, rfl, rfl⟩⟩, restored, ?_⟩
  · rintro ⟨g, hg, mask_eq, -, pattern_eq, hostname_eq, -⟩
    obtain ⟨rule, hrule, isFilter'⟩ := exists_isFilterOf_of_ofLine hg
    have reads' : rule.line.Reads f.toText :=
      NetworkLine.reads_iff.2 (NetworkRule.line_eq_of_ofText hrule)
    have has_eq (flag : Flag) : rule.holds flag = f.mask.has flag := by
      rw [← isFilter'.has_eq, mask_eq]
    obtain ⟨line_eq, hhost⟩ := eq_written_of_reads hf ends hraw reads' (has_eq _) (has_eq _)
      (has_eq _) (has_eq _) (isFilter'.pattern_eq.symm.trans pattern_eq)
      (hostname_eq ▸ isFilter'.hostname_eq)
    exact isPlainlyWritten_of_reads hf (line_eq ▸ reads') hhost
  · intro ascii l' reads' head last
    obtain rfl := reads.unique reads'
    exact isPlainlyWritten_of_kept isFilter reads ascii head last

/-- An exception behind a hostname, with capital letters, a wildcard and an anchor. -/
theorem denotes_toText_iff_anchored :
    '$' ∉ "@@||Foo.com^*Bar|".toList ∧
      ∃ f, ofLine "@@||Foo.com^*Bar|".toList false = .ok f ∧
        f.toText = "@@||foo.com^*bar|".toList ∧ Denotes f.toText f := by
  refine ⟨by decide, _, rfl, by decide +kernel, ?_⟩
  obtain ⟨denotes_iff, -, plain⟩ :=
    denotes_toText_iff (show '$' ∉ "@@||Foo.com^*Bar|".toList by decide) rfl
  exact denotes_iff.2 (plain (by decide +kernel) _ (NetworkLine.reads_iff.2 rfl)
    (by decide +kernel) (by decide +kernel))

/-- **A line is written as another one**: it has no options, and the rendering of its
filter does not denote the filter. -/
def IsLost [IdnaService] (line : Text) : Prop :=
  '$' ∉ line ∧ ∃ f, ofLine line false = .ok f ∧ ¬ Denotes f.toText f

/-- **What a wildcard at an end has bared is read as a mark**: as an anchor at the start,
as the mark of an exception, as an anchor at the end. -/
theorem not_denotes_toText :
    IsLost "*|ads".toList ∧ IsLost "*@@ads".toList ∧ IsLost "ads|*".toList := by
  unfold IsLost
  decide +kernel

end NetworkFilter

end ContentFilter
