import ContentFilter.Idna.Ascii
import ContentFilter.Proofs.Network.Comparison
import ContentFilter.Proofs.Network.Options
import ContentFilter.Proofs.Unicode.Lowercase

/-!
# What the pattern of a line means

The pattern of a line, as its author reads it: the text between the anchors,
with no wildcard taken away, is found in the URL as `Pattern.Matches` says.
Behind `||` the pattern starts with a hostname, which is looked for on its
own, and what is left of the pattern is found right behind it
(`NetworkLine.Finds`). The letters of pattern and URL are lowered, unless an
option of the line says that their case matters.

Between this reading and the comparison a filter makes lies all that making
the filter does to the pattern: wildcards at the ends are dropped and the
anchors with them, the pattern is lowered, it is found to hold wildcards and
separators or not, and one of eight comparisons is chosen.
`NetworkFilter.matchesPattern_ofLine_iff` says that nothing of that changes
the meaning.

## In steps

`NetworkRule.matches_pattern_iff` compares the pattern of a filter with the
body of the rule, that is the pattern without its hostname, and is about
wildcards and anchors only. `NetworkFilter.IsFilterOf.compares_iff` adds the
choice of a comparison, and `NetworkFilter.IsFilterOf.matchesPattern_iff` the
place where it is made.
-/

namespace ContentFilter

/-! ## Lowering patterns -/

namespace Text

/-- **A text, lowered unless case matters.** -/
def lowerUnless (matchCase : Bool) (t : Text) : Text :=
  if matchCase then t else lower t

/-- Lowering a text in two parts is lowering the parts. -/
theorem lowerUnless_append (matchCase : Bool) (s t : Text) :
    lowerUnless matchCase (s ++ t) = lowerUnless matchCase s ++ lowerUnless matchCase t := by
  cases matchCase with
  | true => rfl
  | false => exact lower_append s t

/-- Wildcards are no letters. -/
theorem lowerUnless_wildcards (matchCase : Bool) (n : Nat) :
    lowerUnless matchCase (List.replicate n '*') = List.replicate n '*' := by
  cases matchCase with
  | true => rfl
  | false => exact List.map_replicate

/-- Characters that are no letters stand in the lowered text as in the text. -/
theorem mem_lowerUnless {d : Char} (hd : d.isAlpha = false) (matchCase : Bool) {t : Text} :
    d ∈ lowerUnless matchCase t ↔ d ∈ t := by
  cases matchCase with
  | true => exact Iff.rfl
  | false => exact mem_lower hd

end Text

/-- Lowering a pattern keeps it with or without wildcards and separators. -/
theorem Pattern.isPlain_lowerUnless (matchCase : Bool) (p : Text) :
    isPlain (Text.lowerUnless matchCase p) = isPlain p := by
  have star : '*' ∈ Text.lowerUnless matchCase p ↔ '*' ∈ p := Text.mem_lowerUnless rfl _
  have caret : '^' ∈ Text.lowerUnless matchCase p ↔ '^' ∈ p := Text.mem_lowerUnless rfl _
  rw [Bool.eq_iff_iff, isPlain_iff, isPlain_iff, star, caret]

/-! ## Wildcards and anchors -/

namespace NetworkRule

/-- The body of a rule is what is left of it and the wildcards that are
dropped, if any are. -/
theorem exists_wildcards (rule : NetworkRule) :
    ∃ n, rule.body = rule.endDropped ++ List.replicate n '*' ∧ (n == 0) = !rule.dropsEnd := by
  obtain ⟨dropped, hbody, hall⟩ := Search.exists_dropEndWhile (· == '*') rule.body
  have hdropped : dropped = List.replicate dropped.length '*' :=
    List.eq_replicate_of_mem fun c hc => beq_iff_eq.1 (hall c hc)
  refine ⟨dropped.length, ?_, ?_⟩
  · rw [← hdropped]
    exact hbody
  · rw [Bool.eq_iff_iff, beq_iff_eq, List.length_eq_zero_iff, Bool.not_eq_true', dropsEnd,
      decide_eq_false_iff_not]
    constructor
    · intro hnil hlast
      rw [hbody, hnil, List.append_nil] at hlast
      have hnot := Search.getLast?_dropEndWhile hlast
      cases hnot
    · intro hlast
      cases hlen : dropped.length with
      | zero => exact List.length_eq_zero_iff.1 hlen
      | succ n =>
        rw [hlen, List.replicate_succ'] at hdropped
        rw [hbody, hdropped, ← List.append_assoc] at hlast
        exact absurd (List.getLast?_concat ..) hlast

/-- **Dropping wildcards keeps what is found**, since the anchors are dropped
with them: the pattern of the filter, anchored as its mask says, is found
where the body of the rule is, anchored as its line says. -/
theorem matches_pattern_iff (rule : NetworkRule) {text : List UInt8} :
    Pattern.Matches rule.pattern (rule.holds .leftAnchor || rule.holds .hostnameAnchor)
        (rule.holds .rightAnchor) text ↔
      Pattern.Matches (Text.lowerUnless rule.matchesCase rule.body)
        (rule.line.start != .none) rule.line.anchoredEnd text := by
  -- the wildcards at the end
  obtain ⟨n, hbody, hn⟩ := rule.exists_wildcards
  rw [hbody, Text.lowerUnless_append, Text.lowerUnless_wildcards, Pattern.matches_append_wildcards,
    hn]
  show Pattern.Matches (Text.lowerUnless rule.matchesCase rule.bothDropped)
    ((rule.line.start = .url && !rule.dropsStart) || (rule.line.start = .hostname : Bool))
    (rule.line.anchoredEnd && !rule.dropsEnd) text ↔ _
  -- the wildcard at the start
  unfold bothDropped
  cases hdrops : rule.dropsStart with
  | false =>
    have anchored : ((rule.line.start = .url && !false) || (rule.line.start = .hostname : Bool))
        = (rule.line.start != .none) := by
      cases rule.line.start <;> rfl
    rw [anchored]
    rfl
  | true =>
    obtain ⟨hstart, hhead, -⟩ := dropsStart_eq_true_iff.1 hdrops
    have hcons : rule.endDropped = ['*'] ++ rule.endDropped.tail :=
      (List.cons_head?_tail hhead).symm
    have free : ((rule.line.start = .url && !true) || (rule.line.start = .hostname : Bool))
        = false := by
      cases hs : rule.line.start with
      | hostname => exact absurd hs hstart
      | none | url => rfl
    rw [hcons, Text.lowerUnless_append, show ['*'] = List.replicate 1 '*' from rfl,
      Text.lowerUnless_wildcards, free]
    exact Pattern.matches_wildcard_cons.symm

/-- The case of letters matters exactly if the line says so. -/
theorem matchesCase_iff [IdnaService] {line : Text} {rule : NetworkRule}
    (h : ofText line = .ok rule) :
    rule.matchesCase = true ↔ NetworkLine.Names line .matchCase false := by
  rw [matchesCase_eq]
  exact contains_option_iff h nofun nofun

end NetworkRule

/-! ## The hostname of a pattern -/

namespace NetworkRule

/-- The lower case of a character of hostnames is one, and conversely. -/
theorem isHostnameChar_toLower (c : Char) : isHostnameChar c.toLower = isHostnameChar c :=
  Text.forall_toLower (P := fun c l => isHostnameChar l = isHostnameChar c) (fun _ => rfl)
    (by decide) c

/-- **Behind its hostname** the pattern of a rule goes on with a character of no
hostname. -/
theorem isHostnameChar_of_head?_pattern {rule : NetworkRule} (h : rule.line.start = .hostname)
    {c : Char} (hc : rule.pattern.head? = some c) : isHostnameChar c = false := by
  unfold pattern at hc
  split at hc
  · exact isHostnameChar_of_head?_bothDropped h hc
  · rw [Text.lower, List.head?_map, Option.map_eq_some_iff] at hc
    obtain ⟨d, hd, rfl⟩ := hc
    rw [isHostnameChar_toLower]
    exact isHostnameChar_of_head?_bothDropped h hd

/-- A pattern starts with the same hostname before and after lowering. -/
theorem normalize?_takeWhile_lowerUnless [IdnaService] (matchCase : Bool) (p : Text) :
    Hostname.normalize? ((Text.lowerUnless matchCase p).takeWhile isHostnameChar) =
      Hostname.normalize? (p.takeWhile isHostnameChar) := by
  cases matchCase with
  | true => rfl
  | false =>
    show Hostname.normalize? ((Text.lower p).takeWhile isHostnameChar) = _
    rw [Text.takeWhile_lower isHostnameChar_toLower, Hostname.normalize?_lower]

/-- What follows the hostname can be lowered with the pattern. -/
theorem dropWhile_lowerUnless (matchCase : Bool) (p : Text) :
    (Text.lowerUnless matchCase p).dropWhile isHostnameChar =
      Text.lowerUnless matchCase (p.dropWhile isHostnameChar) := by
  cases matchCase with
  | true => rfl
  | false => exact Text.dropWhile_lower isHostnameChar_toLower p

end NetworkRule

/-! ## The meaning of a line -/

namespace NetworkLine

/-- **What the pattern of a line means**: where it is found for a request. -/
def Finds [IdnaService] (line : NetworkLine) (matchCase : Bool) (r : Request) : Prop :=
  let pattern := Text.lowerUnless matchCase line.pattern
  let url := (r.comparedUrl matchCase).utf8
  match line.start with
  | .none => Pattern.Matches pattern false line.anchoredEnd url
  | .url => Pattern.Matches pattern true line.anchoredEnd url
  | .hostname =>
    ∃ name n, Hostname.normalize? (pattern.takeWhile NetworkRule.isHostnameChar) = some name ∧
      isAnchoredBy name r.hostname = true ∧ Search.IsFirstAt name.utf8 n r.lowerUrl.utf8 ∧
      Pattern.Matches (pattern.dropWhile NetworkRule.isHostnameChar) true line.anchoredEnd
        (url.drop (n + name.byteLength))

end NetworkLine

namespace NetworkFilter

variable {line : Text} {keepsLine : Bool} {f : NetworkFilter} {engine : Engine}

/-- **The filter of a rule goes with its pattern.** -/
theorem IsFilterOf.isConsistent [IdnaService] {rule : NetworkRule} (hf : f.IsFilterOf rule) :
    f.IsConsistent := by
  refine ⟨hf.shape_eq, ?_⟩
  rw [hf.has_eq, hf.pattern_eq]
  show (!Pattern.isPlain rule.bothDropped)
    = !Pattern.isPlain (Text.lowerUnless rule.matchesCase rule.bothDropped)
  rw [Pattern.isPlain_lowerUnless]

/-- A URL without a line feed has none among the bytes that are compared. -/
theorem lineFeed_notMem_comparedUrl {f : NetworkFilter} {r : Request} (h : '\n' ∉ r.url) :
    Pattern.lineFeed ∉ f.comparedUrl r := by
  intro hmem
  have hcompared : '\n' ∈ r.comparedUrl (f.mask.has .matchCase) :=
    (Text.toUInt8_mem_utf8 rfl).1 hmem
  exact h ((Text.mem_lowerUnless rfl (f.mask.has .matchCase)).1 hcompared)

/-- **The filter of a rule compares the body of the rule**, anchored as it is
on the line. -/
theorem IsFilterOf.compares_iff [IdnaService] {rule : NetworkRule} (hf : f.IsFilterOf rule)
    (faithful : engine.IsFaithful) (taken : f.IsTakenBy engine) {text : List UInt8}
    (htext : Pattern.lineFeed ∉ text) :
    f.compares engine text = true ↔
      Pattern.Matches (Text.lowerUnless rule.matchesCase rule.body)
        (rule.line.start != .none) rule.line.anchoredEnd text := by
  rw [NetworkFilter.compares_iff hf.isConsistent faithful taken, ← Pattern.matches_iff_occurs htext,
    ← NetworkRule.matches_pattern_iff]
  unfold anchored
  rw [hf.pattern_eq, hf.has_eq, hf.has_eq, hf.has_eq]

/-- **The filter of a rule matches where its line finds the pattern.** -/
theorem IsFilterOf.matchesPattern_iff [IdnaService] {rule : NetworkRule} (hf : f.IsFilterOf rule)
    (faithful : engine.IsFaithful) (taken : f.IsTakenBy engine) {r : Request}
    (hurl : '\n' ∉ r.url) :
    f.matchesPattern engine r = true ↔ rule.line.Finds rule.matchesCase r := by
  have bytes : (r.comparedUrl rule.matchesCase).utf8 = f.comparedUrl r := by
    rw [comparedUrl, hf.has_eq, NetworkRule.matchesCase_eq]
    rfl
  have lacks := lineFeed_notMem_comparedUrl (f := f) hurl
  have behind : f.shape.isBehindHostname = decide (rule.line.start = .hostname) := by
    rw [hf.shape_eq, Shape.isBehindHostname_ofMask, hf.has_eq]
    rfl
  have compares {text : List UInt8} (htext : Pattern.lineFeed ∉ text) :=
    hf.compares_iff faithful taken htext
  have hname := hf.hostname_eq
  rw [matchesPattern_eq, behind]
  unfold NetworkLine.Finds
  dsimp only
  rw [bytes, NetworkRule.normalize?_takeWhile_lowerUnless, NetworkRule.dropWhile_lowerUnless]
  unfold NetworkRule.body at compares
  unfold NetworkRule.hostname at hname
  cases hstart : rule.line.start with
  | none =>
    rw [hstart] at compares
    exact compares lacks
  | url =>
    rw [hstart] at compares
    exact compares lacks
  | hostname =>
    rw [hstart] at compares hname
    rw [if_pos (decide_eq_true rfl), any_behindHostname_iff]
    constructor
    · rintro ⟨anchored, n, first, found⟩
      exact ⟨f.hostname, n, hname, anchored, first,
        (compares fun hmem => lacks (List.mem_of_mem_drop hmem)).1 found⟩
    · rintro ⟨name, n, hname', anchored, first, found⟩
      -- a hostname has only one normal form
      obtain rfl : f.hostname = name := Option.some.inj (hname.symm.trans hname')
      exact ⟨anchored, n, first,
        (compares fun hmem => lacks (List.mem_of_mem_drop hmem)).2 found⟩

/-- **A filter matches the pattern of a request exactly if the pattern on its
line is found there**, in lower case unless the line says that case matters. If
the pattern holds wildcards or separators, this is by any faithful engine that
takes its expression. -/
theorem matchesPattern_ofLine_iff [IdnaService] (h : ofLine line keepsLine = .ok f)
    (faithful : engine.IsFaithful) (taken : f.IsTakenBy engine) {r : Request}
    (hurl : '\n' ∉ r.url) :
    f.matchesPattern engine r = true ↔
      ∃ matchCase : Bool, (matchCase = true ↔ NetworkLine.Names line .matchCase false) ∧
        (NetworkLine.ofText line).Finds matchCase r := by
  obtain ⟨rule, hrule, hf⟩ := exists_isFilterOf_of_ofLine h
  have written := NetworkRule.matchesCase_iff hrule
  rw [hf.matchesPattern_iff faithful taken hurl, ← NetworkRule.line_eq_of_ofText hrule]
  constructor
  · intro finds
    exact ⟨rule.matchesCase, written, finds⟩
  · rintro ⟨matchCase, written', finds⟩
    have same : matchCase = rule.matchesCase := by
      rw [Bool.eq_iff_iff, written', written]
    rwa [← same]

/-- A line with a hostname, wildcards inside and at the end, and an anchor, by an
engine that tries all ways. It finds what is behind the hostname, and not what
goes on behind the end. -/
theorem matchesPattern_ofLine_wildcards :
    let line := "||foo.com/*bar^*|".toList
    let found : Request := .make "http://foo.com/a/bar?".toList "foo.com".toList [] [] [] .script
    let missed : Request := .make "http://foo.com/a/bart".toList "foo.com".toList [] [] [] .script
    ∃ f, ofLine line false = .ok f ∧ f.mask.has .regex = true ∧ f.IsTakenBy .splitting ∧
      '\n' ∉ found.url ∧ '\n' ∉ missed.url ∧
      f.matchesPattern .splitting found = true ∧
      (∃ matchCase, (NetworkLine.ofText line).Finds matchCase found) ∧
      f.matchesPattern .splitting missed = false ∧
      ∀ matchCase : Bool, (matchCase = true ↔ NetworkLine.Names line .matchCase false) →
        ¬ (NetworkLine.ofText line).Finds matchCase missed := by
  intro line found missed
  obtain ⟨f, hf, hregex, taken, hfound, hmissed⟩ : ∃ f, ofLine line false = .ok f ∧
      f.mask.has .regex = true ∧ f.IsTakenBy .splitting ∧
      f.matchesPattern .splitting found = true ∧ f.matchesPattern .splitting missed = false := by
    refine ⟨_, rfl, ?_, ?_, ?_, ?_⟩ <;> decide +kernel
  have found_url : '\n' ∉ found.url := by decide +kernel
  have missed_url : '\n' ∉ missed.url := by decide +kernel
  have finds := (matchesPattern_ofLine_iff hf Engine.isFaithful_splitting taken found_url).1 hfound
  obtain ⟨matchCase, -, finds⟩ := finds
  refine ⟨f, hf, hregex, taken, found_url, missed_url, hfound, ⟨matchCase, finds⟩, hmissed,
    fun matchCase written finds => ?_⟩
  have hmatch := (matchesPattern_ofLine_iff hf Engine.isFaithful_splitting taken missed_url).2
    ⟨matchCase, written, finds⟩
  exact Bool.false_ne_true (hmissed.symm.trans hmatch)

end NetworkFilter

end ContentFilter
