import ContentFilter.Idna.Ascii
import ContentFilter.Proofs.Network.Meaning
import ContentFilter.Proofs.Network.Rearrangement
import ContentFilter.Proofs.Request.Case
import ContentFilter.Proofs.Request.Parts

/-!
# Letter case in rules and requests

Without `match-case` the case of letters is irrelevant, both in the rule and in
the request. `NetworkLine.AlikeButCase` says of two lines that they differ in the
case of their letters only, and behind the last `$` only in the values of domain
options; everywhere else in the options, as in the resource to redirect to, case
matters.

Two lines that are alike are cut into the same parts once the letters are lowered
(`NetworkLine.ofText_lower`), and the filter of a rule is the one of the lowered
rule (`NetworkRule.toFilter_lower`): the wildcards, the anchors and the end of the
hostname are found at characters that are no letters, the pattern is lowered in
the end, and the hostname is brought into the full lower case of Unicode, which
does not see whether ASCII letters were lowered before. The domains go the same
way. On the other side nothing but the lowered URL is compared
(`NetworkFilter.isMatch_with_url`), and all else in a request is the same for all
ways of writing the URLs.
-/

namespace ContentFilter

open Text (lower)

/-! ## The parts of a lowered line -/

namespace NetworkLine

/-- **The parts of a line, with their letters lowered.** -/
def lowered (l : NetworkLine) : NetworkLine :=
  { l with
    pattern := lower l.pattern
    options? := l.options?.map lower }

/-- Lowering the parts is lowering what is written. -/
theorem toText_lowered (l : NetworkLine) : l.lowered.toText = lower l.toText := by
  have mark (m : Text) (b : Bool) (hm : Text.isLetterless m = true) :
      lower (markToText m b) = markToText m b := by
    cases b with
    | false => rfl
    | true => exact (Text.lower_eq_iff hm).2 rfl
  have start (a : StartAnchor) : lower a.toText = a.toText := by
    cases a <;> exact (Text.lower_eq_iff rfl).2 rfl
  have options (o : Option Text) : lower (optionsToText o) = optionsToText (o.map lower) := by
    cases o <;> rfl
  simp only [toText, lowered, Text.lower_append, start, options, mark ['@', '@'] _ rfl,
    mark ['|'] _ rfl]

/-- **A lowered line has the parts of the line, lowered.** -/
theorem ofText_lower (line : Text) : ofText (lower line) = (ofText line).lowered := by
  have bar : Text.isLetterless ['|'] = true := rfl
  have reads : (ofText line).Reads line := reads_iff.2 rfl
  refine (reads_iff.1 ⟨?_, fun h => ?_, fun options h => ?_, fun h => ?_, fun h => ?_,
    fun h => ?_⟩).symm
  · rw [toText_lowered, toText_ofText]
  · exact mt (Text.prefix_lower_iff rfl).1 (reads.exception h)
  · obtain ⟨written, hwritten, rfl⟩ := Option.map_eq_some_iff.1 h
    exact mt (Text.mem_lower rfl).1 (reads.options written hwritten)
  · exact mt (Text.mem_lower rfl).1 (reads.noOptions (Option.map_eq_none_iff.1 h))
  · have unmarked := mt (Text.prefix_lower_iff bar).1 (reads.start h)
    rw [Text.lower_append] at unmarked
    rwa [show markToText ['|'] (ofText line).lowered.anchoredEnd =
      lower (markToText ['|'] (ofText line).anchoredEnd) by
        cases h : (ofText line).anchoredEnd <;> simp [lowered, h, markToText, lower]]
  · exact mt (Text.suffix_lower_iff bar).1 (reads.anchoredEnd h)

/-! ## Lines that are alike -/

/-- **Two options that differ at most in the case of a domain value.** -/
inductive OptionAlike : Text → Text → Prop
  /-- The options are the same. -/
  | same (option : Text) : OptionAlike option option
  /-- Both are domain options, negated or not. -/
  | domain (marks : Nat) {value value' : Text} (values : lower value = lower value') :
      OptionAlike (List.replicate marks '~' ++ domainOption value)
        (List.replicate marks '~' ++ domainOption value')

/-- **Two lines that differ at most in the case of letters**, and in their options
at most in domain values. -/
structure AlikeButCase (line line' : Text) : Prop where
  /-- The lines differ in case only. -/
  letters : lower line = lower line'
  /-- The options do so in domain values only. -/
  options : List.Forall₂ OptionAlike (optionTexts line) (optionTexts line')

end NetworkLine

/-! ## Options that are alike -/

namespace DomainEntry

/-- A lowered piece has the same mark in front of the lowered hostname. -/
theorem split_lower (piece : Text) : split (lower piece) = Prod.map id lower (split piece) := by
  obtain ⟨⟨isExcluded, written⟩, hsplit⟩ : ∃ parts, split piece = parts := ⟨_, rfl⟩
  have hpiece := split_eq_iff.1 hsplit
  rw [hsplit]
  refine split_eq_iff.2 ?_
  cases isExcluded with
  | true =>
    rw [if_pos rfl] at hpiece
    rw [hpiece]
    rfl
  | false =>
    rw [if_neg nofun] at hpiece
    obtain ⟨rfl, unmarked⟩ := hpiece
    exact ⟨rfl, mt (Text.head?_lower_eq_iff rfl piece).1 unmarked⟩

/-- **The case of a domain value is irrelevant.** -/
theorem listOfText_lower [IdnaService] (value : Text) :
    listOfText (lower value) = listOfText value := by
  have parts : ((lower value).splitOn '|').map split =
      ((value.splitOn '|').map split).map (Prod.map id lower) := by
    rw [Text.splitOn_lower rfl, List.map_map, List.map_map]
    exact List.map_congr_left fun piece _ => split_lower piece
  unfold listOfText
  rw [parts, List.filter_map, List.mapM_map]
  refine congr (congrArg List.mapM (funext fun part => ?_)) (congrArg (List.filter · _) ?_)
  · simp only [Function.comp_apply, Prod.map, Hostname.normalize?_lower, id]
  · funext part
    simp [lower]

end DomainEntry

/-- **Options that are alike are read alike.** -/
theorem FilterOption.ofText_eq_of_alike [IdnaService] {option option' : Text}
    (h : NetworkLine.OptionAlike option option') : ofText option = ofText option' := by
  cases h with
  | same => rfl
  | domain marks values =>
    have written (value : Text) : OptionName.domain.IsWritten (marks != 0) value
        (List.replicate marks '~' ++ NetworkLine.domainOption value) :=
      ⟨"domain", List.mem_singleton_self _, marks, bne_iff_ne, .inr (List.append_assoc ..).symm⟩
    rw [ofText_of_isWritten (written _), ofText_of_isWritten (written _)]
    -- a negated domain option is an error whatever its value
    cases marks != 0 with
    | true => rfl
    | false =>
      unfold ofName
      rw [← DomainEntry.listOfText_lower, values, DomainEntry.listOfText_lower]

/-- Texts that are pairwise read alike are read alike. -/
theorem mapM_eq_of_forall₂ {α β ε : Type} {R : α → α → Prop} {f : α → Except ε β}
    (hf : ∀ a b, R a b → f a = f b) {l l' : List α} (h : List.Forall₂ R l l') :
    l.mapM f = l'.mapM f := by
  induction h with
  | nil => rfl
  | cons head tail ih => rw [List.mapM_cons, List.mapM_cons, hf _ _ head, ih]

/-! ## The filter of a lowered rule -/

namespace NetworkRule

/-- **A rule with its letters lowered**, but for the options it was read with. -/
def lowered (rule : NetworkRule) : NetworkRule :=
  { rule with line := rule.line.lowered }

/-- The hostname is as long as before. -/
theorem hostname_lowered (rule : NetworkRule) : rule.lowered.hostname = lower rule.hostname := by
  unfold hostname lowered NetworkLine.lowered
  cases rule.line.start with
  | hostname => exact Text.takeWhile_lower isHostnameChar_toLower _
  | none | url => rfl

/-- The body is what is left behind it. -/
theorem body_lowered (rule : NetworkRule) : rule.lowered.body = lower rule.body := by
  unfold body lowered NetworkLine.lowered
  cases rule.line.start with
  | hostname => exact Text.dropWhile_lower isHostnameChar_toLower _
  | none | url => rfl

/-- The same wildcards stand at the end. -/
theorem dropsEnd_lowered (rule : NetworkRule) : rule.lowered.dropsEnd = rule.dropsEnd := by
  unfold dropsEnd
  rw [body_lowered, decide_eq_decide]
  exact Text.getLast?_lower_eq_iff rfl _

/-- The body is lowered with or without them. -/
theorem endDropped_lowered (rule : NetworkRule) :
    rule.lowered.endDropped = lower rule.endDropped := by
  unfold endDropped
  rw [body_lowered]
  refine Text.dropEndWhile_lower (fun c => ?_) _
  rw [Bool.eq_iff_iff, beq_iff_eq, beq_iff_eq]
  exact Text.toLower_eq_iff rfl

/-- The same wildcard stands at the start. -/
theorem dropsStart_lowered (rule : NetworkRule) : rule.lowered.dropsStart = rule.dropsStart := by
  have head : (lower rule.endDropped).head? = some '*' ↔ rule.endDropped.head? = some '*' :=
    Text.head?_lower_eq_iff rfl _
  have plain : Pattern.isPlain (lower rule.endDropped).tail =
      Pattern.isPlain rule.endDropped.tail := by
    rw [lower, ← List.map_tail]
    exact Pattern.isPlain_lowerUnless false _
  unfold dropsStart
  rw [endDropped_lowered, plain, decide_eq_decide.2 head]
  rfl

/-- The body is lowered with or without it. -/
theorem bothDropped_lowered (rule : NetworkRule) :
    rule.lowered.bothDropped = lower rule.bothDropped := by
  unfold bothDropped
  rw [dropsStart_lowered, endDropped_lowered]
  split
  · exact List.map_tail.symm
  · rfl

/-- No flag depends on the case of letters. -/
theorem holds_lowered (rule : NetworkRule) (f : Flag) : rule.lowered.holds f = rule.holds f := by
  have plain : Pattern.isPlain rule.lowered.bothDropped = Pattern.isPlain rule.bothDropped := by
    rw [bothDropped_lowered]
    exact Pattern.isPlain_lowerUnless false _
  cases f with
  | regex => exact congrArg (!·) plain
  | leftAnchor =>
    unfold holds
    rw [dropsStart_lowered]
    rfl
  | rightAnchor =>
    unfold holds
    rw [dropsEnd_lowered]
    rfl
  | _ => rfl

/-- **A rule that does not match case has the filter of the lowered rule.** -/
theorem toFilter_lowered [IdnaService] (rule : NetworkRule) (h : rule.matchesCase = false)
    (rawLine? : Option Text) : rule.lowered.toFilter rawLine? = rule.toFilter rawLine? := by
  have mask_eq : rule.lowered.mask = rule.mask := by
    rw [NetworkRule.mask_eq, NetworkRule.mask_eq, funext rule.holds_lowered]
  have pattern_eq : rule.lowered.pattern = rule.pattern := by
    unfold pattern
    rw [h, show rule.lowered.matchesCase = false from h, bothDropped_lowered]
    exact Text.lower_lower _
  unfold toFilter
  rw [hostname_lowered, Hostname.normalize?_lower, mask_eq, pattern_eq]
  rfl

end NetworkRule

namespace NetworkFilter

/-- **Lines that are alike make the same filter**, or are refused with the same
error. -/
theorem ofLine_eq_of_alike [IdnaService] {line line' : Text}
    (alike : NetworkLine.AlikeButCase line line') (h : ¬ NetworkLine.Names line .matchCase false) :
    ofLine line false = ofLine line' false := by
  have parts : (NetworkLine.ofText line).lowered = (NetworkLine.ofText line').lowered := by
    rw [← NetworkLine.ofText_lower, alike.letters, NetworkLine.ofText_lower]
  have read := mapM_eq_of_forall₂ (fun _ _ h => FilterOption.ofText_eq_of_alike h) alike.options
  unfold ofLine
  rw [NetworkRule.ofText_eq line', ← read, NetworkRule.ofText_eq line]
  cases hoptions : (NetworkLine.optionTexts line).mapM FilterOption.ofText with
  | error e => rfl
  | ok options =>
    have hrule : NetworkRule.ofText line = .ok ⟨NetworkLine.ofText line, options⟩ :=
      NetworkRule.ofText_eq_ok_iff.2 ⟨rfl, hoptions⟩
    have ignores : NetworkRule.matchesCase ⟨NetworkLine.ofText line, options⟩ = false :=
      Bool.eq_false_iff.2 fun hcase => h ((NetworkRule.matchesCase_iff hrule).1 hcase)
    have ignores' : NetworkRule.matchesCase ⟨NetworkLine.ofText line', options⟩ = false := by
      rw [NetworkRule.matchesCase_eq] at ignores ⊢
      exact ignores
    have same : NetworkRule.lowered ⟨NetworkLine.ofText line, options⟩ =
        NetworkRule.lowered ⟨NetworkLine.ofText line', options⟩ := by
      rw [NetworkRule.lowered, NetworkRule.lowered, parts]
    show NetworkRule.toFilter ⟨NetworkLine.ofText line, options⟩ none =
      NetworkRule.toFilter ⟨NetworkLine.ofText line', options⟩ none
    rw [← NetworkRule.toFilter_lowered _ ignores, same]
    exact NetworkRule.toFilter_lowered _ ignores' none

/-- **Only the lowered URL is compared** where case does not matter. -/
theorem isMatch_with_url {f : NetworkFilter} (h : f.mask.has .matchCase = false) {r : Request}
    {url : Text} (hurl : lower url = r.lowerUrl) (engine : Engine) :
    f.isMatch engine { r with url := url } = f.isMatch engine r := by
  have compared : f.comparedUrl { r with url := url } = f.comparedUrl r := by
    unfold comparedUrl Request.comparedUrl
    rw [h]
    exact congrArg Text.utf8 hurl
  have behind : f.behindHostname? { r with url := url } = f.behindHostname? r := by
    unfold behindHostname? Request.offsetBehind?
    rw [compared, show Request.lowerUrl { r with url := url } = r.lowerUrl from hurl]
  have pattern : f.matchesPattern engine { r with url := url } = f.matchesPattern engine r := by
    unfold matchesPattern
    rw [compared, behind]
  rw [isMatch, isMatch, pattern]
  rfl

/-- **Letter case is irrelevant without `match-case`**, in the line of a filter and
in the URLs of a request. -/
theorem isMatch_eq_of_alike [IdnaService] :
    (∀ line line', NetworkLine.AlikeButCase line line' →
      ¬ NetworkLine.Names line .matchCase false → ofLine line false = ofLine line' false) ∧
    ∀ f : NetworkFilter, f.mask.has .matchCase = false →
      ∀ url url' source source' kind resolver, lower url = lower url' →
        lower source = lower source' →
        (∃ e, Request.ofUrls? url source kind resolver = .error e ∧
          Request.ofUrls? url' source' kind resolver = .error e) ∨
        ∃ r r', Request.ofUrls? url source kind resolver = .ok r ∧
          Request.ofUrls? url' source' kind resolver = .ok r' ∧
          ∀ engine, f.isMatch engine r = f.isMatch engine r' := by
  refine ⟨fun line line' => ofLine_eq_of_alike, ?_⟩
  intro f hcase url url' source source' kind resolver hurl hsource
  rw [Request.ofUrls?_eq_of_lower_eq hurl hsource]
  cases hr : Request.ofUrls? url source kind resolver with
  | error e => exact .inl ⟨e, rfl, rfl⟩
  | ok r =>
    have given : r.url = url := (Request.exists_isCut_of_ofUrls hr).1
    refine .inr ⟨r, _, rfl, rfl, fun engine => (isMatch_with_url hcase ?_ engine).symm⟩
    rw [Request.lowerUrl, given, hurl]

/-- A pattern, a domain and two URLs in different case. -/
theorem isMatch_eq_of_alike_banner :
    let line := "||Ads.COM^Banner$domain=News.com,script".toList
    let line' := "||aDS.com^bANNER$domain=nEWS.cOM,script".toList
    NetworkLine.AlikeButCase line line' ∧ ¬ NetworkLine.Names line .matchCase false ∧
      ∃ f, ofLine line false = .ok f ∧ ofLine line' false = .ok f ∧
        f.mask.has .matchCase = false ∧ ∃ r r',
          Request.ofUrls? "HTTP://ads.com/BANNER".toList "https://NEWS.com/".toList "script"
            .lastLabelOnly = .ok r ∧
          Request.ofUrls? "http://ADS.com/banner".toList "HTTPS://news.COM/".toList "script"
            .lastLabelOnly = .ok r' ∧
          f.isMatch .splitting r = true ∧ f.isMatch .splitting r' = true := by
  intro line line'
  have alike : NetworkLine.AlikeButCase line line' := by
    refine ⟨by decide +kernel, ?_⟩
    have options : NetworkLine.optionTexts line = ["domain=News.com".toList, "script".toList] := by
      decide +kernel
    have options' : NetworkLine.optionTexts line' =
        ["domain=nEWS.cOM".toList, "script".toList] := by
      decide +kernel
    rw [options, options']
    have values : lower "News.com".toList = lower "nEWS.cOM".toList := by decide
    exact .cons (.domain 0 values) (.cons (.same _) .nil)
  obtain ⟨rule, hrule, hcase⟩ : ∃ rule, NetworkRule.ofText line = .ok rule ∧
    rule.matchesCase = false := ⟨_, rfl, by decide +kernel⟩
  have unnamed : ¬ NetworkLine.Names line .matchCase false := fun h => by
    rw [(NetworkRule.matchesCase_iff hrule).2 h] at hcase
    cases hcase
  obtain ⟨f, r, hf, hmask, hr, hmatch⟩ : ∃ f r, ofLine line false = .ok f ∧
    f.mask.has .matchCase = false ∧ Request.ofUrls? "HTTP://ads.com/BANNER".toList
      "https://NEWS.com/".toList "script" .lastLabelOnly = .ok r ∧ f.isMatch .splitting r = true :=
    ⟨_, _, rfl, by decide +kernel, rfl, by decide +kernel⟩
  have hf' : ofLine line' false = .ok f := isMatch_eq_of_alike.1 line line' alike unnamed ▸ hf
  refine ⟨alike, unnamed, f, hf, hf', hmask, ?_⟩
  rcases isMatch_eq_of_alike.2 f hmask "HTTP://ads.com/BANNER".toList
    "http://ADS.com/banner".toList "https://NEWS.com/".toList "HTTPS://news.COM/".toList "script"
    .lastLabelOnly (by decide) (by decide) with ⟨e, he, -⟩ | ⟨r₀, r', hr₀, hr', same⟩
  · rw [hr] at he
    cases he
  · rw [hr] at hr₀
    cases hr₀
    exact ⟨r, r', hr, hr', hmatch, (same .splitting).symm.trans hmatch⟩

end NetworkFilter

end ContentFilter
