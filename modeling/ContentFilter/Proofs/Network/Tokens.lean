import ContentFilter.Idna.Ascii
import ContentFilter.Proofs.Hostname.Anchoring
import ContentFilter.Proofs.Network.Meaning
import ContentFilter.Proofs.Network.Offset
import ContentFilter.Proofs.Pattern.Neighbours
import ContentFilter.Proofs.Request.Parts
import ContentFilter.Proofs.Token.Words

/-!
# Tokens as keys of an index

An index files a filter under one of its tokens and looks up a request under all of
the request's tokens (`Request.tokens`). It misses no filter that matches if every
token of such a filter is one of the request.

A token is the hash of a word of the pattern or of the hostname, and a filter that
matches finds that word in the lowered URL. The word is one of the URL as well if no
letter or digit stands next to it there, and no `*` behind it. What the filter says next to the word
decides that, so a word can only be lost where the filter says too little: at an end
that is not anchored, next to a wildcard, or at a separator if the URL holds a `*`
itself. Words directly before a wildcard are no words of the pattern for this reason,
but the other ones are. `NetworkFilter.LeavesOpen` lists them, and
`NetworkFilter.tokens_of_isMatch` says that there are no more.
Each of them is lost for some request (`NetworkFilter.tokens_missing`).
-/

namespace ContentFilter

namespace Request

/-- **The tokens a request is looked up under**: those of its lowered URL, and the
domain and the hostname of its source. -/
def tokens (r : Request) : List Hash :=
  Hash.ofText r.sourceDomain :: Hash.ofText r.sourceHostname :: patternTokens r.lowerUrl

variable {r : Request} {url source name before w after : Text} {kind : String}
  {resolver : Resolver}

/-- A word of the lowered URL is a token. -/
theorem ofText_mem_tokens (hurl : r.lowerUrl = before ++ w ++ after)
    (hw : TokenClass.pattern.IsWordAt before w after) : Hash.ofText w ∈ r.tokens :=
  List.mem_cons_of_mem _ <| List.mem_cons_of_mem _ <|
    mem_patternTokens_iff.2 ⟨before, w, after, hurl, hw, rfl⟩

/-- **A label of the hostname stands in the lowered URL**, with no letter or digit
before it. -/
theorem exists_label_lowerUrl (h : ofUrls? url source kind resolver = .ok r)
    (anchored : isAnchoredBy name r.hostname = true) :
    ∃ before after, r.lowerUrl = before ++ name ++ after ∧
      ∀ c, before.getLast? = some c → Text.isAlphanumeric c = false := by
  obtain ⟨rfl, scheme, credentials, host, port, tail, cut, hhost⟩ := exists_isCut_of_ofUrls h
  obtain ⟨front, behind, hname, -, hlabel⟩ := isAnchoredBy_iff.1 anchored
  refine ⟨Text.lower (scheme ++ Url.schemeEnd ++ credentials) ++ front,
    behind ++ Text.lower (port ++ tail), ?_, fun c hc => ?_⟩
  · rw [lowerUrl_eq cut hhost, hname]
    simp
  · rcases hlabel with rfl | hdot
    · -- the hostname starts behind the scheme or behind the credentials
      obtain ⟨d, hd, letterless, hnot⟩ : ∃ d,
          (scheme ++ Url.schemeEnd ++ credentials).getLast? = some d ∧ d.isAlpha = false ∧
            Text.isAlphanumeric d = false := by
        rcases cut.credentials_end with rfl | hat
        · exact ⟨'/', by simp [Url.schemeEnd, List.getLast?_append], rfl, rfl⟩
        · exact ⟨'@', by simp [List.getLast?_append, hat], rfl, rfl⟩
      rw [List.append_nil, (Text.getLast?_lower_eq_iff letterless _).2 hd] at hc
      cases hc
      exact hnot
    · rw [List.getLast?_append, hdot] at hc
      cases hc
      rfl

end Request

/-- Behind a hostname a pattern does not go on with a letter or digit. -/
theorem NetworkRule.isAlphanumeric_head_pattern {rule : NetworkRule} {c : Char}
    (hstart : rule.line.start = .hostname) (hc : rule.pattern.head? = some c) :
    Text.isAlphanumeric c = false := by
  have hostname_char := isHostnameChar_of_head?_pattern hstart hc
  simp only [isHostnameChar, Bool.or_eq_false_iff] at hostname_char
  exact hostname_char.1.1.1.1

namespace NetworkFilter

variable {line url source : Text} {keepsLine : Bool} {kind : String} {resolver : Resolver}
  {f : NetworkFilter} {engine : Engine} {r : Request} {rule : NetworkRule}
  {front rest before w after : Text}

/-! ## What a filter finds -/

/-- A pattern is found where it compares. -/
theorem matches_of_compares (hf : f.IsConsistent) (faithful : engine.IsFaithful)
    {text : List UInt8} (h : f.compares engine text = true) :
    Pattern.Matches f.pattern f.anchored.left f.anchored.right text :=
  Pattern.matches_of_occurs (occurs_of_compares hf faithful h)

/-- **What a filter finds in a URL**: the pattern at the start of `rest`, with `front`
before it. -/
structure IsFound (f : NetworkFilter) (r : Request) (front rest : Text) : Prop where
  /-- The two are the lowered URL. -/
  joined : r.lowerUrl = front ++ rest
  /-- The pattern is found in the second part. -/
  found : Pattern.Matches f.pattern f.anchored.left f.anchored.right rest.utf8
  /-- That part is the URL, if the pattern follows no hostname. -/
  whole : f.mask.has .hostnameAnchor = false → front = []
  /-- Otherwise it follows the first occurrence of the hostname, which starts a label of
  the request's hostname. -/
  behind : f.mask.has .hostnameAnchor = true → isAnchoredBy f.hostname r.hostname = true ∧
    ∃ before, front = before ++ f.hostname ∧
      Search.IsFirstAt f.hostname before.length r.lowerUrl

/-- **A filter that matches finds its pattern** in the lowered URL. -/
theorem exists_isFound [IdnaService] (hf : f.IsFilterOf rule)
    (hcase : f.mask.has .matchCase = false) (faithful : engine.IsFaithful)
    (h : f.matchesPattern engine r = true) : ∃ front rest, f.IsFound r front rest := by
  have compared : f.comparedUrl r = r.lowerUrl.utf8 := by
    rw [comparedUrl, hcase]
    rfl
  rw [matchesPattern_eq, hf.shape_eq, Shape.isBehindHostname_ofMask] at h
  cases hbehind : f.mask.has .hostnameAnchor with
  | false =>
    rw [hbehind, if_neg Bool.false_ne_true, compared] at h
    exact ⟨[], r.lowerUrl, ⟨rfl, matches_of_compares hf.isConsistent faithful h, fun _ => rfl,
      fun htrue => absurd (hbehind.symm.trans htrue) Bool.false_ne_true⟩⟩
  | true =>
    rw [hbehind, if_pos rfl, any_behindHostname_iff, compared] at h
    obtain ⟨anchored, n, first, found⟩ := h
    obtain ⟨before, rest, hurl, rfl, hfirst⟩ := Text.exists_of_isFirstAt_utf8 first
    have bytes : r.lowerUrl.utf8.drop (before.byteLength + f.hostname.byteLength) = rest.utf8 := by
      rw [hurl, Text.utf8_append, ← Text.byteLength_append, ← Text.length_utf8, List.drop_left]
    rw [bytes] at found
    exact ⟨before ++ f.hostname, rest, ⟨hurl, matches_of_compares hf.isConsistent faithful found,
      fun hfalse => absurd (hfalse.symm.trans hbehind) Bool.false_ne_true,
      fun _ => ⟨anchored, before, rfl, hfirst⟩⟩⟩

/-! ## Words that may be lost -/

/-- **What follows a word leaves its end open**: nothing does and the filter is not
anchored there, or a wildcard does, or a separator that may be a `*` of the URL. -/
def LeavesEndOpen (f : NetworkFilter) (r : Request) (behind : Text) : Prop :=
  behind = [] ∧ f.mask.has .rightAnchor = false ∨ behind.head? = some '*' ∨
    behind.head? = some '^' ∧ '*' ∈ r.url

/-- **The words of a filter that need not be words of a URL it matches.** -/
inductive LeavesOpen (f : NetworkFilter) (r : Request) : Text → Prop where
  /-- A word at the start of a pattern that may start anywhere. -/
  | start {w after : Text} (pattern_eq : f.pattern = w ++ after)
      (word : TokenClass.pattern.IsWordAt [] w after) (free : f.anchored.left = false) :
      LeavesOpen f r w
  /-- A word of the pattern directly behind a wildcard. -/
  | behindWildcard {before w after : Text} (pattern_eq : f.pattern = before ++ w ++ after)
      (word : TokenClass.pattern.IsWordAt before w after)
      (wildcard : before.getLast? = some '*') : LeavesOpen f r w
  /-- A word of the pattern whose end is left open by what follows it there. -/
  | patternEnd {before w after : Text} (pattern_eq : f.pattern = before ++ w ++ after)
      (word : TokenClass.pattern.IsWordAt before w after) (free : f.LeavesEndOpen r after) :
      LeavesOpen f r w
  /-- The word at the end of the hostname, if the pattern leaves its end open. -/
  | hostnameEnd {before w : Text} (hostname_eq : f.hostname = before ++ w)
      (word : TokenClass.pattern.IsWordAt before w []) (free : f.LeavesEndOpen r f.pattern) :
      LeavesOpen f r w
  /-- A hostname of one word that is first found in the URL at the end of a longer word. -/
  | hostnameStart {before after : Text} {c : Char}
      (word : TokenClass.pattern.IsWordAt [] f.hostname [])
      (url_eq : r.lowerUrl = before ++ f.hostname ++ after)
      (first : Search.IsFirstAt f.hostname before.length r.lowerUrl)
      (last : before.getLast? = some c) (alphanumeric : Text.isAlphanumeric c = true) :
      LeavesOpen f r f.hostname

/-- **A word whose end is not left open ends in the URL as well**, and is not passed
over there. -/
theorem ends_of_not_leavesEndOpen {behind : Text} (closed : ¬ f.LeavesEndOpen r behind)
    (hbehind : ∀ c, behind.head? = some c → Text.isAlphanumeric c = false)
    (hurl : rest <:+ r.lowerUrl)
    (h : Pattern.Matches behind true f.anchored.right rest.utf8) :
    (∀ c, rest.head? = some c → TokenClass.pattern.allows c = false) ∧
      TokenClass.pattern.skipsBefore rest = false := by
  unfold LeavesEndOpen at closed
  rw [not_or, not_or] at closed
  obtain ⟨notFree, notWildcard, noStar⟩ := closed
  have ended (hnil : rest = []) : (∀ c, rest.head? = some c → TokenClass.pattern.allows c = false) ∧
      TokenClass.pattern.skipsBefore rest = false := by
    subst hnil
    exact ⟨nofun, rfl⟩
  cases hhead : behind.head? with
  | none =>
    rw [List.head?_eq_none_iff] at hhead
    subst hhead
    have anchored : f.anchored.right = true := by
      show f.mask.has .rightAnchor = true
      simpa using notFree
    rw [anchored] at h
    exact ended (Pattern.eq_nil_of_matches_nil h)
  | some c =>
    have hc : c ≠ '*' := fun hstar => notWildcard (hstar ▸ hhead)
    rcases h.head_standsFor hhead hc with ⟨d, hd, hrest⟩ | ⟨-, hnil⟩
    · refine ⟨fun e he => ?_, ?_⟩
      · rw [hrest] at he
        cases he
        exact hd.isAlphanumeric_eq_false (hbehind c hhead)
      · -- a `*` in the URL can only be there for a separator
        show (rest.head? == some '*') = false
        rw [hrest, beq_eq_false_iff_ne]
        intro hstar
        cases hstar
        rcases hd with rfl | ⟨rfl, -⟩
        · exact hc rfl
        · obtain ⟨others, rfl⟩ := List.head?_eq_some_iff.1 hrest
          exact noStar ⟨hhead, (Text.mem_lower rfl).1 (hurl.subset List.mem_cons_self)⟩
    · exact ended hnil

/-! ## The words of a filter that matches -/

/-- **A word of the pattern is a word of the URL**, unless it is left open. -/
theorem IsFound.ofText_mem_tokens (found : f.IsFound r front rest)
    (hstart : f.mask.has .hostnameAnchor = true →
      ∀ c, f.pattern.head? = some c → Text.isAlphanumeric c = false)
    (hp : f.pattern = before ++ w ++ after) (hw : TokenClass.pattern.IsWordAt before w after) :
    Hash.ofText w ∈ r.tokens ∨ f.LeavesOpen r w := by
  by_cases open_end : f.LeavesEndOpen r after
  · exact .inr (.patternEnd hp hw open_end)
  by_cases wildcard : before.getLast? = some '*'
  · exact .inr (.behindWildcard hp hw wildcard)
  by_cases open_start : before = [] ∧ f.anchored.left = false
  · obtain ⟨rfl, free⟩ := open_start
    exact .inr (.start hp hw free)
  have plain : Pattern.isPlain w = true := Pattern.isPlain_iff.2
    ⟨fun hmem => absurd (hw.allowed _ hmem) (by decide),
      fun hmem => absurd (hw.allowed _ hmem) (by decide)⟩
  obtain ⟨l, behind, rfl, hl, hlast, hbehind⟩ :=
    Pattern.Matches.exists_part hw.ne_nil plain (hp ▸ found.found)
  have joined : r.lowerUrl = (front ++ l) ++ w ++ behind := by
    rw [found.joined]
    simp
  obtain ⟨ends, kept⟩ := ends_of_not_leavesEndOpen open_end hw.ends
    ⟨front ++ l ++ w, joined.symm⟩ hbehind
  refine .inl (Request.ofText_mem_tokens joined ⟨hw.ne_nil, hw.allowed, ?_, ends, kept⟩)
  intro d hd
  cases hbefore : before.getLast? with
  | none =>
    -- the pattern starts with the word, so it is found at the start of the URL
    rw [List.getLast?_eq_none_iff] at hbefore
    subst hbefore
    have anchored : f.anchored.left = true := by simpa using open_start
    obtain ⟨c, w, rfl, hc⟩ := hw.exists_cons
    have unbehind : f.mask.has .hostnameAnchor = false := Bool.eq_false_iff.2 fun hhostname =>
      absurd ((hstart hhostname c (by rw [hp]; rfl)).symm.trans hc) Bool.false_ne_true
    rw [found.whole unbehind, hl rfl anchored] at hd
    cases hd
  | some c =>
    have hc : c ≠ '*' := fun hstar => wildcard (hstar ▸ hbefore)
    obtain ⟨e, he, hlaste⟩ := hlast c hbefore hc
    rw [List.getLast?_append, hlaste] at hd
    cases hd
    exact he.isAlphanumeric_eq_false (hw.starts c hbefore)

/-- **A word of the hostname is a word of the URL**, unless it is left open. -/
theorem IsFound.ofText_mem_tokens_of_hostname (found : f.IsFound r front rest)
    (hr : Request.ofUrls? url source kind resolver = .ok r)
    (behind : f.mask.has .hostnameAnchor = true)
    (hstart : ∀ c, f.pattern.head? = some c → Text.isAlphanumeric c = false)
    (hp : f.hostname = before ++ w ++ after) (hw : TokenClass.pattern.IsWordAt before w after) :
    Hash.ofText w ∈ r.tokens ∨ f.LeavesOpen r w := by
  obtain ⟨anchored, l, rfl, first⟩ := found.behind behind
  cases after with
  | cons c after =>
    -- more of the hostname follows, as it does where the hostname starts a label
    obtain ⟨l, t, hurl, hl⟩ := Request.exists_label_lowerUrl hr anchored
    have joined : r.lowerUrl = (l ++ before) ++ w ++ (c :: after ++ t) := by
      rw [hurl, hp]
      simp
    refine .inl (Request.ofText_mem_tokens joined
      ⟨hw.ne_nil, hw.allowed, fun d hd => ?_, hw.ends, hw.kept⟩)
    rw [List.getLast?_append, Option.or_eq_some_iff] at hd
    rcases hd with hd | ⟨-, hd⟩
    · exact hw.starts d hd
    · exact hl d hd
  | nil =>
    rw [List.append_nil] at hp
    by_cases open_end : f.LeavesEndOpen r f.pattern
    · exact .inr (.hostnameEnd hp hw open_end)
    have joined : r.lowerUrl = (l ++ before) ++ w ++ rest := by
      rw [found.joined, hp]
      simp
    have anchored_left : f.anchored.left = true := by
      show (f.mask.has .leftAnchor || f.mask.has .hostnameAnchor) = true
      rw [behind, Bool.or_true]
    obtain ⟨ends, kept⟩ := ends_of_not_leavesEndOpen open_end hstart
      ⟨l ++ before ++ w, joined.symm⟩ (anchored_left ▸ found.found)
    by_cases open_start : before = [] ∧ ∃ c, l.getLast? = some c ∧ Text.isAlphanumeric c = true
    · obtain ⟨rfl, c, hlast, hc⟩ := open_start
      obtain rfl : f.hostname = w := hp
      exact .inr (.hostnameStart hw found.joined first hlast hc)
    refine .inl (Request.ofText_mem_tokens joined
      ⟨hw.ne_nil, hw.allowed, fun d hd => ?_, ends, kept⟩)
    rw [List.getLast?_append, Option.or_eq_some_iff, List.getLast?_eq_none_iff] at hd
    rcases hd with hd | ⟨hnil, hd⟩
    · exact hw.starts d hd
    · exact Bool.eq_false_iff.2 fun hc => open_start ⟨hnil, d, hd, hc⟩

/-- **The domain a filter is limited to** is the domain or the hostname of the source. -/
theorem ofText_mem_tokens_of_domain [IdnaService] (hf : f.IsFilterOf rule)
    (h : f.matchesOptions r = true) {domain : Text} (hdomain : f.domains = [domain]) :
    Hash.ofText domain ∈ r.tokens := by
  have among : isAmong f.domains r = true := by
    unfold matchesOptions at h
    simp only [Bool.and_eq_true, Bool.or_eq_true, decide_eq_true_eq] at h
    refine h.1.2.resolve_left ?_
    rw [hdomain]
    exact List.cons_ne_nil domain []
  have only {d : Text} (hd : d ∈ FilterOption.domains false rule.options) : d = domain := by
    rw [← SortedList.mem_ofList, ← hf.domains_eq, hdomain] at hd
    exact List.mem_singleton.1 hd
  rw [hf.domains_eq, isAmong_ofList] at among
  rcases among with hsource | hsource
  · rw [← only hsource]
    exact List.mem_cons_self
  · rw [← only hsource]
    exact List.mem_cons_of_mem _ List.mem_cons_self

/-- **Every token of a filter that matches a request is a token of the request**, or it
is the hash of a word that the filter leaves open. -/
theorem tokens_of_isMatch [IdnaService] (h : ofLine line keepsLine = .ok f)
    (hcase : f.mask.has .matchCase = false) (faithful : engine.IsFaithful)
    (hr : Request.ofUrls? url source kind resolver = .ok r) (hmatch : f.isMatch engine r = true) :
    ∀ t ∈ f.tokens, t ∈ r.tokens ∨ ∃ w, t = Hash.ofText w ∧ f.LeavesOpen r w := by
  obtain ⟨rule, -, hf⟩ := exists_isFilterOf_of_ofLine h
  obtain ⟨options, pattern⟩ : f.matchesOptions r = true ∧ f.matchesPattern engine r = true := by
    simpa [isMatch] using hmatch
  obtain ⟨front, rest, found⟩ := exists_isFound hf hcase faithful pattern
  have hstart (behind : f.mask.has .hostnameAnchor = true) (c : Char)
      (hc : f.pattern.head? = some c) : Text.isAlphanumeric c = false := by
    rw [hf.has_eq] at behind
    rw [hf.pattern_eq] at hc
    exact NetworkRule.isAlphanumeric_head_pattern (of_decide_eq_true behind) hc
  intro t ht
  unfold tokens at ht
  rw [List.mem_append, List.mem_append] at ht
  rcases ht with (hdomain | hpattern) | hhostname
  · split at hdomain
    · next domain hdomains _ =>
      rw [List.mem_singleton.1 hdomain]
      exact .inl (ofText_mem_tokens_of_domain hf options hdomains)
    · cases hdomain
  · obtain ⟨before, w, after, hp, hw, rfl⟩ := mem_patternTokens_iff.1 hpattern
    exact (found.ofText_mem_tokens hstart hp hw).imp_right fun hopen => ⟨w, rfl, hopen⟩
  · obtain ⟨before, w, after, hp, hw, rfl⟩ := mem_patternTokens_iff.1 hhostname
    have named : f.hostname ≠ [] := by
      rw [hp]
      simp [hw.ne_nil]
    have behind : f.mask.has .hostnameAnchor = true := by
      rw [← Shape.isBehindHostname_ofMask, ← hf.shape_eq]
      exact isBehindHostname_of_hostname_ne h named
    exact (found.ofText_mem_tokens_of_hostname hr behind (hstart behind) hp hw).imp_right
      fun hopen => ⟨w, rfl, hopen⟩

/-- A filter with a hostname, a pattern and a domain, that leaves the word behind its
wildcard open. -/
theorem tokens_of_isMatch_banner :
    ∃ f r, ofLine "||ads.com/banner/*big^$domain=news.com".toList false = .ok f ∧
      f.mask.has .matchCase = false ∧
      Request.ofUrls? "http://www.Ads.com/banner/verybig/".toList "https://news.com/".toList
        "script" .lastLabelOnly = .ok r ∧
      f.isMatch .splitting r = true ∧
      f.tokens = ["news.com", "banner", "big", "ads", "com"].map (Hash.ofText ·.toList) ∧
      ∀ t ∈ f.tokens, t ∈ r.tokens ∨ ∃ w, t = Hash.ofText w ∧ f.LeavesOpen r w := by
  obtain ⟨f, r, hf, hr, hcase, hmatch, htokens⟩ : ∃ f r,
      ofLine "||ads.com/banner/*big^$domain=news.com".toList false = .ok f ∧
      Request.ofUrls? "http://www.Ads.com/banner/verybig/".toList "https://news.com/".toList
        "script" .lastLabelOnly = .ok r ∧
      f.mask.has .matchCase = false ∧ f.isMatch .splitting r = true ∧
      f.tokens = ["news.com", "banner", "big", "ads", "com"].map (Hash.ofText ·.toList) :=
    ⟨_, _, rfl, rfl, by decide +kernel⟩
  exact ⟨f, r, hf, hcase, hr, hmatch, htokens, 
    tokens_of_isMatch hf hcase Engine.isFaithful_splitting hr hmatch⟩

/-- **A token of the filter of a line that is no token of a request it matches.** -/
def MissesToken [IdnaService] (line url : Text) : Prop :=
  ∃ f r, ofLine line false = .ok f ∧
    Request.ofUrls? url "https://news.com/".toList "script" .lastLabelOnly = .ok r ∧
    f.mask.has .matchCase = false ∧ f.isMatch .splitting r = true ∧ ∃ t ∈ f.tokens, t ∉ r.tokens

/-- **Tokens of filters are missing among those of requests they match**, one for each
way to leave a word open. -/
theorem tokens_missing :
    MissesToken "ads".toList "http://a.com/loads".toList ∧
      MissesToken "/ads".toList "http://a.com/adserver".toList ∧
      MissesToken "/big*ads/".toList "http://a.com/big-loads/".toList ∧
      MissesToken "/ads^".toList "http://a.com/ads*".toList ∧
      MissesToken "||foo.co".toList "http://foo.com/".toList ∧
      MissesToken "||foo.co*/ads/".toList "http://foo.com/ads/".toList ∧
      MissesToken "||foo.co^".toList "http://foo.co*/".toList ∧
      MissesToken "||foo@a".toList "http://bigfoo@a@foobar/".toList := by
  refine ⟨?_, ?_, ?_, ?_, ?_, ?_, ?_, ?_⟩ <;>
    exact ⟨_, _, rfl, rfl, by decide +kernel⟩

end NetworkFilter

end ContentFilter
