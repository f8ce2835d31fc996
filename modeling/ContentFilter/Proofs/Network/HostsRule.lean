import ContentFilter.Idna.Ascii
import ContentFilter.Proofs.Network.HostsEntry
import ContentFilter.Proofs.Network.Parts
import ContentFilter.Proofs.Network.Rule
import ContentFilter.Proofs.Unicode.Lowercase
import Mathlib.Data.List.TakeWhile

/-!
# Entries of hosts files and the rules they stand for

An entry of a hosts file stands for the rule that is `||` in front of its name.
Both filters ask for one thing only, a hostname with some text right behind it
(`NetworkFilter.AsksFor`), so they match the same requests if hostname and text
are the same. They are if every character of the name may be part of the
hostname of a rule.

The two are checked against different lists, though: an entry against what no
hostname has, a rule against what a hostname may have. Percent signs,
backslashes and controls are on neither. With one of them the hostname of the
rule ends where the entry goes on, and the rest of the name is asked for as
text. A request to the entry's hostname is then blocked by the entry, and not
by the rule if something else stands behind the hostname of the rule in the URL
(`NetworkFilter.AsksFor.exists_not_isMatch`).

`NetworkFilter.isMatch_ofHostsEntry_eq_ofName` puts the two together. That the
filters differ is said of names that are ASCII in lower case, of which the rule
is always accepted.
-/

namespace ContentFilter

/-! ## Filters that ask for a hostname and a text -/

namespace NetworkFilter

variable {f g : NetworkFilter} {hostname pattern : Text}

/-- **A filter asks for a hostname and for a text right behind it**, and for
nothing else. -/
structure AsksFor (f : NetworkFilter) (hostname pattern : Text) : Prop where
  /-- The text is compared behind the hostname. -/
  shape_eq : f.shape = .hostnameAnchored
  /-- The case of letters does not matter. -/
  matchCase_eq : f.mask.has .matchCase = false
  /-- The hostname is the one of the filter. -/
  hostname_eq : f.hostname = hostname
  /-- The text is the pattern of the filter. -/
  pattern_eq : f.pattern = pattern
  /-- The options allow every request. -/
  matchesOptions_eq : ∀ r, f.matchesOptions r = true

/-- **What such a filter matches.** -/
theorem AsksFor.isMatch_iff (hf : f.AsksFor hostname pattern) {engine : Engine} {r : Request} :
    f.isMatch engine r = true ↔ isAnchoredBy hostname r.hostname = true ∧
      ∃ n, Search.IsFirstAt hostname.utf8 n r.lowerUrl.utf8 ∧
        pattern.utf8 <+: r.lowerUrl.utf8.drop (n + hostname.byteLength) := by
  have behind : f.shape.isBehindHostname = true := by
    rw [hf.shape_eq]
    rfl
  have compares_iff (text : List UInt8) :
      f.compares engine text = true ↔ pattern.utf8 <+: text := by
    rw [compares, hf.shape_eq, ← hf.pattern_eq]
    exact Search.startsWith_iff
  have url : f.comparedUrl r = r.lowerUrl.utf8 := by
    rw [comparedUrl, hf.matchCase_eq]
    rfl
  rw [isMatch, hf.matchesOptions_eq, Bool.true_and, matchesPattern_eq, behind, if_pos rfl,
    any_behindHostname_iff, hf.hostname_eq, url]
  simp only [compares_iff]

/-- **Filters that ask for the same match the same requests.** -/
theorem AsksFor.isMatch_eq (hf : f.AsksFor hostname pattern) (hg : g.AsksFor hostname pattern)
    (engine : Engine) (r : Request) : f.isMatch engine r = g.isMatch engine r :=
  Bool.eq_iff_iff.2 (hf.isMatch_iff.trans hg.isMatch_iff.symm)

/-- **A filter that asks for text behind another hostname differs.** The URL of
the request starts with that hostname, and goes on with a slash and not with
the text. -/
theorem AsksFor.exists_not_isMatch {shorter : Text} {c : Char} {rest : Text}
    (hf : f.AsksFor hostname []) (hg : g.AsksFor shorter (c :: rest)) (hc : c ≠ '/')
    (hostnameLower : Text.lower hostname = hostname) (shorterLower : Text.lower shorter = shorter) :
    ∃ r, ∀ engine, f.isMatch engine r = true ∧ g.isMatch engine r = false := by
  let r := Request.make (shorter ++ '/' :: hostname) hostname [] [] [] .script
  have url : r.lowerUrl = shorter ++ '/' :: hostname := by
    show Text.lower (shorter ++ '/' :: hostname) = _
    rw [Text.lower_append, shorterLower, show Text.lower ('/' :: hostname)
      = '/' :: Text.lower hostname from rfl, hostnameLower]
  refine ⟨r, fun engine => ⟨hf.isMatch_iff.2 ⟨?_, ?_⟩, Bool.eq_false_iff.2 fun matched => ?_⟩⟩
  · refine isAnchoredBy_iff.2 ⟨[], [], ?_, ?_, .inl rfl⟩
    · rw [List.nil_append, List.append_nil]
      exact hostnameLower
    · rw [show r.hostname = hostname from hostnameLower]
      exact Search.isFirstAt_zero_iff.2 (List.prefix_refl hostname)
  · have occurs : Search.OccursAt hostname.utf8 (Text.utf8 (shorter ++ ['/'])).length
        r.lowerUrl.utf8 := ⟨_, [], by rw [url]; simp, rfl⟩
    obtain ⟨n, -, first⟩ := occurs.exists_isFirstAt
    exact ⟨n, first, List.nil_prefix⟩
  · obtain ⟨-, n, first, follows⟩ := hg.isMatch_iff.1 matched
    have atStart : Search.IsFirstAt shorter.utf8 0 r.lowerUrl.utf8 := by
      rw [Search.isFirstAt_zero_iff, url, Text.utf8_append]
      exact List.prefix_append _ _
    rw [first.eq atStart, Nat.zero_add, url, Text.utf8_append, ← Text.length_utf8,
      List.drop_left] at follows
    obtain ⟨after, hafter⟩ := follows
    rw [Text.utf8_cons, Text.utf8_cons, List.append_assoc] at hafter
    exact hc (Text.utf8EncodeChar_append_inj hafter).1

end NetworkFilter

/-! ## The rule for a name -/

namespace NetworkRule

variable {name : Text}

/-- **The rule that is `||` in front of a name.** -/
def ofName (name : Text) : NetworkRule :=
  ⟨⟨false, .hostname, name, false, none⟩, []⟩

/-- **A name without refused characters has no marks**, so the line is read as
that rule. -/
theorem ofText_ofName [IdnaService] (h : ∀ c ∈ name, HostsEntry.isRefused c = false) :
    ofText ('|' :: '|' :: name) = .ok (ofName name) := by
  have lacks {c : Char} (hc : HostsEntry.isRefused c = true) : c ∉ name := fun hmem => by
    rw [h c hmem] at hc
    cases hc
  have reads : (ofName name).line.Reads ('|' :: '|' :: name) :=
    { toText := by
        show ['|', '|'] ++ name ++ [] ++ [] = _
        rw [List.append_nil, List.append_nil]
        rfl
      exception := fun _ ⟨_, hline⟩ => absurd (List.cons.inj hline).1 (by decide)
      options := nofun
      noOptions := fun _ hmem => by
        rw [List.mem_cons, List.mem_cons] at hmem
        rcases hmem with hc | hc | hmem
        · exact absurd hc (by decide)
        · exact absurd hc (by decide)
        · exact lacks rfl hmem
      start := fun hne => absurd rfl hne
      anchoredEnd := fun _ hsuffix => lacks rfl (hsuffix.subset List.mem_cons_self) }
  unfold ofText
  rw [← NetworkLine.reads_iff.1 reads]
  rfl

/-- What follows the hostname of the rule is kept as it is. -/
theorem bothDropped_ofName (h : ∀ c ∈ name, HostsEntry.isRefused c = false) :
    (ofName name).bothDropped = name.dropWhile isHostnameChar := by
  refine Search.dropEndWhile_eq_self fun c hc => beq_eq_false_iff_ne.2 ?_
  rintro rfl
  have hmem : '*' ∈ name := (List.dropWhile_sublist _).subset (List.mem_of_getLast? hc)
  exact absurd (h '*' hmem) (by decide)

/-- What follows the hostname of the rule has no wildcards or separators. -/
theorem isPlain_bothDropped_ofName (h : ∀ c ∈ name, HostsEntry.isRefused c = false) :
    Pattern.isPlain (ofName name).bothDropped = true := by
  rw [bothDropped_ofName h, Pattern.isPlain_iff]
  constructor <;> intro hmem <;>
    exact absurd (h _ ((List.dropWhile_sublist _).subset hmem)) (by decide)

end NetworkRule

namespace NetworkFilter

variable {entry name : Text} {keepsLine : Bool} {f g : NetworkFilter}

/-- **What an entry asks for**: its hostname, and nothing behind it. -/
theorem asksFor_ofHostsEntry [IdnaService] (h : ofHostsEntry entry keepsLine = .ok f) :
    f.AsksFor f.hostname [] where
  shape_eq := shape_ofHostsEntry h
  matchCase_eq := by
    obtain ⟨hostname, rawLine?, rfl⟩ := exists_make_of_ofHostsEntry h
    exact Mask.has_of _ _
  hostname_eq := rfl
  pattern_eq := by
    obtain ⟨hostname, rawLine?, rfl⟩ := exists_make_of_ofHostsEntry h
    rfl
  matchesOptions_eq := matchesOptions_ofHostsEntry h

/-- **What the rule for a name asks for**: the part of the name that may be a
hostname, and the rest of it behind that. -/
theorem IsFilterOf.asksFor_ofName [IdnaService] (hg : g.IsFilterOf (NetworkRule.ofName name))
    (h : ∀ c ∈ name, HostsEntry.isRefused c = false) :
    g.AsksFor g.hostname (Text.lower (name.dropWhile NetworkRule.isHostnameChar)) where
  shape_eq := by
    rw [hg.shape_eq, Shape.ofMask, hg.has_eq, hg.has_eq, hg.has_eq]
    show (if !Pattern.isPlain (NetworkRule.ofName name).bothDropped then _ else _) = _
    rw [NetworkRule.isPlain_bothDropped_ofName h]
    rfl
  matchCase_eq := hg.has_eq .matchCase
  hostname_eq := rfl
  pattern_eq := by
    rw [hg.pattern_eq, NetworkRule.pattern_eq, ← NetworkRule.bothDropped_ofName h]
    rfl
  matchesOptions_eq := fun r =>
    matchesOptions_of_unlimited (hg.has_eq (.kind r.kind)) (hg.has_eq .thirdParty)
      (hg.has_eq .firstParty) hg.domains_eq hg.excludedDomains_eq

/-- **The rule for a name is accepted** if what it takes for the hostname has a
normal form. -/
theorem exists_ofLine_ofName [IdnaService] (h : ∀ c ∈ name, HostsEntry.isRefused c = false)
    {hostname : Text}
    (hname : Hostname.normalize? (name.takeWhile NetworkRule.isHostnameChar) = some hostname) :
    ∃ g, ofLine ('|' :: '|' :: name) false = .ok g ∧ g.hostname = hostname ∧
      g.AsksFor hostname (Text.lower (name.dropWhile NetworkRule.isHostnameChar)) := by
  have line : ofLine ('|' :: '|' :: name) false = (NetworkRule.ofName name).toFilter none := by
    rw [ofLine, NetworkRule.ofText_ofName h]
    rfl
  have made : ∃ g, (NetworkRule.ofName name).toFilter none = .ok g := by
    unfold NetworkRule.toFilter
    rw [show (NetworkRule.ofName name).hostname = name.takeWhile NetworkRule.isHostnameChar
      from rfl, hname]
    exact ⟨_, rfl⟩
  obtain ⟨g, hg⟩ := made
  have filter := isFilterOf_toFilter hg
  have same : g.hostname = hostname := Option.some.inj (filter.hostname_eq.symm.trans hname)
  exact ⟨g, line.trans hg, same, same ▸ filter.asksFor_ofName h⟩

/-- **When an entry is equivalent to the rule it stands for.** If all characters
of its name may be part of the hostname of a rule, the rule is accepted and
matches the same requests. If one may not, and the name is ASCII in lower case,
the rule is accepted and misses some request. -/
theorem isMatch_ofHostsEntry_eq_ofName [IdnaService] (h : ofHostsEntry entry keepsLine = .ok f) :
    ((∀ c ∈ HostsEntry.name entry, NetworkRule.isHostnameChar c = true) →
        ∃ g, ofLine ('|' :: '|' :: HostsEntry.name entry) false = .ok g ∧
          ∀ engine r, g.isMatch engine r = f.isMatch engine r) ∧
      (Text.isAscii (Unicode.lowercase (HostsEntry.name entry)) = true →
        (∃ c ∈ HostsEntry.name entry, NetworkRule.isHostnameChar c = false) →
          ∃ g, ofLine ('|' :: '|' :: HostsEntry.name entry) false = .ok g ∧
            ∃ r, ∀ engine, f.isMatch engine r = true ∧ g.isMatch engine r = false) := by
  have entryAsks := asksFor_ofHostsEntry h
  obtain ⟨notRefused, -, -, -, hostname_eq⟩ := isRead_of_ofHostsEntry h
  generalize HostsEntry.name entry = name at notRefused hostname_eq ⊢
  have cut := List.takeWhile_append_dropWhile (p := NetworkRule.isHostnameChar) (l := name)
  constructor
  · intro all
    have nothing : name.dropWhile NetworkRule.isHostnameChar = [] := List.dropWhile_eq_nil_iff.2 all
    rw [nothing, List.append_nil] at cut
    obtain ⟨g, hg, -, asks⟩ := exists_ofLine_ofName notRefused (cut.symm ▸ hostname_eq)
    rw [nothing] at asks
    exact ⟨g, hg, asks.isMatch_eq entryAsks⟩
  · rintro ascii ⟨d, hd, hdchar⟩
    have ascii' : Text.isAscii (Unicode.lowercase (name.takeWhile NetworkRule.isHostnameChar))
        = true := Unicode.isAscii_lowercase_of_append (cut.symm ▸ ascii)
    obtain ⟨g, hg, -, asks⟩ := exists_ofLine_ofName notRefused (if_pos ascii')
    -- the rest of the name starts with a character that is in no hostname of a rule
    have more : name.dropWhile NetworkRule.isHostnameChar ≠ [] := fun nothing => by
      rw [List.dropWhile_eq_nil_iff.1 nothing d hd] at hdchar
      cases hdchar
    obtain ⟨c, rest, hrest⟩ := List.exists_cons_of_ne_nil more
    rw [hrest] at asks
    have hslash : c.toLower ≠ '/' := fun hc => by
      have hmem : c ∈ name := (List.dropWhile_sublist _).subset (hrest ▸ List.mem_cons_self)
      rw [(Text.toLower_eq_iff (by decide)).1 hc] at hmem
      exact absurd (notRefused '/' hmem) (by decide)
    have hostname : f.hostname = Unicode.lowercase name :=
      Option.some.inj (hostname_eq.symm.trans (if_pos ascii))
    refine ⟨g, hg, entryAsks.exists_not_isMatch asks hslash ?_ (Unicode.lower_lowercase _)⟩
    rw [hostname, Unicode.lower_lowercase]

/-- An entry that is equivalent to its rule, and one that is not. -/
theorem isMatch_ofHostsEntry_eq_ofName_percent :
    (∃ f g, ofHostsEntry "ads.com".toList false = .ok f ∧
      ofLine "||ads.com".toList false = .ok g ∧
        ∀ engine r, g.isMatch engine r = f.isMatch engine r) ∧
    ∃ f g r, ofHostsEntry ".foo%bar.com".toList false = .ok f ∧
      ofLine "||foo%bar.com".toList false = .ok g ∧
        ∀ engine, f.isMatch engine r = true ∧ g.isMatch engine r = false := by
  constructor
  · obtain ⟨f, hf⟩ : ∃ f, ofHostsEntry "ads.com".toList false = .ok f := ⟨_, rfl⟩
    obtain ⟨g, hg, same⟩ := (isMatch_ofHostsEntry_eq_ofName hf).1 (List.all_eq_true.1 (by decide))
    exact ⟨f, g, hf, hg, same⟩
  · obtain ⟨f, hf⟩ : ∃ f, ofHostsEntry ".foo%bar.com".toList false = .ok f := ⟨_, rfl⟩
    obtain ⟨g, hg, r, differs⟩ :=
      (isMatch_ofHostsEntry_eq_ofName hf).2 (by decide) ⟨'%', by decide, by decide⟩
    exact ⟨f, g, r, hf, hg, differs⟩

/-- **An entry may differ from the rule it stands for.** The entry `%a.com`
blocks the hostname `%a.com`, and its rule has no hostname at all. -/
theorem isMatch_ofHostsEntry_ne_ofName :
    ¬ ∀ entry f, ofHostsEntry entry false = .ok f →
      ∃ g, ofLine ('|' :: '|' :: entry.dropWhile (· == '.')) false = .ok g ∧
        ∀ engine r, g.isMatch engine r = f.isMatch engine r := by
  intro equivalent
  have differs : ∀ f g r, ofHostsEntry "%a.com".toList false = .ok f →
      ofLine "||%a.com".toList false = .ok g →
      Request.ofUrls? "http://%a.com/".toList "https://news.com/".toList "script"
        .lastLabelOnly = .ok r →
        f.isMatch .splitting r = true ∧ g.isMatch .splitting r = false := by
    rintro _ _ _ ⟨⟩ ⟨⟩ ⟨⟩
    decide +kernel
  obtain ⟨g, hg, same⟩ := equivalent "%a.com".toList _ rfl
  obtain ⟨entry, rule⟩ := differs _ g _ rfl hg rfl
  rw [same, entry] at rule
  cases rule

end NetworkFilter

end ContentFilter
