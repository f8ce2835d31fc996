import ContentFilter.Idna.Ascii
import ContentFilter.Proofs.Hostname.Anchoring
import ContentFilter.Proofs.Network.Comparison
import ContentFilter.Proofs.Network.Options
import ContentFilter.Proofs.Request.Parts

/-!
# What a pattern behind a hostname is compared with

Behind `||` a hostname is looked for twice, by two searches that know nothing
of each other. One finds it in the hostname of the request and looks whether it
starts a label there; the other finds it in the whole lowered URL and gives the
place where the pattern is compared.

The hostname of the request is a part of the URL, so the second search finds
something whenever the first one does. It finds the same occurrence exactly if
the hostname does not occur in the URL before the host starts: in the scheme,
in the credentials, or across their ends
(`NetworkFilter.comparedText_ofUrls`). Where it does occur there, the
pattern is compared with what follows that earlier occurrence, and a request
with such credentials passes a filter that is meant to block it
(`NetworkFilter.comparedText_credentials`).
-/

namespace ContentFilter

/-- **An occurrence in the hostname comes first in the lowered URL** exactly if
nothing occurs there before the host. -/
theorem Request.isFirstAt_lowerUrl_iff {r : Request}
    {scheme credentials host port tail before name after : Text}
    (cut : Url.IsCut r.url scheme credentials host port tail)
    (hhost : r.hostname = Text.lower host) (hname : name ≠ [])
    (hocc : r.hostname = before ++ name ++ after)
    (hfirst : Search.IsFirstAt name before.length r.hostname) :
    Search.IsFirstAt name.utf8
        (Text.byteLength (scheme ++ Url.schemeEnd ++ credentials) + Text.byteLength before)
        r.lowerUrl.utf8 ↔
      ∀ m < Text.byteLength (scheme ++ Url.schemeEnd ++ credentials),
        ¬ Search.OccursAt name.utf8 m r.lowerUrl.utf8 := by
  have bytes : Search.IsFirstAt name.utf8 (Text.byteLength before) r.hostname.utf8 :=
    (Text.isFirstAt_utf8_iff hname).2 ⟨before, after, hocc, rfl, hfirst⟩
  -- the hostname is the part of the lowered URL between the host's neighbours
  have within := Search.isFirstAt_within_iff bytes
    (Text.lower (scheme ++ Url.schemeEnd ++ credentials)).utf8 (Text.lower (port ++ tail)).utf8
  rwa [← Text.utf8_append, ← Text.utf8_append, ← lowerUrl_eq cut hhost, Text.length_utf8,
    Text.byteLength_lower] at within

namespace NetworkFilter

variable {line url source : Text} {keepsLine : Bool} {kind : String} {resolver : Resolver}
  {f : NetworkFilter} {r : Request}

/-- **A filter that has a hostname follows it.** -/
theorem isBehindHostname_of_hostname_ne [IdnaService] (h : ofLine line keepsLine = .ok f)
    (hname : f.hostname ≠ []) : f.shape.isBehindHostname = true := by
  obtain ⟨rule, -, hf⟩ := exists_isFilterOf_of_ofLine h
  rw [hf.shape_eq, Shape.isBehindHostname_ofMask, hf.has_eq]
  refine Decidable.not_not.1 fun hstart => hname ?_
  -- a rule without `||` has no hostname, and the normal form of nothing is nothing
  have hnil : rule.hostname = [] := by
    unfold NetworkRule.hostname
    split
    · next hs => exact absurd (decide_eq_true hs) hstart
    · rfl
  have hnormal := hf.hostname_eq
  rw [hnil] at hnormal
  exact (Option.some.inj hnormal).symm

/-- **Where a pattern behind a hostname is compared.** If the hostname of a
filter is accepted at a place of the request's hostname, then the pattern is
compared with what follows its first occurrence in the URL, and that is the
accepted one exactly if it does not occur before the host. The URL is cut in
the only way there is (`Url.IsCut.unique`). -/
theorem comparedText_ofUrls [IdnaService] (h : ofLine line keepsLine = .ok f)
    (hname : f.hostname ≠ []) (hr : Request.ofUrls? url source kind resolver = .ok r)
    (anchored : isAnchoredBy f.hostname r.hostname = true) :
    ∃ scheme credentials host port tail before after n,
      Url.IsCut url scheme credentials host port tail ∧ r.hostname = Text.lower host ∧
      r.hostname = before ++ f.hostname ++ after ∧
      Search.IsFirstAt f.hostname before.length r.hostname ∧
      Hostname.LabelStartsBehind before ∧
      f.behindHostname? r = some ((f.comparedUrl r).drop n) ∧
      (∀ engine, f.matchesPattern engine r = f.compares engine ((f.comparedUrl r).drop n)) ∧
      (n = Text.byteLength (scheme ++ Url.schemeEnd ++ credentials) + Text.byteLength before +
          Text.byteLength f.hostname ↔
        ∀ m < Text.byteLength (scheme ++ Url.schemeEnd ++ credentials),
          ¬ Search.OccursAt f.hostname.utf8 m r.lowerUrl.utf8) := by
  obtain ⟨rfl, scheme, credentials, host, port, tail, cut, hhost⟩ :=
    Request.exists_isCut_of_ofUrls hr
  obtain ⟨before, after, hocc, hfirst, hlabel⟩ := isAnchoredBy_iff.1 anchored
  obtain ⟨n, -, first⟩ := (Request.occursAt_lowerUrl cut hhost hocc).exists_isFirstAt
  have behind : f.behindHostname? r =
      some ((f.comparedUrl r).drop (n + Text.byteLength f.hostname)) := by
    rw [behindHostname?, if_pos anchored, Request.offsetBehind?,
      Search.firstIndex?_eq_some_iff.2 first]
    rfl
  have same := Request.isFirstAt_lowerUrl_iff cut hhost hname hocc hfirst
  refine ⟨scheme, credentials, host, port, tail, before, after, n + Text.byteLength f.hostname,
    cut, hhost, hocc, hfirst, hlabel, behind, ?_, ?_⟩
  · intro engine
    rw [matchesPattern_eq, isBehindHostname_of_hostname_ne h hname, if_pos rfl, behind]
    rfl
  · rw [Nat.add_right_cancel_iff, ← same]
    constructor
    · rintro rfl
      exact first
    · exact first.eq

/-- A request whose hostname is a subdomain of the hostname of a filter. -/
theorem comparedText_subdomain :
    ∃ f r, ofLine "||foo.com/bar".toList false = .ok f ∧ f.hostname ≠ [] ∧
      Request.ofUrls? "http://sub.foo.com/bar".toList "https://news.com/".toList "script"
        .lastLabelOnly = .ok r ∧
      isAnchoredBy f.hostname r.hostname = true ∧
      ∃ scheme credentials host port tail before after n,
        Url.IsCut "http://sub.foo.com/bar".toList scheme credentials host port tail ∧
        r.hostname = Text.lower host ∧
        r.hostname = before ++ f.hostname ++ after ∧
        Search.IsFirstAt f.hostname before.length r.hostname ∧
        Hostname.LabelStartsBehind before ∧
        f.behindHostname? r = some ((f.comparedUrl r).drop n) ∧
        (∀ engine, f.matchesPattern engine r = f.compares engine ((f.comparedUrl r).drop n)) ∧
        (n = Text.byteLength (scheme ++ Url.schemeEnd ++ credentials) + Text.byteLength before +
            Text.byteLength f.hostname ↔
          ∀ m < Text.byteLength (scheme ++ Url.schemeEnd ++ credentials),
            ¬ Search.OccursAt f.hostname.utf8 m r.lowerUrl.utf8) := by
  obtain ⟨f, hf, hname⟩ : ∃ f, ofLine "||foo.com/bar".toList false = .ok f ∧
    f.hostname = "foo.com".toList := ⟨_, rfl, by decide +kernel⟩
  obtain ⟨r, hr, hhost⟩ : ∃ r, Request.ofUrls? "http://sub.foo.com/bar".toList
    "https://news.com/".toList "script" .lastLabelOnly = .ok r ∧
    r.hostname = "sub.foo.com".toList := ⟨_, rfl, by decide +kernel⟩
  have hne : f.hostname ≠ [] := by
    rw [hname]
    decide +kernel
  have anchored : isAnchoredBy f.hostname r.hostname = true := by
    rw [hname, hhost]
    decide +kernel
  exact ⟨f, r, hf, hne, hr, anchored, comparedText_ofUrls hf hne hr anchored⟩

/-- **A hostname among the credentials is found instead of the host**, and the
filter does not match a request it would match without them. -/
theorem comparedText_credentials :
    ∃ f r, ofLine "||foo.com/bar".toList false = .ok f ∧
      Request.ofUrls? "http://foo.com@foo.com/bar".toList "https://news.com/".toList "script"
        .lastLabelOnly = .ok r ∧
      isAnchoredBy f.hostname r.hostname = true ∧
      f.behindHostname? r = some (Text.utf8 "@foo.com/bar".toList) ∧
      f.matchesPattern .splitting r = false ∧
      f.compares .splitting (Text.utf8 "/bar".toList) = true := by
  refine ⟨_, _, rfl, rfl, ?_, ?_, ?_, ?_⟩ <;> decide +kernel

end NetworkFilter

end ContentFilter
