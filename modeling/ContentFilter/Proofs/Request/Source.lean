import ContentFilter.Idna.Ascii
import ContentFilter.Network.Matching
import ContentFilter.Network.Rule
import ContentFilter.Proofs.Expression.Engine
import ContentFilter.Proofs.Text.Case

/-!
# Requests without a source

The source of a request may be empty, or a text that no host can be found in.
Such a request comes from no page, and belongs to no party: it is between two
parties, whatever it asks for, and a filter for requests within one party does
not match it.

None of this is read off the hosts themselves. The parties are compared by their
general domains, and these are asked of a suffix service that answers whatever
it likes. It may find the empty hostname valid, and find a suffix for it. But
all that a general domain can be is a label, a dot and what follows, or else the
hostname itself (`Resolver.generalDomain_eq_nil_iff`). So the domain of the
source is empty exactly if there is no source (`Request.sourceDomain_eq_nil_iff`),
and that of the host never is, because an empty host is not a host
(`Request.hostDomain_ne_nil`). `Request.isThirdParty_of_noSource` is the
comparison of the two, and what it means for filters.
-/

namespace ContentFilter

/-- **The general domain is empty only of the empty hostname**, for every service:
what it cuts out of a hostname has at least a dot. -/
theorem Resolver.generalDomain_eq_nil_iff {r : Resolver} {hostname : Text} :
    r.generalDomain hostname = [] ↔ hostname = [] := by
  unfold generalDomain
  cases hdomain : r.generalDomain? hostname with
  | none => rfl
  | some domain =>
    obtain ⟨front, tail, hfront, -, rfl⟩ := generalDomain?_eq_some.1 hdomain
    obtain ⟨-, rfl, -⟩ := front?_eq_some.1 hfront
    simp

/-- **A filter that is not for requests between parties** matches none of them. -/
theorem NetworkFilter.isMatch_of_not_thirdParty {f : NetworkFilter} {r : Request}
    (hflag : f.mask.has .thirdParty = false) (hparties : r.isThirdParty = true)
    (engine : Engine) : f.isMatch engine r = false := by
  have refused : f.matchesOptions r = false := by
    rw [matchesOptions, hparties, if_pos rfl, hflag, Bool.and_false, Bool.false_and, Bool.false_and]
  rw [isMatch, refused, Bool.false_and]

namespace Request

variable {url source : Text} {kind : String} {resolver : Resolver} {r : Request}

/-- **A request can be made exactly if the URL has a host.** -/
theorem ofUrls?_eq_ok_iff :
    ofUrls? url source kind resolver = .ok r ↔
      ∃ hostname, Url.host? url = some hostname ∧
        r = ofHostnames url hostname ((Url.host? source).getD []) (RequestKind.ofName kind)
          resolver := by
  unfold ofUrls?
  cases Url.host? url <;> simp [eq_comm]

/-- The domain of the host of a request is never empty. -/
theorem hostDomain_ne_nil (h : ofUrls? url source kind resolver = .ok r) : r.hostDomain ≠ [] := by
  obtain ⟨hostname, hhost, rfl⟩ := ofUrls?_eq_ok_iff.1 h
  intro hdomain
  have hlower : Text.lower hostname = [] :=
    Resolver.generalDomain_eq_nil_iff.1 ((Text.lower_eq_iff rfl).1 hdomain)
  exact Url.host?_ne_nil hhost ((Text.lower_eq_iff rfl).1 hlower)

/-- **The hostname of the source is empty** exactly if the source has no host. -/
theorem sourceHostname_eq_nil_iff (h : ofUrls? url source kind resolver = .ok r) :
    r.sourceHostname = [] ↔ Url.host? source = none := by
  obtain ⟨hostname, -, rfl⟩ := ofUrls?_eq_ok_iff.1 h
  have hlower : (ofHostnames url hostname ((Url.host? source).getD []) (RequestKind.ofName kind)
      resolver).sourceHostname = [] ↔ (Url.host? source).getD [] = [] :=
    (Text.lower_eq_iff rfl).trans (Text.lower_eq_iff rfl)
  rw [hlower]
  cases hsource : Url.host? source with
  | none => exact iff_of_true rfl rfl
  | some host => exact iff_of_false (Url.host?_ne_nil hsource) nofun

/-- **So is the domain of the source.** -/
theorem sourceDomain_eq_nil_iff (h : ofUrls? url source kind resolver = .ok r) :
    r.sourceDomain = [] ↔ Url.host? source = none := by
  rw [← sourceHostname_eq_nil_iff h]
  obtain ⟨hostname, -, rfl⟩ := ofUrls?_eq_ok_iff.1 h
  exact ((Text.lower_eq_iff rfl).trans Resolver.generalDomain_eq_nil_iff).trans
    (Text.lower_eq_iff rfl).symm

/-- **A request without a source is between two parties.** Whatever the suffix
service says of the empty hostname, a request whose source has no host has neither
a source hostname nor a source domain. Its host has a domain, so the two differ,
and no filter matches the request that is not for requests between parties. -/
theorem isThirdParty_of_noSource (noSource : Url.host? source = none)
    (h : ofUrls? url source kind resolver = .ok r) :
    r.sourceHostname = [] ∧ r.sourceDomain = [] ∧ r.hostDomain ≠ [] ∧ r.isThirdParty = true ∧
      ∀ f : NetworkFilter, f.mask.has .thirdParty = false →
        ∀ engine, f.isMatch engine r = false := by
  have hostname_eq : r.sourceHostname = [] := (sourceHostname_eq_nil_iff h).2 noSource
  have domain_eq : r.sourceDomain = [] := (sourceDomain_eq_nil_iff h).2 noSource
  have host_ne : r.hostDomain ≠ [] := hostDomain_ne_nil h
  have parties : r.isThirdParty = true := by
    refine decide_eq_true ?_
    rw [domain_eq]
    exact host_ne.symm
  exact ⟨hostname_eq, domain_eq, host_ne, parties, fun f hflag =>
    NetworkFilter.isMatch_of_not_thirdParty hflag parties⟩

/-- A source that names no host, and a service that has the empty hostname for
valid and gives it a suffix. The rule finds its pattern in the URL, but is not for
requests between parties. -/
theorem isThirdParty_of_noSource_lenient_service :
    let url := "https://cdn.example.com/ads".toList
    let source := "about:blank".toList
    let resolver : Resolver := ⟨fun _ => true, fun _ => some "com".toList⟩
    Url.host? source = none ∧
      ∃ r f, ofUrls? url source "script" resolver = .ok r ∧
        NetworkFilter.ofLine "||example.com/ads$~third-party".toList false = .ok f ∧
        f.matchesPattern .splitting r = true ∧ r.isThirdParty = true ∧
        f.isMatch .splitting r = false := by
  intro url source resolver
  have noSource : Url.host? source = none := by decide +kernel
  obtain ⟨r, made⟩ : ∃ r, ofUrls? url source "script" resolver = .ok r := ⟨_, rfl⟩
  obtain ⟨f, read⟩ : ∃ f, NetworkFilter.ofLine "||example.com/ads$~third-party".toList false =
    .ok f := ⟨_, rfl⟩
  obtain ⟨-, -, -, parties, notMatched⟩ := isThirdParty_of_noSource noSource made
  refine ⟨noSource, r, f, made, read, ?_, parties, notMatched f ?_ .splitting⟩
  · cases made
    cases read
    decide +kernel
  · cases read
    decide +kernel

end Request

end ContentFilter
