import ContentFilter.Idna.Ascii
import ContentFilter.Proofs.Hostname.Anchoring
import ContentFilter.Proofs.Network.Comparison
import ContentFilter.Proofs.Network.Options
import ContentFilter.Proofs.Request.Parts

/-!
# What an entry of a hosts file blocks

The filter of an entry has no options and an empty pattern, so all it asks of
a request is that the request's hostname is anchored by the name of the entry
(`NetworkFilter.isMatch_ofHostsEntry_iff`). The empty pattern is compared with
what the URL has behind the name, and it does have something there: the
hostname of the request is a part of the URL.

What that means for hostnames is `NetworkFilter.isMatch_ofHostsEntry`. A
request that is blocked has the name at a label of its hostname, and if the
name is found there first, the request is blocked. That covers the name itself
and its subdomains. It does not stop there: a filter behind `||` asks only
where a name starts and not where it ends, so hostnames that go on behind the
name are blocked as well (`NetworkFilter.isMatch_ofHostsEntry_not_exact`).
-/

namespace ContentFilter

/-! ## Entries that are read -/

/-- **The hostname an entry names**, as written: the entry without the dots at
its start. -/
def HostsEntry.name (entry : Text) : Text :=
  entry.dropWhile (· == '.')

/-- **An entry is read as a filter**: it passes the checks, and the hostname it
names has a normal form. -/
structure HostsEntry.IsRead [IdnaService] (entry : Text) (f : NetworkFilter) : Prop where
  /-- No character is refused. -/
  notRefused : ∀ c ∈ name entry, isRefused c = false
  /-- More than dots is left of the entry. -/
  name_ne_nil : name entry ≠ []
  /-- No dot is left at the start. -/
  head?_ne : (name entry).head? ≠ some '.'
  /-- There is no dot at the end. -/
  getLast?_ne : (name entry).getLast? ≠ some '.'
  /-- The hostname of the filter is the normal form. -/
  hostname_eq : Hostname.normalize? (name entry) = some f.hostname

namespace NetworkFilter

variable {entry : Text} {keepsLine : Bool} {f : NetworkFilter}

/-- **An entry that makes a filter is read as that filter.** -/
theorem isRead_of_ofHostsEntry [IdnaService] (h : ofHostsEntry entry keepsLine = .ok f) :
    HostsEntry.IsRead entry f := by
  unfold ofHostsEntry at h
  split at h
  · next accepted =>
    simp only [HostsEntry.isHostname, Bool.and_eq_true, decide_eq_true_eq,
      Bool.not_eq_true', List.any_eq_false, Bool.not_eq_true] at accepted
    obtain ⟨⟨⟨⟨hne, notRefused⟩, -⟩, -⟩, hlast⟩ := accepted
    obtain ⟨body, c, rfl⟩ := List.eq_nil_or_concat entry |>.resolve_left hne
    -- the last character is no dot, so it is left, and the last one again
    have hc : c ≠ '.' := fun hc => hlast (by rw [hc, List.concat_eq_append, List.getLast?_concat])
    have kept : ∃ rest, HostsEntry.name (body.concat c) = rest ++ [c] := by
      rw [List.concat_eq_append, HostsEntry.name, List.dropWhile_append]
      split
      · exact ⟨[], List.dropWhile_cons_of_neg (by simpa using hc)⟩
      · exact ⟨_, rfl⟩
    obtain ⟨rest, hrest⟩ := kept
    split at h
    · cases h
    · next hostname hname =>
      cases h
      refine ⟨fun d hd => notRefused d ((List.dropWhile_sublist _).subset hd), ?_, ?_, ?_, hname⟩
      · rw [hrest]
        exact List.append_ne_nil_of_right_ne_nil _ (List.cons_ne_nil c [])
      · intro hhead
        have hnot := List.head?_dropWhile_not (· == '.') (body.concat c)
        rw [HostsEntry.name] at hhead
        rw [hhead] at hnot
        exact absurd hnot (by simp)
      · rw [hrest, List.getLast?_concat]
        exact fun h => hc (Option.some.inj h)
  · cases h

/-- **The filter of an entry** has the flags of such filters, an empty pattern
and no options. -/
theorem exists_make_of_ofHostsEntry [IdnaService] (h : ofHostsEntry entry keepsLine = .ok f) :
    ∃ hostname rawLine?, f = .make (.of HostsEntry.holds) [] hostname [] [] [] rawLine? := by
  unfold ofHostsEntry at h
  split at h
  · split at h
    · cases h
    · cases h
      exact ⟨_, _, rfl⟩
  · cases h

/-- **The filter of an entry goes with its pattern.** -/
theorem isConsistent_ofHostsEntry [IdnaService] (h : ofHostsEntry entry keepsLine = .ok f) :
    f.IsConsistent := by
  obtain ⟨hostname, rawLine?, rfl⟩ := exists_make_of_ofHostsEntry h
  exact isConsistent_make (Mask.has_of _ _) ..

/-- The filter of an entry asks nothing of the options. -/
theorem matchesOptions_ofHostsEntry [IdnaService] (h : ofHostsEntry entry keepsLine = .ok f)
    (r : Request) : f.matchesOptions r = true := by
  obtain ⟨hostname, rawLine?, rfl⟩ := exists_make_of_ofHostsEntry h
  exact matchesOptions_of_unlimited (Mask.has_of _ _) (Mask.has_of _ _) (Mask.has_of _ _) rfl rfl

/-- The shape of an entry's filter is that of a plain pattern behind a
hostname. -/
theorem shape_ofHostsEntry [IdnaService] (h : ofHostsEntry entry keepsLine = .ok f) :
    f.shape = .hostnameAnchored := by
  rw [(isConsistent_ofHostsEntry h).shape_eq]
  obtain ⟨hostname, rawLine?, rfl⟩ := exists_make_of_ofHostsEntry h
  unfold Shape.ofMask make
  rw [Mask.has_of, Mask.has_of, Mask.has_of]
  rfl

/-- The filter of an entry finds its pattern in every text. -/
theorem compares_ofHostsEntry [IdnaService] (h : ofHostsEntry entry keepsLine = .ok f)
    (engine : Engine) (text : List UInt8) : f.compares engine text = true := by
  unfold compares
  rw [shape_ofHostsEntry h]
  obtain ⟨hostname, rawLine?, rfl⟩ := exists_make_of_ofHostsEntry h
  exact Search.startsWith_iff.2 List.nil_prefix

/-! ## Requests made from URLs -/

variable {url source : Text} {kind : String} {resolver : Resolver} {r : Request} {engine : Engine}

/-- **An entry blocks the requests whose hostname is anchored by its name.** -/
theorem isMatch_ofHostsEntry_iff [IdnaService] (h : ofHostsEntry entry keepsLine = .ok f)
    (hr : Request.ofUrls? url source kind resolver = .ok r) :
    f.isMatch engine r = true ↔ isAnchoredBy f.hostname r.hostname = true := by
  have behind : f.shape.isBehindHostname = true := by rw [shape_ofHostsEntry h]; rfl
  rw [isMatch, matchesOptions_ofHostsEntry h, Bool.true_and, matchesPattern_eq, behind, if_pos rfl,
    any_behindHostname_iff]
  -- the second search cannot fail where the first one did not
  refine and_iff_left_of_imp fun anchored => ?_
  obtain ⟨before, after, hname, -, -⟩ := isAnchoredBy_iff.1 anchored
  obtain ⟨rfl, scheme, credentials, host, port, tail, cut, hhost⟩ :=
    Request.exists_isCut_of_ofUrls hr
  obtain ⟨n, -, first⟩ := (Request.occursAt_lowerUrl cut hhost hname).exists_isFirstAt
  exact ⟨n, first, compares_ofHostsEntry h engine _⟩

/-- **What an entry of a hosts file blocks.** The hostname of a request that is
blocked has the name of the entry at one of its labels. A request is blocked
if the first occurrence of the name in its hostname starts a label, whatever
follows. -/
theorem isMatch_ofHostsEntry [IdnaService] (h : ofHostsEntry entry keepsLine = .ok f)
    (hr : Request.ofUrls? url source kind resolver = .ok r) :
    (f.isMatch engine r = true → ∃ before after, r.hostname = before ++ f.hostname ++ after ∧
        Hostname.LabelStartsBehind before) ∧
      ∀ before after, r.hostname = before ++ f.hostname ++ after →
        Hostname.LabelStartsBehind before →
        (∀ m < before.length, ¬ Search.OccursAt f.hostname m r.hostname) →
        f.isMatch engine r = true := by
  rw [isMatch_ofHostsEntry_iff h hr, isAnchoredBy_iff]
  constructor
  · rintro ⟨before, after, hname, -, hlabel⟩
    exact ⟨before, after, hname, hlabel⟩
  · intro before after hname hlabel hfirst
    exact ⟨before, after, hname, ⟨⟨before, after, hname, rfl⟩, hfirst⟩, hlabel⟩

/-- The entry `foo.com` blocks a request to one of its subdomains, in whose hostname
it starts the second label and occurs nowhere before. -/
theorem isMatch_ofHostsEntry_subdomain :
    ∃ f r, ofHostsEntry "foo.com".toList false = .ok f ∧ f.hostname = "foo.com".toList ∧
      Request.ofUrls? "http://sub.foo.com/x".toList "https://news.com/".toList "script"
        .lastLabelOnly = .ok r ∧
      r.hostname = "sub.foo.com".toList ∧ ∀ engine, f.isMatch engine r = true := by
  obtain ⟨f, hf, hname⟩ : ∃ f, ofHostsEntry "foo.com".toList false = .ok f ∧
    f.hostname = "foo.com".toList := ⟨_, rfl, rfl⟩
  obtain ⟨r, hr, hhost⟩ : ∃ r, Request.ofUrls? "http://sub.foo.com/x".toList
    "https://news.com/".toList "script" .lastLabelOnly = .ok r ∧
    r.hostname = "sub.foo.com".toList := ⟨_, rfl, rfl⟩
  have first : Search.IsFirstAt "foo.com".toList 4 "sub.foo.com".toList :=
    Search.firstIndex?_eq_some_iff.1 (by decide)
  refine ⟨f, r, hf, hname, hr, hhost, fun engine => ?_⟩
  refine (isMatch_ofHostsEntry hf hr).2 "sub.".toList [] ?_ (.inr rfl) ?_
  · rw [hname, hhost]
    rfl
  · rw [hname, hhost]
    exact first.2

/-- **Hostnames that go on behind the name are blocked as well**, so an entry
does not block its name and its subdomains only. -/
theorem isMatch_ofHostsEntry_not_exact :
    ¬ ∀ entry keepsLine f url source kind resolver r,
      ofHostsEntry entry keepsLine = .ok f →
      Request.ofUrls? url source kind resolver = .ok r →
      (f.isMatch .splitting r = true ↔
        r.hostname = f.hostname ∨ '.' :: f.hostname <:+ r.hostname) := by
  intro exact
  have goesOn := (exact "foo.com".toList false _ "http://foo.com.evil.org/".toList
    "https://news.com/".toList "script" .lastLabelOnly _ rfl rfl).1 (by decide +kernel)
  revert goesOn
  decide +kernel

end NetworkFilter

end ContentFilter
