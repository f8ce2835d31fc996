import ContentFilter.Proofs.Search.Occurrence
import ContentFilter.Url

/-!
# The host among the parts of a URL

`Url.host?` finds the host of a URL by five cuts, one after the other.
`Url.IsCut` says what they amount to: the URL is a scheme, `://`, credentials,
a host, what stands behind the host in the authority, and a tail, and each of
these ends where its first or last delimiter says. A URL has a host exactly if
it can be cut this way, and then the host is the one of the cut
(`host?_eq_some_iff`).

In particular the host is a part of the URL, and what stands before it is the
scheme and the credentials. Places in the host are places in the URL, moved by
those.
-/

namespace ContentFilter.Url

/-- What stands between the scheme and the authority. -/
def schemeEnd : Text :=
  "://".toList

/-- **A URL, cut around its host.** -/
structure IsCut (url scheme credentials host port tail : Text) : Prop where
  /-- The parts make up the URL. -/
  joined : url = scheme ++ schemeEnd ++ credentials ++ host ++ port ++ tail
  /-- The scheme ends at the first `://`. -/
  scheme_first : Search.IsFirstAt schemeEnd scheme.length url
  /-- Credentials end with a `@`, if there are any. -/
  credentials_end : credentials = [] ∨ credentials.getLast? = some '@'
  /-- There is no `@` behind them in the authority. -/
  at_notMem : '@' ∉ host ++ port
  /-- Credentials, host and port are the authority. -/
  authority_free : ∀ c ∈ credentials ++ host ++ port, endsAuthority c = false
  /-- The tail starts with a character that ends the authority. -/
  tail_start : ∀ c, tail.head? = some c → endsAuthority c = true
  /-- The host is not empty. -/
  host_ne : host ≠ []
  /-- The host is an address in brackets, or ends where a port starts. -/
  host_end : (∃ address, host = '[' :: address ++ [']'] ∧ ']' ∉ address) ∨
    (host.head? ≠ some '[' ∧ ':' ∉ host ∧ ∀ c, port.head? = some c → c = ':')

/-! ## The cuts one by one -/

/-- **What follows the scheme** is what follows the first `://`. -/
theorem afterScheme?_eq_some {url rest : Text} :
    afterScheme? url = some rest ↔
      ∃ scheme, url = scheme ++ schemeEnd ++ rest ∧
        Search.IsFirstAt schemeEnd scheme.length url := by
  induction url with
  | nil =>
    refine iff_of_false nofun ?_
    rintro ⟨scheme, hcut, -⟩
    have hlen := congrArg List.length hcut
    simp [schemeEnd] at hlen
  | cons c url ih =>
    by_cases hstart : schemeEnd <+: c :: url
    · obtain ⟨behind, hbehind⟩ := hstart
      have hread : afterScheme? (c :: url) = some behind := by
        rw [← hbehind]
        rfl
      rw [hread]
      constructor
      · rintro ⟨⟩
        exact ⟨[], hbehind.symm, Search.isFirstAt_zero_iff.2 ⟨_, hbehind⟩⟩
      · rintro ⟨scheme, hcut, hfirst⟩
        cases scheme with
        | nil => exact congrArg some (List.append_cancel_left (hbehind.trans hcut))
        | cons d scheme =>
          exact absurd ⟨_, hbehind⟩ (Search.isFirstAt_succ_iff.1 hfirst).1
    · -- without `://` at the start the search goes on behind the first character
      have hread : afterScheme? (c :: url) = afterScheme? url :=
        afterScheme?.eq_2 c url fun behind hc hurl => hstart ⟨behind, by rw [hc, hurl]; rfl⟩
      rw [hread, ih]
      constructor
      · rintro ⟨scheme, rfl, hfirst⟩
        exact ⟨c :: scheme, rfl, Search.isFirstAt_succ_iff.2 ⟨hstart, hfirst⟩⟩
      · rintro ⟨scheme, hcut, hfirst⟩
        cases scheme with
        | nil => exact absurd ⟨rest, hcut.symm⟩ hstart
        | cons d scheme =>
          exact ⟨scheme, (List.cons.inj hcut).2, (Search.isFirstAt_succ_iff.1 hfirst).2⟩

/-- **Credentials are what stands up to the last `@`.** -/
theorem dropCredentials_eq_iff {authority host : Text} :
    dropCredentials authority = host ↔
      ∃ credentials, authority = credentials ++ host ∧ '@' ∉ host ∧
        (credentials = [] ∨ credentials.getLast? = some '@') := by
  have behind : dropCredentials authority =
      (Search.splitLast? '@' authority).elim authority (·.2) := by
    unfold dropCredentials
    cases Search.splitLast? '@' authority <;> rfl
  rw [behind]
  exact Search.splitLast?_elim_eq_iff

/-- **A host ends at its closing bracket, or where the port starts.** -/
theorem beforeColon?_eq_some {t host : Text} :
    beforeColon? t = some host ↔
      ∃ port, t = host ++ port ∧
        ((∃ address, host = '[' :: address ++ [']'] ∧ ']' ∉ address) ∨
          (t.head? ≠ some '[' ∧ ':' ∉ host ∧ ∀ c, port.head? = some c → c = ':')) := by
  unfold beforeColon?
  split
  · next rest =>
    rw [Option.map_eq_some_iff]
    constructor
    · rintro ⟨⟨before, port⟩, hsplit, rfl⟩
      obtain ⟨hcut, hlacks⟩ := Search.splitFirst?_eq_some.1 hsplit
      refine ⟨port, by rw [hcut]; simp, .inl ?_⟩
      cases before with
      | nil => cases hcut
      | cons c address =>
        obtain rfl : '[' = c := (List.cons.inj hcut).1
        exact ⟨address, rfl, fun h => hlacks (List.mem_cons_of_mem _ h)⟩
    · rintro ⟨port, hcut, ⟨address, rfl, haddress⟩ | ⟨hhead, -⟩⟩
      · refine ⟨('[' :: address, port), Search.splitFirst?_eq_some.2 ⟨?_, ?_⟩, rfl⟩
        · rw [hcut]
          simp
        · rw [List.mem_cons, not_or]
          exact ⟨by decide, haddress⟩
      · exact absurd rfl hhead
  · next hbracket =>
    rw [Option.some.injEq, Search.takeWhile_eq_iff]
    have hhead : t.head? ≠ some '[' := by
      cases t with
      | nil => exact nofun
      | cons c t => exact fun he => hbracket t (by rw [Option.some.inj he])
    constructor
    · rintro ⟨port, hcut, hhost, hport⟩
      refine ⟨port, hcut, .inr ⟨hhead, fun hmem => ?_, fun c hc => ?_⟩⟩
      · have hcolon := hhost _ hmem
        cases hcolon
      · simpa using hport c hc
    · rintro ⟨port, hcut, ⟨address, rfl, -⟩ | ⟨-, hhost, hport⟩⟩
      · exact absurd (by rw [hcut]; rfl) hhead
      · refine ⟨port, hcut, fun c hc => bne_iff_ne.2 fun he => hhost (he ▸ hc), fun c hc => ?_⟩
        rw [hport c hc]
        rfl

/-! ## All cuts together -/

/-- A text starts as its first part does, unless that is empty. -/
theorem head?_append {host port : Text} (h : host ≠ []) : (host ++ port).head? = host.head? := by
  obtain ⟨c, rest, rfl⟩ := List.exists_cons_of_ne_nil h
  rfl

section Cut

variable {url scheme credentials host port tail : Text}

/-- The authority of a URL that was cut. -/
theorem IsCut.authority_eq (cut : IsCut url scheme credentials host port tail) :
    authority (credentials ++ host ++ port ++ tail) = credentials ++ host ++ port :=
  Search.takeWhile_eq_iff.2 ⟨tail, rfl, fun c hc => by simp [cut.authority_free c hc],
    fun c hc => by simp [cut.tail_start c hc]⟩

/-- The host of a URL that was cut, with what stands behind it in the
authority. -/
theorem IsCut.dropCredentials_eq (cut : IsCut url scheme credentials host port tail) :
    dropCredentials (credentials ++ host ++ port) = host ++ port :=
  dropCredentials_eq_iff.2 ⟨credentials, by simp, cut.at_notMem, cut.credentials_end⟩

end Cut

/-- **A URL has a host exactly if it can be cut around it.** -/
theorem host?_eq_some_iff {url host : Text} :
    host? url = some host ↔
      ∃ scheme credentials port tail, IsCut url scheme credentials host port tail := by
  have cuts : host? url = some host ↔ ∃ rest, afterScheme? url = some rest ∧
      beforeColon? (dropCredentials (authority rest)) = some host ∧ host ≠ [] := by
    unfold host?
    constructor
    · intro h
      obtain ⟨rest, hrest, h⟩ := Option.bind_eq_some_iff.1 h
      obtain ⟨name, hname, h⟩ := Option.bind_eq_some_iff.1 h
      split at h
      · cases h
      · next hne =>
        cases h
        exact ⟨rest, hrest, hname, hne⟩
    · rintro ⟨rest, hrest, hname, hne⟩
      rw [hrest]
      show (beforeColon? (dropCredentials (authority rest))).bind _ = _
      rw [hname]
      exact if_neg hne
  rw [cuts]
  constructor
  · rintro ⟨rest, hrest, hname, hne⟩
    -- each cut leaves a smaller part of the URL to the next one
    obtain ⟨scheme, hurl, hfirst⟩ := afterScheme?_eq_some.1 hrest
    obtain ⟨tail, hauthority, hfree, htail⟩ := Search.takeWhile_eq_iff.1
      (show rest.takeWhile (fun c => !endsAuthority c) = authority rest from rfl)
    obtain ⟨credentials, hcredentials, hat, hend⟩ := dropCredentials_eq_iff.1
      (show dropCredentials (authority rest) = _ from rfl)
    obtain ⟨port, hhost, hform⟩ := beforeColon?_eq_some.1 hname
    rw [hcredentials, hhost] at hauthority hfree
    rw [hhost] at hat hform
    refine ⟨scheme, credentials, port, tail, ?_, hfirst, hend, hat, fun c hc => ?_,
      fun c hc => ?_, hne, ?_⟩
    · rw [hurl, hauthority]
      simp
    · simpa using hfree c (by rwa [← List.append_assoc])
    · simpa using htail c hc
    · rwa [head?_append hne] at hform
  · rintro ⟨scheme, credentials, port, tail, cut⟩
    refine ⟨credentials ++ host ++ port ++ tail, afterScheme?_eq_some.2 ⟨scheme, ?_,
      cut.scheme_first⟩, ?_, cut.host_ne⟩
    · rw [cut.joined]
      simp
    · rw [cut.authority_eq, cut.dropCredentials_eq, beforeColon?_eq_some]
      refine ⟨port, rfl, ?_⟩
      rw [head?_append cut.host_ne]
      exact cut.host_end

/-- **There is only one way to cut a URL.** -/
theorem IsCut.unique {url scheme credentials host port tail scheme' credentials' host' port'
    tail' : Text} (cut : IsCut url scheme credentials host port tail)
    (cut' : IsCut url scheme' credentials' host' port' tail') :
    scheme = scheme' ∧ credentials = credentials' ∧ host = host' ∧ port = port' ∧
      tail = tail' := by
  have hhost : host = host' := Option.some.inj
    ((host?_eq_some_iff.2 ⟨_, _, _, _, cut⟩).symm.trans (host?_eq_some_iff.2 ⟨_, _, _, _, cut'⟩))
  have hjoined : scheme ++ (schemeEnd ++ (credentials ++ host ++ port ++ tail))
      = scheme' ++ (schemeEnd ++ (credentials' ++ host' ++ port' ++ tail')) := by
    simpa using cut.joined.symm.trans cut'.joined
  obtain ⟨hscheme, hrest⟩ := List.append_inj hjoined (cut.scheme_first.eq cut'.scheme_first)
  -- what follows the scheme is the same, and so is what the cuts make of it
  have hbehind := List.append_cancel_left hrest
  have hauthority : credentials ++ host ++ port = credentials' ++ host' ++ port' := by
    rw [← cut.authority_eq, ← cut'.authority_eq, hbehind]
  have hport : host ++ port = host' ++ port' := by
    rw [← cut.dropCredentials_eq, ← cut'.dropCredentials_eq, hauthority]
  rw [hauthority] at hbehind
  rw [List.append_assoc, List.append_assoc, hport] at hauthority
  rw [hhost] at hport
  exact ⟨hscheme, List.append_cancel_right hauthority, hhost, List.append_cancel_left hport,
    List.append_cancel_left hbehind⟩

end ContentFilter.Url
