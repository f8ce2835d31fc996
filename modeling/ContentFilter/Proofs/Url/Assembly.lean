import ContentFilter.Proofs.Url.Parts

/-!
# URLs put together from their parts

A URL can be written down from its parts: a scheme, credentials in front of a
`@`, a host, a port behind a `:`, and a tail. `Url.Parts` are such parts. Nothing
is asked of them but what keeps them apart once they are written: no part may
hold a delimiter that would end it early, or start the part behind it. So
credentials may hold `@` and `:`, a port may hold brackets and further colons,
and the tail may hold everything, as long as it starts like one.

The host of a URL that was put together is the host it was put together from,
whatever stands in the other parts, since the URL is cut into them again
(`Parts.isCut_toText`). Not every URL with a host was put together like this: of
what follows an address in brackets nothing is looked at. But every host has the
form that is asked of the host among parts (`host?_toText_and_form`).
-/

namespace ContentFilter.Url

/-- **The parts of a URL**, with what keeps them apart. -/
structure Parts where
  /-- What stands before `://`. -/
  scheme : Text
  /-- What stands before the last `@` of the authority, if it has one. -/
  credentials? : Option Text
  /-- The host. -/
  host : Text
  /-- What stands behind the `:` after the host, if there is one. -/
  port? : Option Text
  /-- What follows the authority. -/
  tail : Text
  /-- The first `://` is the one behind the scheme. -/
  scheme_first : Search.IsFirstAt schemeEnd scheme.length (scheme ++ schemeEnd)
  /-- Credentials do not end the authority. -/
  credentials_free : ∀ t, credentials? = some t → ∀ c ∈ t, endsAuthority c = false
  /-- There is a host. -/
  host_ne_nil : host ≠ []
  /-- The host ends neither the authority nor credentials. -/
  host_free : ∀ c ∈ host, endsAuthority c = false ∧ c ≠ '@'
  /-- The host is an address in brackets, or a name without a colon. -/
  host_form : (∃ address, host = '[' :: address ++ [']'] ∧ ']' ∉ address) ∨
    (host.head? ≠ some '[' ∧ ':' ∉ host)
  /-- A port ends neither the authority nor credentials. -/
  port_free : ∀ t, port? = some t → ∀ c ∈ t, endsAuthority c = false ∧ c ≠ '@'
  /-- The tail starts with a character that ends the authority. -/
  tail_start : ∀ c, tail.head? = some c → endsAuthority c = true

/-- Credentials as they are written. -/
def credentialsToText : Option Text → Text
  | none => []
  | some credentials => credentials ++ ['@']

/-- A port as it is written. -/
def portToText : Option Text → Text
  | none => []
  | some port => ':' :: port

namespace Parts

/-- **A URL put together from its parts.** -/
def toText (p : Parts) : Text :=
  p.scheme ++ schemeEnd ++ credentialsToText p.credentials? ++ p.host ++ portToText p.port? ++
    p.tail

/-- Written credentials end with the `@`. -/
theorem credentialsToText_end (p : Parts) :
    credentialsToText p.credentials? = [] ∨
      (credentialsToText p.credentials?).getLast? = some '@' := by
  cases p.credentials? with
  | none => exact .inl rfl
  | some credentials => exact .inr (List.getLast?_concat ..)

/-- Written credentials do not end the authority. -/
theorem credentialsToText_free (p : Parts) :
    ∀ c ∈ credentialsToText p.credentials?, endsAuthority c = false := by
  have free := p.credentials_free
  cases hcredentials : p.credentials? with
  | none => nofun
  | some credentials =>
    exact List.forall_mem_append.2 ⟨free _ hcredentials, List.forall_mem_singleton.2 rfl⟩

/-- A written port ends neither the authority nor credentials. -/
theorem portToText_free (p : Parts) :
    ∀ c ∈ portToText p.port?, endsAuthority c = false ∧ c ≠ '@' := by
  have free := p.port_free
  cases hport : p.port? with
  | none => nofun
  | some port => exact List.forall_mem_cons.2 ⟨⟨rfl, by decide⟩, free _ hport⟩

/-- A written port starts with the colon. -/
theorem portToText_start (p : Parts) :
    ∀ c, (portToText p.port?).head? = some c → c = ':' := by
  cases p.port? with
  | none => nofun
  | some port => exact fun c hc => (Option.some.inj hc).symm

/-- **A URL put together from parts is cut into them again.** -/
theorem isCut_toText (p : Parts) :
    IsCut p.toText p.scheme (credentialsToText p.credentials?) p.host (portToText p.port?)
      p.tail where
  joined := rfl
  scheme_first := by
    -- what follows the first `://` has no part in where that is
    have first := (Search.isFirstAt_within_iff p.scheme_first []
      (credentialsToText p.credentials? ++ p.host ++ portToText p.port? ++ p.tail)).2 nofun
    simpa [toText] using first
  credentials_end := p.credentialsToText_end
  at_notMem := by
    rw [List.mem_append, not_or]
    exact ⟨fun h => (p.host_free _ h).2 rfl, fun h => (p.portToText_free _ h).2 rfl⟩
  authority_free := by
    rw [List.forall_mem_append, List.forall_mem_append]
    exact ⟨⟨p.credentialsToText_free, fun c hc => (p.host_free c hc).1⟩,
      fun c hc => (p.portToText_free c hc).1⟩
  tail_start := p.tail_start
  host_ne := p.host_ne_nil
  host_end := p.host_form.imp_right fun h => ⟨h.1, h.2, p.portToText_start⟩

end Parts

/-- **The host is found again, and every host has the form of one.** The host of a
URL put together from parts is theirs. And the host of any URL is not empty,
ends neither an authority nor credentials, and is in brackets or has no
colon. -/
theorem host?_toText_and_form :
    (∀ p : Parts, host? p.toText = some p.host) ∧
      ∀ url host, host? url = some host →
        host ≠ [] ∧ (∀ c ∈ host, endsAuthority c = false ∧ c ≠ '@') ∧
          ((host.head? = some '[' ∧ host.getLast? = some ']') ∨ ':' ∉ host) := by
  constructor
  · intro p
    exact host?_eq_some_iff.2 ⟨_, _, _, _, p.isCut_toText⟩
  · intro url host hhost
    obtain ⟨scheme, credentials, port, tail, cut⟩ := host?_eq_some_iff.1 hhost
    refine ⟨cut.host_ne, fun c hc => ⟨?_, ?_⟩, ?_⟩
    · exact cut.authority_free c
        (List.mem_append_left _ (List.mem_append_right _ hc))
    · rintro rfl
      exact cut.at_notMem (List.mem_append_left _ hc)
    · obtain ⟨address, rfl, -⟩ | ⟨-, lacksColon, -⟩ := cut.host_end
      · exact .inl ⟨rfl, List.getLast?_concat ..⟩
      · exact .inr lacksColon

/-- Credentials with a `@` and a colon, an address in brackets, and a tail that
looks like another URL. -/
theorem host?_toText_and_form_brackets :
    ∃ p : Parts, p.toText = "ws://me@x:pw@[2001:db8::1]:8]0?u=http://[a@b:c/".toList ∧
      host? p.toText = some "[2001:db8::1]".toList ∧
      ':' ∈ p.host ∧ p.host.head? = some '[' ∧ p.host.getLast? = some ']' := by
  let p : Parts :=
    { scheme := "ws".toList, credentials? := some "me@x:pw".toList
      host := "[2001:db8::1]".toList, port? := some "8]0".toList
      tail := "?u=http://[a@b:c/".toList
      scheme_first := Search.firstIndex?_eq_some_iff.1 (by decide)
      credentials_free := by rintro t ⟨⟩; simp [endsAuthority]
      host_ne_nil := by decide
      host_free := by simp [endsAuthority]
      host_form := .inl ⟨"2001:db8::1".toList, by decide, by decide⟩
      port_free := by rintro t ⟨⟩; simp [endsAuthority]
      tail_start := by rintro c ⟨⟩; decide }
  have found : host? p.toText = some p.host := host?_toText_and_form.1 p
  have form := host?_toText_and_form.2 _ _ found
  have colon : ':' ∈ p.host := by decide
  exact ⟨p, by decide, found, colon, form.2.2.resolve_right fun lacks => lacks colon⟩

end ContentFilter.Url
