import ContentFilter.Proofs.Text.Case
import ContentFilter.Proofs.Url.Parts
import ContentFilter.Request.Basic

/-!
# Letter case in the URLs of a request

The case of the letters of a URL says nothing about the request. The delimiters
that a URL is cut at are no letters, so the host is found at the same place, with
its own letters as they are written (`Url.host?_lower`). A request lowers its
hostnames before it asks for their general domains, and it compares the lowered
URL, so nothing but the URL as given is left of the case
(`Request.ofUrls?_eq_of_lower_eq`).
-/

namespace ContentFilter

namespace Url

/-- What follows the scheme, before and after lowering. -/
theorem afterScheme?_lower (url : Text) :
    afterScheme? (Text.lower url) = (afterScheme? url).map Text.lower := by
  have letterless : Text.isLetterless schemeEnd = true := by decide
  induction url with
  | nil => rfl
  | cons c url ih =>
    by_cases hstart : schemeEnd <+: c :: url
    · obtain ⟨behind, hbehind⟩ := hstart
      rw [← hbehind, Text.lower_append, (Text.lower_eq_iff letterless).2 rfl]
      rfl
    · -- neither of the two has `://` at its start, so both searches go on
      have hstart' := mt (Text.prefix_lower_iff letterless).1 hstart
      have hread : afterScheme? (c :: url) = afterScheme? url :=
        afterScheme?.eq_2 c url fun behind hc hurl => hstart ⟨behind, by rw [hc, hurl]; rfl⟩
      have hread' : afterScheme? (c.toLower :: Text.lower url) = afterScheme? (Text.lower url) :=
        afterScheme?.eq_2 c.toLower (Text.lower url) fun behind hc hurl =>
          hstart' ⟨behind, show ':' :: '/' :: '/' :: behind = c.toLower :: Text.lower url by
            rw [hc, hurl]⟩
      rw [hread, ← ih]
      exact hread'

/-- The authority, before and after lowering. -/
theorem authority_lower (t : Text) : authority (Text.lower t) = Text.lower (authority t) := by
  refine Text.takeWhile_lower (fun c => ?_) t
  exact Text.forall_toLower (P := fun c l => (!endsAuthority l) = !endsAuthority c)
    (fun _ => rfl) (by decide) c

/-- An authority without its credentials, before and after lowering. -/
theorem dropCredentials_lower (t : Text) :
    dropCredentials (Text.lower t) = Text.lower (dropCredentials t) := by
  unfold dropCredentials
  rw [Text.splitLast?_lower rfl]
  cases Search.splitLast? '@' t <;> rfl

/-- The host in an authority without credentials, before and after lowering. -/
theorem beforeColon?_lower (t : Text) :
    beforeColon? (Text.lower t) = (beforeColon? t).map Text.lower := by
  by_cases hbracket : t.head? = some '['
  · obtain ⟨rest, rfl⟩ : ∃ rest, t = '[' :: rest := List.head?_eq_some_iff.1 hbracket
    show (Search.splitFirst? ']' (Text.lower ('[' :: rest))).map _ =
      ((Search.splitFirst? ']' ('[' :: rest)).map _).map _
    rw [Text.splitFirst?_lower rfl]
    cases Search.splitFirst? ']' ('[' :: rest) with
    | none => rfl
    | some parts => exact congrArg some (Text.lower_append parts.1 [']']).symm
  · have hbracket' := mt (Text.head?_lower_eq_iff rfl t).1 hbracket
    have unbracketed {t : Text} (h : t.head? ≠ some '[') :
        beforeColon? t = some (t.takeWhile (· != ':')) := by
      unfold beforeColon?
      split
      · exact absurd rfl h
      · rfl
    rw [unbracketed hbracket, unbracketed hbracket', Text.takeWhile_lower fun c => ?_]
    · rfl
    · exact Text.forall_toLower (P := fun c l => (l != ':') = (c != ':')) (fun _ => rfl)
        (by decide) c

/-- **The host of a lowered URL** is the lowered host of the URL. -/
theorem host?_lower (url : Text) : host? (Text.lower url) = (host? url).map Text.lower := by
  unfold host?
  rw [afterScheme?_lower]
  cases afterScheme? url with
  | none => rfl
  | some rest =>
    show (beforeColon? (dropCredentials (authority (Text.lower rest)))).bind _ =
      ((beforeColon? (dropCredentials (authority rest))).bind _).map _
    rw [authority_lower, dropCredentials_lower, beforeColon?_lower]
    cases beforeColon? (dropCredentials (authority rest)) with
    | none => rfl
    | some host =>
      cases host with
      | nil => rfl
      | cons c host => rfl

/-- URLs that differ in case only have hosts that do, or none has a host. -/
theorem map_lower_host?_eq {url url' : Text} (h : Text.lower url = Text.lower url') :
    (host? url).map Text.lower = (host? url').map Text.lower := by
  rw [← host?_lower, h, host?_lower]

end Url

namespace Request

variable {url url' source source' : Text}

/-- A request between hostnames does not depend on their case. -/
theorem ofHostnames_lower (url hostname source : Text) (kind : RequestKind) (resolver : Resolver) :
    ofHostnames url (Text.lower hostname) (Text.lower source) kind resolver =
      ofHostnames url hostname source kind resolver := by
  simp only [ofHostnames, Text.lower_lower]

/-- **URLs that differ in case only make requests that differ in the URL only**, or
none of them makes one. -/
theorem ofUrls?_eq_of_lower_eq (hurl : Text.lower url = Text.lower url')
    (hsource : Text.lower source = Text.lower source') (kind : String) (resolver : Resolver) :
    ofUrls? url' source' kind resolver =
      (ofUrls? url source kind resolver).map fun r => { r with url := url' } := by
  have source_eq : Text.lower ((Url.host? source).getD []) =
      Text.lower ((Url.host? source').getD []) := by
    have same := Url.map_lower_host?_eq hsource
    cases hs : Url.host? source <;> cases hs' : Url.host? source' <;> rw [hs, hs'] at same
    · cases same
    · cases same
    · exact Option.some.inj same
  have same := Url.map_lower_host?_eq hurl
  unfold ofUrls?
  cases hhost : Url.host? url <;> cases hhost' : Url.host? url' <;> rw [hhost, hhost'] at same
  · rfl
  · cases same
  · cases same
  · next host host' =>
    show Except.ok _ = Except.ok _
    rw [← ofHostnames_lower url', ← Option.some.inj same, ← source_eq, ofHostnames_lower]
    rfl

end Request

end ContentFilter
