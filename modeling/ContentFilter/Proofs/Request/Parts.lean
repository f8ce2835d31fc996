import ContentFilter.Proofs.Text.Case
import ContentFilter.Proofs.Url.Parts
import ContentFilter.Request.Basic

/-!
# The hostname of a request is a part of its URL

A request that is made from URLs has its hostname from the URL it asks for.
So the lowered URL holds the hostname, behind the scheme and the credentials,
and a place in the hostname is a place in the URL (`Request.lowerUrl_eq`).
-/

namespace ContentFilter.Request

variable {url source : Text} {kind : String} {resolver : Resolver} {r : Request}

/-- **The URL of a request can be cut around the host**, which is the hostname
of the request once its letters are lowered. -/
theorem exists_isCut_of_ofUrls (h : ofUrls? url source kind resolver = .ok r) :
    r.url = url ∧ ∃ scheme credentials host port tail,
      Url.IsCut url scheme credentials host port tail ∧ r.hostname = Text.lower host := by
  unfold ofUrls? at h
  cases hhost : Url.host? url with
  | none =>
    rw [hhost] at h
    cases h
  | some host =>
    rw [hhost] at h
    cases h
    obtain ⟨scheme, credentials, port, tail, cut⟩ := Url.host?_eq_some_iff.1 hhost
    exact ⟨rfl, scheme, credentials, host, port, tail, cut, Text.lower_lower host⟩

/-- **The lowered URL is the hostname between what is lowered before and
behind it.** -/
theorem lowerUrl_eq {scheme credentials host port tail : Text}
    (cut : Url.IsCut r.url scheme credentials host port tail)
    (hhost : r.hostname = Text.lower host) :
    r.lowerUrl = Text.lower (scheme ++ Url.schemeEnd ++ credentials) ++ r.hostname ++
      Text.lower (port ++ tail) := by
  rw [lowerUrl, hhost, ← Text.lower_append, ← Text.lower_append, cut.joined]
  simp

/-- **What occurs in the hostname occurs in the lowered URL**, moved by the
scheme and the credentials. -/
theorem occursAt_lowerUrl {scheme credentials host port tail : Text}
    (cut : Url.IsCut r.url scheme credentials host port tail)
    (hhost : r.hostname = Text.lower host) {before name after : Text}
    (hname : r.hostname = before ++ name ++ after) :
    Search.OccursAt name.utf8
      (Text.byteLength (scheme ++ Url.schemeEnd ++ credentials) + Text.byteLength before)
      r.lowerUrl.utf8 := by
  have inHostname : Search.OccursAt name.utf8 (Text.byteLength before) r.hostname.utf8 := by
    refine ⟨before.utf8, after.utf8, ?_, Text.length_utf8 before⟩
    rw [hname, Text.utf8_append, Text.utf8_append]
  -- lowering keeps the number of bytes of what stands before the host
  have inUrl := inHostname.within (Text.lower (scheme ++ Url.schemeEnd ++ credentials)).utf8
    (Text.lower (port ++ tail)).utf8
  rwa [← Text.utf8_append, ← Text.utf8_append, ← lowerUrl_eq cut hhost, Text.length_utf8,
    Text.byteLength_lower] at inUrl

end ContentFilter.Request
