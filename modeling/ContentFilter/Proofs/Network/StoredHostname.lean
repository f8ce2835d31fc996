import ContentFilter.Proofs.Hostname.IdnaLaws
import ContentFilter.Proofs.Idna.Signs
import ContentFilter.Proofs.Network.HostsEntry

/-!
# The hostname that is stored for an entry of a hosts file

An entry is not to block a whole top-level domain, and its hostname is to have
no dot at an end and none of the characters that no hostname has
(`Hostname.IsClean`). This is checked on the entry as written. Afterwards the
dots at its start are dropped and its characters are brought into normal form,
and both can undo what was checked.

What is stored is as clean as the name is when that has happened. An ASCII name
keeps all its signs, so the one thing left to go wrong is that all dots were at
the start: `..com` is stored as `com`. Any other name is decided on as the service
has prepared it, since writing it in ASCII label by label keeps its signs as well.
`NetworkFilter.isClean_ofHostsEntry_iff` states both, for every service that keeps
signs.
-/

namespace ContentFilter

namespace Hostname

/-- **A clean hostname**: it has a dot, but at neither end, and no character
that is refused. -/
structure IsClean (isRefused : Char → Bool) (t : Text) : Prop where
  /-- There is a hostname. -/
  ne_nil : t ≠ []
  /-- It is not a single label. -/
  dot_mem : '.' ∈ t
  /-- It does not start with a dot. -/
  head?_ne : t.head? ≠ some '.'
  /-- It does not end with a dot. -/
  getLast?_ne : t.getLast? ≠ some '.'
  /-- No character is refused. -/
  notRefused : ∀ c ∈ t, isRefused c = false

variable {isRefused : Char → Bool} {s t : Text}

/-- **Texts with the same signs are clean alike**, if only signs are refused. -/
theorem isClean_iff_of_hasSignsOf (h : Text.HasSignsOf s t)
    (onlySigns : ∀ c, isRefused c = true → Text.isSign c = true) :
    IsClean isRefused s ↔ IsClean isRefused t := by
  have refused : (∀ c ∈ s, isRefused c = false) ↔ ∀ c ∈ t, isRefused c = false := by
    refine forall_congr' fun c => ?_
    cases hc : isRefused c with
    | true => rw [h.mem_iff (onlySigns c hc)]
    | false => exact iff_of_true (fun _ => rfl) fun _ => rfl
  constructor <;> rintro ⟨hne, hdot, hhead, hlast, hrefused⟩
  · exact ⟨mt h.eq_nil_iff.2 hne, (h.mem_iff rfl).1 hdot, mt h.head?_iff.2 hhead,
      mt h.getLast?_iff.2 hlast, refused.1 hrefused⟩
  · exact ⟨mt h.eq_nil_iff.1 hne, (h.mem_iff rfl).2 hdot, mt h.head?_iff.1 hhead,
      mt h.getLast?_iff.1 hlast, refused.2 hrefused⟩

end Hostname

/-- **A character of ASCII that no hostname has.** -/
def HostsEntry.isRefusedAscii (c : Char) : Bool :=
  Text.isAsciiChar c && isRefused c

/-- What is refused in ASCII is a sign. -/
theorem HostsEntry.isSign_of_isRefusedAscii (c : Char) (h : isRefusedAscii c = true) :
    Text.isSign c = true :=
  Text.of_isAsciiChar (P := fun c => isRefusedAscii c = true → Text.isSign c = true)
    (by decide +kernel) (Bool.and_eq_true_iff.1 h).1 h

namespace NetworkFilter

variable {entry : Text} {keepsLine : Bool} {f : NetworkFilter}

/-- **When the stored hostname is clean.** If the name of the entry is ASCII in
lower case, it has to have a dot. Any other name is clean as it is stored if it is
once the service has prepared it. -/
theorem isClean_ofHostsEntry_iff [IdnaService] [IdnaService.WritesAscii] [IdnaService.Prepares]
    (h : ofHostsEntry entry keepsLine = .ok f) :
    (Text.isAscii (Unicode.lowercase (HostsEntry.name entry)) = true →
        (Hostname.IsClean HostsEntry.isRefused f.hostname ↔ '.' ∈ HostsEntry.name entry)) ∧
      (Text.isAscii (Unicode.lowercase (HostsEntry.name entry)) = false →
        ∃ prepared,
          IdnaService.Prepares.prepare? (Unicode.lowercase (HostsEntry.name entry)) =
            some prepared ∧
          (Hostname.IsClean HostsEntry.isRefused f.hostname ↔
            Hostname.IsClean HostsEntry.isRefusedAscii prepared)) := by
  obtain ⟨notRefused, name_ne_nil, head?_ne, getLast?_ne, hostname_eq⟩ := isRead_of_ofHostsEntry h
  have ascii := Hostname.isAscii_of_normalize? hostname_eq
  -- in a hostname that is stored all characters are ASCII
  have stored : Hostname.IsClean HostsEntry.isRefused f.hostname ↔
      Hostname.IsClean HostsEntry.isRefusedAscii f.hostname := by
    have same : ∀ c ∈ f.hostname, HostsEntry.isRefusedAscii c = HostsEntry.isRefused c :=
      fun c hc => by
        rw [HostsEntry.isRefusedAscii, List.all_eq_true.1 ascii c hc, Bool.true_and]
    constructor <;> rintro ⟨hne, hdot, hhead, hlast, hrefused⟩
    · exact ⟨hne, hdot, hhead, hlast, fun c hc => (same c hc).trans (hrefused c hc)⟩
    · exact ⟨hne, hdot, hhead, hlast, fun c hc => (same c hc).symm.trans (hrefused c hc)⟩
  rw [Hostname.normalize?] at hostname_eq
  constructor
  · intro hascii
    rw [if_pos hascii, Option.some.injEq] at hostname_eq
    rw [stored, ← hostname_eq, Hostname.isClean_iff_of_hasSignsOf (Text.hasSignsOf_lowercase _)
      HostsEntry.isSign_of_isRefusedAscii]
    refine ⟨fun clean => clean.dot_mem, fun hdot => ⟨name_ne_nil, hdot, head?_ne, getLast?_ne, ?_⟩⟩
    intro c hc
    rw [HostsEntry.isRefusedAscii, notRefused c hc, Bool.and_false]
  · intro hascii
    rw [if_neg (by simp [hascii])] at hostname_eq
    obtain ⟨prepared, hprepared, signs⟩ :=
      IdnaService.Prepares.exists_hasSignsOf hostname_eq
    exact ⟨prepared, hprepared, stored.trans
      (Hostname.isClean_iff_of_hasSignsOf signs HostsEntry.isSign_of_isRefusedAscii)⟩

/-- An entry with dots at its start, and one more that is stored. -/
theorem isClean_ofHostsEntry_iff_subdomain :
    ∃ f, ofHostsEntry "..Ads.com".toList false = .ok f ∧
      Hostname.IsClean HostsEntry.isRefused f.hostname := by
  obtain ⟨f, hf⟩ : ∃ f, ofHostsEntry "..Ads.com".toList false = .ok f := ⟨_, rfl⟩
  exact ⟨f, hf, ((isClean_ofHostsEntry_iff hf).1 (by decide)).2 (by decide)⟩

/-- **A whole top-level domain may be blocked.** Of the two dots of `..com`
neither is stored. -/
theorem not_isClean_ofHostsEntry :
    (¬ ∀ entry f, ofHostsEntry entry false = .ok f →
      Hostname.IsClean HostsEntry.isRefused f.hostname) ∧
    ∃ f r, ofHostsEntry "..com".toList false = .ok f ∧
      Request.ofUrls? "http://example.com/".toList "https://news.com/".toList "script"
        .lastLabelOnly = .ok r ∧ f.isMatch .splitting r = true := by
  obtain ⟨f, hf⟩ : ∃ f, ofHostsEntry "..com".toList false = .ok f := ⟨_, rfl⟩
  constructor
  · intro clean
    have hdot := (clean "..com".toList f hf).dot_mem
    cases hf
    revert hdot
    decide
  · refine ⟨f, _, hf, rfl, ?_⟩
    cases hf
    decide +kernel

end NetworkFilter

end ContentFilter
