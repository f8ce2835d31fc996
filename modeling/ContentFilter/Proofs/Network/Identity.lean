import ContentFilter.Idna.Ascii
import ContentFilter.Proofs.Network.Rule
import Mathlib.Data.List.Basic

/-!
# What the identity of a network filter tells apart

The identity of a filter is mixed from its flags and a row of words: the
characters of the resource it redirects to, a hash for each domain, `~`, a hash
for each excluded domain, the characters of the pattern, `|`, and the characters
of the hostname. Apart from accidents of mixing, filters with different parts
have different identities if their parts can be read off this row.

The two separators are not enough for that. A resource and the domains behind it
meet without one, and so do the excluded domains and the pattern; and nothing
keeps a separator from being written in a part, or from being the hash of a
domain. What is needed is said by `NetworkFilter.IsToldFrom`: no part in front of
the `~` and no part behind the `|` holds the separator, and at the two places
without one no hash of the first filter is a character of the second, so that
the border cannot have moved.

Under this condition, asked both ways, the parts can be read off the row
(`NetworkFilter.eq_of_words_eq`). Hashes of longer names are beyond all code
points, and then it asks nothing but that the separators are kept out
(`NetworkFilter.isToldFrom_of_forall_not_isValidChar`). Where it fails the parts
may be lost: the pairs of lines in `NetworkFilter.confuses_lines` break one clause
after the other, and share their identities.
-/

namespace ContentFilter

namespace Search

variable {α : Type} {a a' b b' : List α} {c : α}

/-- **A row is cut in one way at the first separator.** -/
theorem append_cons_inj_of_first [DecidableEq α] (h : a ++ c :: b = a' ++ c :: b')
    (ha : c ∉ a) (ha' : c ∉ a') : a = a' ∧ b = b' := by
  have cut : splitFirst? c (a ++ c :: b) = some (a, b) := splitFirst?_eq_some.2 ⟨rfl, ha⟩
  rw [h, splitFirst?_eq_some.2 ⟨rfl, ha'⟩] at cut
  cases cut
  exact ⟨rfl, rfl⟩

/-- **A row is cut in one way at the last separator.** -/
theorem append_cons_inj_of_last [DecidableEq α] (h : a ++ c :: b = a' ++ c :: b')
    (hb : c ∉ b) (hb' : c ∉ b') : a = a' ∧ b = b' := by
  have cut : splitLast? c (a ++ c :: b) = some (a, b) := splitLast?_eq_some.2 ⟨rfl, hb⟩
  rw [h, splitLast?_eq_some.2 ⟨rfl, hb'⟩] at cut
  cases cut
  exact ⟨rfl, rfl⟩

/-- **A row is cut in one way between words of two sorts**: if the border had
moved, it would have left a word on the wrong side. -/
theorem append_inj_of_disjoint (h : a ++ b = a' ++ b') (hba : b.Disjoint a')
    (hab : b'.Disjoint a) : a = a' ∧ b = b' := by
  obtain ⟨m, ha', hb⟩ | ⟨m, ha, hb'⟩ := List.append_eq_append_iff.1 h
  · have moved : m = [] := List.eq_nil_iff_forall_not_mem.2 fun x hx =>
      hba (hb ▸ List.mem_append_left b' hx) (ha' ▸ List.mem_append_right a hx)
    rw [ha', hb, moved, List.append_nil, List.nil_append]
    exact ⟨rfl, rfl⟩
  · have moved : m = [] := List.eq_nil_iff_forall_not_mem.2 fun x hx =>
      hab (hb' ▸ List.mem_append_left b hx) (ha ▸ List.mem_append_right a' hx)
    rw [ha, hb', moved, List.append_nil, List.nil_append]
    exact ⟨rfl, rfl⟩

end Search

/-- A text is told by its code points. -/
theorem Text.codePoints_injective : Function.Injective codePoints :=
  List.map_injective_iff.2 fun _ _ => Char.ext

/-- A character is among those of a text if its code point is. -/
theorem Text.val_mem_codePoints {c : Char} {t : Text} : c.val ∈ t.codePoints ↔ c ∈ t :=
  List.mem_map_of_injective fun _ _ => Char.ext

/-- Two lists of texts with the same hashes are equal, if no text of the one
shares its hash with another text of the other. -/
theorem Hash.eq_of_map_ofText_eq {ds ds' : List Text} (h : ds.map ofText = ds'.map ofText)
    (inj : ∀ d ∈ ds, ∀ d' ∈ ds', ofText d = ofText d' → d = d') : ds = ds' := by
  induction ds generalizing ds' with
  | nil => exact (List.map_eq_nil_iff.1 h.symm).symm
  | cons d ds ih =>
    cases ds' with
    | nil => cases h
    | cons d' ds' =>
      obtain ⟨hash, hashes⟩ := List.cons.inj h
      rw [inj d List.mem_cons_self d' List.mem_cons_self hash, ih hashes fun x hx y hy =>
        inj x (List.mem_cons_of_mem d hx) y (List.mem_cons_of_mem d' hy)]

namespace NetworkFilter

variable {line line' : Text} {f g : NetworkFilter}

/-- **The words of a filter**, from which its identity is mixed. -/
def words (f : NetworkFilter) : List UInt32 :=
  identityWords f.pattern f.hostname f.domains f.excludedDomains f.redirect

/-- **The parts of a filter** its words are meant to tell: the resource, the
hashes of the domains and of those excluded, the pattern and the hostname. -/
def parts (f : NetworkFilter) : Text × List Hash × List Hash × Text × Text :=
  (f.redirect, f.domains.map Hash.ofText, f.excludedDomains.map Hash.ofText, f.pattern, f.hostname)

/-- **The identity of a filter that was made from a line** is mixed from its
words. -/
theorem id_eq_mix_words [IdnaService] {keepsLine : Bool} (h : ofLine line keepsLine = .ok f) :
    f.id = Hash.mix (Hash.seed f.mask.bits) f.words := by
  rw [eq_make_of_ofLine h]
  rfl

/-- **The parts of a filter can be told from those of another** in its words. -/
structure IsToldFrom (f g : NetworkFilter) : Prop where
  /-- The resource does not hold the separator behind the domains. -/
  redirect : '~' ∉ f.redirect
  /-- No domain has the hash that is the separator, or one that is a character of
  the resource of the other filter. -/
  domains : ∀ d ∈ f.domains, Hash.ofText d ≠ '~'.val ∧ Hash.ofText d ∉ g.redirect.codePoints
  /-- No excluded domain has a hash that is a character of the pattern of the
  other filter. -/
  excludedDomains : ∀ d ∈ f.excludedDomains, Hash.ofText d ∉ g.pattern.codePoints
  /-- The hostname does not hold the separator in front of it, as one written with a
  full-width bar does. -/
  hostname : '|' ∉ f.hostname

/-- **Hashes beyond all code points** are told from the characters of any other
filter. -/
theorem isToldFrom_of_forall_not_isValidChar (redirect : '~' ∉ f.redirect)
    (domains : ∀ d ∈ f.domains ++ f.excludedDomains, ¬ (Hash.ofText d).isValidChar)
    (hostname : '|' ∉ f.hostname) (g : NetworkFilter) : f.IsToldFrom g := by
  have beyond {d t : Text} (hd : d ∈ f.domains ++ f.excludedDomains) :
      Hash.ofText d ∉ t.codePoints := by
    intro hmem
    obtain ⟨c, -, hc⟩ := List.mem_map.1 hmem
    exact domains d hd (hc ▸ c.valid)
  refine ⟨redirect, fun d hd => ⟨fun h => ?_, ?_⟩, fun d hd => ?_, hostname⟩
  · exact domains d (List.mem_append_left _ hd) (h ▸ '~'.valid)
  · exact beyond (List.mem_append_left _ hd)
  · exact beyond (List.mem_append_right _ hd)

namespace IsToldFrom

/-- The words in front of the first separator do not hold it. -/
theorem separator_notMem (h : f.IsToldFrom g) :
    '~'.val ∉ f.redirect.codePoints ++ f.domains.map Hash.ofText := by
  intro hmem
  rcases List.mem_append.1 hmem with hmem | hmem
  · exact h.redirect (Text.val_mem_codePoints.1 hmem)
  · obtain ⟨d, hd, hash⟩ := List.mem_map.1 hmem
    exact (h.domains d hd).1 hash

/-- No domain can be taken for a character of the other resource. -/
theorem disjoint_redirect (h : f.IsToldFrom g) :
    (f.domains.map Hash.ofText).Disjoint g.redirect.codePoints :=
  List.forall_mem_map.2 fun d hd => (h.domains d hd).2

/-- No excluded domain can be taken for a character of the other pattern. -/
theorem disjoint_pattern (h : f.IsToldFrom g) :
    (f.excludedDomains.map Hash.ofText).Disjoint g.pattern.codePoints :=
  List.forall_mem_map.2 h.excludedDomains

end IsToldFrom

/-- The words of a filter by its separators: two sorts of words in front of the
first, and two between it and the last. -/
theorem words_eq (f : NetworkFilter) :
    f.words = (f.redirect.codePoints ++ f.domains.map Hash.ofText) ++ '~'.val ::
      ((f.excludedDomains.map Hash.ofText ++ f.pattern.codePoints) ++ '|'.val ::
        f.hostname.codePoints) := by
  simp only [words, identityWords, List.append_assoc, List.cons_append, List.nil_append]

/-- **Filters with the same words have the same parts**, if the parts of each can
be told from those of the other. -/
theorem parts_eq_of_words_eq (told : f.IsToldFrom g) (told' : g.IsToldFrom f)
    (h : f.words = g.words) : f.parts = g.parts := by
  rw [words_eq, words_eq] at h
  obtain ⟨front, back⟩ := Search.append_cons_inj_of_first h told.separator_notMem
    told'.separator_notMem
  obtain ⟨middle, hostname⟩ := Search.append_cons_inj_of_last back
    (mt Text.val_mem_codePoints.1 told.hostname) (mt Text.val_mem_codePoints.1 told'.hostname)
  obtain ⟨redirect, domains⟩ := Search.append_inj_of_disjoint front
    told.disjoint_redirect told'.disjoint_redirect
  obtain ⟨excluded, pattern⟩ := Search.append_inj_of_disjoint middle
    (List.disjoint_symm told'.disjoint_pattern) (List.disjoint_symm told.disjoint_pattern)
  rw [parts, parts, Text.codePoints_injective redirect, domains, excluded,
    Text.codePoints_injective pattern, Text.codePoints_injective hostname]

/-- **Filters of lines with the same words have the same parts**, if the parts of
each can be told from those of the other; and they are the same filter if they
have the same flags and no two of their domains share a hash. -/
theorem eq_of_words_eq [IdnaService] (hf : ofLine line false = .ok f)
    (hg : ofLine line' false = .ok g) (told : f.IsToldFrom g) (told' : g.IsToldFrom f)
    (h : f.words = g.words) :
    f.parts = g.parts ∧
      (f.mask = g.mask → (∀ d ∈ f.domains ++ f.excludedDomains,
        ∀ d' ∈ g.domains ++ g.excludedDomains, Hash.ofText d = Hash.ofText d' → d = d') →
        f = g) := by
  have same := parts_eq_of_words_eq told told' h
  refine ⟨same, fun hmask inj => ?_⟩
  simp only [parts, Prod.mk.injEq] at same
  obtain ⟨redirect, domains, excluded, pattern, hostname⟩ := same
  have hdomains : f.domains = g.domains := Hash.eq_of_map_ofText_eq domains fun d hd d' hd' =>
    inj d (List.mem_append_left _ hd) d' (List.mem_append_left _ hd')
  have hexcluded : f.excludedDomains = g.excludedDomains :=
    Hash.eq_of_map_ofText_eq excluded fun d hd d' hd' =>
      inj d (List.mem_append_right _ hd) d' (List.mem_append_right _ hd')
  exact eq_of_ofLine hf hg hmask pattern hostname hdomains hexcluded redirect

/-- Two domains with the same hash, and two lines of the same parts. -/
theorem eq_of_words_eq_hashes :
    let f := make ⟨204799⟩ "ads".toList [] ["an.com".toList] [] [] none
    let g := make ⟨204799⟩ "ads".toList [] ["c0.com".toList] [] [] none
    ofLine "ads$domain=an.com".toList false = .ok f ∧
      ofLine "ads$domain=c0.com".toList false = .ok g ∧ f.IsToldFrom g ∧ g.IsToldFrom f ∧
      f.words = g.words ∧ f.parts = g.parts := by
  intro f g
  have hf : ofLine "ads$domain=an.com".toList false = .ok f := by decide +kernel
  have hg : ofLine "ads$domain=c0.com".toList false = .ok g := by decide +kernel
  have told : f.IsToldFrom g :=
    isToldFrom_of_forall_not_isValidChar (by decide) (by decide +kernel) (by decide) g
  have told' : g.IsToldFrom f :=
    isToldFrom_of_forall_not_isValidChar (by decide) (by decide +kernel) (by decide) f
  have h : f.words = g.words := by decide +kernel
  exact ⟨hf, hg, told, told', h, (eq_of_words_eq hf hg told told' h).1⟩

/-- **Two lines are confused**: their filters share their flags, their words and
so their identity, and differ in a part. -/
def Confuses [IdnaService] (line line' : Text) : Prop :=
  ∃ f g, ofLine line false = .ok f ∧ ofLine line' false = .ok g ∧ f.mask = g.mask ∧
    f.words = g.words ∧ f.id = g.id ∧ f.parts ≠ g.parts

/-- **An excluded domain is taken for a character of the pattern, a domain for one
of the resource, a `~` in a resource or the hash of a domain for the
separator.** -/
theorem confuses_lines :
    Confuses "b$domain=~a".toList "ab".toList ∧
    Confuses "b$redirect=xa".toList "b$redirect=x,domain=a".toList ∧
    Confuses "c$redirect=a~b".toList "b~c$redirect=a".toList ∧
    Confuses "b$domain=lmnfgsp.com".toList "b$domain=~lmnfgsp.com".toList := by
  refine ⟨⟨make ⟨204799⟩ "b".toList [] [] ["a".toList] [] none,
      make ⟨204799⟩ "ab".toList [] [] [] [] none, ?_⟩,
    ⟨make ⟨237567⟩ "b".toList [] [] [] "xa".toList none,
      make ⟨237567⟩ "b".toList [] ["a".toList] [] "x".toList none, ?_⟩,
    ⟨make ⟨237567⟩ "c".toList [] [] [] "a~b".toList none,
      make ⟨237567⟩ "b~c".toList [] [] [] "a".toList none, ?_⟩,
    ⟨make ⟨204799⟩ "b".toList [] ["lmnfgsp.com".toList] [] [] none,
      make ⟨204799⟩ "b".toList [] [] ["lmnfgsp.com".toList] [] none, ?_⟩⟩ <;>
    decide +kernel

end NetworkFilter

end ContentFilter
