import ContentFilter.Hostname.Resolver
import ContentFilter.Proofs.Hostname.Anchoring

/-!
# One label more than the suffix

The general domain of a hostname is a cut of the hostname: what stands before
the last bytes, as many as the suffix has, has to be a text that ends in a dot,
and the label before this dot is taken along. `Resolver.IsDomainCut` states the
cut in bytes and labels, and `generalDomain?_eq_some_iff` says that a hostname
has a general domain exactly if it can be cut so.

Two requests are of one party if their general domains are the same, so it
matters that the general domain does not depend on where a hostname stands below
it. The suffix service is not trusted with that: it is two arbitrary functions,
and may find another suffix for every hostname. As long as the suffix it finds
has the same size, though, a subdomain has the same label at its cut
(`IsDomainCut.under`), and the general domain is cut at its very start
(`IsDomainCut.self`). So it is its own general domain, and that of all the
subdomains (`generalDomain?_is_stable`).
-/

namespace ContentFilter

/-- **The last label** of a hostname is the part without a dot that starts at a
label. -/
theorem Hostname.lastLabel_eq_iff {hostname label : Text} :
    lastLabel hostname = label ↔
      ∃ sub, hostname = sub ++ label ∧ '.' ∉ label ∧ LabelStartsBehind sub := by
  have behind : lastLabel hostname =
      (Search.splitLast? '.' hostname).elim hostname (·.2) := by
    unfold lastLabel
    cases Search.splitLast? '.' hostname <;> rfl
  rw [behind]
  exact Search.splitLast?_elim_eq_iff

/-- A label that starts behind a text starts behind it in a subdomain as well. -/
theorem Hostname.LabelStartsBehind.under {sub : Text} (h : LabelStartsBehind sub) (p : Text) :
    LabelStartsBehind (p ++ '.' :: sub) := by
  refine .inr ?_
  rw [List.getLast?_append_cons, List.getLast?_cons]
  rcases h with rfl | h
  · rfl
  · rw [h, Option.getD_some]

namespace Resolver

variable {r : Resolver} {hostname domain sub label : Text} {size : Nat}

/-- **The service finds a suffix of so many bytes** for a hostname it has for
valid. -/
def Finds (r : Resolver) (hostname : Text) (size : Nat) : Prop :=
  r.isValid hostname = true ∧
    ∃ suffix, r.suffix? hostname = some suffix ∧ Text.byteLength suffix = size

/-- A hostname has one suffix. -/
theorem Finds.unique {size' : Nat} (h : r.Finds hostname size) (h' : r.Finds hostname size') :
    size = size' := by
  obtain ⟨-, suffix, hsuffix, rfl⟩ := h
  obtain ⟨-, suffix', hsuffix', rfl⟩ := h'
  rw [hsuffix] at hsuffix'
  rw [Option.some.inj hsuffix']

/-- **A hostname, cut before a label and before its suffix.** -/
structure IsDomainCut (r : Resolver) (hostname : Text) (size : Nat) (sub label : Text) :
    Prop where
  /-- The service finds the hostname valid, with a suffix of this size. -/
  finds : r.Finds hostname size
  /-- The suffix is shorter than the hostname. -/
  shorter : size < Text.byteLength hostname
  /-- What stands before the last bytes is a text that ends in a dot. -/
  before : (Text.utf8 hostname).rdrop size = Text.utf8 (sub ++ label ++ ['.'])
  /-- The label before this dot is not empty. -/
  label_ne : label ≠ []
  /-- It is one label. -/
  label_free : '.' ∉ label
  /-- It starts at a label of the hostname. -/
  label_start : Hostname.LabelStartsBehind sub

/-- **The parts of the cut in characters**: the last bytes are a text of their
own. -/
theorem isDomainCut_iff :
    r.IsDomainCut hostname size sub label ↔ r.Finds hostname size ∧ label ≠ [] ∧ '.' ∉ label ∧
      Hostname.LabelStartsBehind sub ∧
      ∃ tail, hostname = sub ++ label ++ '.' :: tail ∧ Text.byteLength tail = size := by
  have dotted : sub ++ label ++ ['.'] ≠ [] :=
    List.append_ne_nil_of_right_ne_nil _ (List.cons_ne_nil _ _)
  constructor
  · intro cut
    obtain ⟨tail, joined, htail⟩ := (Text.rdrop_utf8_eq_iff dotted).1 cut.before
    refine ⟨cut.finds, cut.label_ne, cut.label_free, cut.label_start, tail, ?_, htail⟩
    rw [joined, List.append_assoc _ ['.'], List.singleton_append]
  · rintro ⟨finds, label_ne, label_free, label_start, tail, rfl, rfl⟩
    refine ⟨finds, ?_, ?_, label_ne, label_free, label_start⟩
    · -- the dot alone makes the hostname longer
      have hdot : 0 < '.'.utf8Size := '.'.utf8Size_pos
      rw [Text.byteLength_append]
      simp only [Text.byteLength]
      omega
    · exact (Text.rdrop_utf8_eq_iff dotted).2 ⟨tail, by simp, rfl⟩

/-- A general domain in bytes and in characters. -/
theorem utf8_eq_append_rtake_iff {front tail : Text} :
    Text.utf8 domain = Text.utf8 (label ++ ['.']) ++
        (Text.utf8 (front ++ '.' :: tail)).rtake (Text.byteLength tail) ↔
      domain = label ++ '.' :: tail := by
  rw [List.append_cons front, Text.rtake_utf8_append, ← Text.utf8_append, Text.utf8_inj,
    List.append_assoc, List.singleton_append]

/-- **A hostname has a general domain exactly if it can be cut**, and then it is
the label of the cut, a dot and the last bytes of the hostname. -/
theorem generalDomain?_eq_some_iff :
    r.generalDomain? hostname = some domain ↔
      ∃ size sub label, r.IsDomainCut hostname size sub label ∧
        Text.utf8 domain = Text.utf8 (label ++ ['.']) ++ (Text.utf8 hostname).rtake size := by
  rw [generalDomain?_eq_some]
  constructor
  · rintro ⟨front, tail, hfront, label_ne, rfl⟩
    obtain ⟨valid, rfl, suffix, hsuffix, hsize⟩ := front?_eq_some.1 hfront
    obtain ⟨sub, joined, label_free, label_start⟩ := Hostname.lastLabel_eq_iff.1
      (show Hostname.lastLabel front = _ from rfl)
    refine ⟨Text.byteLength tail, sub, Hostname.lastLabel front, isDomainCut_iff.2
      ⟨⟨valid, suffix, hsuffix, hsize.symm⟩, label_ne, label_free, label_start, tail, ?_, rfl⟩,
      utf8_eq_append_rtake_iff.2 rfl⟩
    rw [← joined]
  · rintro ⟨size, sub, label, cut, hdomain⟩
    obtain ⟨⟨valid, suffix, hsuffix, hsize⟩, label_ne, label_free, label_start, tail, rfl, rfl⟩ :=
      isDomainCut_iff.1 cut
    have hlabel : Hostname.lastLabel (sub ++ label) = label :=
      Hostname.lastLabel_eq_iff.2 ⟨sub, rfl, label_free, label_start⟩
    refine ⟨sub ++ label, tail, front?_eq_some.2 ⟨valid, rfl, suffix, hsuffix, hsize.symm⟩, ?_⟩
    rw [hlabel]
    exact ⟨label_ne, utf8_eq_append_rtake_iff.1 hdomain⟩

/-- The general domain of a cut. -/
theorem IsDomainCut.generalDomain?_eq {tail : Text} (cut : r.IsDomainCut hostname size sub label)
    (joined : hostname = sub ++ label ++ '.' :: tail) (htail : Text.byteLength tail = size) :
    r.generalDomain? hostname = some (label ++ '.' :: tail) := by
  subst joined htail
  exact generalDomain?_eq_some_iff.2 ⟨_, sub, label, cut, utf8_eq_append_rtake_iff.2 rfl⟩

/-! ## Cuts of related hostnames -/

/-- **A general domain is cut at its start**, if its suffix has the same size. -/
theorem IsDomainCut.self {tail : Text} (cut : r.IsDomainCut hostname size sub label)
    (htail : Text.byteLength tail = size) (finds : r.Finds (label ++ '.' :: tail) size) :
    r.IsDomainCut (label ++ '.' :: tail) size [] label :=
  isDomainCut_iff.2 ⟨finds, cut.label_ne, cut.label_free, .inl rfl, tail, rfl, htail⟩

/-- **A subdomain is cut before the same label**, if its suffix has the same
size. -/
theorem IsDomainCut.under (cut : r.IsDomainCut hostname size sub label) {p : Text}
    (finds : r.Finds (p ++ '.' :: hostname) size) :
    r.IsDomainCut (p ++ '.' :: hostname) size (p ++ '.' :: sub) label := by
  obtain ⟨-, label_ne, label_free, label_start, tail, joined, htail⟩ := isDomainCut_iff.1 cut
  refine isDomainCut_iff.2 ⟨finds, label_ne, label_free, label_start.under p, tail, ?_, htail⟩
  rw [joined]
  simp only [List.append_assoc, List.cons_append]

/-- **A cut hostname is its general domain or ends in it behind a dot.** -/
theorem IsDomainCut.eq_or_suffix {tail : Text} (cut : r.IsDomainCut hostname size sub label)
    (joined : hostname = sub ++ label ++ '.' :: tail) :
    label ++ '.' :: tail = hostname ∨ '.' :: (label ++ '.' :: tail) <:+ hostname := by
  subst joined
  rcases cut.label_start with rfl | hlast
  · exact .inl rfl
  · obtain ⟨front, rfl⟩ := List.getLast?_eq_some_iff.1 hlast
    exact .inr ⟨front, by simp⟩

/-- **The general domain is the suffix and one label more, and is stable.** A
hostname has a general domain exactly if the service finds it valid, with a
suffix shorter than it, before whose bytes a text ends in a dot and a label; the
general domain is this label, the dot and these bytes. It is the hostname itself
or stands in it behind a dot. It is its own general domain if its own suffix has
the same size, and the general domain of every subdomain whose suffix has it. -/
theorem generalDomain?_is_stable (r : Resolver) (hostname domain : Text) :
    (r.generalDomain? hostname = some domain ↔
      ∃ size sub label, r.IsDomainCut hostname size sub label ∧
        Text.utf8 domain = Text.utf8 (label ++ ['.']) ++ (Text.utf8 hostname).rtake size) ∧
    (r.generalDomain? hostname = some domain →
      (domain = hostname ∨ '.' :: domain <:+ hostname) ∧
      ∀ size, r.Finds hostname size →
        (r.Finds domain size → r.generalDomain? domain = some domain) ∧
        ∀ p, r.Finds (p ++ '.' :: hostname) size →
          r.generalDomain? (p ++ '.' :: hostname) = some domain) := by
  refine ⟨generalDomain?_eq_some_iff, fun hdomain => ?_⟩
  obtain ⟨size, sub, label, cut, hbytes⟩ := generalDomain?_eq_some_iff.1 hdomain
  obtain ⟨finds, -, -, -, tail, joined, rfl⟩ := isDomainCut_iff.1 cut
  obtain rfl : domain = label ++ '.' :: tail := by
    rw [joined] at hbytes
    exact utf8_eq_append_rtake_iff.1 hbytes
  refine ⟨cut.eq_or_suffix joined, fun size hsize => ?_⟩
  obtain rfl := finds.unique hsize
  refine ⟨fun found => ?_, fun p found => ?_⟩
  · exact (cut.self rfl found).generalDomain?_eq rfl rfl
  · refine (cut.under found).generalDomain?_eq ?_ rfl
    rw [joined]
    simp only [List.append_assoc, List.cons_append]

/-- A suffix of two labels behind a name in another script: the general domain
is its own, and that of a subdomain. -/
theorem generalDomain?_is_stable_two_labels :
    let r := ofSuffixes ["co.uk".toList]
    let domain := "bücher.co.uk".toList
    r.generalDomain? "a.bücher.co.uk".toList = some domain ∧
      r.generalDomain? domain = some domain ∧
      r.generalDomain? "x.y.a.bücher.co.uk".toList = some domain := by
  intro r domain
  have found : r.generalDomain? "a.bücher.co.uk".toList = some domain := by decide +kernel
  have finds (hostname : Text) (h : r.isValid hostname = true)
      (hsuffix : r.suffix? hostname = some "co.uk".toList) : r.Finds hostname 5 :=
    ⟨h, _, hsuffix, by decide⟩
  obtain ⟨-, stable⟩ := (generalDomain?_is_stable r _ domain).2 found
  obtain ⟨self, under⟩ := stable 5 (finds _ (by decide +kernel) (by decide +kernel))
  exact ⟨found, self (finds _ (by decide +kernel) (by decide +kernel)),
    under "x.y".toList (finds _ (by decide +kernel) (by decide +kernel))⟩

end Resolver

end ContentFilter
