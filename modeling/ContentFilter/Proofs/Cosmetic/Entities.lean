import ContentFilter.Proofs.Cosmetic.Pages
import ContentFilter.Proofs.Hostname.GeneralDomain
import ContentFilter.Proofs.Text.Slice

/-!
# Entities and general domains

A pattern `name.*` and the general domain both look at a hostname without its
suffix. If the name is a single label, they look at the same thing: the pattern
fits a hostname exactly if the general domain of the hostname is the name, a dot
and the last bytes of the hostname (`entity_fits_iff_generalDomain`). This holds
for every suffix service.

They come there by different ways, though. Both count from the end of the hostname
the place where the suffix starts, but the general domain compares the lengths
before. So it always has an answer (`Resolver.generalDomainOfPlaces?_eq`), while an
entity has none if the suffix overshoots the hostname. A service that answers with
a part of the hostname never overshoots it.
-/

namespace ContentFilter

/-- A single label is what a hostname is on or under exactly if it is the last
label. -/
theorem Hostname.isUnder_iff_lastLabel {name hostname : Text} (h : '.' ∉ name) :
    isUnder name hostname = true ↔ lastLabel hostname = name := by
  rw [isUnder_iff, lastLabel_eq_iff]
  constructor
  · rintro (rfl | ⟨sub, rfl⟩)
    · exact ⟨[], rfl, h, .inl rfl⟩
    · exact ⟨sub ++ ['.'], by simp, h, .inr List.getLast?_concat⟩
  · rintro ⟨sub, rfl, -, rfl | hlast⟩
    · exact .inl rfl
    · obtain ⟨front, rfl⟩ := List.getLast?_eq_some_iff.1 hlast
      exact .inr ⟨front, by simp⟩

namespace Resolver

variable {r : Resolver} {hostname suffix : Text}

/-- No general domain is longer than the suffix or as long. -/
theorem generalDomain?_of_le (hsuffix : r.suffix? hostname = some suffix)
    (hle : Text.byteLength hostname ≤ Text.byteLength suffix) :
    r.generalDomain? hostname = none := by
  refine Option.eq_none_iff_forall_ne_some.2 fun domain hdomain => ?_
  obtain ⟨size, sub, label, cut, -⟩ := generalDomain?_eq_some_iff.1 hdomain
  have hsize := cut.finds.unique ⟨cut.finds.1, suffix, hsuffix, rfl⟩
  have hlt := cut.shorter
  omega

/-- **Where the last label of a text starts**, behind its last dot. -/
theorem exists_lastByte?_elim_eq (front : Text) :
    ∃ sub, front = sub ++ Hostname.lastLabel front ∧
      (Text.lastByte? '.' front.utf8).elim 0 (· + 1) = Text.byteLength sub := by
  rw [Text.lastByte?_utf8 rfl]
  unfold Hostname.lastLabel
  cases hsplit : Search.splitLast? '.' front with
  | none => exact ⟨[], rfl, rfl⟩
  | some parts =>
    obtain ⟨rfl, -⟩ := Search.splitLast?_eq_some.1 (show _ = some (parts.1, parts.2) from hsplit)
    exact ⟨parts.1 ++ ['.'], by simp, (Text.byteLength_append parts.1 ['.']).symm⟩

/-- **The general domain**, with places in the bytes of the hostname. The suffix has
to be shorter than the hostname before anything is taken off. -/
def generalDomainOfPlaces? (r : Resolver) (hostname : Text) : Option (Option Text) :=
  if r.isValid hostname then
    match r.suffix? hostname with
    | none => some none
    | some suffix =>
      if Text.byteLength hostname ≤ Text.byteLength suffix then some none
      else do
        let place ← Text.placeFromEnd? suffix.byteLength hostname
        match Hostname.frontAt? place hostname with
        | none => some none
        | some front =>
          let start := (Text.lastByte? '.' front.utf8).elim 0 (· + 1)
          if start = Text.byteLength front then some none
          else (Text.sliceFrom? start hostname).map some
  else some none

/-- **The general domain always has an answer.** Its place is not below zero, and the
label starts between characters. -/
theorem generalDomainOfPlaces?_eq (r : Resolver) (hostname : Text) :
    r.generalDomainOfPlaces? hostname = some (r.generalDomain? hostname) := by
  unfold generalDomainOfPlaces?
  split
  · next valid =>
    split
    · next hsuffix =>
      rw [generalDomain?, front?, if_pos valid, hsuffix]
      rfl
    · next suffix hsuffix =>
      split
      · next hle => rw [generalDomain?_of_le hsuffix hle]
      · next hlt =>
        have hle := Nat.le_of_not_le hlt
        rw [Text.placeFromEnd?_of_le hle, Option.bind_eq_bind, Option.bind_some,
          ← map_front?_of_le valid hsuffix hle, generalDomain?]
        cases hfront : r.front? hostname with
        | none => rfl
        | some parts =>
          obtain ⟨front, tail⟩ := parts
          obtain ⟨-, rfl, -⟩ := front?_eq_some.1 hfront
          obtain ⟨sub, hcut, hstart⟩ := exists_lastByte?_elim_eq front
          show (if (Text.lastByte? '.' front.utf8).elim 0 (· + 1) = _ then _ else _) =
            some (if Hostname.lastLabel front = [] then none else _)
          rw [hstart]
          by_cases label_ne : Hostname.lastLabel front = []
          · have hend : Text.byteLength sub = Text.byteLength front := by
              rw [hcut, label_ne, List.append_nil]
            rw [if_pos hend, if_pos label_ne]
          · have hlt : Text.byteLength sub < Text.byteLength front := by
              rw [hcut]
              exact Text.byteLength_lt_append_iff.2 label_ne
            have hslice : Text.sliceFrom? (Text.byteLength sub) (front ++ '.' :: tail) =
                some (Hostname.lastLabel front ++ '.' :: tail) := by
              rw [show front ++ '.' :: tail = sub ++ (Hostname.lastLabel front ++ '.' :: tail) by
                rw [← List.append_assoc, ← hcut]]
              exact Text.sliceFrom?_append sub _ rfl
            rw [if_neg hlt.ne, if_neg label_ne, hslice, Option.map_some]
  · next invalid =>
    rw [generalDomain?, front?, if_neg invalid]
    rfl

end Resolver

namespace HostnamePattern

variable {r : Resolver} {hostname : Text}

/-- A single label fits where it is the label before the suffix. -/
theorem fits?_label_iff {name : Text} (nonempty : name ≠ []) (oneLabel : '.' ∉ name)
    (unmarked : name.head? ≠ some '~') :
    fits? r (name ++ ['.', '*']) hostname = some true ↔
      ∃ front tail, r.front? hostname = some (front, tail) ∧ Hostname.lastLabel front = name := by
  rw [fits?_entity_iff, ← names_iff.1 (.inr ⟨rfl, unmarked⟩)]
  refine exists_congr fun front => exists_congr fun tail => and_congr_right fun _ => ?_
  rw [Hostname.isUnder_iff_lastLabel oneLabel, and_iff_right_iff_imp]
  rintro rfl rfl
  exact nonempty rfl

/-- **An entity of one label and the general domain agree**, for every suffix service:
the entity fits a hostname exactly if the general domain of the hostname is the name,
a dot and the last bytes of the hostname, as many as the suffix has. The general
domain is computed without a place below zero or inside a character. So is whether the
entity fits, unless the suffix overshoots the hostname. -/
theorem entity_fits_iff_generalDomain (r : Resolver) (name hostname : Text)
    (nonempty : name ≠ []) (oneLabel : '.' ∉ name) (unmarked : name.head? ≠ some '~') :
    (fits? r (name ++ ['.', '*']) hostname = some true ↔
      ∃ suffix domain, r.suffix? hostname = some suffix ∧
        r.generalDomain? hostname = some domain ∧
        Text.utf8 domain =
          Text.utf8 (name ++ ['.']) ++ (Text.utf8 hostname).rtake suffix.byteLength) ∧
    r.generalDomainOfPlaces? hostname = some (r.generalDomain? hostname) ∧
    (¬ r.Overshoots hostname → (fits? r (name ++ ['.', '*']) hostname).isSome = true) := by
  refine ⟨?_, r.generalDomainOfPlaces?_eq hostname,
    fun inside => isSome_fits?_of_not_overshoots inside _⟩
  rw [fits?_label_iff nonempty oneLabel unmarked]
  constructor
  · rintro ⟨front, tail, hfront, rfl⟩
    obtain ⟨-, rfl, suffix, hsuffix, hsize⟩ := Resolver.front?_eq_some.1 hfront
    refine ⟨suffix, Hostname.lastLabel front ++ '.' :: tail, hsuffix,
      Resolver.generalDomain?_eq_some.2 ⟨front, tail, hfront, nonempty, rfl⟩, ?_⟩
    rw [← hsize]
    exact Resolver.utf8_eq_append_rtake_iff.2 rfl
  · rintro ⟨suffix, domain, hsuffix, hdomain, hbytes⟩
    obtain ⟨front, tail, hfront, -, rfl⟩ := Resolver.generalDomain?_eq_some.1 hdomain
    obtain ⟨-, rfl, suffix', hsuffix', hsize⟩ := Resolver.front?_eq_some.1 hfront
    obtain rfl : suffix = suffix' := Option.some.inj (hsuffix.symm.trans hsuffix')
    rw [← hsize, Resolver.utf8_eq_append_rtake_iff] at hbytes
    exact ⟨front, tail, hfront, List.append_cancel_right hbytes⟩

/-- An entity in another script on a subdomain, with a suffix of two labels, and the
next entity, which does not fit it. -/
theorem entity_fits_iff_generalDomain_two_labels :
    let r := Resolver.ofSuffixes ["co.uk".toList]
    let hostname := "a.bücher.co.uk".toList
    ¬ r.Overshoots hostname ∧
      r.generalDomainOfPlaces? hostname = some (some "bücher.co.uk".toList) ∧
      fits? r "bücher.*".toList hostname = some true ∧
      fits? r "a.*".toList hostname = some false := by
  intro r hostname
  have suffix : r.suffix? hostname = some "co.uk".toList := by decide +kernel
  have domain : r.generalDomain? hostname = some "bücher.co.uk".toList := by decide +kernel
  have inside : ¬ r.Overshoots hostname := by
    rintro ⟨-, _, hsuffix, hlt⟩
    obtain rfl := Option.some.inj (suffix.symm.trans hsuffix)
    exact absurd hlt (by decide)
  obtain ⟨agree, places, -⟩ := entity_fits_iff_generalDomain r "bücher".toList hostname
    (by decide) (by decide) (by decide)
  obtain ⟨differ, -, answer⟩ := entity_fits_iff_generalDomain r "a".toList hostname
    (by decide) (by decide) (by decide)
  refine ⟨inside, places.trans (congrArg some domain),
    agree.2 ⟨_, _, suffix, domain, by decide +kernel⟩, ?_⟩
  obtain ⟨b, hb⟩ := Option.isSome_iff_exists.1 (answer inside)
  cases b with
  | false => exact hb
  | true =>
    obtain ⟨suffix', domain', hsuffix, hdomain, hbytes⟩ := differ.1 hb
    obtain rfl := Option.some.inj (suffix.symm.trans hsuffix)
    obtain rfl := Option.some.inj (domain.symm.trans hdomain)
    exact absurd hbytes (by decide +kernel)

/-- **A suffix longer than the hostname leaves an entity without an answer**, while the
hostname has no general domain. -/
theorem fits?_overshoots :
    let r := Resolver.fixed (some "longer.than.host".toList)
    fits? r "foo.*".toList "foo.com".toList = none ∧
      r.generalDomainOfPlaces? "foo.com".toList = some none := by
  decide +kernel

end HostnamePattern

end ContentFilter
