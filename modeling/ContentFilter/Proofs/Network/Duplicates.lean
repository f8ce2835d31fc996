import ContentFilter.Idna.Ascii
import ContentFilter.Proofs.Collision.FirstText
import ContentFilter.Proofs.Network.Rule
import ContentFilter.Proofs.Network.WrittenOptions

/-!
# Duplicates and collisions

A filter that is recorded again should be accepted, and another one with the
same identity should be reported. The map that is to tell the two apart keeps
one text for each identity, so a filter is accepted exactly if no filter before
it had its identity, or if the first one that had is written as it is
(`CollisionMap.exists_record_recordAll_iff`).

A filter that was made from a line and did not keep it is written without its
options. Being the same filter is therefore more than being written alike: two
filters that are the same are equal, and the second is accepted; two filters
that are written differently and share an identity are reported; but of two
different filters that share both, as the filters of two lines may that differ
in nothing but their options, the second is taken for a duplicate
(`NetworkFilter.record_ofLine`).
-/

namespace ContentFilter

/-- **A line without its options**: all its other parts. -/
def NetworkLine.withoutOptions (l : NetworkLine) : NetworkLine :=
  { l with options? := none }

/-- Lines that agree without their options differ in them alone. -/
theorem NetworkLine.eq_of_withoutOptions_eq {l l' : NetworkLine}
    (h : l.withoutOptions = l'.withoutOptions) :
    ∃ options?, l' = { l with options? := options? } := by
  obtain ⟨_, _, _, _, _⟩ := l
  obtain ⟨_, _, _, _, options?⟩ := l'
  cases h
  exact ⟨options?, rfl⟩

namespace NetworkFilter

variable {line line' : Text} {f g : NetworkFilter}

/-- **Filters that are the same are equal**, if each was made from a line. -/
theorem eq_of_isSame [IdnaService] (hf : ofLine line false = .ok f)
    (hg : ofLine line' false = .ok g) (same : f.isSame g = true) : f = g := by
  obtain ⟨mask, pattern, hostname, domains, excludedDomains, redirect, -⟩ := isSame_iff.1 same
  exact eq_of_ofLine hf hg mask pattern hostname domains excludedDomains redirect

/-- **How a filter is written that did not keep its line**: by four flags, its
hostname and its pattern. -/
theorem toText_congr [IdnaService] (hf : ofLine line false = .ok f)
    (hg : ofLine line' false = .ok g)
    (flags : ∀ flag ∈ [Flag.exception, .hostnameAnchor, .leftAnchor, .rightAnchor],
      f.mask.has flag = g.mask.has flag)
    (hostname : f.hostname = g.hostname) (pattern : f.pattern = g.pattern) :
    f.toText = g.toText := by
  have hline {l : Text} {k : NetworkFilter} (hk : ofLine l false = .ok k) : k.rawLine? = none := by
    rw [eq_make_of_ofLine hk]
    rfl
  simp only [List.forall_mem_cons] at flags
  obtain ⟨hexception, hanchor, hleft, hright, -⟩ := flags
  simp only [toText, hline hf, hline hg, hexception, hanchor, hleft, hright, hostname, pattern]

/-- **Options are not written**, apart from what `match-case` does to the
letters of the pattern. -/
theorem toText_eq_of_withoutOptions_eq [IdnaService] (hf : ofLine line false = .ok f)
    (hg : ofLine line' false = .ok g)
    (parts : (NetworkLine.ofText line).withoutOptions = (NetworkLine.ofText line').withoutOptions)
    (case : f.mask.has .matchCase = g.mask.has .matchCase) : f.toText = g.toText := by
  obtain ⟨⟨l, options⟩, hrule, isFilter⟩ := exists_isFilterOf_of_ofLine hf
  obtain ⟨⟨l', options'⟩, hrule', isFilter'⟩ := exists_isFilterOf_of_ofLine hg
  rw [← NetworkRule.line_eq_of_ofText hrule, ← NetworkRule.line_eq_of_ofText hrule'] at parts
  obtain ⟨options?, rfl⟩ := NetworkLine.eq_of_withoutOptions_eq parts
  rw [isFilter.has_eq, isFilter'.has_eq] at case
  -- the hostname, the body and the anchors of a rule are those of its line alone
  refine toText_congr hf hg (fun flag hflag => ?_) ?_ ?_
  · rw [isFilter.has_eq, isFilter'.has_eq]
    simp only [List.mem_cons, List.not_mem_nil, or_false] at hflag
    obtain rfl | rfl | rfl | rfl := hflag <;> rfl
  · exact Option.some.inj (isFilter.hostname_eq.symm.trans isFilter'.hostname_eq)
  · rw [isFilter.pattern_eq, isFilter'.pattern_eq, NetworkRule.pattern_eq, NetworkRule.pattern_eq]
    exact if_congr (Bool.eq_iff_iff.1 case) rfl rfl

/-- **What recording tells of the filters of two lines.** The second is accepted
exactly if it has another identity than the first or is written like it, and
is reported with both texts otherwise. Filters that are the same share their
identity and are written alike, so a duplicate is accepted. Filters whose lines
differ in their options alone, and agree on `match-case`, are written alike as
well: sharing their identity, they are taken for duplicates, the same or not. -/
theorem record_ofLine [IdnaService] (hf : ofLine line false = .ok f)
    (hg : ofLine line' false = .ok g) :
    ∃ m, CollisionMap.empty.record f.id f.toText = .ok m ∧
      ((∃ m', m.record g.id g.toText = .ok m') ↔ f.id ≠ g.id ∨ f.toText = g.toText) ∧
      (∀ c, m.record g.id g.toText = .error c ↔
        f.id = g.id ∧ f.toText ≠ g.toText ∧ c = ⟨g.id, f.toText, g.toText⟩) ∧
      (f.isSame g = true → f.id = g.id ∧ f.toText = g.toText) ∧
      ((NetworkLine.ofText line).withoutOptions = (NetworkLine.ofText line').withoutOptions →
        f.mask.has .matchCase = g.mask.has .matchCase → f.toText = g.toText) := by
  have known (existing : Text) : [(f.id, f.toText)].lookup g.id = some existing ↔
      f.id = g.id ∧ f.toText = existing := by
    by_cases hid : f.id = g.id
    · rw [hid, List.lookup_cons_self, Option.some_inj, and_iff_right rfl]
    · rw [List.lookup_cons, beq_false_of_ne (Ne.symm hid)]
      exact iff_of_false nofun fun h => hid h.1
  refine ⟨CollisionMap.recordAll [(f.id, f.toText)], rfl, ?_, fun c => ?_, fun same => ?_,
    toText_eq_of_withoutOptions_eq hf hg⟩
  · rw [CollisionMap.exists_record_recordAll_iff]
    simp only [known, and_imp, forall_apply_eq_imp_iff]
    exact Decidable.imp_iff_not_or
  · rw [CollisionMap.record_eq_error_iff, CollisionMap.text?_recordAll]
    simp only [known, and_assoc, exists_and_left, exists_eq_left']
  · rw [eq_of_isSame hf hg same]
    exact ⟨rfl, rfl⟩

/-- Two lines that share their identity and are written differently. -/
theorem record_ofLine_reported :
    let f := make ⟨204799⟩ "b".toList [] [] ["a".toList] [] none
    let g := make ⟨204799⟩ "ab".toList [] [] [] [] none
    ofLine "b$domain=~a".toList false = .ok f ∧ ofLine "ab".toList false = .ok g ∧
      ∃ m, CollisionMap.empty.record f.id f.toText = .ok m ∧
        m.record g.id g.toText = .error ⟨g.id, "b".toList, "ab".toList⟩ := by
  intro f g
  have hf : ofLine "b$domain=~a".toList false = .ok f := by decide +kernel
  have hg : ofLine "ab".toList false = .ok g := by decide +kernel
  obtain ⟨m, hm, -, reported, -⟩ := record_ofLine hf hg
  refine ⟨hf, hg, m, hm, (reported _).2 ?_⟩
  decide +kernel

/-- **Two domains with the same hash make two filters that are taken for
one**: they share their identity, and are written alike without their options. -/
theorem record_ofLine_unreported :
    let f := make ⟨204799⟩ "ads".toList [] ["an.com".toList] [] [] none
    let g := make ⟨204799⟩ "ads".toList [] ["c0.com".toList] [] [] none
    ofLine "ads$domain=an.com".toList false = .ok f ∧
      ofLine "ads$domain=c0.com".toList false = .ok g ∧
      ∃ m, CollisionMap.empty.record f.id f.toText = .ok m ∧ m.record g.id g.toText = .ok m ∧
        f.id = g.id ∧ f.isSame g = false := by
  intro f g
  refine ⟨?_, ?_, _, rfl, ?_⟩ <;> decide +kernel

end NetworkFilter

end ContentFilter
