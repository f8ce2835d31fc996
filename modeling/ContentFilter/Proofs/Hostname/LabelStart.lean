import ContentFilter.Proofs.Hostname.Anchoring
import ContentFilter.Proofs.Network.Comparison

/-!
# Names that start a label further on

A rule behind `||` is meant for the hostnames that have its name at one of
their labels, wherever that is. Only the first occurrence of the name is looked
at, though, and the first one may lie inside a label: `foo.com` starts a label
of `xfoo.com.foo.com`, but is found in `xfoo.com` before. Such a name is
*hidden* (`Hostname.IsHiddenIn`), and that is all that goes wrong: a hostname
is anchored by the names that start one of its labels and are not hidden
(`isAnchoredBy_iff_startsLabelOf`).

There is no name that is never hidden (`Hostname.exists_isHiddenIn`), so every
rule behind `||` has hostnames with its name at a label that it does not
match, whatever it asks for behind the name
(`NetworkFilter.isMatch_eq_false_of_isHiddenIn`).
-/

namespace ContentFilter

namespace Hostname

variable {name hostname : Text}

/-- **A name starts a label of a hostname**, at one of its occurrences. -/
def StartsLabelOf (name hostname : Text) : Prop :=
  ∃ before after, hostname = before ++ name ++ after ∧ LabelStartsBehind before

/-- **A name is hidden in a hostname**: it occurs inside a label, before every
occurrence that starts one. -/
def IsHiddenIn (name hostname : Text) : Prop :=
  ∃ before after, hostname = before ++ name ++ after ∧ ¬ LabelStartsBehind before ∧
    ∀ before' after', hostname = before' ++ name ++ after' → LabelStartsBehind before' →
      before.length < before'.length

/-- What starts a label at its first occurrence is not hidden. -/
theorem not_isHiddenIn_of_isFirstAt {before after : Text}
    (cut : hostname = before ++ name ++ after)
    (first : Search.IsFirstAt name before.length hostname) (starts : LabelStartsBehind before) :
    ¬ IsHiddenIn name hostname := by
  rintro ⟨inside, rest, cut', -, earliest⟩
  exact first.2 inside.length (earliest before after cut starts) ⟨inside, rest, cut', rfl⟩

/-- What does not start a label at its first occurrence is hidden. -/
theorem isHiddenIn_of_isFirstAt {before after : Text} (cut : hostname = before ++ name ++ after)
    (first : Search.IsFirstAt name before.length hostname) (inside : ¬ LabelStartsBehind before) :
    IsHiddenIn name hostname := by
  refine ⟨before, after, cut, inside, fun before' after' cut' starts => ?_⟩
  have hle : before.length ≤ before'.length :=
    Nat.le_of_not_lt fun hlt => first.2 before'.length hlt ⟨before', after', cut', rfl⟩
  refine Nat.lt_of_le_of_ne hle fun hlen => inside ?_
  -- two occurrences at one place have the same text before them
  have same : before = before' :=
    (List.append_inj (by simpa using cut.symm.trans cut') hlen).1
  exact same ▸ starts

/-- **There is no name that is never hidden.** It is, by a label that has one
more character in front of it, in the hostname that goes on with the name. -/
theorem exists_isHiddenIn (h : name ≠ []) :
    ∃ hostname, StartsLabelOf name hostname ∧ IsHiddenIn name hostname := by
  obtain ⟨a, rest, rfl⟩ := List.exists_cons_of_ne_nil h
  -- any character that is neither the first one of the name nor a dot
  obtain ⟨c, hca, hdot⟩ : ∃ c : Char, c ≠ a ∧ c ≠ '.' := by
    by_cases ha : a = 'x'
    · exact ⟨'y', by rw [ha]; decide, by decide⟩
    · exact ⟨'x', fun hx => ha hx.symm, by decide⟩
  refine ⟨c :: a :: rest ++ '.' :: a :: rest,
    ⟨c :: a :: rest ++ ['.'], [], by simp, .inr List.getLast?_concat⟩,
    [c], '.' :: a :: rest, by simp, ?_, fun before after cut starts => ?_⟩
  · rintro (hnil | hlast)
    · cases hnil
    · exact hdot (Option.some.inj hlast)
  · match before, cut, starts with
    | [], cut, _ => exact absurd (List.cons.inj cut).1 hca
    | [b], cut, .inr hlast =>
      have hb : c = b := (List.cons.inj cut).1
      exact absurd (hb.trans (Option.some.inj hlast)) hdot
    | b :: b' :: t, _, _ => simp

end Hostname

variable {name hostname : Text}

/-- No hostname is anchored by a name that is hidden in it. -/
theorem isAnchoredBy_eq_false_of_isHiddenIn (hidden : Hostname.IsHiddenIn name hostname) :
    isAnchoredBy name hostname = false := by
  refine Bool.eq_false_iff.2 fun anchored => ?_
  obtain ⟨before, after, cut, first, starts⟩ := isAnchoredBy_iff.1 anchored
  exact Hostname.not_isHiddenIn_of_isFirstAt cut first starts hidden

/-- **A hostname is anchored by the names that start one of its labels and are
not hidden in it.** -/
theorem isAnchoredBy_iff_startsLabelOf :
    isAnchoredBy name hostname = true ↔
      name = [] ∨ Hostname.StartsLabelOf name hostname ∧ ¬ Hostname.IsHiddenIn name hostname := by
  rw [isAnchoredBy_iff]
  constructor
  · rintro ⟨before, after, cut, first, starts⟩
    exact .inr ⟨⟨before, after, cut, starts⟩,
      Hostname.not_isHiddenIn_of_isFirstAt cut first starts⟩
  · rintro (rfl | ⟨⟨before, after, cut, -⟩, notHidden⟩)
    · exact ⟨[], hostname, rfl, Search.isFirstAt_nil hostname, .inl rfl⟩
    · have occurs : Search.OccursAt name before.length hostname := ⟨before, after, cut, rfl⟩
      obtain ⟨n, -, first⟩ := occurs.exists_isFirstAt
      obtain ⟨b, r, cut', rfl⟩ := first.1
      have starts : Hostname.LabelStartsBehind b :=
        Classical.byContradiction fun inside =>
          notHidden (Hostname.isHiddenIn_of_isFirstAt cut' first inside)
      exact ⟨b, r, cut', first, starts⟩

/-- **A name that starts a label may be missed**: `foo.com` is the end of
`xfoo.com.foo.com`, and is looked for in its first label only. -/
theorem isAnchoredBy_misses_label :
    ¬ ∀ name hostname, isAnchoredBy name hostname = true ↔
      name = [] ∨ ∃ before after, hostname = before ++ name ++ after ∧
        (before = [] ∨ before.getLast? = some '.') := by
  intro finds
  have found := (finds "foo.com".toList "xfoo.com.foo.com".toList).2
    (.inr ⟨"xfoo.com.".toList, [], rfl, .inr rfl⟩)
  revert found
  decide +kernel

/-- **A filter does not match where its hostname is hidden.** -/
theorem NetworkFilter.isMatch_eq_false_of_isHiddenIn {f : NetworkFilter} {engine : Engine}
    {r : Request}
    (behind : f.shape.isBehindHostname = true)
    (hidden : Hostname.IsHiddenIn f.hostname r.hostname) : f.isMatch engine r = false := by
  rw [isMatch, matchesPattern_eq, behind, if_pos rfl]
  refine Bool.eq_false_iff.2 fun both => ?_
  have anchored := (any_behindHostname_iff.1 (Bool.and_eq_true_iff.1 both).2).1
  rw [isAnchoredBy_eq_false_of_isHiddenIn hidden] at anchored
  cases anchored

end ContentFilter
