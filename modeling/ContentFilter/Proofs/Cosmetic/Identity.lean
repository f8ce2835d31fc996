import ContentFilter.Idna.Ascii
import ContentFilter.Proofs.Cosmetic.Rule
import ContentFilter.Proofs.Network.Identity

/-!
# What the identity of a cosmetic filter tells apart

The identity of a cosmetic filter is mixed from its flags and a row of words: a hash
for each hostname, `#`, and the characters of the selector. One separator between a
list and a text would do, if it were found in neither. But a hostname may have `#` for
its hash – the hostname `#` has – and selectors hold a `#` for every name of an
element.

If two rows are the same without their parts being so, the separator of the one stands
behind that of the other, so it is a character of the other selector, and what stands
between the two separators is hashes in the one row and characters in the other
(`CosmeticFilter.Overlaps`). This is all that can go wrong
(`CosmeticFilter.words_eq_iff_overlaps`): a list in which no hostname has the hash `#`
is told from every other one, and so is any list where the selector that it would have
to reach into has no `#` (`CosmeticFilter.IsToldFrom`).
-/

namespace ContentFilter

/-- **How a row can be cut at a separator in two ways**: the one separator stands
behind the other. -/
theorem Search.append_cons_eq_append_cons_iff {α : Type} {a b a' b' : List α} {c : α} :
    a ++ c :: b = a' ++ c :: b' ↔ (a = a' ∧ b = b') ∨
      (∃ m, a = a' ++ c :: m ∧ b' = m ++ c :: b) ∨ ∃ m, a' = a ++ c :: m ∧ b = m ++ c :: b' := by
  constructor
  · intro h
    rcases List.append_eq_append_iff.1 h with ⟨m, ha', hb⟩ | ⟨m, ha, hb'⟩
    · cases m with
      | nil =>
        rw [List.append_nil] at ha'
        exact .inl ⟨ha'.symm, (List.cons.inj hb).2⟩
      | cons x m =>
        obtain ⟨rfl, rfl⟩ := List.cons.inj hb
        exact .inr (.inr ⟨m, ha', rfl⟩)
    · cases m with
      | nil =>
        rw [List.append_nil] at ha
        exact .inl ⟨ha, (List.cons.inj hb').2.symm⟩
      | cons x m =>
        obtain ⟨rfl, rfl⟩ := List.cons.inj hb'
        exact .inr (.inl ⟨m, ha, rfl⟩)
  · rintro (⟨rfl, rfl⟩ | ⟨m, rfl, rfl⟩ | ⟨m, rfl, rfl⟩)
    · rfl
    · rw [List.append_assoc, List.cons_append]
    · rw [List.append_assoc, List.cons_append]

/-- A text has a character between two parts exactly if its code points have it. -/
theorem Text.codePoints_eq_append_cons_iff {t after : Text} {c : Char} {m : List UInt32} :
    t.codePoints = m ++ c.val :: after.codePoints ↔
      ∃ before : Text, t = before ++ c :: after ∧ before.codePoints = m := by
  constructor
  · intro h
    obtain ⟨before, rest, rfl, hbefore, hrest⟩ := List.map_eq_append_iff.1 h
    refine ⟨before, ?_, hbefore⟩
    rw [codePoints_injective (show Text.codePoints rest = Text.codePoints (c :: after) from hrest)]
  · rintro ⟨before, rfl, rfl⟩
    exact List.map_append

namespace CosmeticFilter

variable {line line' : Text} {f g : CosmeticFilter}

/-- **The words of a filter**, from which its identity is mixed. -/
def words (f : CosmeticFilter) : List UInt32 :=
  identityWords f.hostnames f.selector

/-- **The parts of a filter** its words are meant to tell: the hashes of the hostnames,
and the selector. -/
def parts (f : CosmeticFilter) : List Hash × Text :=
  (f.hostnames.map Hash.ofText, f.selector)

/-- **The hostnames of a filter overlap the selector of another one**: one has the
separator for its hash, and those behind it have characters of the other selector for
theirs, up to a separator in front of the own selector. -/
def Overlaps (f g : CosmeticFilter) : Prop :=
  ∃ shared : Text,
    f.hostnames.map Hash.ofText = g.hostnames.map Hash.ofText ++ '#'.val :: shared.codePoints ∧
      g.selector = shared ++ '#' :: f.selector

/-- **The parts of a filter can be told from those of another one** in its words: no
hostname of the one has the separator for its hash, or there is none in the selector of
the other. -/
def IsToldFrom (f g : CosmeticFilter) : Prop :=
  (∀ name ∈ f.hostnames, Hash.ofText name ≠ '#'.val) ∨ '#' ∉ g.selector

/-- Filters that are told apart do not overlap. -/
theorem IsToldFrom.not_overlaps (h : f.IsToldFrom g) : ¬ f.Overlaps g := by
  rintro ⟨shared, hashes, selector⟩
  rcases h with hashed | lacks
  · have hmem : '#'.val ∈ f.hostnames.map Hash.ofText := by
      rw [hashes]
      exact List.mem_append_right _ List.mem_cons_self
    obtain ⟨name, hname, hash⟩ := List.mem_map.1 hmem
    exact hashed name hname hash
  · rw [selector] at lacks
    exact lacks (List.mem_append_right _ List.mem_cons_self)

/-- The words of a filter by its separator. -/
theorem words_eq (f : CosmeticFilter) :
    f.words = f.hostnames.map Hash.ofText ++ '#'.val :: f.selector.codePoints := by
  simp only [words, identityWords, List.append_assoc, List.singleton_append]

/-- **Filters have the same words exactly if they have the same parts, or the parts of
one overlap those of the other.** -/
theorem words_eq_iff : f.words = g.words ↔ f.parts = g.parts ∨ f.Overlaps g ∨ g.Overlaps f := by
  have overlaps {f g : CosmeticFilter} : (∃ m, f.hostnames.map Hash.ofText =
      g.hostnames.map Hash.ofText ++ '#'.val :: m ∧
        g.selector.codePoints = m ++ '#'.val :: f.selector.codePoints) ↔ f.Overlaps g := by
    simp only [Text.codePoints_eq_append_cons_iff]
    constructor
    · rintro ⟨_, hashes, shared, selector, rfl⟩
      exact ⟨shared, hashes, selector⟩
    · rintro ⟨shared, hashes, selector⟩
      exact ⟨_, hashes, shared, selector, rfl⟩
  rw [words_eq, words_eq, Search.append_cons_eq_append_cons_iff, overlaps, overlaps, parts, parts,
    Prod.mk.injEq, Text.codePoints_injective.eq_iff]

/-- **A filter that was made from a line** follows from its flags, its hostnames and its
selector. -/
theorem eq_make_of_ofLine [IdnaService] (h : ofLine line false = .ok f) :
    f = make f.mask f.hostnames f.selector none := by
  obtain ⟨l, hostnames, kind, selector, -, -, rfl⟩ := ofLine_eq_ok_iff.1 h
  rfl

/-- **What the identity of a filter tells.** It is mixed from the words of the filter.
Two filters have the same words exactly if they have the same parts, or the parts of one
overlap those of the other. If neither can happen, filters of the same words and flags
are the same filter, as far as no two of their hostnames share a hash. -/
theorem words_eq_iff_overlaps [IdnaService] (hf : ofLine line false = .ok f)
    (hg : ofLine line' false = .ok g) :
    f.id = Hash.mix (Hash.seed f.mask.bits.toUInt32) f.words ∧
      (f.words = g.words ↔ f.parts = g.parts ∨ f.Overlaps g ∨ g.Overlaps f) ∧
      (f.IsToldFrom g → g.IsToldFrom f → f.words = g.words → f.parts = g.parts ∧
        (f.mask = g.mask → (∀ name ∈ f.hostnames, ∀ name' ∈ g.hostnames,
          Hash.ofText name = Hash.ofText name' → name = name') → f = g)) := by
  refine ⟨?_, words_eq_iff, fun told told' h => ?_⟩
  · exact congrArg CosmeticFilter.id (eq_make_of_ofLine hf)
  · have same : f.parts = g.parts := by
      rcases words_eq_iff.1 h with same | overlap | overlap
      · exact same
      · exact absurd overlap told.not_overlaps
      · exact absurd overlap told'.not_overlaps
    refine ⟨same, fun mask_eq inj => ?_⟩
    obtain ⟨hashes, selector_eq⟩ := Prod.mk.inj same
    rw [eq_make_of_ofLine hf, eq_make_of_ofLine hg, mask_eq, selector_eq,
      Hash.eq_of_map_ofText_eq hashes inj]

/-- Two hostnames with the same hash, in front of a selector with a `#`. -/
theorem words_eq_iff_overlaps_hashes :
    let f := make ⟨0⟩ ["an.com".toList] "#ads".toList none
    let g := make ⟨0⟩ ["c0.com".toList] "#ads".toList none
    ofLine "an.com###ads".toList false = .ok f ∧ ofLine "c0.com###ads".toList false = .ok g ∧
      f.IsToldFrom g ∧ g.IsToldFrom f ∧ f.words = g.words ∧ f.parts = g.parts := by
  intro f g
  have hf : ofLine "an.com###ads".toList false = .ok f := by decide +kernel
  have hg : ofLine "c0.com###ads".toList false = .ok g := by decide +kernel
  have told : f.IsToldFrom g := .inl (by decide +kernel)
  have told' : g.IsToldFrom f := .inl (by decide +kernel)
  have h : f.words = g.words := by decide +kernel
  exact ⟨hf, hg, told, told', h, ((words_eq_iff_overlaps hf hg).2.2 told told' h).1⟩

/-- **Two lines are confused**: their filters share their flags, their words and so
their identity, and differ in a part. -/
def Confuses [IdnaService] (line line' : Text) : Prop :=
  ∃ f g, ofLine line false = .ok f ∧ ofLine line' false = .ok g ∧ f.mask = g.mask ∧
    f.words = g.words ∧ f.id = g.id ∧ f.parts ≠ g.parts

/-- **A hostname is taken for the separator**, and what follows it for the start of the
selector. -/
theorem confuses_hostnames :
    Confuses "a##b#c".toList "a,#,b##c".toList ∧ Confuses "##a#b".toList "#,a##b".toList := by
  refine ⟨⟨make ⟨0⟩ ["a".toList] "b#c".toList none,
      make ⟨0⟩ ["a".toList, "#".toList, "b".toList] "c".toList none, ?_⟩,
    ⟨make ⟨0⟩ [] "a#b".toList none, make ⟨0⟩ ["#".toList, "a".toList] "b".toList none, ?_⟩⟩ <;>
    decide +kernel

end CosmeticFilter

end ContentFilter
