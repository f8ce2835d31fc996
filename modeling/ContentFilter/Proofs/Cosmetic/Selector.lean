import ContentFilter.Cosmetic.Rule
import ContentFilter.Proofs.Search.Occurrence

/-!
# What a selector asks for

A selector with one of three starts is about scripts, and has to be closed by
a `)` behind that start. None of the starts is the start of another one, so it
does not matter in which order they are tried, and a selector says in one way
only what it asks for (`SelectorKind.Asks`). Reading it gives that
(`SelectorKind.read_eq_ok_iff`), and the only thing that can go wrong is a
script that is not closed (`SelectorKind.read_eq_error_iff`).

What is kept of scripts to block is what stands between two slashes, if it is
written so. One slash alone is not two, although it stands at both ends.
-/

namespace ContentFilter.SelectorKind

/-- **What a selector about scripts starts with.** -/
def scriptStarts : List (Text × SelectorKind) :=
  [("script:contains(".toList, scriptBlock), ("script:inject(".toList, scriptInject),
    ("+js(".toList, scriptInject)]

/-- **What is kept of scripts to block.** -/
inductive Keeps : Text → Text → Prop
  /-- A pattern between two slashes. -/
  | slashes (pattern : Text) : Keeps ('/' :: (pattern ++ ['/'])) pattern
  /-- Anything else, as it is written. -/
  | plain (body : Text) (h : ∀ pattern, body ≠ '/' :: (pattern ++ ['/'])) : Keeps body body

/-- **What a selector asks for, and what is kept of it.** -/
inductive Asks : Text → SelectorKind → Text → Prop
  /-- Scripts to block. -/
  | block {start body kept : Text} (h : (start, scriptBlock) ∈ scriptStarts)
      (keeps : Keeps body kept) : Asks (start ++ (body ++ [')'])) scriptBlock kept
  /-- A script to inject, with its arguments. -/
  | inject {start arguments : Text} (h : (start, scriptInject) ∈ scriptStarts) :
      Asks (start ++ (arguments ++ [')'])) scriptInject
        (Text.join [',', ' '] ((arguments.splitOn ',').map Text.trim))
  /-- Elements to hide. -/
  | elements {t : Text} (h : ∀ s ∈ scriptStarts, ¬ s.1 <+: t) : Asks t elements t

/-- **A selector about scripts that is not closed.** -/
def IsOpen (t : Text) : Prop :=
  ∃ s ∈ scriptStarts, ∃ rest, t = s.1 ++ rest ∧ ¬ [')'] <:+ rest

/-! ## What is kept -/

/-- Slashes are dropped exactly from a pattern between two of them. -/
theorem dropSlashes_eq_iff {body kept : Text} : dropSlashes body = kept ↔ Keeps body kept := by
  by_cases h : ∃ pattern, body = '/' :: (pattern ++ ['/'])
  · obtain ⟨pattern, rfl⟩ := h
    have drops : dropSlashes ('/' :: (pattern ++ ['/'])) = pattern := by
      show (Search.dropEnd? ['/'] (pattern ++ ['/'])).getD _ = pattern
      rw [Search.dropEnd?_append]
      rfl
    rw [drops]
    constructor
    · rintro rfl
      exact .slashes _
    · intro keeps
      generalize hbody : '/' :: (pattern ++ ['/']) = body at keeps
      cases keeps with
      | slashes => exact List.append_cancel_right (List.cons.inj hbody).2
      | plain _ h => exact absurd hbody.symm (h pattern)
  · have plain : ∀ pattern, body ≠ '/' :: (pattern ++ ['/']) := not_exists.1 h
    have drops : dropSlashes body = body := by
      unfold dropSlashes
      split
      · next rest =>
        cases hrest : Search.dropEnd? ['/'] rest with
        | none => rfl
        | some pattern =>
          exact absurd (congrArg _ (Search.dropEnd?_eq_some.1 hrest)) (plain pattern)
      · rfl
    rw [drops]
    constructor
    · rintro rfl
      exact .plain _ plain
    · intro keeps
      cases keeps with
      | slashes => exact absurd rfl (plain kept)
      | plain => rfl

/-- What is kept of what stands in a script. -/
def kept : SelectorKind → Text → Text
  | elements => id
  | scriptBlock => dropSlashes
  | scriptInject => joinArguments

/-- A closed script asks for what is kept of it. -/
theorem asks_kept {start : Text} {kind : SelectorKind} (h : (start, kind) ∈ scriptStarts)
    (body : Text) : Asks (start ++ (body ++ [')'])) kind (kind.kept body) := by
  cases kind with
  | elements => simp [scriptStarts] at h
  | scriptBlock => exact .block h (dropSlashes_eq_iff.1 rfl)
  | scriptInject => exact .inject h

/-! ## Reading -/

/-- No start of a script is a start of another one. -/
theorem eq_of_starts {s s' : Text × SelectorKind} (h : s ∈ scriptStarts) (h' : s' ∈ scriptStarts)
    {t : Text} (hs : s.1 <+: t) (hs' : s'.1 <+: t) : s = s' := by
  have all : ∀ s ∈ scriptStarts, ∀ s' ∈ scriptStarts, s.1 <+: s'.1 → s = s' := by decide
  rcases List.prefix_or_prefix_of_prefix hs hs' with hle | hle
  · exact all s h s' h' hle
  · exact (all s' h' s h hle).symm

/-- **A selector about scripts** is read up to the `)` at its end. -/
theorem read_append {start : Text} {kind : SelectorKind} (h : (start, kind) ∈ scriptStarts)
    (rest : Text) :
    read (start ++ rest) =
      match Search.dropEnd? [')'] rest with
      | some body => .ok (kind, kind.kept body)
      | none => .error .scriptNotClosed := by
  -- the starts that are tried before this one do not fit
  have other : ∀ s ∈ scriptStarts, s ≠ (start, kind) →
      Search.dropStart? s.1 (start ++ rest) = none := by
    intro s hs hne
    rw [Search.dropStart?_eq_none]
    intro hprefix
    exact hne (eq_of_starts hs h hprefix (List.prefix_append start rest))
  have cases := h
  simp only [scriptStarts, List.mem_cons, Prod.mk.injEq, List.not_mem_nil, or_false] at cases
  unfold read
  rcases cases with ⟨rfl, rfl⟩ | ⟨rfl, rfl⟩ | ⟨rfl, rfl⟩
  · rw [Search.dropStart?_append]
    rfl
  · rw [other ("script:contains(".toList, scriptBlock) (by decide) (by decide)]
    unfold afterInject?
    rw [Search.dropStart?_append]
    rfl
  · rw [other ("script:contains(".toList, scriptBlock) (by decide) (by decide)]
    unfold afterInject?
    rw [other ("script:inject(".toList, scriptInject) (by decide) (by decide),
      Search.dropStart?_append]
    rfl

/-- **Any other selector** is one of elements. -/
theorem read_of_not_start {t : Text} (h : ∀ s ∈ scriptStarts, ¬ s.1 <+: t) :
    read t = .ok (elements, t) := by
  have none : ∀ s ∈ scriptStarts, Search.dropStart? s.1 t = none :=
    fun s hs => Search.dropStart?_eq_none.2 (h s hs)
  unfold read
  rw [none ("script:contains(".toList, scriptBlock) (by decide)]
  unfold afterInject?
  rw [none ("script:inject(".toList, scriptInject) (by decide),
    none ("+js(".toList, scriptInject) (by decide)]
  rfl

/-- **A selector is read as what it asks for.** -/
theorem read_eq_ok_iff {t selector : Text} {kind : SelectorKind} :
    read t = .ok (kind, selector) ↔ Asks t kind selector := by
  constructor
  · intro h
    by_cases starts : ∃ s ∈ scriptStarts, s.1 <+: t
    · obtain ⟨⟨start, kind'⟩, hs, rest, rfl⟩ := starts
      rw [read_append hs] at h
      split at h
      · next body hbody =>
        cases h
        rw [Search.dropEnd?_eq_some.1 hbody]
        exact asks_kept hs body
      · cases h
    · have plain : ∀ s ∈ scriptStarts, ¬ s.1 <+: t := fun s hs hprefix => starts ⟨s, hs, hprefix⟩
      rw [read_of_not_start plain] at h
      cases h
      exact .elements plain
  · intro asks
    cases asks with
    | block h keeps =>
      rw [read_append h, Search.dropEnd?_append, ← dropSlashes_eq_iff.2 keeps]
      rfl
    | inject h =>
      rw [read_append h, Search.dropEnd?_append]
      rfl
    | elements h => exact read_of_not_start h

/-- **A selector cannot be read exactly if it is a script that is not closed.** -/
theorem read_eq_error_iff {t : Text} {e : CosmeticError} :
    read t = .error e ↔ e = .scriptNotClosed ∧ IsOpen t := by
  constructor
  · intro h
    by_cases starts : ∃ s ∈ scriptStarts, s.1 <+: t
    · obtain ⟨⟨start, kind⟩, hs, rest, rfl⟩ := starts
      rw [read_append hs] at h
      split at h
      · cases h
      · next hbody =>
        cases h
        exact ⟨rfl, _, hs, rest, rfl, Search.dropEnd?_eq_none.1 hbody⟩
    · rw [read_of_not_start fun s hs hprefix => starts ⟨s, hs, hprefix⟩] at h
      cases h
  · rintro ⟨rfl, ⟨start, kind⟩, hs, rest, rfl, closed⟩
    rw [read_append hs, Search.dropEnd?_eq_none.2 closed]

end ContentFilter.SelectorKind
