import ContentFilter.Proofs.Unicode.Lowercase
import Mathlib.Data.List.Basic

/-!
# Signs

The *signs* of a text are its ASCII characters that are neither letters nor digits
nor hyphens, in order. They are what is left of a hostname when its labels are
written anew, and `HasSignsOf` says of two texts that they have the same ones, and
dots at the same ends. The lower case of a text has the signs of the text
(`hasSignsOf_lowercase`).
-/

namespace ContentFilter.Text

/-- **A sign**: a character of ASCII that Punycode does not use. -/
def isSign (c : Char) : Bool :=
  Text.isAsciiChar c && !Text.isAlphanumeric c && c != '-'

/-- **The signs of a text**, in order. -/
def signs (t : Text) : Text :=
  t.filter isSign

/-- Signs of a concatenation. -/
@[simp] theorem signs_append (s t : Text) : signs (s ++ t) = signs s ++ signs t :=
  List.filter_append s t

/-- A text without signs has none. -/
theorem signs_eq_nil {t : Text} (h : ∀ c ∈ t, isSign c = false) : signs t = [] :=
  List.filter_eq_nil_iff.2 fun c hc => by simp [h c hc]

/-- Small letters are among letters and digits. -/
theorem isAlphanumeric_of_isLower {c : Char} (h : c.isLower = true) :
    Text.isAlphanumeric c = true :=
  Bool.or_eq_true_iff.2 (.inl (Bool.or_eq_true_iff.2 (.inr h)))

/-- A letter or a digit is no sign. -/
theorem isSign_of_isAlphanumeric {c : Char} (h : Text.isAlphanumeric c = true) :
    isSign c = false := by
  rw [isSign, h, Bool.not_true, Bool.and_false, Bool.false_and]

/-- A character beyond ASCII is no sign. -/
theorem isSign_of_not_isAsciiChar {c : Char} (h : Text.isAsciiChar c = false) :
    isSign c = false := by
  rw [isSign, h, Bool.false_and, Bool.false_and]

/-! ## Texts with the same signs -/

/-- **A text has the signs of another one**, in the same order, it is empty if
that is, and it starts and ends with a dot if that does. -/
structure HasSignsOf (s t : Text) : Prop where
  /-- The signs are the same. -/
  signs_eq : signs s = signs t
  /-- Both are empty, or neither is. -/
  eq_nil_iff : s = [] ↔ t = []
  /-- Both start with a dot, or neither does. -/
  head?_iff : s.head? = some '.' ↔ t.head? = some '.'
  /-- Both end with a dot, or neither does. -/
  getLast?_iff : s.getLast? = some '.' ↔ t.getLast? = some '.'

namespace HasSignsOf

variable {s t s' t' : Text}

/-- A text has its own signs. -/
theorem refl (t : Text) : HasSignsOf t t :=
  ⟨rfl, Iff.rfl, Iff.rfl, Iff.rfl⟩

/-- A sign stands in both texts, or in neither. -/
theorem mem_iff (h : HasSignsOf s t) {c : Char} (hc : isSign c = true) : c ∈ s ↔ c ∈ t := by
  have mem_signs (u : Text) : c ∈ signs u ↔ c ∈ u :=
    List.mem_filter.trans (and_iff_left hc)
  rw [← mem_signs s, ← mem_signs t, h.signs_eq]

/-- **Texts one behind the other have the signs of others** if each has those of
one of them. -/
theorem append (h : HasSignsOf s t) (h' : HasSignsOf s' t') : HasSignsOf (s ++ s') (t ++ t') where
  signs_eq := by rw [signs_append, signs_append, h.signs_eq, h'.signs_eq]
  eq_nil_iff := by
    rw [List.append_eq_nil_iff, List.append_eq_nil_iff, h.eq_nil_iff, h'.eq_nil_iff]
  head?_iff := by
    by_cases hs : s = []
    · rw [hs, h.eq_nil_iff.1 hs]
      exact h'.head?_iff
    · rw [List.head?_append_of_ne_nil _ hs, List.head?_append_of_ne_nil _ (mt h.eq_nil_iff.2 hs)]
      exact h.head?_iff
  getLast?_iff := by
    by_cases hs : s' = []
    · rw [hs, h'.eq_nil_iff.1 hs, List.append_nil, List.append_nil]
      exact h.getLast?_iff
    · rw [List.getLast?_append_of_ne_nil _ hs,
        List.getLast?_append_of_ne_nil _ (mt h'.eq_nil_iff.2 hs)]
      exact h'.getLast?_iff

/-- Signs are enough to ask for of texts without dots. -/
theorem of_notMem (hdot : '.' ∉ t) (hsigns : signs s = signs t) (hnil : s = [] ↔ t = []) :
    HasSignsOf s t := by
  have hdot' : '.' ∉ s := fun hmem => by
    have hsign : '.' ∈ signs s := List.mem_filter.2 ⟨hmem, rfl⟩
    rw [hsigns] at hsign
    exact hdot (List.mem_filter.1 hsign).1
  exact ⟨hsigns, hnil,
    iff_of_false (fun h => hdot' (List.mem_of_head? h)) (fun h => hdot (List.mem_of_head? h)),
    iff_of_false (fun h => hdot' (List.mem_of_getLast? h)) (fun h => hdot (List.mem_of_getLast? h))⟩

end HasSignsOf

/-! ## Lower case -/

/-- The lower case of a character has its sign, if it is one. -/
theorem hasSignsOf_lowercaseChar (c : Char) : HasSignsOf (Unicode.lowercaseChar c) [c] := by
  cases hc : Text.isAsciiChar c with
  | true =>
    rw [Unicode.lowercaseChar, if_pos hc]
    rcases Text.toLower_eq_or_isAlpha c with hsame | ⟨hletter, hlower⟩
    · rw [hsame]
      exact .refl [c]
    · have noSign {d : Char} (hd : d.isAlpha = true) : isSign d = false :=
        isSign_of_isAlphanumeric (Bool.or_eq_true_iff.2 (.inl hd))
      refine .of_notMem (fun hmem => ?_) ?_
        (iff_of_false (List.cons_ne_nil _ _) (List.cons_ne_nil _ _))
      · rw [← List.mem_singleton.1 hmem] at hletter
        exact absurd hletter (by decide)
      · rw [signs_eq_nil (List.forall_mem_singleton.2 (noSign hlower)),
          signs_eq_nil (List.forall_mem_singleton.2 (noSign hletter))]
  | false =>
    refine .of_notMem (fun hmem => ?_) ?_ (iff_of_false ?_ (List.cons_ne_nil _ _))
    · rw [← List.mem_singleton.1 hmem] at hc
      exact absurd hc (by decide)
    · rw [signs_eq_nil (List.forall_mem_singleton.2 (isSign_of_not_isAsciiChar hc))]
      refine signs_eq_nil fun d hd => ?_
      cases hascii : Text.isAsciiChar d with
      | true =>
        have hsmall := Unicode.isLower_of_mem_lowercaseChar hc hd hascii
        exact isSign_of_isAlphanumeric (isAlphanumeric_of_isLower hsmall)
      | false => exact isSign_of_not_isAsciiChar hascii
    · rw [Unicode.lowercaseChar, if_neg (by simp [hc])]
      split <;> exact List.cons_ne_nil _ _

/-- **The lower case of a text has its signs.** -/
theorem hasSignsOf_lowercase (t : Text) : HasSignsOf (Unicode.lowercase t) t := by
  suffices ∀ before, HasSignsOf (Unicode.lowercaseFrom before t) t from this []
  induction t with
  | nil => exact fun _ => .refl []
  | cons c t ih =>
    intro before
    rw [Unicode.lowercaseFrom]
    refine HasSignsOf.append (t := [c]) ?_ (ih (c :: before))
    split
    · next hc =>
      rw [hc, Unicode.lowercaseSigma]
      split <;> exact .of_notMem (by decide) rfl
        (iff_of_false (List.cons_ne_nil _ _) (List.cons_ne_nil _ _))
    · exact hasSignsOf_lowercaseChar c

end ContentFilter.Text
