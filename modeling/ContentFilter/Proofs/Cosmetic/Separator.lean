import ContentFilter.Cosmetic.Rule
import ContentFilter.Proofs.Search.Mark

/-!
# Where a cosmetic rule is cut

A cosmetic rule is cut at its first separator: the first `#` that is followed
by `#` or by `@#` (`CosmeticLine.IsCut`). The two cannot be confused, since
what follows the `#` starts with different characters, so a line is cut in one
way only (`CosmeticLine.IsCut.unique`), and reading finds that cut
(`CosmeticLine.ofText?_eq_some_iff`) unless no `#` of the line starts a
separator (`CosmeticLine.ofText?_eq_none_iff`).
-/

namespace ContentFilter.CosmeticLine

/-- What follows the `#` of a separator. -/
def separatorEnd (isUnhide : Bool) : Text :=
  if isUnhide then ['@', '#'] else ['#']

/-- **A `#` in front of a text starts a separator.** -/
def EndsSeparator (after : Text) : Prop :=
  ∃ isUnhide, separatorEnd isUnhide <+: after

/-- **A line is cut at its first separator.** -/
def IsCut (l : CosmeticLine) (line : Text) : Prop :=
  Search.IsFirstMark '#' EndsSeparator line l.hostnames (separatorEnd l.isUnhide ++ l.selector)

/-- What follows a `#` ends one of the separators. -/
theorem endsSeparator_append (isUnhide : Bool) (rest : Text) :
    EndsSeparator (separatorEnd isUnhide ++ rest) :=
  ⟨isUnhide, List.prefix_append _ _⟩

/-- **What follows a `#` ends one separator only.** -/
theorem separatorEnd_append_inj {b b' : Bool} {rest rest' : Text}
    (h : separatorEnd b ++ rest = separatorEnd b' ++ rest') : b = b' ∧ rest = rest' := by
  have hb : b = b' := by
    cases b with
    | false =>
      cases b' with
      | false => rfl
      | true => cases h
    | true =>
      cases b' with
      | false => cases h
      | true => rfl
  subst hb
  exact ⟨rfl, List.append_cancel_left h⟩

/-- **A line is cut in one way only.** -/
theorem IsCut.unique {l l' : CosmeticLine} {line : Text} (h : l.IsCut line) (h' : l'.IsCut line) :
    l = l' := by
  obtain ⟨hhostnames, hafter⟩ := Search.IsFirstMark.unique h h'
  obtain ⟨hunhide, hselector⟩ := separatorEnd_append_inj hafter
  cases l
  cases l'
  exact congr (congr (congrArg CosmeticLine.mk hhostnames) hunhide) hselector

/-! ## Reading -/

/-- The separator whose end starts a text, and what follows it. -/
def separator? : Text → Option (Bool × Text)
  | '#' :: rest => some (false, rest)
  | '@' :: '#' :: rest => some (true, rest)
  | _ => none

/-- A text is read as the end of a separator and what follows it. -/
theorem separator?_eq_some_iff {after rest : Text} {isUnhide : Bool} :
    separator? after = some (isUnhide, rest) ↔ after = separatorEnd isUnhide ++ rest := by
  constructor
  · intro h
    unfold separator? at h
    split at h
    · cases h
      rfl
    · cases h
      rfl
    · cases h
  · rintro rfl
    cases isUnhide <;> rfl

/-- A separator is read exactly from what ends one. -/
theorem exists_separator?_iff {after : Text} :
    (∃ parts, separator? after = some parts) ↔ EndsSeparator after := by
  constructor
  · rintro ⟨⟨isUnhide, rest⟩, h⟩
    rw [separator?_eq_some_iff.1 h]
    exact endsSeparator_append isUnhide rest
  · rintro ⟨isUnhide, rest, rfl⟩
    exact ⟨(isUnhide, rest), separator?_eq_some_iff.2 rfl⟩

/-- The parts of a line, with what stands before the separator apart. -/
def parts? (line : Text) : Option (Text × Bool × Text) :=
  (ofText? line).map fun l => (l.hostnames, l.isUnhide, l.selector)

/-- **Reading a line is a scan for separators.** -/
theorem isScan_parts? : Search.IsScan '#' separator? parts? where
  nil := rfl
  start := by
    rintro rest ⟨isUnhide, selector⟩ h
    rw [separator?_eq_some_iff.1 h]
    cases isUnhide <;> rfl
  skip := by
    intro c rest h
    rw [exists_separator?_iff] at h
    have passed : ofText? (c :: rest) =
        (ofText? rest).map fun l => { l with hostnames := c :: l.hostnames } := by
      rw [ofText?]
      · rintro r rfl rfl
        exact h ⟨rfl, endsSeparator_append false r⟩
      · rintro r rfl rfl
        exact h ⟨rfl, endsSeparator_append true r⟩
    unfold parts?
    rw [passed, Option.map_map, Option.map_map]
    rfl

/-- **Reading cuts a line at its first separator.** -/
theorem ofText?_eq_some_iff {line : Text} {l : CosmeticLine} :
    ofText? line = some l ↔ l.IsCut line := by
  have parts : ofText? line = some l ↔
      parts? line = some (l.hostnames, l.isUnhide, l.selector) := by
    unfold parts?
    cases ofText? line with
    | none => exact iff_of_false nofun nofun
    | some l' =>
      obtain ⟨_, _, _⟩ := l
      obtain ⟨_, _, _⟩ := l'
      simp
  have marks : (fun r => ∃ m, separator? r = some m) = EndsSeparator :=
    funext fun r => propext exists_separator?_iff
  rw [parts, isScan_parts?.eq_some_iff, marks]
  constructor
  · rintro ⟨after, first, hafter⟩
    rw [separator?_eq_some_iff.1 hafter] at first
    exact first
  · intro cut
    exact ⟨_, cut, separator?_eq_some_iff.2 rfl⟩

/-- **A line is not cut exactly if no `#` of it starts a separator.** -/
theorem ofText?_eq_none_iff {line : Text} :
    ofText? line = none ↔
      ∀ before after, line = before ++ '#' :: after → ¬ EndsSeparator after := by
  have parts : ofText? line = none ↔ parts? line = none := Option.map_eq_none_iff.symm
  rw [parts, isScan_parts?.eq_none_iff]
  refine forall_congr' fun before => forall_congr' fun after => imp_congr_right fun _ => ?_
  rw [← exists_separator?_iff, Option.eq_none_iff_forall_ne_some, not_exists]

end ContentFilter.CosmeticLine
