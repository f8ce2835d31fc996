import ContentFilter.Network.Line
import ContentFilter.Proofs.Search.Occurrence

/-!
# Which parts a network rule has

A line can be written in several ways as the parts of a network rule: `||` is
an anchor for a hostname, or one for the URL in front of a pattern `|`, or two
anchors with an empty pattern between them. What is meant is the reading that
takes the marks from left to right and each as long as it can be, except that
the options come first: they start at the last `$` of the line, and none of
the marks in front of them is looked for behind it (`NetworkLine.Reads`).

Each mark is then read in one way only, so a line has one such reading, and it
is the one it is cut into (`NetworkLine.reads_iff`).
-/

namespace ContentFilter

/-- **The anchor at the start** is as long as it can be. -/
theorem StartAnchor.read_eq_iff {t rest : Text} {a : StartAnchor} :
    read t = (a, rest) ↔ t = a.toText ++ rest ∧ (a ≠ .hostname → ¬ ['|'] <+: rest) := by
  constructor
  · intro h
    unfold read at h
    split at h
    · cases h
      exact ⟨rfl, fun hne => absurd rfl hne⟩
    · next rest' single =>
      cases h
      refine ⟨rfl, fun _ => ?_⟩
      rintro ⟨rest', rfl⟩
      exact single rest' rfl
    · next unanchored =>
      cases h
      refine ⟨rfl, fun _ => ?_⟩
      rintro ⟨rest', rfl⟩
      exact unanchored rest' rfl
  · rintro ⟨rfl, longest⟩
    cases a with
    | hostname => rfl
    | url =>
      cases rest with
      | nil => rfl
      | cons c rest =>
        -- a second `|` would have made the anchor one for a hostname
        have hc : c ≠ '|' := fun hc => longest nofun ⟨rest, congrArg (· :: rest) hc.symm⟩
        simp [read, toText, hc]
    | none =>
      cases rest with
      | nil => rfl
      | cons c rest =>
        have hc : c ≠ '|' := fun hc => longest nofun ⟨rest, congrArg (· :: rest) hc.symm⟩
        simp [read, toText, hc]

namespace NetworkLine

/-- **The mark of an exception** is read if it is there. -/
theorem readException_eq_iff {t rest : Text} {b : Bool} :
    readException t = (b, rest) ↔
      t = markToText ['@', '@'] b ++ rest ∧ (b = false → ¬ ['@', '@'] <+: t) := by
  constructor
  · intro h
    unfold readException at h
    split at h
    · cases h
      exact ⟨rfl, nofun⟩
    · next unmarked =>
      cases h
      refine ⟨rfl, fun _ => ?_⟩
      rintro ⟨rest', rfl⟩
      exact unmarked rest' rfl
  · rintro ⟨rfl, unmarked⟩
    cases b with
    | true => rfl
    | false =>
      unfold readException
      split
      · next rest' ht => exact absurd ⟨rest', ht.symm⟩ (unmarked rfl)
      · rfl

/-- **The options** start behind the last `$`. -/
theorem readOptions_eq_iff {t body : Text} {options? : Option Text} :
    readOptions t = (body, options?) ↔
      t = body ++ optionsToText options? ∧ (∀ options, options? = some options → '$' ∉ options) ∧
        (options? = none → '$' ∉ t) := by
  unfold readOptions
  cases hsplit : Search.splitLast? '$' t with
  | none =>
    have lacks := Search.splitLast?_eq_none.1 hsplit
    constructor
    · intro h
      cases h
      exact ⟨(List.append_nil t).symm, nofun, fun _ => lacks⟩
    · rintro ⟨ht, -, -⟩
      cases options? with
      | none => rw [ht, optionsToText, List.append_nil]
      | some options => exact absurd (ht ▸ List.mem_append_right _ List.mem_cons_self) lacks
  | some parts =>
    obtain ⟨body', options'⟩ := parts
    obtain ⟨ht, last⟩ := Search.splitLast?_eq_some.1 hsplit
    constructor
    · intro h
      cases h
      refine ⟨ht, fun options h => ?_, nofun⟩
      cases h
      exact last
    · rintro ⟨ht', last', lacks⟩
      cases options? with
      | none => exact absurd (ht ▸ List.mem_append_right _ List.mem_cons_self) (lacks rfl)
      | some options =>
        have hsplit' := Search.splitLast?_eq_some.2 ⟨ht', last' options rfl⟩
        rw [hsplit] at hsplit'
        cases hsplit'
        rfl

/-- **The anchor at the end** is read if it is there. -/
theorem readEnd_eq_iff {t body : Text} {b : Bool} :
    readEnd t = (body, b) ↔
      t = body ++ markToText ['|'] b ∧ (b = false → ¬ ['|'] <:+ body) := by
  unfold readEnd
  cases hdrop : Search.dropEnd? ['|'] t with
  | none =>
    have unmarked := Search.dropEnd?_eq_none.1 hdrop
    constructor
    · intro h
      cases h
      exact ⟨(List.append_nil t).symm, fun _ => unmarked⟩
    · rintro ⟨rfl, -⟩
      cases b with
      | false => rw [markToText, if_neg nofun, List.append_nil]
      | true => exact absurd ⟨body, rfl⟩ unmarked
  | some body' =>
    obtain rfl := Search.dropEnd?_eq_some.1 hdrop
    constructor
    · intro h
      cases h
      exact ⟨rfl, nofun⟩
    · rintro ⟨ht, unmarked⟩
      cases b with
      | false =>
        rw [markToText, if_neg nofun, List.append_nil] at ht
        exact absurd ⟨body', ht⟩ (unmarked rfl)
      | true => rw [List.append_cancel_right ht]

/-- **The parts a line is meant to have.** -/
structure Reads (l : NetworkLine) (line : Text) : Prop where
  /-- The parts one after the other are the line. -/
  toText : l.toText = line
  /-- A line that starts with `@@` is an exception. -/
  exception : l.isException = false → ¬ ['@', '@'] <+: line
  /-- The options start at the last `$`. -/
  options : ∀ options, l.options? = some options → '$' ∉ options
  /-- A line with a `$` has options. -/
  noOptions : l.options? = none → '$' ∉ line
  /-- What follows the anchor at the start could not make it longer. -/
  start : l.start ≠ .hostname → ¬ ['|'] <+: l.pattern ++ markToText ['|'] l.anchoredEnd
  /-- A pattern with a `|` behind it is anchored to the end. -/
  anchoredEnd : l.anchoredEnd = false → ¬ ['|'] <:+ l.pattern

/-- The parts a line is cut into are read one after the other. -/
theorem eq_ofText_iff {l : NetworkLine} {line : Text} :
    l = ofText line ↔ ∃ rest body after, readException line = (l.isException, rest) ∧
      readOptions rest = (body, l.options?) ∧ StartAnchor.read body = (l.start, after) ∧
      readEnd after = (l.pattern, l.anchoredEnd) := by
  constructor
  · rintro rfl
    exact ⟨_, _, _, rfl, rfl, rfl, rfl⟩
  · rintro ⟨rest, body, after, hexception, hoptions, hstart, hend⟩
    simp only [ofText, hexception, hoptions, hstart, hend]

/-- **A line is cut into the parts it is meant to have**, and there are no
others. -/
theorem reads_iff {l : NetworkLine} {line : Text} : l.Reads line ↔ l = ofText line := by
  constructor
  · intro h
    let after := l.pattern ++ markToText ['|'] l.anchoredEnd
    let body := l.start.toText ++ after
    let rest := body ++ optionsToText l.options?
    have hline : line = markToText ['@', '@'] l.isException ++ rest := by
      rw [← h.toText]
      simp only [NetworkLine.toText, rest, body, after, List.append_assoc]
    refine eq_ofText_iff.2 ⟨rest, body, after, ?_, ?_, ?_, ?_⟩
    · exact readException_eq_iff.2 ⟨hline, h.exception⟩
    · refine readOptions_eq_iff.2 ⟨rfl, h.options, fun none hmem => h.noOptions none ?_⟩
      rw [hline]
      exact List.mem_append_right _ hmem
    · exact StartAnchor.read_eq_iff.2 ⟨rfl, h.start⟩
    · exact readEnd_eq_iff.2 ⟨rfl, h.anchoredEnd⟩
  · intro h
    obtain ⟨rest, body, after, hexception, hoptions, hstart, hend⟩ := eq_ofText_iff.1 h
    obtain ⟨hline, exception⟩ := readException_eq_iff.1 hexception
    obtain ⟨-, last, lacks⟩ := readOptions_eq_iff.1 hoptions
    obtain ⟨-, longest⟩ := StartAnchor.read_eq_iff.1 hstart
    obtain ⟨rfl, anchored⟩ := readEnd_eq_iff.1 hend
    refine ⟨h ▸ toText_ofText line, exception, last, fun none hmem => ?_, longest, anchored⟩
    rw [hline, List.mem_append] at hmem
    rcases hmem with hmark | hrest
    · have unmarked : '$' ∉ markToText ['@', '@'] l.isException := by
        cases l.isException <;> decide
      exact unmarked hmark
    · exact lacks none hrest

/-- **A line is meant to have one reading.** -/
theorem Reads.unique {l l' : NetworkLine} {line : Text} (h : l.Reads line) (h' : l'.Reads line) :
    l = l' :=
  (reads_iff.1 h).trans (reads_iff.1 h').symm

end NetworkLine

end ContentFilter
