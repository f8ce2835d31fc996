import ContentFilter.Text.Bytes

/-!
# Lower case and bytes

Lowering touches the capital letters of ASCII and nothing else. What is to be
shown of a character and its lower case therefore has to be looked at for the
first 128 characters only (`forall_toLower`).

Three things follow that matching relies on: lowering twice is lowering once,
characters that are no letters are found in a lowered text exactly where they
stand in the text (`mem_lower`), and no byte is gained or lost, so that a
place found in the lowered URL is a place of the URL (`byteLength_lower`).
-/

namespace ContentFilter.Text

/-- A character beyond ASCII is its own lower case. -/
theorem toLower_of_not_isAsciiChar {c : Char} (h : isAsciiChar c = false) : c.toLower = c := by
  have hc : ¬ c.val < 0x80 := of_decide_eq_false h
  have hz : ¬ (c.val ≥ 'A'.val ∧ c.val ≤ 'Z'.val) := fun hl =>
    hc (UInt32.lt_of_le_of_lt hl.2 (by decide))
  exact dif_neg hz

/-- **What holds of the first 128 characters** holds of every ASCII character. -/
theorem of_isAsciiChar {P : Char → Prop} (h : ∀ n : Fin 128, P (Char.ofNat n.val)) {c : Char}
    (hc : isAsciiChar c = true) : P c := by
  have hlt : c.toNat < 128 := UInt32.lt_iff_toNat_lt.1 (of_decide_eq_true hc)
  exact Char.ofNat_toNat c ▸ h ⟨c.toNat, hlt⟩

/-- **What holds of every character and itself, and of the ASCII characters
and their lower case, holds of every character and its lower case.** -/
theorem forall_toLower {P : Char → Char → Prop} (same : ∀ c, P c c)
    (ascii : ∀ n : Fin 128, P (Char.ofNat n.val) (Char.ofNat n.val).toLower) (c : Char) :
    P c c.toLower := by
  by_cases h : isAsciiChar c = true
  · exact of_isAsciiChar (P := fun c => P c c.toLower) ascii h
  · rw [toLower_of_not_isAsciiChar (by simpa using h)]
    exact same c

/-- Lowering a character twice is lowering it once. -/
@[simp] theorem toLower_toLower (c : Char) : c.toLower.toLower = c.toLower := by
  refine forall_toLower (P := fun c l => c.toLower = l → l.toLower = l) ?_ ?_ c rfl
  · exact fun _ h => h
  · decide

/-- **Lowering twice is lowering once.** -/
@[simp] theorem lower_lower (t : Text) : lower (lower t) = lower t := by
  unfold lower
  rw [List.map_map]
  exact List.map_congr_left fun c _ => toLower_toLower c

/-- **The capitals of ASCII are the characters that lowering changes.** -/
theorem toLower_eq_self_iff {c : Char} : c.toLower = c ↔ c.isUpper = false := by
  by_cases h : isAsciiChar c = true
  · exact of_isAsciiChar (P := fun c => c.toLower = c ↔ c.isUpper = false) (by decide) h
  · refine iff_of_true (toLower_of_not_isAsciiChar (by simpa using h)) ?_
    refine Bool.eq_false_iff.2 fun hupper => h (decide_eq_true ?_)
    have bounds : c.val ≥ 'A'.val ∧ c.val ≤ 'Z'.val := of_decide_eq_true hupper
    exact UInt32.lt_of_le_of_lt bounds.2 (by decide)

/-- **A text without capitals of ASCII is one that lowering does not change.** -/
theorem lower_eq_self_iff {t : Text} : lower t = t ↔ ∀ c ∈ t, c.isUpper = false := by
  simp only [← toLower_eq_self_iff]
  refine ⟨fun h => ?_, fun h => (List.map_congr_left h).trans (List.map_id t)⟩
  exact List.map_inj_left.1 (h.trans (List.map_id t).symm)

/-- A character and its lower case are the same or both letters. -/
theorem toLower_eq_or_isAlpha (c : Char) :
    c.toLower = c ∨ (c.isAlpha = true ∧ c.toLower.isAlpha = true) :=
  forall_toLower (P := fun c l => l = c ∨ (c.isAlpha = true ∧ l.isAlpha = true))
    (fun _ => .inl rfl) (by decide) c

/-- The lower case of a character is a given one that is no letter exactly if
the character is that one. -/
theorem toLower_eq_iff {c d : Char} (hd : d.isAlpha = false) : c.toLower = d ↔ c = d := by
  rcases toLower_eq_or_isAlpha c with h | ⟨hc, hl⟩
  · rw [h]
  · constructor
    · rintro rfl
      exact absurd hl (by simp [hd])
    · rintro rfl
      exact absurd hc (by simp [hd])

/-- **A character that is no letter stands in a lowered text exactly if it
stands in the text.** -/
theorem mem_lower {d : Char} (hd : d.isAlpha = false) {t : Text} : d ∈ lower t ↔ d ∈ t := by
  unfold lower
  rw [List.mem_map]
  constructor
  · rintro ⟨c, hc, h⟩
    exact (toLower_eq_iff hd).1 h ▸ hc
  · exact fun h => ⟨d, h, (toLower_eq_iff hd).2 rfl⟩

/-- A text without its initial run of some characters, before and after
lowering. -/
theorem dropWhile_lower {p : Char → Bool} (h : ∀ c : Char, p c.toLower = p c) (t : Text) :
    (lower t).dropWhile p = lower (t.dropWhile p) := by
  have same : p ∘ Char.toLower = p := funext h
  rw [lower, List.dropWhile_map, same]
  rfl

/-- The initial run of some characters of a text, before and after lowering. -/
theorem takeWhile_lower {p : Char → Bool} (h : ∀ c : Char, p c.toLower = p c) (t : Text) :
    (lower t).takeWhile p = lower (t.takeWhile p) := by
  have same : p ∘ Char.toLower = p := funext h
  rw [lower, List.takeWhile_map, same]
  rfl

/-- The lower case of a character takes as many bytes as the character. -/
@[simp] theorem utf8Size_toLower (c : Char) : c.toLower.utf8Size = c.utf8Size :=
  forall_toLower (P := fun c l => l.utf8Size = c.utf8Size) (fun _ => rfl) (by decide) c

/-- **Lowering keeps the number of bytes.** -/
@[simp] theorem byteLength_lower (t : Text) : byteLength (lower t) = byteLength t := by
  induction t with
  | nil => rfl
  | cons c t ih =>
    show c.toLower.utf8Size + byteLength (lower t) = c.utf8Size + byteLength t
    rw [utf8Size_toLower, ih]

/-! ## Delimiters

A delimiter that is no letter cuts a lowered text where it cuts the text. -/

section Delimiters

variable {d : Char} (hd : d.isAlpha = false) (t : Text)
include hd

/-- A lowered text ends with a delimiter exactly if the text does. -/
theorem getLast?_lower_eq_iff : (lower t).getLast? = some d ↔ t.getLast? = some d := by
  rw [lower, List.getLast?_map, Option.map_eq_some_iff]
  simp only [toLower_eq_iff hd, exists_eq_right]

/-- A lowered text starts with a delimiter exactly if the text does. -/
theorem head?_lower_eq_iff : (lower t).head? = some d ↔ t.head? = some d := by
  rw [lower, List.head?_map, Option.map_eq_some_iff]
  simp only [toLower_eq_iff hd, exists_eq_right]

/-- The parts around the first delimiter, before and after lowering. -/
theorem splitFirst?_lower :
    Search.splitFirst? d (lower t) = (Search.splitFirst? d t).map (Prod.map lower lower) := by
  induction t with
  | nil => rfl
  | cons c t ih =>
    show Search.splitFirst? d (c.toLower :: lower t) = _
    rw [Search.splitFirst?, Search.splitFirst?, ih]
    simp only [toLower_eq_iff hd]
    split
    · rfl
    · cases Search.splitFirst? d t <;> rfl

/-- The parts around the last delimiter, before and after lowering. -/
theorem splitLast?_lower :
    Search.splitLast? d (lower t) = (Search.splitLast? d t).map (Prod.map lower lower) := by
  induction t with
  | nil => rfl
  | cons c t ih =>
    show Search.splitLast? d (c.toLower :: lower t) = _
    rw [Search.splitLast?, Search.splitLast?, ih]
    cases Search.splitLast? d t with
    | some parts => rfl
    | none =>
      simp only [Option.map_none, toLower_eq_iff hd]
      split <;> rfl

/-- The pieces between delimiters, before and after lowering. -/
theorem splitOn_lower : (lower t).splitOn d = (t.splitOn d).map lower := by
  induction t with
  | nil => simp [lower, List.splitOn_nil]
  | cons c t ih =>
    show (c.toLower :: lower t).splitOn d = _
    rw [List.splitOn_cons_eq_if_modifyHead, List.splitOn_cons_eq_if_modifyHead, ih]
    simp only [beq_iff_eq, toLower_eq_iff hd]
    split
    · rfl
    · cases t.splitOn d <;> rfl

end Delimiters

/-- **A text without letters.** -/
def isLetterless (t : Text) : Bool :=
  t.all fun c => !c.isAlpha

/-- A lowered text is one without letters exactly if the text is. -/
theorem lower_eq_iff {p : Text} (hp : isLetterless p = true) {t : Text} :
    lower t = p ↔ t = p := by
  induction p generalizing t with
  | nil => exact List.map_eq_nil_iff
  | cons c p ih =>
    obtain ⟨hc, hp⟩ : c.isAlpha = false ∧ isLetterless p = true := by
      simpa [isLetterless] using hp
    cases t with
    | nil => exact iff_of_false nofun nofun
    | cons b t =>
      show b.toLower :: lower t = c :: p ↔ _
      rw [List.cons.injEq, List.cons.injEq, toLower_eq_iff hc, ih hp]

/-- A lowered text starts with one without letters exactly if the text does. -/
theorem prefix_lower_iff {p : Text} (hp : isLetterless p = true) {t : Text} :
    p <+: lower t ↔ p <+: t := by
  constructor
  · rintro ⟨rest, h⟩
    obtain ⟨start, rest, rfl, hstart, -⟩ := List.map_eq_append_iff.1 h.symm
    exact ⟨rest, by rw [(lower_eq_iff hp).1 hstart]⟩
  · rintro ⟨rest, rfl⟩
    exact ⟨lower rest, by rw [lower_append, (lower_eq_iff hp).2 rfl]⟩

/-- A lowered text ends with one without letters exactly if the text does. -/
theorem suffix_lower_iff {p : Text} (hp : isLetterless p = true) {t : Text} :
    p <:+ lower t ↔ p <:+ t := by
  constructor
  · rintro ⟨rest, h⟩
    obtain ⟨rest, last, rfl, -, hlast⟩ := List.map_eq_append_iff.1 h.symm
    exact ⟨rest, by rw [(lower_eq_iff hp).1 hlast]⟩
  · rintro ⟨rest, rfl⟩
    exact ⟨lower rest, by rw [lower_append, (lower_eq_iff hp).2 rfl]⟩

/-- A text without its final run of some characters, before and after lowering. -/
theorem dropEndWhile_lower {p : Char → Bool} (h : ∀ c : Char, p c.toLower = p c) (t : Text) :
    Search.dropEndWhile p (lower t) = lower (Search.dropEndWhile p t) := by
  have run := dropWhile_lower h t.reverse
  unfold Search.dropEndWhile lower at *
  rw [← List.map_reverse, run, List.map_reverse]

end ContentFilter.Text
