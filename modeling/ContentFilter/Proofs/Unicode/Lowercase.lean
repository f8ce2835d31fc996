import ContentFilter.Hostname.Normal
import ContentFilter.Proofs.Text.Case

/-!
# Lowering before the full lower case

Patterns are brought into lower case letter by letter, and only in ASCII,
while hostnames get the full lower case of Unicode. A hostname taken from a
lowered pattern and one taken from the pattern as written are nevertheless
the same hostname (`Hostname.normalize?_lower`): the full lower case does not
see whether the letters of ASCII were lowered before.

The one place where it could is the capital sigma, whose lower case depends
on what stands around it. But all it asks of its neighbours is whether they
are cased and whether they are passed over, and the letters of ASCII are all
cased and never passed over, be they capitals or not.

The other way round nothing is left to lower: the full lower case has no
capitals of ASCII (`lower_lowercase`), and all that is ASCII in the lower case
of another character is a small letter (`isLower_of_mem_lowercaseChar`).
-/

namespace ContentFilter.Unicode

/-- The code of a letter of ASCII. -/
theorem toNat_of_isAlpha {c : Char} (h : c.isAlpha = true) :
    (0x41 ≤ c.toNat ∧ c.toNat ≤ 0x5A) ∨ (0x61 ≤ c.toNat ∧ c.toNat ≤ 0x7A) := by
  rcases Bool.or_eq_true_iff.1 (show (c.isUpper || c.isLower) = true from h) with hu | hl
  · have bounds : c.val ≥ 'A'.val ∧ c.val ≤ 'Z'.val := of_decide_eq_true hu
    exact .inl ⟨UInt32.le_iff_toNat_le.1 bounds.1, UInt32.le_iff_toNat_le.1 bounds.2⟩
  · have bounds := Bool.and_eq_true_iff.1
      (show (decide (c.val ≥ 'a'.val) && decide (c.val ≤ 'z'.val)) = true from hl)
    exact .inr ⟨UInt32.le_iff_toNat_le.1 (of_decide_eq_true bounds.1),
      UInt32.le_iff_toNat_le.1 (of_decide_eq_true bounds.2)⟩

/-- A table, from its characters one by one. In this form the kernel can look
at it without decoding a string first. -/
theorem ranges_ofList {table : String} {l : List Char} (h : table = String.ofList l) :
    ranges table = (Text.words l).map Range.ofText := by
  rw [h, ranges, String.toList_ofList]

/-- A range without letters of ASCII. -/
def Range.lacksLetters (r : Range) : Bool :=
  r.last < 0x41 || (0x5A < r.first && r.last < 0x61) || 0x7A < r.first

/-- A table of ranges without letters of ASCII covers none. -/
theorem covers_eq_false {rs : List Range} (h : rs.all Range.lacksLetters = true) {c : Char}
    (hc : c.isAlpha = true) : covers rs c = false := by
  rw [covers, List.any_eq_false]
  intro r hr hcontains
  have hcode := toNat_of_isAlpha hc
  have hr := List.all_eq_true.1 h r hr
  simp only [Range.lacksLetters, Bool.or_eq_true, Bool.and_eq_true, decide_eq_true_eq] at hr
  simp only [Range.contains, Bool.and_eq_true, decide_eq_true_eq] at hcontains
  omega

/-- **The letters of ASCII are cased.** -/
theorem isCased_of_isAlpha {c : Char} (h : c.isAlpha = true) : isCased c = true := by
  have capitals : (⟨0x41, 0x5A⟩ : Range) ∈ casedRanges := by
    rw [casedRanges, ranges_ofList rfl]
    decide +kernel
  have smalls : (⟨0x61, 0x7A⟩ : Range) ∈ casedRanges := by
    rw [casedRanges, ranges_ofList rfl]
    decide +kernel
  rw [isCased, covers, List.any_eq_true]
  rcases toNat_of_isAlpha h with ⟨hl, hu⟩ | ⟨hl, hu⟩
  · exact ⟨_, capitals, by simp [Range.contains, hl, hu]⟩
  · exact ⟨_, smalls, by simp [Range.contains, hl, hu]⟩

/-- **The letters of ASCII are not passed over.** -/
theorem isCaseIgnorable_of_isAlpha {c : Char} (h : c.isAlpha = true) :
    isCaseIgnorable c = false := by
  have marks : nonspacingMarks.all Range.lacksLetters = true := by
    rw [nonspacingMarks, ranges_ofList rfl]
    decide +kernel
  have others : caseIgnorableRanges.all Range.lacksLetters = true := by
    rw [caseIgnorableRanges, ranges_ofList rfl]
    decide +kernel
  rw [isCaseIgnorable, isNonspacingMark, covers_eq_false marks h, covers_eq_false others h]
  rfl

/-- The lower case of a character is cased if the character is. -/
@[simp] theorem isCased_toLower (c : Char) : isCased c.toLower = isCased c := by
  rcases Text.toLower_eq_or_isAlpha c with h | ⟨hc, hl⟩
  · rw [h]
  · rw [isCased_of_isAlpha hc, isCased_of_isAlpha hl]

/-- The lower case of a character is passed over if the character is. -/
@[simp] theorem isCaseIgnorable_toLower (c : Char) :
    isCaseIgnorable c.toLower = isCaseIgnorable c := by
  rcases Text.toLower_eq_or_isAlpha c with h | ⟨hc, hl⟩
  · rw [h]
  · rw [isCaseIgnorable_of_isAlpha hc, isCaseIgnorable_of_isAlpha hl]

/-- A character and its lower case have the same full lower case. -/
@[simp] theorem lowercaseChar_toLower (c : Char) : lowercaseChar c.toLower = lowercaseChar c := by
  by_cases h : Text.isAsciiChar c = true
  · rw [lowercaseChar, lowercaseChar, if_pos h, if_pos (Text.isAsciiChar_toLower h),
      Text.toLower_toLower]
  · rw [Text.toLower_of_not_isAsciiChar (by simpa using h)]

/-- A lowered text starts with a cased letter if the text does. -/
@[simp] theorem startsCased_lower (t : Text) : startsCased (Text.lower t) = startsCased t := by
  unfold startsCased
  rw [Text.dropWhile_lower isCaseIgnorable_toLower, Text.lower, List.head?_map, Option.any_map]
  simp only [isCased_toLower]

/-- Lowering a text and what stands before it keeps its full lower case. -/
theorem lowercaseFrom_lower (before t : Text) :
    lowercaseFrom (Text.lower before) (Text.lower t) = lowercaseFrom before t := by
  induction t generalizing before with
  | nil => rfl
  | cons c t ih =>
    have sigma : c.toLower = 'Σ' ↔ c = 'Σ' := Text.toLower_eq_iff (by decide)
    have tail : lowercaseFrom (c.toLower :: Text.lower before) (Text.lower t)
        = lowercaseFrom (c :: before) t := ih (c :: before)
    show lowercaseFrom (Text.lower before) (c.toLower :: Text.lower t) = _
    rw [lowercaseFrom, lowercaseFrom, tail, lowercaseSigma, lowercaseSigma, startsCased_lower,
      startsCased_lower, lowercaseChar_toLower]
    simp only [sigma]

/-- **The full lower case of a lowered text is that of the text.** -/
@[simp] theorem lowercase_lower (t : Text) : lowercase (Text.lower t) = lowercase t :=
  lowercaseFrom_lower [] t

/-! ## What a lower case is made of -/

/-- A table of runs, from its characters one by one. -/
theorem runs_ofList {table : String} {l : List Char} (h : table = String.ofList l) :
    runs table = (Text.words l).map Run.ofText := by
  rw [h, runs, String.toList_ofList]

/-- The character of a valid code point has that code point. -/
theorem toNat_ofNat {n : Nat} (h : n.isValidChar) : (Char.ofNat n).toNat = n := by
  rw [Char.ofNat, dif_pos h]
  rfl

/-- **A run that leads to small letters of ASCII**, or beyond ASCII. -/
def Run.IsSmall (r : Run) : Prop :=
  let last := r.image + (r.range.last - r.range.first)
  (0x61 ≤ r.image ∧ last ≤ 0x7A) ∨ (0x80 ≤ r.image ∧ last < 0xD800) ∨
    (0xE000 ≤ r.image ∧ last < 0x110000)

/-- Whether a run leads to small letters can be computed. -/
instance (r : Run) : Decidable r.IsSmall :=
  inferInstanceAs (Decidable (_ ∨ _ ∨ _))

/-- What such a run leads to in ASCII is a small letter. -/
theorem Run.IsSmall.isLower_of_image? {r : Run} (hr : r.IsSmall) {c d : Char}
    (h : r.image? c = some d) (hd : Text.isAsciiChar d = true) : d.isLower = true := by
  have hd : d.toNat < 0x80 := UInt32.lt_iff_toNat_lt.1 (of_decide_eq_true hd)
  unfold Run.image? at h
  split at h
  · next hc =>
    simp only [Range.contains, Bool.and_eq_true, decide_eq_true_eq] at hc
    unfold IsSmall at hr
    have valid : (r.image + (c.toNat - r.range.first)).isValidChar := by
      unfold Nat.isValidChar
      omega
    have code : d.toNat = r.image + (c.toNat - r.range.first) := by
      rw [← Option.some.inj h, toNat_ofNat valid]
    have small : 0x61 ≤ d.toNat ∧ d.toNat ≤ 0x7A := by omega
    exact Bool.and_eq_true_iff.2 ⟨decide_eq_true (UInt32.le_iff_toNat_le.2 small.1),
      decide_eq_true (UInt32.le_iff_toNat_le.2 small.2)⟩
  · cases h

/-- The table of lower case leads to small letters. -/
theorem isSmall_of_mem_lowercaseRuns : ∀ r ∈ lowercaseRuns, r.IsSmall := by
  rw [lowercaseRuns, runs_ofList rfl]
  decide +kernel

/-- **Of a character beyond ASCII, the lower case has only small letters in
ASCII**: `k` for the sign of kelvins, and `i` for `İ`. -/
theorem isLower_of_mem_lowercaseChar {c d : Char} (hc : Text.isAsciiChar c = false)
    (h : d ∈ lowercaseChar c) (hd : Text.isAsciiChar d = true) : d.isLower = true := by
  rw [lowercaseChar, if_neg (by simp [hc])] at h
  split at h
  · simp only [List.mem_cons, List.not_mem_nil, or_false] at h
    rcases h with rfl | rfl
    · rfl
    · exact absurd hd (by decide)
  · cases himage : image? lowercaseRuns c with
    | none =>
      rw [himage, List.mem_singleton, Option.getD_none] at h
      rw [h, hc] at hd
      cases hd
    | some d' =>
      rw [himage, List.mem_singleton, Option.getD_some] at h
      obtain ⟨r, hr, hrun⟩ := List.exists_of_findSome?_eq_some himage
      exact (isSmall_of_mem_lowercaseRuns r hr).isLower_of_image? (h ▸ hrun) hd

/-- A small letter is its own lower case. -/
theorem toLower_of_isLower {c : Char} (h : c.isLower = true) : c.toLower = c :=
  Text.forall_toLower (P := fun c d => c.isLower = true → d = c) (fun _ _ => rfl) (by decide) c h

/-- The lower case of a character is not lowered further. -/
theorem toLower_of_mem_lowercaseChar {c d : Char} (h : d ∈ lowercaseChar c) : d.toLower = d := by
  cases hc : Text.isAsciiChar c with
  | true =>
    rw [lowercaseChar, if_pos hc] at h
    rw [List.mem_singleton.1 h, Text.toLower_toLower]
  | false =>
    cases hd : Text.isAsciiChar d with
    | true => exact toLower_of_isLower (isLower_of_mem_lowercaseChar hc h hd)
    | false => exact Text.toLower_of_not_isAsciiChar hd

/-- **A lower case is not lowered further.** -/
@[simp] theorem lower_lowercase (t : Text) : Text.lower (lowercase t) = lowercase t := by
  suffices ∀ before, ∀ d ∈ lowercaseFrom before t, d.toLower = d from
    (List.map_congr_left (this [])).trans (List.map_id _)
  induction t with
  | nil => exact fun _ _ h => nomatch h
  | cons c t ih =>
    intro before d hd
    rcases List.mem_append.1 hd with hd | hd
    · split at hd
      · unfold lowercaseSigma at hd
        split at hd <;> rw [List.mem_singleton.1 hd] <;> decide
      · exact toLower_of_mem_lowercaseChar hd
    · exact ih (c :: before) d hd

/-- Without a capital sigma, characters are lowered one by one. -/
theorem lowercaseFrom_of_notMem {t : Text} (h : 'Σ' ∉ t) (before : Text) :
    lowercaseFrom before t = t.flatMap lowercaseChar := by
  induction t generalizing before with
  | nil => rfl
  | cons c t ih =>
    have hc : c ≠ 'Σ' := fun hc => h (hc ▸ List.mem_cons_self)
    rw [lowercaseFrom, if_neg hc, ih (fun ht => h (List.mem_cons_of_mem c ht)), List.flatMap_cons]

/-- A text whose lower case is ASCII has no capital sigma. -/
theorem sigma_notMem_of_isAscii {before t : Text}
    (h : Text.isAscii (lowercaseFrom before t) = true) : 'Σ' ∉ t := by
  induction t generalizing before with
  | nil => exact List.not_mem_nil
  | cons c t ih =>
    rw [lowercaseFrom, Text.isAscii, List.all_append, Bool.and_eq_true] at h
    rw [List.mem_cons, not_or]
    refine ⟨?_, ih h.2⟩
    rintro rfl
    have sigma := h.1
    rw [if_pos rfl, lowercaseSigma] at sigma
    split at sigma <;> exact absurd sigma (by decide)

/-- **A text whose lower case is ASCII** is lowered character by character. -/
theorem lowercase_of_isAscii {t : Text} (h : Text.isAscii (lowercase t) = true) :
    lowercase t = t.flatMap lowercaseChar :=
  lowercaseFrom_of_notMem (sigma_notMem_of_isAscii h) []

/-- If the lower case of a text is ASCII, so is that of any start of it. -/
theorem isAscii_lowercase_of_append {s t : Text} (h : Text.isAscii (lowercase (s ++ t)) = true) :
    Text.isAscii (lowercase s) = true := by
  have lacks := sigma_notMem_of_isAscii h
  rw [lowercase_of_isAscii h, List.flatMap_append, Text.isAscii, List.all_append,
    Bool.and_eq_true] at h
  rw [lowercase, lowercaseFrom_of_notMem fun hs => lacks (List.mem_append_left t hs)]
  exact h.1

end ContentFilter.Unicode

namespace ContentFilter.Hostname

/-- **A lowered hostname has the normal form of the hostname.** -/
@[simp] theorem normalize?_lower [IdnaService] (hostname : Text) :
    normalize? (Text.lower hostname) = normalize? hostname := by
  rw [normalize?, normalize?, Unicode.lowercase_lower]

end ContentFilter.Hostname
