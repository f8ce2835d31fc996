import ContentFilter.Proofs.Unicode.Lowercase
import ContentFilter.Unicode.Composition

/-!
# Capitals and composition

A capital of ASCII can hide in a letter with marks: `Ǟ` falls apart into `A` and
two marks when a text is composed, and what falls apart need not be put together
again. So a text without capitals of ASCII may get some by being composed.

`isCapital` tells the letters that can do that, together with the capitals of
ASCII themselves. Which letters these are is read off a table, `capitalRuns`,
which has a few letters more, and all that matters is checked: a letter that
composes from a capital is a capital, and nothing composes to a capital of ASCII
(`keepsCapitals_compositions`). A text without capitals in this sense is composed
to one without capitals of ASCII (`isUpper_of_mem_composed`).
-/

namespace ContentFilter.Unicode

/-! ## Code points on a run -/

/-- **Whether a code point is on a run.** -/
def Run.has (r : Run) (n : Nat) : Bool :=
  r.range.first ≤ n && n ≤ r.range.last && (n - r.range.first) % r.step == 0

/-- The places of a run, counted from its first code point. -/
def Run.offsets (r : Run) : List Nat :=
  (List.range (r.range.last - r.range.first + 1)).filter (· % r.step == 0)

/-- The characters on a run are those with an image. -/
theorem Run.image?_eq (r : Run) (c : Char) :
    r.image? c =
      if r.has c.toNat then some (Char.ofNat (r.image + (c.toNat - r.range.first))) else none :=
  rfl

/-- A code point on a run has its place there. -/
theorem Run.sub_mem_offsets {r : Run} {n : Nat} (h : r.has n = true) :
    n - r.range.first ∈ r.offsets := by
  simp only [has, Bool.and_eq_true, decide_eq_true_eq] at h
  refine List.mem_filter.2 ⟨List.mem_range.2 ?_, h.2⟩
  omega

/-- A character has the code point it was made from, or that of no letter. -/
theorem toNat_ofNat_eq_or (n : Nat) : (Char.ofNat n).toNat = n ∨ (Char.ofNat n).toNat = 0 := by
  by_cases h : n.isValidChar
  · exact .inl (toNat_ofNat h)
  · refine .inr ?_
    rw [Char.ofNat, dif_neg h]
    rfl

/-! ## Capitals -/

/-- **The capital letters of Latin scripts** that have a small letter beyond ASCII, with that
letter. -/
def capitalRuns : List Run :=
  [⟨⟨0x00C0, 0x00D6⟩, 1, 0x00E0⟩, ⟨⟨0x00D8, 0x00DE⟩, 1, 0x00F8⟩, ⟨⟨0x0100, 0x012E⟩, 2, 0x0101⟩,
    ⟨⟨0x0134, 0x0136⟩, 2, 0x0135⟩, ⟨⟨0x0139, 0x013D⟩, 2, 0x013A⟩, ⟨⟨0x0141, 0x0147⟩, 2, 0x0142⟩,
    ⟨⟨0x014A, 0x0176⟩, 2, 0x014B⟩, ⟨⟨0x0178, 0x0178⟩, 1, 0x00FF⟩, ⟨⟨0x0179, 0x017D⟩, 2, 0x017A⟩,
    ⟨⟨0x01A0, 0x01A4⟩, 2, 0x01A1⟩, ⟨⟨0x01AF, 0x01AF⟩, 1, 0x01B0⟩, ⟨⟨0x01CD, 0x01DB⟩, 2, 0x01CE⟩,
    ⟨⟨0x01DE, 0x01EE⟩, 2, 0x01DF⟩, ⟨⟨0x01F4, 0x01F4⟩, 1, 0x01F5⟩, ⟨⟨0x01F8, 0x021E⟩, 2, 0x01F9⟩,
    ⟨⟨0x0222, 0x0232⟩, 2, 0x0223⟩, ⟨⟨0x1E00, 0x1E94⟩, 2, 0x1E01⟩, ⟨⟨0x1EA0, 0x1EFE⟩, 2, 0x1EA1⟩]

/-- Whether a code point is that of a capital; `İ` has two characters as its small letter. All
beyond ASCII are in two blocks. -/
def isCapitalCode (n : Nat) : Bool :=
  (0x41 ≤ n && n ≤ 0x5A) ||
    (((0xC0 ≤ n && n ≤ 0x232) || (0x1E00 ≤ n && n ≤ 0x1EFE)) &&
      (n == 0x130 || capitalRuns.any (·.has n)))

/-- **A capital**: one of ASCII, or a letter of the table. -/
def isCapital (c : Char) : Bool :=
  isCapitalCode c.toNat

/-- The codes of the capitals of ASCII. -/
theorem isUpper_iff {c : Char} : c.isUpper = true ↔ 0x41 ≤ c.toNat ∧ c.toNat ≤ 0x5A := by
  constructor
  · intro h
    have bounds : c.val ≥ 'A'.val ∧ c.val ≤ 'Z'.val := of_decide_eq_true h
    exact ⟨UInt32.le_iff_toNat_le.1 bounds.1, UInt32.le_iff_toNat_le.1 bounds.2⟩
  · intro h
    exact decide_eq_true ⟨UInt32.le_iff_toNat_le.2 h.1, UInt32.le_iff_toNat_le.2 h.2⟩

/-- The codes of the characters of ASCII. -/
theorem isAsciiChar_iff {c : Char} : Text.isAsciiChar c = true ↔ c.toNat < 0x80 := by
  rw [Text.isAsciiChar, decide_eq_true_eq, UInt32.lt_iff_toNat_lt]
  exact Iff.rfl

/-- The capitals of ASCII are capitals. -/
theorem isCapital_of_isUpper {c : Char} (h : c.isUpper = true) : isCapital c = true := by
  obtain ⟨hl, hu⟩ := isUpper_iff.1 h
  simp [isCapital, isCapitalCode, hl, hu]

/-- A character that is no capital is none of ASCII. -/
theorem isUpper_of_not_isCapital {c : Char} (h : isCapital c = false) : c.isUpper = false :=
  Bool.eq_false_iff.2 fun hupper => Bool.eq_false_iff.1 h (isCapital_of_isUpper hupper)

/-- The code point a capital was made from is one of a capital. -/
theorem isCapitalCode_of_isCapital_ofNat {n : Nat} (h : isCapital (Char.ofNat n) = true) :
    isCapitalCode n = true := by
  unfold isCapital at h
  rcases toNat_ofNat_eq_or n with hn | hn
  · rwa [hn] at h
  · rw [hn] at h
    exact absurd h (by decide)

/-- The codes of capitals lie in ASCII or in one of two blocks. -/
theorem bounds_of_isCapitalCode {n : Nat} (h : isCapitalCode n = true) :
    (0x41 ≤ n ∧ n ≤ 0x5A) ∨ (0xC0 ≤ n ∧ n ≤ 0x232) ∨ (0x1E00 ≤ n ∧ n ≤ 0x1EFE) := by
  simp only [isCapitalCode, Bool.or_eq_true, Bool.and_eq_true, decide_eq_true_eq] at h
  omega

/-- In ASCII there are no other capitals. -/
theorem not_isCapital_of_isAsciiChar {c : Char} (hc : Text.isAsciiChar c = true)
    (h : c.isUpper = false) : isCapital c = false := by
  have hlt := isAsciiChar_iff.1 hc
  refine Bool.eq_false_iff.2 fun hcapital => ?_
  have hletter := mt isUpper_iff.2 (Bool.eq_false_iff.1 h)
  have bounds := bounds_of_isCapitalCode hcapital
  omega

/-- Beyond ASCII the capitals are `İ` and those of the table. -/
theorem exists_of_isCapital {c : Char} (hc : Text.isAsciiChar c = false)
    (h : isCapital c = true) : c = 'İ' ∨ ∃ r ∈ capitalRuns, r.has c.toNat = true := by
  have hge := mt isAsciiChar_iff.2 (Bool.eq_false_iff.1 hc)
  simp only [isCapital, isCapitalCode, Bool.or_eq_true, Bool.and_eq_true, decide_eq_true_eq,
    beq_iff_eq, List.any_eq_true] at h
  rcases h with hletter | ⟨-, hdotted | htable⟩
  · omega
  · exact .inl (Char.ext (UInt32.toNat_inj.1 hdotted))
  · exact .inr htable

/-! ## Composition -/

/-- **A run that keeps capitals**: it leads from capitals to capitals. -/
def Run.KeepsCapitals (r : Run) : Prop :=
  ∀ k ∈ r.offsets, isCapitalCode (r.range.first + k) = true → isCapitalCode (r.image + k) = true

/-- Whether a run keeps capitals can be computed. -/
instance (r : Run) : Decidable r.KeepsCapitals :=
  inferInstanceAs (Decidable (∀ k ∈ r.offsets, _))

/-- **What the table of pairs does to capitals**: the second characters are beyond ASCII,
capitals lead to capitals, and nothing leads to a capital of ASCII. -/
theorem keepsCapitals_compositions :
    ∀ p ∈ compositions, 0x80 ≤ p.1 ∧ ∀ r ∈ p.2, r.KeepsCapitals ∧ r.IsSmall := by
  unfold compositions
  repeat' refine List.forall_mem_cons.2 ⟨?_, ?_⟩
  -- one goal for each second character, and one for the end of the table
  all_goals first
    | exact List.forall_mem_nil _
    | refine ⟨by decide, ?_⟩
      rw [runs_ofList rfl]
      decide +kernel

/-- A character made from a code point beyond ASCII is no capital of ASCII. -/
theorem isUpper_ofNat {n : Nat} (h : 0x80 ≤ n) : (Char.ofNat n).isUpper = false := by
  refine Bool.eq_false_iff.2 fun hupper => ?_
  have bounds := isUpper_iff.1 hupper
  rcases toNat_ofNat_eq_or n with hn | hn <;> omega

/-- **A letter that falls apart into a capital and a mark is a capital.** -/
theorem isCapital_of_decomposePair? {c base mark : Char}
    (h : decomposePair? c = some (base, mark)) :
    (isCapital base = true → isCapital c = true) ∧ mark.isUpper = false := by
  obtain ⟨⟨code, rs⟩, hmem, h⟩ := List.exists_of_findSome?_eq_some h
  obtain ⟨hmark, hruns⟩ := keepsCapitals_compositions _ hmem
  obtain ⟨base', hsource, he⟩ := Option.map_eq_some_iff.1 h
  cases he
  refine ⟨fun hbase => ?_, isUpper_ofNat hmark⟩
  obtain ⟨r, hr, hsource⟩ := List.exists_of_findSome?_eq_some hsource
  unfold Run.source? at hsource
  dsimp only at hsource
  split at hsource
  · next hplace =>
    cases hsource
    simp only [Bool.and_eq_true, decide_eq_true_eq] at hplace
    obtain ⟨⟨hle, hstep⟩, hlast⟩ := hplace
    have place : c.toNat - r.image ∈ r.offsets :=
      List.mem_filter.2 ⟨List.mem_range.2 (by omega), hstep⟩
    have capital := (hruns r hr).1 _ place (isCapitalCode_of_isCapital_ofNat hbase)
    rwa [Nat.add_sub_cancel' hle] at capital
  · cases hsource

/-- Marks are split off a character without meeting a capital of ASCII. -/
theorem isUpper_of_mem_splitMarks {depth : Nat} {c : Char} (h : isCapital c = false) :
    ∀ d ∈ splitMarks decomposePair? depth c, d.isUpper = false := by
  -- the function is one of which only this is known
  have splits {c base mark : Char} (h : decomposePair? c = some (base, mark)) :=
    isCapital_of_decomposePair? h
  generalize decomposePair? = pair? at splits
  induction depth generalizing c with
  | zero =>
    intro d hd
    rw [List.mem_singleton.1 hd]
    exact isUpper_of_not_isCapital h
  | succ depth ih =>
    intro d hd
    rw [splitMarks] at hd
    split at hd
    · next base mark hpair =>
      obtain ⟨hbase, hmark⟩ := splits hpair
      rcases List.mem_append.1 hd with hd | hd
      · exact ih (Bool.eq_false_iff.2 fun hcapital =>
          Bool.eq_false_iff.1 h (hbase hcapital)) d hd
      · rw [List.mem_singleton.1 hd]
        exact hmark
    · rw [List.mem_singleton.1 hd]
      exact isUpper_of_not_isCapital h

/-- **No capital of ASCII hides in a character that is no capital.** -/
theorem isUpper_of_mem_decompose {c : Char} (h : isCapital c = false) :
    ∀ d ∈ decompose c, d.isUpper = false := by
  unfold decompose
  split
  · intro d hd
    rw [List.mem_singleton.1 hd]
    exact isUpper_of_not_isCapital h
  · split
    · intro d hd
      obtain ⟨n, hn, rfl⟩ := List.mem_map.1 hd
      refine isUpper_ofNat ?_
      unfold decomposeHangul at hn
      dsimp only at hn
      -- the parts of a syllable are in the block of Hangul letters
      split at hn <;> simp only [List.append_nil, List.mem_append, List.mem_cons,
        List.not_mem_nil, or_false] at hn <;> omega
    · exact isUpper_of_mem_splitMarks h

/-- Putting a mark in its place adds nothing else. -/
theorem mem_insertMark {c d : Char} {t : Text} : d ∈ insertMark c t ↔ d = c ∨ d ∈ t := by
  induction t with
  | nil => exact List.mem_cons
  | cons e t ih =>
    rw [insertMark]
    split
    · rw [List.mem_cons, ih, List.mem_cons]
      exact or_left_comm
    · exact List.mem_cons

/-- **Putting marks in order keeps the characters.** -/
theorem mem_reorder {d : Char} {t : Text} : d ∈ reorder t ↔ d ∈ t := by
  induction t with
  | nil => exact Iff.rfl
  | cons c t ih =>
    rw [reorder]
    split
    · rw [List.mem_cons, List.mem_cons, ih]
    · rw [mem_insertMark, ih, List.mem_cons]

/-- A syllable of Hangul is beyond ASCII. -/
theorem le_of_composeHangul? {a b n : Nat} (h : composeHangul? a b = some n) : 0x80 ≤ n := by
  unfold composeHangul? at h
  by_cases hletters : (0x1100 ≤ a && a < 0x1113 && 0x1161 ≤ b && b < 0x1176) = true
  · rw [if_pos hletters] at h
    rw [← Option.some.inj h]
    omega
  · rw [if_neg hletters] at h
    obtain ⟨hsyllable, h⟩ := Option.ite_none_right_eq_some.1 h
    simp only [Bool.and_eq_true, decide_eq_true_eq] at hsyllable
    rw [← Option.some.inj h]
    omega

/-- **Nothing composes to a capital of ASCII.** -/
theorem isUpper_of_composePair? {a b c : Char} (h : composePair? a b = some c) :
    c.isUpper = false := by
  unfold composePair? at h
  cases hangul : composeHangul? a.toNat b.toNat with
  | some n =>
    rw [hangul] at h
    rw [← Option.some.inj h]
    exact isUpper_ofNat (le_of_composeHangul? hangul)
  | none =>
    rw [hangul] at h
    obtain ⟨rs, hlookup, himage⟩ := Option.bind_eq_some_iff.1 h
    obtain ⟨before, after, hcut, -⟩ := List.lookup_eq_some_iff.1 hlookup
    obtain ⟨r, hr, himage⟩ := List.exists_of_findSome?_eq_some himage
    have hmem : (b.toNat, rs) ∈ compositions := hcut ▸ by simp
    have small := ((keepsCapitals_compositions _ hmem).2 r hr).2
    refine Bool.eq_false_iff.2 fun hupper => ?_
    -- what a run leads to in ASCII is a small letter
    obtain ⟨-, hu⟩ := isUpper_iff.1 hupper
    have hascii := isAsciiChar_iff.2 (Nat.lt_of_le_of_lt hu (by decide))
    have hsmall := Bool.and_eq_true_iff.1 (small.isLower_of_image? himage hascii)
    have hl : 0x61 ≤ c.toNat := UInt32.le_iff_toNat_le.1 (of_decide_eq_true hsmall.1)
    omega

/-- **Composing behind a base brings no capitals of ASCII.** -/
theorem isUpper_of_mem_composeFrom {p : Pending} {t : Text} (hbase : p.base.isUpper = false)
    (hmarks : ∀ d ∈ p.marks, d.isUpper = false) (ht : ∀ d ∈ t, d.isUpper = false) :
    ∀ d ∈ composeFrom p t, d.isUpper = false := by
  have written {p : Pending} (hbase : p.base.isUpper = false)
      (hmarks : ∀ d ∈ p.marks, d.isUpper = false) : ∀ d ∈ p.toText, d.isUpper = false :=
    List.forall_mem_cons.2 ⟨hbase, fun d hd => hmarks d (List.mem_reverse.1 hd)⟩
  induction t generalizing p with
  | nil =>
    rw [composeFrom]
    exact written hbase hmarks
  | cons c t ih =>
    obtain ⟨hc, ht⟩ := List.forall_mem_cons.1 ht
    rw [composeFrom]
    split
    · next d hpair =>
      -- the base has been joined, by a character that nothing keeps from it
      obtain ⟨-, hpair⟩ := Option.ite_none_left_eq_some.1 hpair
      exact ih (isUpper_of_composePair? hpair) hmarks ht
    · split
      · exact List.forall_mem_append.2 ⟨written hbase hmarks, ih hc nofun ht⟩
      · exact ih hbase (List.forall_mem_cons.2 ⟨hc, hmarks⟩) ht

/-- Composing brings no capitals of ASCII. -/
theorem isUpper_of_mem_compose {t : Text} (h : ∀ d ∈ t, d.isUpper = false) :
    ∀ d ∈ compose t, d.isUpper = false := by
  induction t with
  | nil => exact nofun
  | cons c t ih =>
    obtain ⟨hc, ht⟩ := List.forall_mem_cons.1 h
    rw [compose]
    split
    · exact isUpper_of_mem_composeFrom hc nofun ht
    · exact List.forall_mem_cons.2 ⟨hc, ih ht⟩

/-- **A text without capitals is composed to one without capitals of ASCII.** -/
theorem isUpper_of_mem_composed {t : Text} (h : ∀ c ∈ t, isCapital c = false) :
    ∀ d ∈ composed t, d.isUpper = false := by
  refine isUpper_of_mem_compose fun d hd => ?_
  obtain ⟨c, hc, hd⟩ := List.mem_flatMap.1 (mem_reorder.1 hd)
  exact isUpper_of_mem_decompose (h c hc) d hd

end ContentFilter.Unicode
