import ContentFilter.Hash
import Mathlib.Algebra.BigOperators.Fin
import Mathlib.Data.Nat.ModEq

/-!
# The hash of a text is a polynomial

The hash of a text is stored and compared between programs, so it has to be a
number that follows from the text alone: the sum of its UTF-16 code units, each
times a power of 31 that falls from unit to unit, modulo `2 ^ 32`.

Nobody computes it that way. A machine shifts and subtracts where the hash
multiplies (`Hash.roll`), losing the bits that are shifted out, and it takes the
bytes of an ASCII text and the code units of any other one
(`Hash.ofTextByPath`). Neither shows. Each step is a step of the polynomial
modulo `2 ^ 32` (`Hash.roll_eq`), whatever was lost in it, and the bytes of an
ASCII text are its code units. So the hash of two texts one behind the other
follows from their hashes and the number of units of the second one, even where
only one of the two is ASCII and the parts are hashed in different ways
(`Hash.toNat_ofText_eq_sum`).
-/

namespace ContentFilter

/-! ## UTF-16 -/

namespace Text

/-- **The UTF-16 form of a text**, character by character. A character below
65536 is one code unit, and any other one is two: ten bits of what it is beyond
65536 in a high surrogate, and ten in a low one. -/
inductive IsUtf16 : Text → List UInt32 → Prop
  /-- The empty text has no code units. -/
  | nil : IsUtf16 [] []
  /-- One unit. -/
  | unit {c : Char} {t : Text} {us : List UInt32} (small : c.toNat < 0x10000)
      (rest : IsUtf16 t us) : IsUtf16 (c :: t) (c.val :: us)
  /-- Two surrogates. -/
  | surrogates {c : Char} {t : Text} {us : List UInt32} {high low : UInt32}
      (isHigh : 0xD800 ≤ high.toNat ∧ high.toNat < 0xDC00)
      (isLow : 0xDC00 ≤ low.toNat ∧ low.toNat < 0xE000)
      (code : c.toNat = 0x10000 + (high.toNat - 0xD800) * 0x400 + (low.toNat - 0xDC00))
      (rest : IsUtf16 t us) : IsUtf16 (c :: t) (high :: low :: us)

/-- The code unit of a character below 65536. -/
theorem unitsOfChar_of_lt {c : Char} (h : c.toNat < 0x10000) : unitsOfChar c = [c.val] := by
  have small : c.val < 0x10000 := UInt32.lt_iff_toNat_lt.2 h
  rw [unitsOfChar, if_pos small]

/-- No character is as large as 1114112. -/
theorem toNat_lt_of_char (c : Char) : c.toNat < 0x110000 := by
  rcases c.valid with h | h
  · exact Nat.lt_trans h (by decide)
  · exact h.2

/-- The surrogates of any other character. -/
theorem exists_unitsOfChar_of_le {c : Char} (h : 0x10000 ≤ c.toNat) :
    ∃ high low, unitsOfChar c = [high, low] ∧
      high.toNat = 0xD800 + (c.toNat - 0x10000) / 0x400 ∧
      low.toNat = 0xDC00 + (c.toNat - 0x10000) % 0x400 := by
  have bound := toNat_lt_of_char c
  have large : (0x10000 : UInt32) ≤ c.val := UInt32.le_iff_toNat_le.2 h
  have beyond : (c.val - 0x10000).toNat = c.toNat - 0x10000 := UInt32.toNat_sub_of_le _ _ large
  refine ⟨_, _, if_neg (UInt32.not_lt.2 large), ?_, ?_⟩
  · rw [UInt32.toNat_add, UInt32.toNat_shiftRight, beyond, Nat.shiftRight_eq_div_pow]
    exact Nat.mod_eq_of_lt (by simp; omega)
  · rw [UInt32.toNat_add, UInt32.toNat_and, beyond]
    show (0xDC00 + ((c.toNat - 0x10000) &&& 2 ^ 10 - 1)) % 2 ^ 32 = _
    rw [Nat.and_two_pow_sub_one_eq_mod]
    omega

/-- **A text has one UTF-16 form**: its code units. -/
theorem isUtf16_iff {t : Text} {us : List UInt32} : t.IsUtf16 us ↔ us = units t := by
  constructor
  · intro h
    induction h with
    | nil => rfl
    | @unit c t us small _ ih =>
      show _ = unitsOfChar c ++ units t
      rw [unitsOfChar_of_lt small, ih]
      rfl
    | @surrogates c t us high low isHigh isLow code _ ih =>
      obtain ⟨high', low', hunits, hhigh, hlow⟩ := exists_unitsOfChar_of_le (c := c) (by omega)
      obtain rfl : high = high' := UInt32.toNat_inj.1 (by omega)
      obtain rfl : low = low' := UInt32.toNat_inj.1 (by omega)
      show _ = unitsOfChar c ++ units t
      rw [hunits, ih]
      rfl
  · rintro rfl
    induction t with
    | nil => exact .nil
    | cons c t ih =>
      show IsUtf16 (c :: t) (unitsOfChar c ++ units t)
      by_cases small : c.toNat < 0x10000
      · rw [unitsOfChar_of_lt small]
        exact .unit small ih
      · have bound := toNat_lt_of_char c
        obtain ⟨high, low, hunits, hhigh, hlow⟩ := exists_unitsOfChar_of_le (Nat.not_lt.1 small)
        rw [hunits]
        exact .surrogates (by omega) (by omega) (by omega) ih

end Text

namespace Hash

/-! ## As machines compute it -/

/-- **One step of a machine**: the hash is shifted by five bits and taken off
again, and the word is added. -/
def roll (h : Hash) (u : UInt32) : Hash :=
  (h <<< 5) - h + u

/-- The hash of a list of words, as a machine computes it. -/
def rolled (words : List UInt32) : Hash :=
  words.foldl roll 0

/-- The hash of the bytes of a text. -/
def ofBytes (t : Text) : Hash :=
  rolled (t.utf8.map UInt8.toUInt32)

/-- The hash of the UTF-16 code units of a text. -/
def ofUnits (t : Text) : Hash :=
  rolled t.units

/-- **The hash of a text, as a machine computes it**: of the bytes of an ASCII
text, and of the code units of any other one. -/
def ofTextByPath (t : Text) : Hash :=
  if t.isAscii then ofBytes t else ofUnits t

/-- **A step of a machine is a step of the polynomial.** -/
theorem roll_eq (h : Hash) (u : UInt32) : roll h u = h * 31 + u := by
  have shifted : h <<< 5 = h * 32 := by
    rw [← UInt32.toNat_inj, UInt32.toNat_shiftLeft, UInt32.toNat_mul, Nat.shiftLeft_eq]
    rfl
  rw [roll, shifted]
  grind

/-- A machine computes the polynomial hash of a list of words. -/
theorem rolled_eq_polynomial (words : List UInt32) : rolled words = polynomial words := by
  unfold rolled polynomial polynomialFrom
  congr 1
  funext h u
  exact roll_eq h u

/-- The code units of any text give its hash. -/
theorem ofUnits_eq_ofText (t : Text) : ofUnits t = ofText t :=
  rolled_eq_polynomial _

/-- The bytes of an ASCII text give its hash. -/
theorem ofBytes_eq_ofText {t : Text} (h : t.isAscii = true) : ofBytes t = ofText t := by
  rw [ofBytes, rolled_eq_polynomial, ← Text.units_eq_utf8 h]
  rfl

/-- **Either way gives the hash of the text.** -/
theorem ofTextByPath_eq_ofText (t : Text) : ofTextByPath t = ofText t := by
  unfold ofTextByPath
  split
  · next h => exact ofBytes_eq_ofText h
  · exact ofUnits_eq_ofText t

/-- The bytes of another text do not: `é` has two of them, and one code unit. -/
example : ofBytes ['é'] ≠ ofText ['é'] := by decide

/-! ## As a sum -/

/-- **A polynomial hash that is continued** is moved up by a power of 31 for each
word, and each word by one for each word behind it. -/
theorem toNat_polynomialFrom (h : Hash) (us : List UInt32) :
    (polynomialFrom h us).toNat =
      (h.toNat * 31 ^ us.length +
        ∑ i : Fin us.length, us[i].toNat * 31 ^ (us.length - 1 - i)) % 2 ^ 32 := by
  induction us generalizing h with
  | nil => simp [polynomialFrom, Nat.mod_eq_of_lt h.toNat_lt]
  | cons u us ih =>
    have first : (∑ i : Fin (u :: us).length,
        (u :: us)[i].toNat * 31 ^ ((u :: us).length - 1 - i)) =
          u.toNat * 31 ^ us.length +
            ∑ i : Fin us.length, us[i].toNat * 31 ^ (us.length - 1 - i) := by
      refine (Fin.sum_univ_succ _).trans (congrArg _ (Finset.sum_congr rfl fun i _ => ?_))
      show us[i].toNat * 31 ^ (us.length - (i + 1)) = _
      rw [Nat.sub_sub, Nat.add_comm 1]
    have step : (h * 31 + u).toNat = (h.toNat * 31 + u.toNat) % 2 ^ 32 := by
      rw [UInt32.toNat_add, UInt32.toNat_mul, Nat.mod_add_mod]
      rfl
    have wrapped := ((Nat.mod_modEq (h.toNat * 31 + u.toNat) (2 ^ 32)).mul_right
      (31 ^ us.length)).add_right (∑ i : Fin us.length, us[i].toNat * 31 ^ (us.length - 1 - i))
    show (polynomialFrom (h * 31 + u) us).toNat = _
    rw [ih, step, wrapped, first, Nat.add_mul, Nat.mul_assoc, ← Nat.pow_succ', Nat.add_assoc]
    rfl

/-- **The polynomial hash of a list of words as a sum.** -/
theorem toNat_polynomial (us : List UInt32) :
    (polynomial us).toNat =
      (∑ i : Fin us.length, us[i].toNat * 31 ^ (us.length - 1 - i)) % 2 ^ 32 := by
  have sum := toNat_polynomialFrom 0 us
  rwa [UInt32.toNat_zero, Nat.zero_mul, Nat.zero_add] at sum

/-- The polynomial hash of a concatenation follows from those of its parts. -/
theorem toNat_polynomial_append (s t : List UInt32) :
    (polynomial (s ++ t)).toNat =
      ((polynomial s).toNat * 31 ^ t.length + (polynomial t).toNat) % 2 ^ 32 := by
  rw [polynomial_append, toNat_polynomialFrom, toNat_polynomial t, Nat.add_mod_mod]

/-- **The hash of a text is one polynomial**, however it is computed: the sum of
its UTF-16 code units, each times 31 to the number of units behind it, modulo
`2 ^ 32`. The code units of any text and the bytes of an ASCII text both give
it. For a text behind another one the hash of the other one is moved up by a
power of 31 for each of its units, whichever way each of the three is
computed. -/
theorem toNat_ofText_eq_sum {t : Text} {us : List UInt32} (h : t.IsUtf16 us) :
    (ofText t).toNat =
        (∑ i : Fin us.length, us[i].toNat * 31 ^ (us.length - 1 - i)) % 2 ^ 32 ∧
      ofUnits t = ofText t ∧ (t.isAscii = true → ofBytes t = ofText t) ∧
      ofTextByPath t = ofText t ∧
      ∀ s : Text, (ofTextByPath (s ++ t)).toNat =
        ((ofTextByPath s).toNat * 31 ^ us.length + (ofTextByPath t).toNat) % 2 ^ 32 := by
  obtain rfl := Text.isUtf16_iff.1 h
  refine ⟨toNat_polynomial _, ofUnits_eq_ofText t, ofBytes_eq_ofText, ofTextByPath_eq_ofText t,
    fun s => ?_⟩
  rw [ofTextByPath_eq_ofText, ofTextByPath_eq_ofText, ofTextByPath_eq_ofText, ofText,
    Text.units_append]
  exact toNat_polynomial_append s.units t.units

/-- A letter of two bytes and a character of two surrogates, behind a text that
is ASCII. -/
theorem toNat_ofText_eq_sum_surrogates :
    Text.IsUtf16 "é😀".toList [0xE9, 0xD83D, 0xDE00] ∧
      (ofText "é😀".toList).toNat = 0xE9 * 31 ^ 2 + 0xD83D * 31 + 0xDE00 ∧
      (ofTextByPath ("ads".toList ++ "é😀".toList)).toNat =
        ((ofTextByPath "ads".toList).toNat * 31 ^ 3 +
          (ofTextByPath "é😀".toList).toNat) % 2 ^ 32 := by
  have form : Text.IsUtf16 "é😀".toList [0xE9, 0xD83D, 0xDE00] := Text.isUtf16_iff.2 rfl
  obtain ⟨sum, -, -, -, behind⟩ := toNat_ofText_eq_sum form
  exact ⟨form, sum, behind "ads".toList⟩

end Hash

end ContentFilter
