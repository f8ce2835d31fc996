import ContentFilter.Text.Bytes

/-!
# Hashes

Domains, tokens and filters are told apart by 32-bit numbers that have to
be the same on every machine and in every program that reads the same
lists, since they are stored. Two hashes are in use, and both are folds
over a list of words, wrapping at 32 bits:

* `polynomial` takes each word `u` by `h ↦ 31 · h + u`. The hash of a text,
  `ofText`, is the polynomial hash of its UTF-16 code units; for an ASCII
  text these are its bytes (`units_eq_utf8`).
* `mix` takes each word `w` by `h ↦ (33 · h) xor w`. The identity of a
  filter is mixed from the words that describe it.

That the first fold continues over a concatenation where the first part ended
is `polynomial_append`.
-/

namespace ContentFilter

/-- **A hash**: a number of 32 bits. -/
abbrev Hash := UInt32

namespace Text

/-- **The UTF-16 code units of a character**: one, or the two surrogates of
a character beyond the first 65536. -/
def unitsOfChar (c : Char) : List UInt32 :=
  if c.val < 0x10000 then [c.val]
  else
    let offset := c.val - 0x10000
    [(0xD800 : UInt32) + (offset >>> 10), (0xDC00 : UInt32) + (offset &&& 0x3FF)]

/-- **The UTF-16 code units of a text.** -/
def units (t : Text) : List UInt32 :=
  t.flatMap unitsOfChar

/-- The code units of a concatenation. -/
@[simp] theorem units_append (s t : Text) : units (s ++ t) = units s ++ units t := by
  simp [units]

/-- The code points of a text, as words. -/
def codePoints (t : Text) : List UInt32 :=
  t.map Char.val

end Text

namespace Hash

/-- **The polynomial hash** of a list of words, continued from `h`. -/
def polynomialFrom (h : Hash) (words : List UInt32) : Hash :=
  words.foldl (fun h u => h * 31 + u) h

/-- The polynomial hash of a list of words. -/
def polynomial (words : List UInt32) : Hash :=
  polynomialFrom 0 words

/-- A polynomial hash continues over a concatenation. -/
theorem polynomial_append (s t : List UInt32) :
    polynomial (s ++ t) = polynomialFrom (polynomial s) t := by
  simp [polynomial, polynomialFrom]

/-- **The hash of a text.** -/
def ofText (t : Text) : Hash :=
  polynomial t.units

/-- The empty text has hash zero. -/
@[simp] theorem ofText_nil : ofText [] = 0 := rfl

/-- **The mixed hash** of a list of words, continued from `h`. -/
def mix (h : Hash) (words : List UInt32) : Hash :=
  words.foldl (fun h w => (h * 33) ^^^ w) h

/-- **Where mixing starts** for a filter whose flags are `flags`. -/
def seed (flags : UInt32) : Hash :=
  (5408 * 33) ^^^ flags

end Hash

namespace Text

/-- The code units of an ASCII text are its bytes. -/
theorem units_eq_utf8 {t : Text} (h : isAscii t = true) :
    units t = (utf8 t).map UInt8.toUInt32 := by
  have ascii : ∀ n : Fin 128, ∀ c : Char, c.val.toNat = n.val →
      unitsOfChar c = (String.utf8EncodeChar c).map UInt8.toUInt32 := by
    intro n c hc
    obtain rfl : c = Char.ofNat n.val := by
      rw [← hc]
      exact (Char.ofNat_toNat c).symm
    revert n
    decide
  induction t with
  | nil => rfl
  | cons c t ih =>
    simp only [isAscii, List.all_cons, Bool.and_eq_true, isAsciiChar, decide_eq_true_eq] at h
    have hc : c.val.toNat < 128 := UInt32.lt_iff_toNat_lt.1 h.1
    rw [units, List.flatMap_cons, ascii ⟨_, hc⟩ c rfl, utf8_cons, List.map_append]
    exact congrArg _ (ih (by simpa [isAscii] using h.2))

end Text

end ContentFilter
