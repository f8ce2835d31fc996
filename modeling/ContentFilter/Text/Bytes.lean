import ContentFilter.Text.Basic

/-!
# The bytes of a text

URLs are compared byte by byte in their UTF-8 form, and the public suffix
of a hostname is measured in bytes. This module gives the bytes of a
text, their number, and the one way in which a text is cut at a number of
bytes: `cutBytes?` cuts only between two characters, and the equation
`cutBytes?_eq_some` says that it finds every such cut.
-/

namespace ContentFilter.Text

/-- **The UTF-8 form of a text.** -/
def utf8 (t : Text) : List UInt8 :=
  t.flatMap String.utf8EncodeChar

/-- The empty text has no bytes. -/
@[simp] theorem utf8_nil : utf8 [] = [] := rfl

/-- The bytes of the first character come first. -/
@[simp] theorem utf8_cons (c : Char) (t : Text) :
    utf8 (c :: t) = String.utf8EncodeChar c ++ utf8 t := rfl

/-- The bytes of a concatenation. -/
@[simp] theorem utf8_append (s t : Text) : utf8 (s ++ t) = utf8 s ++ utf8 t := by
  simp [utf8]

/-- **The number of bytes of a text.** -/
def byteLength : Text → Nat
  | [] => 0
  | c :: t => c.utf8Size + byteLength t

/-- The byte length counts the bytes. -/
theorem length_utf8 (t : Text) : (utf8 t).length = byteLength t := by
  induction t with
  | nil => rfl
  | cons c t ih => simp [byteLength, ih]

/-- Byte lengths add up. -/
@[simp] theorem byteLength_append (s t : Text) :
    byteLength (s ++ t) = byteLength s + byteLength t := by
  simp [← length_utf8]

/-- **The two parts of a text cut after `n` bytes**; there are none if the
cut would fall inside a character or behind the end. -/
def cutBytes? : Nat → Text → Option (Text × Text)
  | 0, t => some ([], t)
  | _ + 1, [] => none
  | n + 1, c :: t =>
    if c.utf8Size ≤ n + 1 then
      (cutBytes? (n + 1 - c.utf8Size) t).map fun (l, r) => (c :: l, r)
    else none

/-- Cuts are found exactly where the first part has the asked size. -/
theorem cutBytes?_eq_some {n : Nat} {t l r : Text} :
    cutBytes? n t = some (l, r) ↔ t = l ++ r ∧ byteLength l = n := by
  fun_induction cutBytes? n t generalizing l with
  | case1 t =>
    cases l with
    | nil => simp [byteLength, eq_comm]
    | cons a l =>
      have := a.utf8Size_pos
      simp only [Option.some.injEq, Prod.mk.injEq, List.nil_eq, reduceCtorEq, false_and,
        byteLength, false_iff, not_and]
      omega
  | case2 n =>
    simp only [reduceCtorEq, false_iff, not_and, List.nil_eq_append_iff]
    rintro ⟨rfl, -⟩
    simp [byteLength]
  | case3 n c t h ih =>
    cases l with
    | nil => simp [byteLength]
    | cons a l =>
      rw [Option.map_eq_some_iff]
      simp only [Prod.exists, Prod.mk.injEq, List.cons.injEq, List.cons_append, byteLength]
      constructor
      · rintro ⟨l', r', h', ⟨rfl, rfl⟩, rfl⟩
        obtain ⟨rfl, hn⟩ := ih.1 h'
        exact ⟨⟨rfl, rfl⟩, by omega⟩
      · rintro ⟨⟨rfl, rfl⟩, hn⟩
        exact ⟨l, r, ih.2 ⟨rfl, by omega⟩, ⟨rfl, rfl⟩, rfl⟩
  | case4 n c t h =>
    cases l with
    | nil => simp [byteLength]
    | cons a l =>
      simp only [reduceCtorEq, List.cons_append, List.cons.injEq, byteLength, false_iff, not_and,
        and_imp]
      rintro rfl -
      omega

/-- **A place between two characters**, given by the number of bytes before
it. -/
def IsBoundary (t : Text) (n : Nat) : Prop :=
  ∃ l r, t = l ++ r ∧ byteLength l = n

/-- **A text cut before its last `n` bytes.** -/
def cutLastBytes? (n : Nat) (t : Text) : Option (Text × Text) :=
  if n ≤ byteLength t then cutBytes? (byteLength t - n) t else none

/-- The second part of such a cut has the asked size. -/
theorem cutLastBytes?_eq_some {n : Nat} {t l r : Text} :
    cutLastBytes? n t = some (l, r) ↔ t = l ++ r ∧ byteLength r = n := by
  rw [cutLastBytes?]
  split
  · next h =>
    rw [cutBytes?_eq_some]
    refine and_congr_right fun ht => ?_
    subst ht
    rw [byteLength_append] at h ⊢
    omega
  · next h =>
    simp only [reduceCtorEq, false_iff, not_and]
    rintro rfl
    rw [byteLength_append] at h
    omega

/-- **The place so many bytes before the end of a text.** A text that is shorter has no
such place. -/
def placeFromEnd? (n : Nat) (t : Text) : Option Nat :=
  if n ≤ byteLength t then some (byteLength t - n) else none

/-- A text has the places in it. -/
theorem placeFromEnd?_of_le {n : Nat} {t : Text} (h : n ≤ byteLength t) :
    placeFromEnd? n t = some (byteLength t - n) :=
  if_pos h

/-- A text has no place before its start. -/
theorem placeFromEnd?_of_lt {n : Nat} {t : Text} (h : byteLength t < n) :
    placeFromEnd? n t = none :=
  if_neg (Nat.not_le_of_lt h)

end ContentFilter.Text
