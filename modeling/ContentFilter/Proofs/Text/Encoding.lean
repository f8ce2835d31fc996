import ContentFilter.Text.Bytes
import Mathlib.Data.List.DropRight

/-!
# Bytes and characters

URLs are compared byte by byte, while hostnames and patterns are texts. The
two views agree, because UTF-8 never takes the bytes of a text for those of
another one: no character's bytes start those of a different character, and
the first byte of a character is never one of its later bytes. So wherever
the bytes of a text occur among those of another, the text itself occurs
there (`utf8_eq_append_append`), and an ASCII byte stands only for its own
character (`toUInt8_mem_utf8`).
-/

namespace ContentFilter.Text

/-- The bytes of a character say which character it is and where it ends. -/
theorem utf8EncodeChar_append_inj {c d : Char} {s t : List UInt8}
    (h : String.utf8EncodeChar c ++ s = String.utf8EncodeChar d ++ t) : c = d ∧ s = t := by
  have decoded (e : Char) (u : List UInt8) :
      (String.utf8EncodeChar e ++ u).toByteArray.utf8DecodeChar? 0 = some e := by
    rw [List.toByteArray_append, ByteArray.utf8DecodeChar?_utf8EncodeChar_append]
  have hcd : c = d := Option.some.inj ((decoded c s).symm.trans (h ▸ decoded d t))
  subst hcd
  exact ⟨rfl, List.append_cancel_left h⟩

/-- Only the empty text has no bytes. -/
theorem utf8_eq_nil_iff {t : Text} : utf8 t = [] ↔ t = [] := by
  cases t <;> simp

/-- **A text starts with another one exactly if its bytes do.** -/
theorem utf8_eq_append {t p : Text} {b : List UInt8} :
    utf8 t = utf8 p ++ b ↔ ∃ r, t = p ++ r ∧ b = utf8 r := by
  constructor
  · intro h
    induction p generalizing t with
    | nil => exact ⟨t, rfl, h.symm⟩
    | cons d p ih =>
      cases t with
      | nil => simp at h
      | cons c t =>
        rw [utf8_cons, utf8_cons, List.append_assoc] at h
        obtain ⟨rfl, hrest⟩ := utf8EncodeChar_append_inj h
        obtain ⟨r, rfl, hr⟩ := ih hrest
        exact ⟨r, rfl, hr⟩
  · rintro ⟨r, rfl, rfl⟩
    exact utf8_append p r

/-- Texts with the same bytes are the same. -/
theorem utf8_inj {s t : Text} : utf8 s = utf8 t ↔ s = t := by
  constructor
  · intro h
    obtain ⟨r, rfl, hr⟩ := utf8_eq_append.1 (h.trans (List.append_nil _).symm)
    rw [utf8_eq_nil_iff.1 hr.symm, List.append_nil]
  · rintro rfl
    rfl

/-- The later bytes of a character do not start a character. -/
theorem utf8EncodeChar_ne_append {c d : Char} {a s t : List UInt8} (ha : a ≠ [])
    (hlt : a.length < (String.utf8EncodeChar c).length) :
    String.utf8EncodeChar c ++ s ≠ a ++ (String.utf8EncodeChar d ++ t) := by
  intro h
  -- the byte where the two overlap would be the first of one and a later one of the other
  have hd : 0 < (String.utf8EncodeChar d).length := by
    rw [String.length_utf8EncodeChar]
    exact d.utf8Size_pos
  have hbyte : (String.utf8EncodeChar c)[a.length] = (String.utf8EncodeChar d)[0] := by
    have hat : (String.utf8EncodeChar c ++ s)[a.length]?
        = (a ++ (String.utf8EncodeChar d ++ t))[a.length]? := by rw [h]
    rw [List.getElem?_append_left hlt, List.getElem?_append_right (Nat.le_refl _), Nat.sub_self,
      List.getElem?_append_left hd, List.getElem?_eq_getElem hlt, List.getElem?_eq_getElem hd]
      at hat
    exact Option.some.inj hat
  have hfirst : ((String.utf8EncodeChar c)[a.length]).IsUTF8FirstByte := by
    rw [hbyte]
    exact UInt8.isUTF8FirstByte_getElem_utf8EncodeChar.2 rfl
  exact ha (List.length_eq_zero_iff.1 (UInt8.isUTF8FirstByte_getElem_utf8EncodeChar.1 hfirst))

/-- **A text occurs in another one wherever its bytes do.** The bytes cannot
start inside a character, since their first one starts a character. -/
theorem utf8_eq_append_append {t p : Text} {a b : List UInt8} (hp : p ≠ []) :
    utf8 t = a ++ utf8 p ++ b ↔ ∃ l r, t = l ++ p ++ r ∧ a = utf8 l ∧ b = utf8 r := by
  constructor
  · intro h
    induction t generalizing a with
    | nil =>
      obtain ⟨d, p, rfl⟩ := List.exists_cons_of_ne_nil hp
      simp at h
    | cons c t ih =>
      rw [List.append_assoc, utf8_cons] at h
      by_cases ha : a = []
      · subst ha
        obtain ⟨r, hr, hb⟩ := utf8_eq_append.1 ((utf8_cons c t).trans h)
        exact ⟨[], r, hr, rfl, hb⟩
      by_cases hlt : a.length < (String.utf8EncodeChar c).length
      · obtain ⟨d, p, rfl⟩ := List.exists_cons_of_ne_nil hp
        rw [utf8_cons, List.append_assoc] at h
        exact absurd h (utf8EncodeChar_ne_append ha hlt)
      · -- the first character lies before the occurrence
        obtain ⟨a', rfl, hrest⟩ : ∃ a', a = String.utf8EncodeChar c ++ a' ∧
            utf8 t = a' ++ (utf8 p ++ b) := by
          rcases List.append_eq_append_iff.1 h with ⟨a', ha', hrest⟩ | ⟨a', ha', hrest⟩
          · exact ⟨a', ha', hrest⟩
          · have hlen := congrArg List.length ha'
            rw [List.length_append] at hlen
            obtain rfl : a' = [] := List.length_eq_zero_iff.1 (by omega)
            exact ⟨[], by simpa using ha'.symm, by simpa using hrest.symm⟩
        obtain ⟨l, r, rfl, rfl, hb⟩ := ih (hrest.trans (List.append_assoc ..).symm)
        exact ⟨c :: l, r, rfl, rfl, hb⟩
  · rintro ⟨l, r, rfl, rfl, rfl⟩
    rw [utf8_append, utf8_append]

/-- **The first byte that fails a test** is the first one of the first character that
does, if the bytes of a character pass as it does. -/
theorem findIdx_utf8 {p : UInt8 → Bool} {q : Char → Bool}
    (h : ∀ c b, b ∈ String.utf8EncodeChar c → p b = q c) (t : Text) :
    (utf8 t).findIdx (fun b => !p b) = byteLength (t.takeWhile q) := by
  induction t with
  | nil => rfl
  | cons c t ih =>
    have hlen := String.length_utf8EncodeChar c
    rw [utf8_cons, List.findIdx_append, ih]
    cases hc : q c with
    | true =>
      have first : (String.utf8EncodeChar c).findIdx (fun b => !p b) =
          (String.utf8EncodeChar c).length := by
        rw [List.findIdx_eq_length]
        intro b hb
        rw [h c b hb, hc]
        rfl
      rw [List.takeWhile_cons_of_pos hc, first, if_neg (Nat.lt_irrefl _), hlen, Nat.add_comm]
      rfl
    | false =>
      have pos : 0 < (String.utf8EncodeChar c).length := hlen ▸ c.utf8Size_pos
      have first : (String.utf8EncodeChar c).findIdx (fun b => !p b) = 0 := by
        rw [List.findIdx_eq pos]
        refine ⟨?_, nofun⟩
        rw [h c _ (List.getElem_mem pos), hc]
        rfl
      rw [List.takeWhile_cons_of_neg (by simp [hc]), first, if_pos pos]
      rfl

/-! ## Bytes at the end -/

/-- **Bytes dropped from the end** leave a text exactly if the text is one part
of the whole and the other part has as many bytes. -/
theorem rdrop_utf8_eq_iff {t p : Text} (hp : p ≠ []) {k : Nat} :
    (utf8 t).rdrop k = utf8 p ↔ ∃ r, t = p ++ r ∧ byteLength r = k := by
  unfold List.rdrop
  constructor
  · intro h
    have split : utf8 t = utf8 p ++ (utf8 t).drop ((utf8 t).length - k) := by
      rw [← h, List.take_append_drop]
    obtain ⟨r, ht, hr⟩ := utf8_eq_append.1 split
    refine ⟨r, ht, ?_⟩
    -- something is left, so no more than the whole was dropped
    have left : 0 < (utf8 t).length - k := by
      have hlen := congrArg List.length h
      rw [List.length_take, length_utf8 p] at hlen
      obtain ⟨c, p, rfl⟩ := List.exists_cons_of_ne_nil hp
      have hc : 0 < byteLength (c :: p) := Nat.add_pos_left c.utf8Size_pos _
      omega
    rw [← length_utf8, ← hr, List.length_drop]
    omega
  · rintro ⟨r, rfl, rfl⟩
    rw [utf8_append]
    exact List.take_left' (by rw [List.length_append, length_utf8 r, Nat.add_sub_cancel])

/-- **Bytes kept at the end** are those of the other part. -/
theorem rtake_utf8_append (p r : Text) : (utf8 (p ++ r)).rtake (byteLength r) = utf8 r := by
  rw [utf8_append, List.rtake_eq_reverse_take_reverse, List.reverse_append,
    List.take_left' (by rw [List.length_reverse, length_utf8]), List.reverse_reverse]

/-! ## ASCII -/

/-- An ASCII character is one byte. -/
theorem utf8Size_of_isAsciiChar {c : Char} (h : isAsciiChar c = true) : c.utf8Size = 1 := by
  rw [Char.utf8Size_eq_one_iff, UInt32.le_iff_toNat_le]
  exact Nat.le_of_lt_succ (UInt32.lt_iff_toNat_lt.1 (of_decide_eq_true h))

/-- The byte of an ASCII character. -/
theorem utf8EncodeChar_of_isAsciiChar {c : Char} (h : isAsciiChar c = true) :
    String.utf8EncodeChar c = [c.val.toUInt8] :=
  String.utf8EncodeChar_eq_singleton (utf8Size_of_isAsciiChar h)

/-- **An ASCII byte stands for its own character only.** -/
theorem toUInt8_mem_utf8 {c : Char} (hc : isAsciiChar c = true) {t : Text} :
    c.val.toUInt8 ∈ utf8 t ↔ c ∈ t := by
  have single : utf8 [c] = [c.val.toUInt8] := by
    rw [utf8_cons, utf8EncodeChar_of_isAsciiChar hc]
    rfl
  rw [List.mem_iff_append, List.mem_iff_append]
  constructor
  · rintro ⟨a, b, h⟩
    obtain ⟨l, r, rfl, -, -⟩ := (utf8_eq_append_append (List.cons_ne_nil c [])).1
      (show utf8 t = a ++ utf8 [c] ++ b by rw [h, single]; simp)
    exact ⟨l, r, by simp⟩
  · rintro ⟨l, r, rfl⟩
    exact ⟨utf8 l, utf8 r, by rw [utf8_append, utf8_cons, utf8EncodeChar_of_isAsciiChar hc]; rfl⟩

/-- A text starts with an ASCII character if its bytes do. -/
theorem head?_utf8_eq_some_iff {c : Char} (hc : isAsciiChar c = true) {t : Text} :
    (utf8 t).head? = some c.val.toUInt8 ↔ t.head? = some c := by
  cases t with
  | nil => exact iff_of_false nofun nofun
  | cons d t =>
    rw [utf8_cons, List.head?_cons, Option.some.injEq]
    constructor
    · intro h
      have hne : String.utf8EncodeChar d ≠ [] := by simp
      rw [List.head?_append_of_ne_nil _ hne] at h
      have hmem : c.val.toUInt8 ∈ utf8 [d] := by simpa using List.mem_of_head? h
      exact (List.mem_singleton.1 ((toUInt8_mem_utf8 hc).1 hmem)).symm
    · rintro rfl
      rw [utf8EncodeChar_of_isAsciiChar hc]
      rfl

/-- **A byte of a character** says which character it is if it is one of ASCII, and
otherwise that the character is not. -/
theorem char_of_mem_utf8EncodeChar {c : Char} {b : UInt8} (hb : b ∈ String.utf8EncodeChar c) :
    (b < 0x80 ∧ Char.ofNat b.toNat = c) ∨ (0x80 ≤ b ∧ isAsciiChar c = false) := by
  by_cases ascii : isAsciiChar c = true
  · have hcode : c.toNat < 128 := UInt32.lt_iff_toNat_lt.1 (of_decide_eq_true ascii)
    have hbyte : b.toNat = c.toNat := by
      rw [utf8EncodeChar_of_isAsciiChar ascii, List.mem_singleton] at hb
      rw [hb, UInt32.toNat_toUInt8]
      exact Nat.mod_eq_of_lt (hcode.trans (by decide))
    refine .inl ⟨UInt8.lt_iff_toNat_lt.2 (hbyte ▸ hcode), ?_⟩
    rw [hbyte, Char.ofNat_toNat]
  · refine .inr ⟨UInt8.not_lt.1 fun hlt => ascii ?_, Bool.eq_false_iff.2 ascii⟩
    -- a byte of ASCII would be the one of its own character
    have all : ∀ n : Fin 128, isAsciiChar (Char.ofNat n.val) = true ∧
        (Char.ofNat n.val).val.toUInt8 = UInt8.ofNat n.val := by decide
    obtain ⟨hascii, hbyte⟩ := all ⟨b.toNat, UInt8.lt_iff_toNat_lt.1 hlt⟩
    rw [UInt8.ofNat_toNat] at hbyte
    have hmem : b ∈ utf8 [c] := by simpa using hb
    rw [← hbyte, toUInt8_mem_utf8 hascii, List.mem_singleton] at hmem
    exact hmem ▸ hascii

/-- ASCII characters are in the order of their bytes. -/
theorem toUInt8_lt_toUInt8 {c d : Char} (hc : isAsciiChar c = true) (hd : isAsciiChar d = true)
    (h : c < d) : c.val.toUInt8 < d.val.toUInt8 := by
  have small {e : Char} (he : isAsciiChar e = true) : e.val.toUInt8.toNat = e.val.toNat := by
    have hlt := UInt32.lt_iff_toNat_lt.1 (of_decide_eq_true he)
    rw [UInt32.toNat_toUInt8]
    exact Nat.mod_eq_of_lt (hlt.trans (by decide))
  rw [UInt8.lt_iff_toNat_lt, small hc, small hd]
  exact UInt32.lt_iff_toNat_lt.1 h

/-- **ASCII texts are in the order of their bytes.** -/
theorem utf8_lt_of_compare_eq_lt {s t : Text} (hs : isAscii s = true) (ht : isAscii t = true)
    (h : compare s t = .lt) : utf8 s < utf8 t := by
  induction s generalizing t with
  | nil =>
    cases t with
    | nil => cases h
    | cons d t =>
      rw [utf8_cons, utf8EncodeChar_of_isAsciiChar (List.all_eq_true.1 ht d List.mem_cons_self)]
      exact List.Lex.nil
  | cons c s ih =>
    cases t with
    | nil => cases h
    | cons d t =>
      rw [isAscii, List.all_cons, Bool.and_eq_true] at hs ht
      rw [utf8_cons, utf8_cons, utf8EncodeChar_of_isAsciiChar hs.1,
        utf8EncodeChar_of_isAsciiChar ht.1, List.singleton_append, List.singleton_append,
        List.cons_lt_cons_iff]
      rw [List.compare_cons_cons, Ordering.then_eq_lt] at h
      rcases h with first | ⟨same, rest⟩
      · exact .inl (toUInt8_lt_toUInt8 hs.1 ht.1 (compareOfLessAndEq_eq_lt.1 first))
      · obtain rfl : c = d := Std.compare_eq_iff_eq.1 same
        exact .inr ⟨rfl, ih hs.2 ht.2 rest⟩

end ContentFilter.Text
