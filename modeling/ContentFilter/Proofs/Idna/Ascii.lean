import ContentFilter.Idna.Ascii
import ContentFilter.Proofs.Hostname.IdnaLaws

/-!
# The service writes ASCII

The ASCII form of a hostname is written label by label. Of a label beyond ASCII its
ASCII characters are written, a hyphen, and the digits of numbers, which are small
letters and digits since no digit is worth 36 or more. The writer only ever adds such
digits, so that holds through all its rounds (`Idna.Punycode.exists_encode_eq`).
-/

namespace ContentFilter

namespace Text

/-- **What is said of the pieces and of the separator** is said of the joined pieces. -/
theorem forall_mem_join {P : Char → Prop} {separator : Text} {pieces : List Text}
    (hs : ∀ c ∈ separator, P c) (hp : ∀ piece ∈ pieces, ∀ c ∈ piece, P c) :
    ∀ c ∈ join separator pieces, P c := by
  unfold join
  induction pieces with
  | nil => exact nofun
  | cons piece rest ih =>
    obtain ⟨hpiece, hp⟩ := List.forall_mem_cons.1 hp
    cases rest with
    | nil =>
      rw [List.intercalate_singleton]
      exact hpiece
    | cons piece' rest =>
      rw [List.intercalate_cons_cons]
      exact List.forall_mem_append.2 ⟨List.forall_mem_append.2 ⟨hpiece, hs⟩, ih hp⟩

end Text

namespace Idna

namespace Punycode

/-- **A digit of Punycode.** -/
def IsDigit (c : Char) : Prop :=
  ∃ d < 36, c = digit d

/-- Such digits are letters and digits, and no capitals. -/
theorem IsDigit.isAlphanumeric {c : Char} (h : IsDigit c) :
    Text.isAlphanumeric c = true ∧ c.isUpper = false := by
  obtain ⟨d, hd, rfl⟩ := h
  have all : ∀ d : Fin 36,
      Text.isAlphanumeric (digit d) = true ∧ (digit d).isUpper = false := by decide
  exact all ⟨d, hd⟩

/-- **A number is written with digits.** -/
theorem isDigit_of_mem_writeNumber {bias position q : Nat} :
    ∀ c ∈ writeNumber bias position q, IsDigit c := by
  have hle := threshold_le bias position
  fun_induction writeNumber bias position q with
  | case1 position q t hlt =>
    intro c hc
    rw [List.mem_singleton.1 hc]
    exact ⟨q, by omega, rfl⟩
  | case2 position q t hge ih =>
    -- what is added to the threshold stays below the rest of 36
    have hmod : (q - t) % (36 - t) < 36 - t := Nat.mod_lt _ (by omega)
    rw [List.forall_mem_cons]
    exact ⟨⟨_, by omega, rfl⟩, ih (threshold_le _ _)⟩

/-- Passing a character adds digits only. -/
theorem Writer.isDigit_pass (basic n : Nat) {w : Writer} (c : Char)
    (h : ∀ d ∈ w.digits, IsDigit d) : ∀ d ∈ (w.pass basic n c).digits, IsDigit d := by
  unfold Writer.pass
  split
  · exact h
  · split
    · exact List.forall_mem_append.2 ⟨h, isDigit_of_mem_writeNumber⟩
    · exact h

/-- Going through a label adds digits only. -/
theorem Writer.isDigit_foldl_pass (basic n : Nat) (label : Text) {w : Writer}
    (h : ∀ d ∈ w.digits, IsDigit d) :
    ∀ d ∈ (label.foldl (Writer.pass basic n) w).digits, IsDigit d := by
  induction label generalizing w with
  | nil => exact h
  | cons c label ih => exact ih (Writer.isDigit_pass basic n c h)

/-- **Placing code points adds digits only.** -/
theorem Writer.isDigit_place (label : Text) (basic n : Nat) {w : Writer} (rest : List Nat)
    (h : ∀ d ∈ w.digits, IsDigit d) :
    ∀ d ∈ (Writer.place label basic n w rest).digits, IsDigit d := by
  induction rest generalizing n w with
  | nil => exact h
  | cons m rest ih => exact ih (m + 1) (Writer.isDigit_foldl_pass basic m label h)

/-- **The Punycode of a label** is its ASCII characters, with a hyphen if there
are any, and then digits. -/
theorem exists_encode_eq (label : Text) :
    ∃ hyphen digits, encode label = label.filter Text.isAsciiChar ++ hyphen ++ digits ∧
      (∀ c ∈ hyphen, c = '-') ∧ ∀ c ∈ digits, IsDigit c := by
  refine ⟨_, _, rfl, ?_, Writer.isDigit_place _ _ _ _ nofun⟩
  split
  · nofun
  · exact fun c => List.mem_singleton.1

/-- **The Punycode of a label is ASCII.** -/
theorem isAscii_encode (label : Text) : Text.isAscii (encode label) = true := by
  obtain ⟨hyphen, digits, heq, hhyphen, hdigits⟩ := exists_encode_eq label
  rw [heq]
  refine Text.isAscii_append (Text.isAscii_append ?_ ?_) ?_ <;> refine List.all_eq_true.2 ?_
  · exact fun c hc => (List.mem_filter.1 hc).2
  · exact fun c hc => hhyphen c hc ▸ rfl
  · exact fun c hc => Text.isAsciiChar_of_isAlphanumeric (hdigits c hc).isAlphanumeric.1

end Punycode

/-- A label is written in ASCII. -/
theorem isAscii_writeLabel (label : Text) : Text.isAscii (writeLabel label) = true := by
  unfold writeLabel
  split
  · next h => exact h
  · exact Text.isAscii_append rfl (Punycode.isAscii_encode label)

/-- **The ASCII form of a hostname is ASCII.** -/
theorem isAscii_of_toAscii? {hostname name : Text} (h : toAscii? hostname = some name) :
    Text.isAscii name = true := by
  unfold toAscii? at h
  obtain ⟨mapped, -, h⟩ := Option.bind_eq_some_iff.1 h
  obtain ⟨labels, -, h⟩ := Option.bind_eq_some_iff.1 h
  split at h
  · cases h
    refine List.all_eq_true.2
      (Text.forall_mem_join (List.forall_mem_singleton.2 rfl) fun written hwritten => ?_)
    obtain ⟨label, -, rfl⟩ := List.mem_map.1 hwritten
    exact List.all_eq_true.1 (isAscii_writeLabel label)
  · cases h

/-- **The service in use** writes ASCII. -/
instance : IdnaService.WritesAscii where
  isAscii := isAscii_of_toAscii?

end Idna

end ContentFilter
