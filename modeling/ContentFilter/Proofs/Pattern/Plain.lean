import ContentFilter.Proofs.Pattern.Reading

/-!
# Patterns of bytes

A pattern without wildcards and separators occurs where its bytes stand: in
what they are a part of, at its start, at its end, or as the whole, depending on
how it is anchored. These are the patterns that are compared without an engine.
-/

namespace ContentFilter.Pattern

/-- The items of a pattern without wildcards and separators are its bytes. -/
theorem items_of_isPlain {p : Text} (h : isPlain p = true) :
    items p = (Text.utf8 p).map Item.byte := by
  have lacks := isPlain_iff.1 h
  refine List.map_congr_left fun b hb => Item.ofByte_of_ne ?_ ?_
  · rintro rfl
    exact lacks.1 ((Text.toUInt8_mem_utf8 (c := '*') rfl).1 hb)
  · rintro rfl
    exact lacks.2 ((Text.toUInt8_mem_utf8 (c := '^') rfl).1 hb)

section Bytes

variable {bs text : List UInt8}

/-- Bytes occur where they stand. -/
theorem occurs_bytes_iff {left right : Bool} :
    Occurs (bs.map Item.byte) left right text ↔
      ∃ before after, text = before ++ bs ++ after ∧
        (left = true → before = []) ∧ (right = true → after = []) := by
  constructor
  · rintro ⟨before, taken, after, ht, hs, hl, hr⟩
    rw [spells_bytes] at hs
    exact ⟨before, after, hs ▸ ht, hl, hr⟩
  · rintro ⟨before, after, ht, hl, hr⟩
    exact ⟨before, bs, after, ht, spells_bytes.2 rfl, hl, hr⟩

/-- Bytes that are not anchored occur in what they are a part of. -/
theorem occurs_bytes_anywhere : Occurs (bs.map Item.byte) false false text ↔ bs <:+: text := by
  rw [occurs_bytes_iff]
  constructor
  · rintro ⟨before, after, ht, -, -⟩
    exact ⟨before, after, ht.symm⟩
  · rintro ⟨before, after, ht⟩
    exact ⟨before, after, ht.symm, nofun, nofun⟩

/-- Bytes that are anchored to the start occur in what starts with them. -/
theorem occurs_bytes_atStart : Occurs (bs.map Item.byte) true false text ↔ bs <+: text := by
  rw [occurs_bytes_iff]
  constructor
  · rintro ⟨before, after, ht, hl, -⟩
    rw [hl rfl] at ht
    exact ⟨after, ht.symm⟩
  · rintro ⟨after, ht⟩
    exact ⟨[], after, ht.symm, fun _ => rfl, nofun⟩

/-- Bytes that are anchored to the end occur in what ends with them. -/
theorem occurs_bytes_atEnd : Occurs (bs.map Item.byte) false true text ↔ bs <:+ text := by
  rw [occurs_bytes_iff]
  constructor
  · rintro ⟨before, after, ht, -, hr⟩
    rw [hr rfl, List.append_nil] at ht
    exact ⟨before, ht.symm⟩
  · rintro ⟨before, ht⟩
    refine ⟨before, [], ?_, nofun, fun _ => rfl⟩
    rw [ht, List.append_nil]

/-- Bytes that are anchored to both ends occur in themselves only. -/
theorem occurs_bytes_whole : Occurs (bs.map Item.byte) true true text ↔ text = bs := by
  rw [occurs_bytes_iff]
  constructor
  · rintro ⟨before, after, ht, hl, hr⟩
    rw [ht, hl rfl, hr rfl, List.append_nil, List.nil_append]
  · intro ht
    refine ⟨[], [], ?_, fun _ => rfl, fun _ => rfl⟩
    rw [ht, List.append_nil, List.nil_append]

end Bytes

end ContentFilter.Pattern
