import ContentFilter.Expression.Basic

/-!
# What a regular expression matches

What expressions match in a text of bytes. A character matches its own bytes,
`.` one byte that is no line feed, a class one of its bytes; `^` and `$` match
nothing, at the start and at the end of the text; expressions one after the
other match parts one after the other, alternatives what one of them matches,
and `*` any number of parts.

`Expression.Matches` is told what stands before a part and what follows it,
since `^` and `$` ask for it. An expression is found in a text if it matches
some part of it (`Expression.IsFound`).
-/

namespace ContentFilter

namespace Expression

/-- **What an expression matches**: `taken`, when `before` stands before it and
`after` follows. -/
inductive Matches : Expression → (before taken after : List UInt8) → Prop where
  /-- Nothing matches the empty part. -/
  | nothing (before after : List UInt8) : Matches nothing before [] after
  /-- A character matches its bytes. -/
  | char (c : Char) (before after : List UInt8) :
      Matches (char c) before (String.utf8EncodeChar c) after
  /-- Any byte matches but a line feed. -/
  | anyByte {b : UInt8} (h : b ≠ Pattern.lineFeed) (before after : List UInt8) :
      Matches anyByte before [b] after
  /-- A class matches one of its bytes. -/
  | oneOf {cs : Text} {b : UInt8} (h : b ∈ cs.utf8) (before after : List UInt8) :
      Matches (oneOf cs) before [b] after
  /-- The start is where nothing stands before. -/
  | atStart (after : List UInt8) : Matches atStart [] [] after
  /-- The end is where nothing follows. -/
  | atEnd (before : List UInt8) : Matches atEnd before [] []
  /-- No part is a number of parts. -/
  | none (e : Expression) (before after : List UInt8) : Matches (many e) before [] after
  /-- So is one part and a number of further ones. -/
  | more {e : Expression} {before first rest after : List UInt8}
      (head : Matches e before first (rest ++ after))
      (tail : Matches (many e) (before ++ first) rest after) :
      Matches (many e) before (first ++ rest) after
  /-- Parts one after the other. -/
  | sequence {e f : Expression} {before first rest after : List UInt8}
      (head : Matches e before first (rest ++ after))
      (tail : Matches f (before ++ first) rest after) :
      Matches (sequence e f) before (first ++ rest) after
  /-- The one alternative. -/
  | left {e : Expression} (f : Expression) {before taken after : List UInt8}
      (h : Matches e before taken after) : Matches (either e f) before taken after
  /-- The other alternative. -/
  | right (e : Expression) {f : Expression} {before taken after : List UInt8}
      (h : Matches f before taken after) : Matches (either e f) before taken after

/-- **Whether an expression is found in a text**: it matches some part. -/
def IsFound (e : Expression) (text : List UInt8) : Prop :=
  ∃ before taken after, text = before ++ taken ++ after ∧ e.Matches before taken after

section

variable {e f : Expression} {c : Char} {cs : Text} {before taken after : List UInt8}

/-- What matches nothing. -/
theorem matches_nothing_iff : nothing.Matches before taken after ↔ taken = [] := by
  constructor
  · rintro ⟨⟩
    rfl
  · rintro rfl
    exact .nothing before after

/-- What matches a character. -/
theorem matches_char_iff :
    (char c).Matches before taken after ↔ taken = String.utf8EncodeChar c := by
  constructor
  · rintro ⟨⟩
    rfl
  · rintro rfl
    exact .char c before after

/-- What matches any byte. -/
theorem matches_anyByte_iff :
    anyByte.Matches before taken after ↔ ∃ b, b ≠ Pattern.lineFeed ∧ taken = [b] := by
  constructor
  · rintro ⟨⟩
    exact ⟨_, ‹_›, rfl⟩
  · rintro ⟨b, hb, rfl⟩
    exact .anyByte hb before after

/-- What matches a class. -/
theorem matches_oneOf_iff :
    (oneOf cs).Matches before taken after ↔ ∃ b ∈ cs.utf8, taken = [b] := by
  constructor
  · rintro ⟨⟩
    exact ⟨_, ‹_›, rfl⟩
  · rintro ⟨b, hb, rfl⟩
    exact .oneOf hb before after

/-- Where the start matches. -/
theorem matches_atStart_iff : atStart.Matches before taken after ↔ before = [] ∧ taken = [] := by
  constructor
  · rintro ⟨⟩
    exact ⟨rfl, rfl⟩
  · rintro ⟨rfl, rfl⟩
    exact .atStart after

/-- Where the end matches. -/
theorem matches_atEnd_iff : atEnd.Matches before taken after ↔ taken = [] ∧ after = [] := by
  constructor
  · rintro ⟨⟩
    exact ⟨rfl, rfl⟩
  · rintro ⟨rfl, rfl⟩
    exact .atEnd before

/-- What matches expressions one after the other. -/
theorem matches_sequence_iff :
    (sequence e f).Matches before taken after ↔
      ∃ first rest, taken = first ++ rest ∧ e.Matches before first (rest ++ after) ∧
        f.Matches (before ++ first) rest after := by
  constructor
  · rintro ⟨⟩
    exact ⟨_, _, rfl, ‹_›, ‹_›⟩
  · rintro ⟨first, rest, rfl, he, hf⟩
    exact .sequence he hf

/-- What matches one of two alternatives. -/
theorem matches_either_iff :
    (either e f).Matches before taken after ↔
      e.Matches before taken after ∨ f.Matches before taken after := by
  constructor
  · rintro ⟨⟩
    · exact .inl ‹_›
    · exact .inr ‹_›
  · rintro (h | h)
    · exact .left f h
    · exact .right e h

/-- What asks for a single byte matches one that is asked for. -/
theorem matches_iff_of_askedByte? {asked : UInt8 → Bool} (h : e.askedByte? = some asked) :
    e.Matches before taken after ↔ ∃ b, asked b = true ∧ taken = [b] := by
  cases e with
  | anyByte =>
    cases h
    simp only [matches_anyByte_iff, bne_iff_ne]
  | oneOf cs =>
    cases h
    simp only [matches_oneOf_iff, List.contains_iff_mem]
  | _ => cases h

/-- **Any number of single bytes** is a run of bytes that are asked for. -/
theorem matches_many_iff_of_askedByte? {asked : UInt8 → Bool} (h : e.askedByte? = some asked) :
    (many e).Matches before taken after ↔ ∀ b ∈ taken, asked b = true := by
  constructor
  · intro hmatches
    generalize hm : many e = m at hmatches
    induction hmatches with
    | none => exact List.forall_mem_nil _
    | more head _ _ ih =>
      obtain rfl := many.inj hm
      obtain ⟨b, hb, rfl⟩ := (matches_iff_of_askedByte? h).1 head
      rw [List.singleton_append, List.forall_mem_cons]
      exact ⟨hb, ih rfl⟩
    | _ => cases hm
  · intro hasked
    induction taken generalizing before with
    | nil => exact .none e before after
    | cons b taken ih =>
      rw [List.forall_mem_cons] at hasked
      have head : e.Matches before [b] (taken ++ after) :=
        (matches_iff_of_askedByte? h).2 ⟨b, hasked.1, rfl⟩
      exact Matches.more head (ih hasked.2)

/-- Any number of any bytes is a run without a line feed. -/
theorem matches_many_anyByte_iff :
    (many anyByte).Matches before taken after ↔ Pattern.lineFeed ∉ taken := by
  rw [matches_many_iff_of_askedByte? rfl]
  simp only [bne_iff_ne]
  exact ⟨fun h hmem => h _ hmem rfl, fun h b hb hfeed => h (hfeed ▸ hb)⟩

end

/-! ## Items one after the other -/

/-- **Items match part by part.** -/
theorem matches_ofItems_append {es fs : List Expression} {before taken after : List UInt8} :
    (ofItems (es ++ fs)).Matches before taken after ↔
      ∃ first rest, taken = first ++ rest ∧ (ofItems es).Matches before first (rest ++ after) ∧
        (ofItems fs).Matches (before ++ first) rest after := by
  induction es generalizing before taken with
  | nil =>
    simp only [List.nil_append, ofItems, matches_nothing_iff]
    constructor
    · intro h
      exact ⟨[], taken, rfl, rfl, by rwa [List.append_nil]⟩
    · rintro ⟨_, rest, rfl, rfl, h⟩
      rwa [List.append_nil] at h
  | cons e es ih =>
    simp only [List.cons_append, ofItems, matches_sequence_iff, ih]
    constructor
    · rintro ⟨first, _, rfl, he, next, rest, rfl, hes, hfs⟩
      exact ⟨first ++ next, rest, (List.append_assoc ..).symm,
        ⟨first, next, rfl, by rwa [← List.append_assoc], hes⟩, by rwa [← List.append_assoc]⟩
    · rintro ⟨_, rest, rfl, ⟨first, next, rfl, he, hes⟩, hfs⟩
      exact ⟨first, next ++ rest, List.append_assoc .., by rwa [List.append_assoc],
        next, rest, rfl, hes, by rwa [List.append_assoc]⟩

/-- A single item matches what it is. -/
theorem matches_ofItems_singleton {e : Expression} {before taken after : List UInt8} :
    (ofItems [e]).Matches before taken after ↔ e.Matches before taken after := by
  simp only [ofItems, matches_sequence_iff, matches_nothing_iff]
  constructor
  · rintro ⟨first, _, rfl, h, rfl⟩
    rwa [List.append_nil]
  · intro h
    exact ⟨taken, [], (List.append_nil taken).symm, h, rfl⟩

end Expression

end ContentFilter
