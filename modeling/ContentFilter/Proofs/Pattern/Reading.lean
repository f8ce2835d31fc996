import ContentFilter.Pattern.Expression
import ContentFilter.Proofs.Text.Encoding

/-!
# Reading a pattern

What a pattern means to the author of a rule, said without regard to how
patterns are matched: a `*` is any run of bytes at all, a `^` is one
separating byte or the end of the URL, and every other byte is itself.
`Matches` asks whether a pattern so read is found in a URL, from its start or
up to its end if the pattern is anchored there.

`Reads` differs from `Pattern.Spells`, which the matching of rules decides, in
one point: there a wildcard does not pass a line feed. A URL has no line
feed, and on such texts the two agree (`matches_iff_occurs`).

## Wildcards at the ends

A wildcard at an end of a pattern says that anything may stand there, which
is what a pattern says that is not anchored at that end. So the wildcard can
go if the anchor goes with it (`matches_wildcard_cons`,
`matches_append_wildcards`). This is a law of the reading and holds of every
pattern, whatever else stands in it.
-/

namespace ContentFilter.Pattern

/-- **What the bytes of a pattern are read as**: `taken`, when `after`
follows. -/
inductive Reads : (pattern taken after : List UInt8) → Prop where
  /-- No byte reads as nothing. -/
  | nil (after : List UInt8) : Reads [] [] after
  /-- A byte reads as itself. -/
  | byte {b : UInt8} {p taken after : List UInt8} (not_wildcard : b ≠ 0x2A)
      (not_separator : b ≠ 0x5E) (tail : Reads p taken after) : Reads (b :: p) (b :: taken) after
  /-- A `*` reads as any run of bytes. -/
  | wildcard {p taken after : List UInt8} (run : List UInt8) (tail : Reads p taken after) :
      Reads (0x2A :: p) (run ++ taken) after
  /-- A `^` reads as one separating byte. -/
  | separator {b : UInt8} {p taken after : List UInt8} (h : isSeparator b = true)
      (tail : Reads p taken after) : Reads (0x5E :: p) (b :: taken) after
  /-- A `^` reads as nothing at the end. -/
  | atEnd {p : List UInt8} (tail : Reads p [] []) : Reads (0x5E :: p) [] []

/-- **Whether a pattern is found in a text**, from its start or up to its end
if asked for. -/
def Matches (pattern : Text) (fromStart toEnd : Bool) (text : List UInt8) : Prop :=
  ∃ before taken after, text = before ++ taken ++ after ∧ Reads (Text.utf8 pattern) taken after ∧
    (fromStart = true → before = []) ∧ (toEnd = true → after = [])

/-! ## Parts of patterns -/

/-- A pattern is plain if neither of the two characters stands in it. -/
theorem isPlain_iff {p : Text} : isPlain p = true ↔ '*' ∉ p ∧ '^' ∉ p := by
  simp [isPlain]

/-- **A pattern in two parts is read part by part.** What the first part is
followed by is what the second one takes, and what comes after that. -/
theorem reads_append {p q taken after : List UInt8} :
    Reads (p ++ q) taken after ↔
      ∃ first rest, taken = first ++ rest ∧ Reads p first (rest ++ after) ∧ Reads q rest after := by
  constructor
  · intro h
    induction p generalizing taken after with
    | nil => exact ⟨[], taken, rfl, .nil _, h⟩
    | cons b p ih =>
      rw [List.cons_append] at h
      cases h with
      | byte hw hs tail =>
        obtain ⟨first, rest, rfl, hp, hq⟩ := ih tail
        exact ⟨b :: first, rest, rfl, .byte hw hs hp, hq⟩
      | wildcard run tail =>
        obtain ⟨first, rest, rfl, hp, hq⟩ := ih tail
        exact ⟨run ++ first, rest, (List.append_assoc ..).symm, .wildcard run hp, hq⟩
      | separator hb tail =>
        obtain ⟨first, rest, rfl, hp, hq⟩ := ih tail
        exact ⟨_ :: first, rest, rfl, .separator hb hp, hq⟩
      | atEnd tail =>
        obtain ⟨first, rest, hnil, hp, hq⟩ := ih tail
        obtain ⟨rfl, rfl⟩ := List.append_eq_nil_iff.1 hnil.symm
        exact ⟨[], [], rfl, .atEnd hp, hq⟩
  · rintro ⟨first, rest, rfl, hp, hq⟩
    -- what follows the first part stays the same while it is read
    generalize hr : rest ++ after = r at hp
    induction hp with
    | nil => exact hq
    | byte hw hs _ ih => exact .byte hw hs (ih hr)
    | wildcard run _ ih =>
      rw [List.cons_append, List.append_assoc]
      exact .wildcard run (ih hr)
    | separator hb _ ih => exact .separator hb (ih hr)
    | atEnd _ ih =>
      -- a separator that is read as the end leaves nothing for the second part
      obtain ⟨rfl, rfl⟩ := List.append_eq_nil_iff.1 hr
      exact .atEnd (ih hr)

/-- Wildcards alone read as any run, and as nothing else if there are none. -/
theorem reads_wildcards {n : Nat} {taken after : List UInt8} :
    Reads (List.replicate n 0x2A) taken after ↔ n = 0 → taken = [] := by
  induction n generalizing taken with
  | zero =>
    constructor
    · rintro ⟨⟩ -
      rfl
    · intro h
      rw [h rfl]
      exact .nil after
  | succ n ih =>
    refine iff_of_true ?_ (fun h => absurd h (Nat.succ_ne_zero n))
    rw [List.replicate_succ, ← List.append_nil taken]
    exact .wildcard taken (ih.2 fun _ => rfl)

/-! ## Wildcards at the ends -/

/-- The bytes of wildcards. -/
theorem utf8_wildcards (n : Nat) : Text.utf8 (List.replicate n '*') = List.replicate n 0x2A := by
  induction n with
  | zero => rfl
  | succ n ih =>
    rw [List.replicate_succ, Text.utf8_cons, ih]
    rfl

/-- **Wildcards at the end can go, and the anchor at the end with them.** -/
theorem matches_append_wildcards {p : Text} {fromStart toEnd : Bool} {n : Nat}
    {text : List UInt8} :
    Matches (p ++ List.replicate n '*') fromStart toEnd text ↔
      Matches p fromStart (toEnd && n == 0) text := by
  unfold Matches
  rw [Text.utf8_append, utf8_wildcards]
  constructor
  · rintro ⟨before, taken, after, rfl, hr, hb, ha⟩
    obtain ⟨first, rest, rfl, hp, hq⟩ := reads_append.1 hr
    refine ⟨before, first, rest ++ after, by simp, hp, hb, fun h => ?_⟩
    rw [Bool.and_eq_true, beq_iff_eq] at h
    rw [reads_wildcards.1 hq h.2, ha h.1]
    rfl
  · rintro ⟨before, taken, after, rfl, hr, hb, ha⟩
    by_cases hn : n = 0
    · refine ⟨before, taken, after, rfl, ?_, hb, fun h => ha (by simp [h, hn])⟩
      exact reads_append.2 ⟨taken, [], by simp, hr, reads_wildcards.2 fun _ => rfl⟩
    · -- some wildcard takes all that is left
      refine ⟨before, taken ++ after, [], by simp, ?_, hb, fun _ => rfl⟩
      exact reads_append.2 ⟨taken, after, rfl, by rwa [List.append_nil],
        reads_wildcards.2 fun h => absurd h hn⟩

/-- **A wildcard at the start can go, and the anchor at the start with it.** -/
theorem matches_wildcard_cons {p : Text} {fromStart toEnd : Bool} {text : List UInt8} :
    Matches ('*' :: p) fromStart toEnd text ↔ Matches p false toEnd text := by
  have bytes : Text.utf8 ('*' :: p) = 0x2A :: Text.utf8 p := rfl
  unfold Matches
  rw [bytes]
  constructor
  · rintro ⟨before, taken, after, rfl, hr, -, ha⟩
    cases hr with
    | byte hw => exact absurd rfl hw
    | @wildcard _ taken _ run tail =>
      exact ⟨before ++ run, taken, after, by simp, tail, fun h => absurd h Bool.false_ne_true, ha⟩
  · rintro ⟨before, taken, after, rfl, hr, -, ha⟩
    exact ⟨[], before ++ taken, after, by simp, .wildcard before hr, fun _ => rfl, ha⟩

/-! ## Texts without a line feed -/

/-- A byte that is no wildcard and no separator is an item of its own. -/
theorem Item.ofByte_of_ne {b : UInt8} (hw : b ≠ 0x2A) (hs : b ≠ 0x5E) :
    Item.ofByte b = .byte b := by
  rw [Item.ofByte, if_neg hw, if_neg hs]

/-- **What a pattern spells it also reads as.** -/
theorem reads_of_spells {p taken after : List UInt8} (h : Spells (p.map Item.ofByte) taken after) :
    Reads p taken after := by
  induction p generalizing taken with
  | nil =>
    cases h
    exact .nil after
  | cons b p ih =>
    rw [List.map_cons] at h
    by_cases hw : b = 0x2A
    · subst hw
      cases h with
      | @cons _ _ first rest _ head tail => exact .wildcard first (ih tail)
    by_cases hsep : b = 0x5E
    · subst hsep
      cases h with
      | @cons _ _ first rest _ head tail =>
        -- the item has to become a variable before its spellings can be told apart
        generalize hq : rest ++ after = q at head
        generalize hi : Item.ofByte 0x5E = i at head
        cases head with
        | byte => cases hi
        | wildcard => cases hi
        | separator b _ hb => exact .separator hb (ih tail)
        | atEnd =>
          obtain ⟨rfl, rfl⟩ := List.append_eq_nil_iff.1 hq
          exact .atEnd (ih tail)
    · rw [Item.ofByte_of_ne hw hsep] at h
      cases h with
      | @cons _ _ first rest _ head tail =>
        cases head
        exact .byte hw hsep (ih tail)

/-- **Without a line feed among what is taken, reading and spelling agree.** -/
theorem reads_iff_spells {p taken after : List UInt8} (h : lineFeed ∉ taken) :
    Reads p taken after ↔ Spells (p.map Item.ofByte) taken after := by
  refine ⟨fun hr => ?_, reads_of_spells⟩
  induction hr with
  | nil after => exact .nil after
  | @byte b p taken after hw hs _ ih =>
    rw [List.map_cons, Item.ofByte_of_ne hw hs]
    exact .cons (show Item.Spells _ [b] _ from .byte b _)
      (ih fun hm => h (List.mem_cons_of_mem b hm))
  | wildcard run _ ih =>
    rw [List.mem_append, not_or] at h
    exact .cons (.wildcard run _ h.1) (ih h.2)
  | @separator b p taken after hb _ ih =>
    exact .cons (show Item.Spells _ [b] _ from .separator b _ hb)
      (ih fun hm => h (List.mem_cons_of_mem b hm))
  | atEnd _ ih => exact .cons (show Item.Spells _ [] _ from .atEnd) (ih h)

/-- **Where a pattern occurs it is found**, in any text. -/
theorem matches_of_occurs {p : Text} {fromStart toEnd : Bool} {text : List UInt8}
    (h : Occurs (items p) fromStart toEnd text) : Matches p fromStart toEnd text := by
  obtain ⟨before, taken, after, ht, hs, hstart, hend⟩ := h
  exact ⟨before, taken, after, ht, reads_of_spells hs, hstart, hend⟩

/-- **In a text without a line feed a pattern is found exactly if it
occurs.** -/
theorem matches_iff_occurs {p : Text} {fromStart toEnd : Bool} {text : List UInt8}
    (h : lineFeed ∉ text) :
    Matches p fromStart toEnd text ↔ Occurs (items p) fromStart toEnd text := by
  refine exists_congr fun before => exists_congr fun taken => exists_congr fun after =>
    and_congr_right fun ht => and_congr_left fun _ => reads_iff_spells fun hm => h ?_
  rw [ht]
  exact List.mem_append_left after (List.mem_append_right before hm)

end ContentFilter.Pattern
