import ContentFilter.Expression.Reading
import ContentFilter.Pattern.Program
import ContentFilter.Proofs.Expression.Meaning

/-!
# Engines for regular expressions

An engine takes the text of a regular expression, or refuses it, and says of
the expressions it took in which texts they are found. Which ones it takes is
its own matter. What is asked of it is that it says so rightly of every
expression that has a reading (`Engine.IsFaithful`).

`Engine.splitting` is an engine of this sort. It goes through all places of a
text, and lists all the ways in which an expression matches there. Every way is
listed, and nothing else (`Expression.mem_splits_iff`): a repetition need not try
parts without a byte, since they leave it where it is, and any other part makes
what is left of the text shorter.
-/

namespace ContentFilter

namespace Expression

/-! ## Ways to match -/

/-- The way to match without a byte, if it may be taken. -/
def splitEmpty (may : Bool) (text : List UInt8) : List (List UInt8 × List UInt8) :=
  if may then [([], text)] else []

/-- The way to match one byte, if the text starts with one that is asked for. -/
def splitByte (asked : UInt8 → Bool) : List UInt8 → List (List UInt8 × List UInt8)
  | [] => []
  | b :: after => if asked b then [([b], after)] else []

/-- The way to match the bytes of a part, if the text starts with them. -/
def splitOff (part text : List UInt8) : List (List UInt8 × List UInt8) :=
  (Search.dropStart? part text).toList.map fun after => (part, after)

/-- **The ways to match parts one after the other.** -/
def splitNext (splits : List UInt8 → List UInt8 → List (List UInt8 × List UInt8))
    (before : List UInt8) (way : List UInt8 × List UInt8) : List (List UInt8 × List UInt8) :=
  (splits (before ++ way.1) way.2).map fun (rest, after) => (way.1 ++ rest, after)

/-- **The ways to match any number of parts**, at most as many as given and
none of them empty. -/
def splitMany (splits : List UInt8 → List UInt8 → List (List UInt8 × List UInt8)) :
    Nat → List UInt8 → List UInt8 → List (List UInt8 × List UInt8)
  | 0, _, text => [([], text)]
  | n + 1, before, text =>
    ([], text) :: ((splits before text).filter (·.1 ≠ [])).flatMap
      (splitNext (splitMany splits n) before)

/-- **All ways in which an expression matches at a place**: what is taken, and
what follows. -/
def splits : Expression → (before text : List UInt8) → List (List UInt8 × List UInt8)
  | nothing, _, text => splitEmpty true text
  | char c, _, text => splitOff (String.utf8EncodeChar c) text
  | anyByte, _, text => splitByte (· != Pattern.lineFeed) text
  | oneOf cs, _, text => splitByte cs.utf8.contains text
  | atStart, before, text => splitEmpty before.isEmpty text
  | atEnd, _, text => splitEmpty text.isEmpty text
  | many e, before, text => splitMany e.splits text.length before text
  | sequence e f, before, text => (e.splits before text).flatMap (splitNext f.splits before)
  | either e f, before, text => e.splits before text ++ f.splits before text

/-- **Whether an expression is found in a text**, by trying all places. -/
def finds (e : Expression) (text : List UInt8) : Bool :=
  (List.range (text.length + 1)).any fun n => !(e.splits (text.take n) (text.drop n)).isEmpty

section

variable {before text taken after : List UInt8}

/-- Nothing is taken where it may be. -/
theorem mem_splitEmpty_iff {may : Bool} :
    (taken, after) ∈ splitEmpty may text ↔ text = taken ++ after ∧ may = true ∧ taken = [] := by
  cases may with
  | false => exact iff_of_false List.not_mem_nil fun h => Bool.false_ne_true h.2.1
  | true =>
    show (taken, after) ∈ [([], text)] ↔ _
    rw [List.mem_singleton, Prod.mk.injEq]
    constructor
    · rintro ⟨rfl, rfl⟩
      exact ⟨rfl, rfl, rfl⟩
    · rintro ⟨rfl, -, rfl⟩
      exact ⟨rfl, rfl⟩

/-- A byte is taken that is asked for. -/
theorem mem_splitByte_iff {asked : UInt8 → Bool} :
    (taken, after) ∈ splitByte asked text ↔
      text = taken ++ after ∧ ∃ b, asked b = true ∧ taken = [b] := by
  constructor
  · intro h
    cases text with
    | nil => cases h
    | cons b text =>
      rw [splitByte] at h
      split at h
      · next hb =>
        obtain ⟨rfl, rfl⟩ := Prod.mk.inj (List.mem_singleton.1 h)
        exact ⟨rfl, b, hb, rfl⟩
      · cases h
  · rintro ⟨rfl, b, hb, rfl⟩
    show _ ∈ (if asked b then _ else _)
    rw [if_pos hb]
    exact List.mem_singleton.2 rfl

/-- A part is taken where it stands. -/
theorem mem_splitOff_iff {part : List UInt8} :
    (taken, after) ∈ splitOff part text ↔ text = taken ++ after ∧ taken = part := by
  unfold splitOff
  simp only [List.mem_map, Option.mem_toList, Search.dropStart?_eq_some,
    Prod.mk.injEq]
  constructor
  · rintro ⟨after, rfl, rfl, rfl⟩
    exact ⟨rfl, rfl⟩
  · rintro ⟨rfl, rfl⟩
    exact ⟨after, rfl, rfl, rfl⟩

/-- Parts one after the other are split off one after the other. -/
theorem mem_flatMap_splitNext_iff {ways : List (List UInt8 × List UInt8)}
    {splits : List UInt8 → List UInt8 → List (List UInt8 × List UInt8)} :
    (taken, after) ∈ ways.flatMap (splitNext splits before) ↔
      ∃ first left rest, (first, left) ∈ ways ∧ taken = first ++ rest ∧
        (rest, after) ∈ splits (before ++ first) left := by
  simp only [List.mem_flatMap, splitNext, List.mem_map, Prod.exists, Prod.mk.injEq]
  constructor
  · rintro ⟨first, left, hway, rest, _, hrest, rfl, rfl⟩
    exact ⟨first, left, rest, hway, rfl, hrest⟩
  · rintro ⟨first, left, rest, hway, rfl, hrest⟩
    exact ⟨first, left, hway, rest, after, hrest, rfl, rfl⟩

/-- **The ways of an expression are listed rightly**: exactly those in which it
matches. -/
def IsSplit (e : Expression) : Prop :=
  ∀ before text taken after,
    (taken, after) ∈ e.splits before text ↔ text = taken ++ after ∧ e.Matches before taken after

/-- What is listed for any number of parts matches. -/
theorem matches_of_mem_splitMany {e : Expression} (he : e.IsSplit) {n : Nat}
    (h : (taken, after) ∈ splitMany e.splits n before text) :
    text = taken ++ after ∧ (many e).Matches before taken after := by
  induction n generalizing before text taken with
  | zero =>
    obtain ⟨rfl, rfl⟩ := Prod.mk.inj (List.mem_singleton.1 h)
    exact ⟨rfl, .none e before after⟩
  | succ n ih =>
    rw [splitMany, List.mem_cons, mem_flatMap_splitNext_iff] at h
    rcases h with h | ⟨first, left, rest, hway, rfl, hrest⟩
    · obtain ⟨rfl, rfl⟩ := Prod.mk.inj h
      exact ⟨rfl, .none e before after⟩
    · obtain ⟨rfl, hfirst⟩ := (he before text first left).1 (List.mem_filter.1 hway).1
      obtain ⟨rfl, hmany⟩ := ih hrest
      exact ⟨(List.append_assoc ..).symm, .more hfirst hmany⟩

/-- **What matches any number of parts is listed**, if as many parts are tried
as there are bytes to take. -/
theorem mem_splitMany_of_matches {e : Expression} (he : e.IsSplit) {n : Nat}
    (h : (many e).Matches before taken after) (hn : taken.length ≤ n) :
    (taken, after) ∈ splitMany e.splits n before (taken ++ after) := by
  generalize hm : many e = m at h
  induction h generalizing n with
  | none =>
    cases n with
    | zero => exact List.mem_singleton.2 rfl
    | succ n => exact List.mem_cons_self
  | @more _ before first rest after head tail _ ih =>
    obtain rfl := many.inj hm
    by_cases hfirst : first = []
    · -- a part without a byte leaves everything as it is
      subst hfirst
      have same := ih hn rfl
      rwa [List.append_nil] at same
    · have hpos := List.length_pos_iff.2 hfirst
      rw [List.length_append] at hn
      obtain ⟨n, rfl⟩ : ∃ m, n = m + 1 := ⟨n - 1, by omega⟩
      rw [splitMany, List.mem_cons, mem_flatMap_splitNext_iff]
      refine .inr ⟨first, rest ++ after, rest, List.mem_filter.2 ⟨?_, by simpa using hfirst⟩, rfl,
        ih (by omega) rfl⟩
      exact (he ..).2 ⟨List.append_assoc .., head⟩
  | _ => cases hm

/-- **All ways to match are listed, and nothing else.** -/
theorem mem_splits_iff (e : Expression) : e.IsSplit := by
  induction e with
  | nothing =>
    intro before text taken after
    rw [splits, mem_splitEmpty_iff, matches_nothing_iff, and_iff_right rfl]
  | char c =>
    intro before text taken after
    rw [splits, mem_splitOff_iff, matches_char_iff]
  | anyByte =>
    intro before text taken after
    rw [splits, mem_splitByte_iff, matches_anyByte_iff]
    simp only [bne_iff_ne]
  | oneOf cs =>
    intro before text taken after
    rw [splits, mem_splitByte_iff, matches_oneOf_iff]
    simp only [List.contains_iff_mem]
  | atStart =>
    intro before text taken after
    rw [splits, mem_splitEmpty_iff, matches_atStart_iff, List.isEmpty_iff]
  | atEnd =>
    intro before text taken after
    rw [splits, mem_splitEmpty_iff, matches_atEnd_iff, List.isEmpty_iff]
    refine and_congr_right fun htext => ?_
    rw [htext, List.append_eq_nil_iff]
    exact ⟨fun h => h.1, fun h => ⟨h, h.1⟩⟩
  | many e ih =>
    intro before text taken after
    constructor
    · exact matches_of_mem_splitMany ih
    · rintro ⟨rfl, h⟩
      exact mem_splitMany_of_matches ih h (by rw [List.length_append]; omega)
  | sequence e f ihe ihf =>
    intro before text taken after
    rw [splits, mem_flatMap_splitNext_iff, matches_sequence_iff]
    constructor
    · rintro ⟨first, left, rest, hfirst, rfl, hrest⟩
      obtain ⟨rfl, he⟩ := (ihe ..).1 hfirst
      obtain ⟨rfl, hf⟩ := (ihf ..).1 hrest
      exact ⟨(List.append_assoc ..).symm, first, rest, rfl, he, hf⟩
    · rintro ⟨rfl, first, rest, rfl, he, hf⟩
      exact ⟨first, rest ++ after, rest, (ihe ..).2 ⟨List.append_assoc .., he⟩, rfl,
        (ihf ..).2 ⟨rfl, hf⟩⟩
  | either e f ihe ihf =>
    intro before text taken after
    rw [splits, List.mem_append, ihe, ihf, matches_either_iff, and_or_left]

/-- **Trying all places finds what is to be found.** -/
theorem finds_iff {e : Expression} {text : List UInt8} : e.finds text = true ↔ e.IsFound text := by
  have listed (n : Nat) : (!(e.splits (text.take n) (text.drop n)).isEmpty) = true ↔
      ∃ taken after, text.drop n = taken ++ after ∧ e.Matches (text.take n) taken after := by
    rw [Bool.not_eq_true', List.isEmpty_eq_false_iff_exists_mem]
    simp only [Prod.exists, mem_splits_iff e _ _ _ _]
  rw [finds, List.any_eq_true]
  simp only [listed, List.mem_range]
  constructor
  · rintro ⟨n, -, taken, after, hsplit, h⟩
    exact ⟨text.take n, taken, after,
      by rw [List.append_assoc, ← hsplit, List.take_append_drop], h⟩
  · rintro ⟨before, taken, after, rfl, h⟩
    rw [List.append_assoc]
    refine ⟨before.length, by rw [List.length_append]; omega, taken, after, ?_, ?_⟩
    · exact List.drop_left
    · rwa [List.take_left]

end

end Expression

/-! ## Engines -/

namespace Engine

/-- **An engine is faithful** if the tests it makes tell in which texts an
expression is found, whatever it does with texts that have no reading. -/
def IsFaithful (engine : Engine) : Prop :=
  ∀ source e test, Expression.read? source = some e → engine source = some test →
    ∀ text, test text = true ↔ e.IsFound text

/-- **The engine that tries all ways**, and takes whatever has a reading. -/
def splitting : Engine :=
  fun source => (Expression.read? source).map Expression.finds

/-- The engine that tries all ways is faithful. -/
theorem isFaithful_splitting : splitting.IsFaithful := by
  intro source e test hread htest text
  rw [splitting, hread] at htest
  obtain rfl := Option.some.inj htest
  exact Expression.finds_iff

end Engine

end ContentFilter
