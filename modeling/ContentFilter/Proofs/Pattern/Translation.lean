import ContentFilter.Proofs.Expression.Engine
import ContentFilter.Proofs.Pattern.Plain

/-!
# The expression of a pattern means what the pattern does

A pattern is handed to an engine as the text of a regular expression, which
three passes write one after the other. Two things could go wrong on the way.
A pass could change what an earlier one wrote: it does not, since the passes
replace every character at once (`expression_eq_flatMap`). And the text could be
read as something else than what was meant by it, if a character that stands
for itself were taken for a sign of the language, or a `*` for one that belongs
to more than the `.` in front of it.

So the text is read back. It reads as one item for each character of the
pattern, between those of the anchors (`Anchored.read?_expression`), and each
item matches what its character spells (`matches_treeOfChar_iff`). Therefore
the program of every engine that is faithful, and takes the expression, finds a
pattern where it occurs (`expression_denotes`).
-/

namespace ContentFilter.Pattern

open Expression (Level Reading ofItems)

/-! ## How the expression is read -/

/-- **What a character of a pattern is translated to.** -/
def treeOfChar (c : Char) : Expression :=
  if c = '*' then .many .anyByte
  else if c = '^' then .either (ofItems [.oneOf separators]) (ofItems [.atEnd])
  else .char c

/-- **The expression of a character is read as one item.** -/
theorem run?_expressionOfChar (c : Char) (level : Level) (outer : List Level) :
    Reading.run? ⟨.item, level, outer⟩ (expressionOfChar c) =
      some ⟨.item, level.push (treeOfChar c), outer⟩ := by
  by_cases hwildcard : c = '*'
  · subst hwildcard
    rfl
  by_cases hseparator : c = '^'
  · subst hseparator
    rfl
  rw [expressionOfChar, treeOfChar, if_neg hwildcard, if_neg hseparator, if_neg hwildcard,
    if_neg hseparator]
  by_cases hescaped : escapedChars.contains c = true
  · have backslash : Reading.step? ⟨.item, level, outer⟩ '\\' = some ⟨.escaped, level, outer⟩ := rfl
    rw [if_pos hescaped, Reading.run?_cons, backslash, Option.bind_some, Reading.run?_cons,
      Reading.step?_escaped hescaped]
    rfl
  · have own : Expression.metaChars.contains c = false := by
      simp_all [Expression.metaChars]
    rw [if_neg hescaped, Reading.run?_cons, Reading.step?_of_not_meta own]
    rfl

/-- **The expression of a pattern is read as one item for each character.** -/
theorem run?_expression (pattern : Text) (alternatives items : List Expression)
    (outer : List Level) :
    Reading.run? ⟨.item, ⟨alternatives, items⟩, outer⟩ (expression pattern) =
      some ⟨.item, ⟨alternatives, (pattern.map treeOfChar).reverse ++ items⟩, outer⟩ := by
  rw [expression_eq_flatMap]
  induction pattern generalizing items with
  | nil => rfl
  | cons c pattern ih =>
    rw [List.flatMap_cons, Reading.run?_append, run?_expressionOfChar, Option.bind_some,
      Level.push, ih, List.map_cons, List.reverse_cons, List.append_assoc, List.singleton_append]

namespace Anchored

/-- **The items of an anchored pattern**, with those of its anchors. -/
def treeItems (a : Anchored) : List Expression :=
  (if a.left then [.atStart] else []) ++ a.pattern.map treeOfChar ++
    (if a.right then [.atEnd] else [])

/-- **The tree of an anchored pattern.** -/
def tree (a : Anchored) : Expression :=
  ofItems a.treeItems

/-- **The expression of an anchored pattern is read as its tree.** -/
theorem read?_expression (a : Anchored) : Expression.read? a.expression = some a.tree := by
  obtain ⟨pattern, left, right⟩ := a
  have atStart : Reading.start.run? (if left then ['^'] else []) =
      some ⟨.item, ⟨[], if left then [.atStart] else []⟩, []⟩ := by
    cases left <;> rfl
  have atEnd (items : List Expression) :
      Reading.run? ⟨.item, ⟨[], items⟩, []⟩ (if right then ['$'] else []) =
        some ⟨.item, ⟨[], (if right then [.atEnd] else []) ++ items⟩, []⟩ := by
    cases right <;> rfl
  rw [Expression.read?, expression, Reading.run?_append, Reading.run?_append, atStart,
    Option.bind_some, run?_expression, Option.bind_some, atEnd, Option.bind_some]
  have items : ((if right then [Expression.atEnd] else []) ++ ((pattern.map treeOfChar).reverse ++
      if left then [Expression.atStart] else [])).reverse = treeItems ⟨pattern, left, right⟩ := by
    cases left <;> cases right <;> simp [treeItems]
  show some (ofItems (List.reverse _)) = _
  rw [items, tree]

end Anchored

/-! ## What the expression matches -/

/-- **Items spell part by part.** What the first ones are followed by is what
the others take, and what comes after that. -/
theorem spells_append {p q : List Item} {taken after : List UInt8} :
    Spells (p ++ q) taken after ↔
      ∃ first rest, taken = first ++ rest ∧ Spells p first (rest ++ after) ∧
        Spells q rest after := by
  induction p generalizing taken with
  | nil =>
    constructor
    · intro h
      exact ⟨[], taken, rfl, .nil _, h⟩
    · rintro ⟨_, rest, rfl, ⟨⟩, h⟩
      exact h
  | cons i p ih =>
    constructor
    · intro h
      rw [List.cons_append] at h
      cases h with
      | cons head tail =>
        obtain ⟨first, rest, rfl, hp, hq⟩ := ih.1 tail
        exact ⟨_, rest, (List.append_assoc ..).symm, .cons (by rwa [← List.append_assoc]) hp, hq⟩
    · rintro ⟨_, rest, rfl, ⟨⟩, hq⟩
      next first next head tail =>
      rw [List.append_assoc]
      exact .cons (by rwa [List.append_assoc]) (ih.2 ⟨next, rest, rfl, tail, hq⟩)

/-- A single item spells what it is. -/
theorem spells_singleton {i : Item} {taken after : List UInt8} :
    Spells [i] taken after ↔ i.Spells taken after := by
  constructor
  · rintro ⟨⟩
    next head tail =>
    cases tail
    rwa [List.append_nil]
  · intro h
    rw [← List.append_nil taken]
    exact .cons h (.nil after)

/-- A wildcard spells runs without a line feed. -/
theorem Item.spells_wildcard_iff {taken after : List UInt8} :
    Item.wildcard.Spells taken after ↔ lineFeed ∉ taken := by
  constructor
  · rintro ⟨⟩
    assumption
  · exact .wildcard taken after

/-- A separator spells one separating byte, or nothing at the end. -/
theorem Item.spells_separator_iff {taken after : List UInt8} :
    Item.separator.Spells taken after ↔
      (∃ b, isSeparator b = true ∧ taken = [b]) ∨ taken = [] ∧ after = [] := by
  constructor
  · rintro ⟨⟩
    · exact .inl ⟨_, ‹_›, rfl⟩
    · exact .inr ⟨rfl, rfl⟩
  · rintro (⟨b, hb, rfl⟩ | ⟨rfl, rfl⟩)
    · exact .separator b after hb
    · exact .atEnd

/-- The items of a pattern are those of its parts. -/
theorem items_append (s t : Text) : items (s ++ t) = items s ++ items t := by
  unfold items
  rw [Text.utf8_append, List.map_append]

/-- **The tree of a character matches what the character spells.** -/
theorem matches_treeOfChar_iff {c : Char} {before taken after : List UInt8} :
    (treeOfChar c).Matches before taken after ↔ Spells (items [c]) taken after := by
  by_cases hwildcard : c = '*'
  · subst hwildcard
    have item : items ['*'] = [.wildcard] := rfl
    rw [item, spells_singleton, Item.spells_wildcard_iff]
    exact Expression.matches_many_anyByte_iff
  by_cases hseparator : c = '^'
  · subst hseparator
    have item : items ['^'] = [.separator] := rfl
    have tree : treeOfChar '^' =
      .either (ofItems [.oneOf separators]) (ofItems [.atEnd]) := rfl
    rw [item, spells_singleton, Item.spells_separator_iff, tree, Expression.matches_either_iff,
      Expression.matches_ofItems_singleton, Expression.matches_ofItems_singleton,
      Expression.matches_oneOf_iff, Expression.matches_atEnd_iff]
    simp only [isSeparator, List.contains_iff_mem]
  · have plain : isPlain [c] = true := isPlain_iff.2
      ⟨fun h => hwildcard (List.mem_singleton.1 h).symm,
        fun h => hseparator (List.mem_singleton.1 h).symm⟩
    rw [items_of_isPlain plain, spells_bytes, treeOfChar, if_neg hwildcard, if_neg hseparator,
      Expression.matches_char_iff, Text.utf8_cons, Text.utf8_nil, List.append_nil]

/-- **The trees of some characters match what the characters spell.** -/
theorem matches_map_treeOfChar_iff {pattern : Text} {before taken after : List UInt8} :
    (ofItems (pattern.map treeOfChar)).Matches before taken after ↔
      Spells (items pattern) taken after := by
  induction pattern generalizing before taken with
  | nil =>
    show Expression.nothing.Matches before taken after ↔ Spells [] taken after
    rw [Expression.matches_nothing_iff]
    constructor
    · rintro rfl
      exact .nil after
    · rintro ⟨⟩
      rfl
  | cons c pattern ih =>
    have parts : items (c :: pattern) = items [c] ++ items pattern := items_append [c] pattern
    rw [List.map_cons, ofItems, Expression.matches_sequence_iff, parts, spells_append]
    simp only [matches_treeOfChar_iff, ih]

namespace Anchored

/-- **The tree of an anchored pattern is found where the pattern occurs.** -/
theorem isFound_tree_iff {a : Anchored} {text : List UInt8} :
    a.tree.IsFound text ↔ Occurs (items a.pattern) a.left a.right text := by
  obtain ⟨pattern, left, right⟩ := a
  have atStart {before taken after : List UInt8} :
      (ofItems (if left then [.atStart] else [])).Matches before taken after ↔
        taken = [] ∧ (left = true → before = []) := by
    cases left
    · simp [ofItems, Expression.matches_nothing_iff]
    · simp [Expression.matches_ofItems_singleton, Expression.matches_atStart_iff, and_comm]
  have atEnd {before taken after : List UInt8} :
      (ofItems (if right then [.atEnd] else [])).Matches before taken after ↔
        taken = [] ∧ (right = true → after = []) := by
    cases right
    · simp [ofItems, Expression.matches_nothing_iff]
    · simp [Expression.matches_ofItems_singleton, Expression.matches_atEnd_iff]
  refine exists_congr fun before => exists_congr fun taken => exists_congr fun after =>
    and_congr_right fun _ => ?_
  rw [tree, treeItems, Expression.matches_ofItems_append]
  simp only [Expression.matches_ofItems_append, matches_map_treeOfChar_iff, atStart, atEnd]
  constructor
  · rintro ⟨_, _, rfl, ⟨_, spelled, rfl, ⟨rfl, hstart⟩, hs⟩, rfl, hend⟩
    simp only [List.nil_append, List.append_nil] at hs ⊢
    exact ⟨hs, hstart, hend⟩
  · rintro ⟨hs, hstart, hend⟩
    exact ⟨taken, [], (List.append_nil taken).symm,
      ⟨[], taken, rfl, ⟨rfl, hstart⟩, hs⟩, rfl, hend⟩

/-- A pattern that matches everything occurs in every text. -/
theorem occurs_of_matchesAll {a : Anchored} (h : a.matchesAll = true) (text : List UInt8) :
    Occurs (items a.pattern) a.left a.right text := by
  obtain ⟨hempty, hright⟩ : a.pattern = [] ∧ a.right = false := by
    simpa [matchesAll] using h
  refine ⟨[], [], text, rfl, ?_, fun _ => rfl, ?_⟩
  · rw [hempty]
    exact .nil text
  · rw [hright]
    exact nofun

end Anchored

/-! ## Programs -/

namespace Program

variable {engine : Engine} {a : Anchored} {text : List UInt8}

/-- What matches everything is not shown to the engine. -/
theorem compile_of_matchesAll (h : a.matchesAll = true) : compile engine a = everything :=
  if_pos h

/-- What a faithful engine says of a program is where the pattern occurs. -/
theorem occurs_of_isMatch (faithful : engine.IsFaithful)
    (h : (compile engine a).isMatch text = true) :
    Occurs (items a.pattern) a.left a.right text := by
  unfold compile at h
  split at h
  · next hall => exact Anchored.occurs_of_matchesAll hall text
  · split at h
    · next test htest =>
      exact Anchored.isFound_tree_iff.1 ((faithful _ _ _ a.read?_expression htest text).1 h)
    · cases h

/-- **By a faithful engine that takes its expression, a pattern matches where it
occurs.** The pattern that matches everything needs no engine. -/
theorem isMatch_iff_occurs (faithful : engine.IsFaithful)
    (taken : a.matchesAll = true ∨ (engine a.expression).isSome = true) :
    (compile engine a).isMatch text = true ↔ Occurs (items a.pattern) a.left a.right text := by
  refine ⟨occurs_of_isMatch faithful, fun occurs => ?_⟩
  unfold compile
  split
  · rfl
  · next hall =>
    obtain ⟨test, htest⟩ := Option.isSome_iff_exists.1 (taken.resolve_left hall)
    rw [htest]
    exact (faithful _ _ _ a.read?_expression htest text).2 (Anchored.isFound_tree_iff.2 occurs)

end Program

/-- **The expression of a pattern denotes the pattern.** It is written by
replacing every character at once. Whatever faithful engine takes the expression
of an anchored pattern, its program matches a text exactly if the pattern occurs
in the text, anchored as it is. And the empty pattern that may end anywhere
matches every text, whatever the engine. -/
theorem expression_denotes (a : Anchored) :
    expression a.pattern = a.pattern.flatMap expressionOfChar ∧
      (∀ engine : Engine, engine.IsFaithful → (engine a.expression).isSome = true →
        ∀ text : List UInt8, (Program.compile engine a).isMatch text = true ↔
          Occurs (items a.pattern) a.left a.right text) ∧
      (a.pattern = [] → a.right = false →
        ∀ engine text, (Program.compile engine a).isMatch text = true) := by
  refine ⟨expression_eq_flatMap a.pattern, fun engine faithful taken text =>
    Program.isMatch_iff_occurs faithful (.inr taken), fun hempty hright engine text => ?_⟩
  have hall : a.matchesAll = true := by
    rw [Anchored.matchesAll, hempty, hright]
    rfl
  rw [Program.compile_of_matchesAll hall]
  rfl

/-- A pattern with a separator behind a word, by an engine that tries all ways: it
matches at the end of a URL, and not before a letter. -/
theorem expression_denotes_separator :
    let a : Anchored := ⟨"/ads^".toList, false, false⟩
    let program := Program.compile Engine.splitting a
    a.expression = "/ads(?:[,+|#/$?&;!*()]|$)".toList ∧
      (Engine.splitting a.expression).isSome = true ∧
      program.isMatch (Text.utf8 "a.com/ads".toList) = true ∧
      Occurs (items a.pattern) false false (Text.utf8 "a.com/ads".toList) ∧
      program.isMatch (Text.utf8 "a.com/adserver".toList) = false ∧
      ¬ Occurs (items a.pattern) false false (Text.utf8 "a.com/adserver".toList) := by
  intro a program
  have taken : (Engine.splitting a.expression).isSome = true := by decide +kernel
  have found : program.isMatch (Text.utf8 "a.com/ads".toList) = true := by decide +kernel
  have missed : program.isMatch (Text.utf8 "a.com/adserver".toList) = false := by decide +kernel
  have denotes := (expression_denotes a).2.1 Engine.splitting Engine.isFaithful_splitting taken
  refine ⟨by decide, taken, found, (denotes _).1 found, missed, fun occurs => ?_⟩
  have hmatch := (denotes _).2 occurs
  exact Bool.false_ne_true (missed.symm.trans hmatch)

end ContentFilter.Pattern
