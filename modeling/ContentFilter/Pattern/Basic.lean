import ContentFilter.Text.Bytes

/-!
# Patterns

The part of a network rule that is compared with a URL. Three things stand
in a pattern:

* `*`, the **wildcard**, stands for any run of bytes without a line feed;
* `^`, the **separator**, stands for one byte of `,+|#/$?&;!*()`, or for the
  end of the URL;
* every other byte stands for itself.

`Spells` is the meaning of a pattern: which bytes it spells, given what
follows them. What follows matters to a separator alone, which spells
nothing at the end.

A pattern is compared with URLs byte by byte, so its items are bytes and
not characters. Where a pattern holds no wildcard and no separator
(`isPlain`) it spells its own bytes and nothing else (`spells_bytes`).
-/

namespace ContentFilter.Pattern

/-- **An item of a pattern.** -/
inductive Item where
  /-- A byte that stands for itself. -/
  | byte (b : UInt8)
  /-- Any run of bytes without a line feed. -/
  | wildcard
  /-- A separating byte, or the end. -/
  | separator
  deriving DecidableEq, Repr

/-- The item a byte of a pattern stands for. -/
def Item.ofByte (b : UInt8) : Item :=
  if b = 0x2A then .wildcard else if b = 0x5E then .separator else .byte b

/-- **The items of a pattern.** -/
def items (pattern : Text) : List Item :=
  (Text.utf8 pattern).map Item.ofByte

/-- The line feed, which no wildcard passes. -/
def lineFeed : UInt8 := 0x0A

/-- The separating characters. -/
def separators : Text :=
  ",+|#/$?&;!*()".toList

/-- **A separating byte.** -/
def isSeparator (b : UInt8) : Bool :=
  (Text.utf8 separators).contains b

/-- **A pattern without wildcards and separators.** -/
def isPlain (pattern : Text) : Bool :=
  !(pattern.contains '*' || pattern.contains '^')

/-! ## Meaning -/

/-- **What one item spells**: `taken`, when `after` follows. -/
inductive Item.Spells : Item → (taken after : List UInt8) → Prop where
  /-- A byte spells itself. -/
  | byte (b : UInt8) (after : List UInt8) : Spells (.byte b) [b] after
  /-- A wildcard spells any run without a line feed. -/
  | wildcard (run after : List UInt8) (h : lineFeed ∉ run) : Spells .wildcard run after
  /-- A separator spells one separating byte. -/
  | separator (b : UInt8) (after : List UInt8) (h : isSeparator b = true) :
      Spells .separator [b] after
  /-- A separator spells nothing at the end. -/
  | atEnd : Spells .separator [] []

/-- **What a pattern spells**: `taken`, when `after` follows. -/
inductive Spells : List Item → (taken after : List UInt8) → Prop where
  /-- No item spells nothing. -/
  | nil (after : List UInt8) : Spells [] [] after
  /-- Items spell one after the other. -/
  | cons {i : Item} {p : List Item} {first rest after : List UInt8}
      (head : i.Spells first (rest ++ after)) (tail : Spells p rest after) :
      Spells (i :: p) (first ++ rest) after

/-- **Whether a pattern occurs in a text**, at its start or up to its end if
it is anchored there. -/
def Occurs (p : List Item) (leftAnchored rightAnchored : Bool) (text : List UInt8) : Prop :=
  ∃ before taken after, text = before ++ taken ++ after ∧ Spells p taken after ∧
    (leftAnchored = true → before = []) ∧ (rightAnchored = true → after = [])

/-- Bytes that stand for themselves spell exactly themselves. -/
theorem spells_bytes {bs taken after : List UInt8} :
    Spells (bs.map Item.byte) taken after ↔ taken = bs := by
  induction bs generalizing taken with
  | nil =>
    constructor
    · rintro ⟨⟩
      rfl
    · rintro rfl
      exact .nil after
  | cons b bs ih =>
    constructor
    · intro h
      rw [List.map_cons] at h
      generalize hp : bs.map Item.byte = p at h ih
      cases h with
      | cons head tail =>
        cases head
        rw [ih.1 tail]
        rfl
    · rintro rfl
      exact .cons (show Item.Spells _ [b] _ from .byte b _) (ih.2 rfl)

end ContentFilter.Pattern
