import ContentFilter.Proofs.Stored.Rearrangement
import Mathlib.Algebra.Group.Int.Defs

/-!
# Formats

Stored values are written as texts. How this is done is for a **format** to
say: it writes values and reads texts. It need not write everything. Of a
faithful format we only ask that it reads what it wrote of the values it
can be relied on for, `IsStorable`: their integers fit into 64 bits, no
name stands twice in an object, and they are not nested too deep. What it
reads may have its fields in another order.

The stored forms of filters are such values (`isStorable_toValue`).
-/

namespace ContentFilter.Stored

/-- **A way to write values as texts.** -/
structure Format where
  /-- The text for a value. -/
  write : Value → Text
  /-- The value a text stands for, if it does for one. -/
  read? : Text → Option Value

/-- **A value that is nested at most so many levels deep** and that formats
can be relied on for. -/
def Value.IsStorable : Nat → Value → Prop
  | _, .null | _, .bool _ | _, .text _ => True
  | _, .integer n => -2 ^ 63 ≤ n ∧ n < 2 ^ 64
  | _, .fraction | 0, .list _ | 0, .object _ => False
  | n + 1, .list vs => ∀ v ∈ vs, v.IsStorable n
  | n + 1, .object fields => (fields.map (·.1)).Nodup ∧ ∀ f ∈ fields, f.2.IsStorable n

/-- How deep values may be nested. -/
def levelBound : Nat :=
  127

/-- **A format reads what it wrote**, save for the order of fields. -/
def Format.IsFaithful (format : Format) : Prop :=
  ∀ v : Value, v.IsStorable levelBound →
    ∃ w, format.read? (format.write v) = some w ∧ v.Rearranged w

/-- **What is restored** from the text that something was written as. -/
def Format.restore? {α : Type} (format : Format) (toValue : α → Value)
    (ofValue? : Value → Option α) (a : α) : Option α :=
  (format.read? (format.write (toValue a))).bind ofValue?

/-- **What the stored form reads back as is restored from the text**, if the
reader ignores the order of fields. -/
theorem Format.IsFaithful.restore?_eq {format : Format} (faithful : format.IsFaithful) {α : Type}
    {toValue : α → Value} {ofValue? : Value → Option α} (reader : Value.IgnoresOrder ofValue?)
    {a b : α} (storable : (toValue a).IsStorable levelBound)
    (reads : ofValue? (toValue a) = some b) : format.restore? toValue ofValue? a = some b := by
  obtain ⟨w, hw, order⟩ := faithful (toValue a) storable
  rw [Format.restore?, hw, Option.bind_some, ← reader _ _ order, reads]

/-! ## Filters -/

namespace Value

variable (n : Nat)

/-- Numbers of 32 bits are not too large. -/
@[simp] theorem isStorable_ofUInt32 (m : UInt32) : (ofUInt32 m).IsStorable n := by
  have := m.toNat_lt
  simp only [ofUInt32, IsStorable]
  omega

/-- Numbers of 8 bits are not too large. -/
@[simp] theorem isStorable_ofUInt8 (m : UInt8) : (ofUInt8 m).IsStorable n := by
  have := m.toNat_lt
  simp only [ofUInt8, IsStorable]
  omega

/-- A list of texts is one level. -/
@[simp] theorem isStorable_ofTexts (ts : List Text) : (ofTexts ts).IsStorable (n + 1) := by
  simp [ofTexts, IsStorable]

/-- A text that may be missing is no level. -/
@[simp] theorem isStorable_ofText? (t : Option Text) : (ofText? t).IsStorable n := by
  cases t <;> simp [ofText?, IsStorable]

end Value

end ContentFilter.Stored

namespace ContentFilter

variable (n : Nat)

/-- The stored form of a network filter has two levels. -/
@[simp] theorem NetworkFilter.isStorable_toValue (f : NetworkFilter) :
    f.toValue.IsStorable (n + 2) := by
  simp [toValue, Mask.toValue, Shape.toValue, Stored.Value.IsStorable]

/-- The stored form of a cosmetic filter has two levels. -/
@[simp] theorem CosmeticFilter.isStorable_toValue (f : CosmeticFilter) :
    f.toValue.IsStorable (n + 2) := by
  simp [toValue, CosmeticMask.toValue, Stored.Value.IsStorable]

/-- The stored form of a set of filters has four levels. -/
theorem FilterSet.isStorable_toValue (s : FilterSet) : s.toValue.IsStorable (n + 4) := by
  simp [toValue, Stored.Value.IsStorable]

end ContentFilter
