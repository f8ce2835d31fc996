import ContentFilter.Text.Basic

/-!
# Stored values

Filters are stored as structured values: numbers, texts, lists, and
objects with named fields. This module holds the values and the small
readers out of which the stored forms of filters are put together. A
reader gives `none` for a value that is not of its form; fields that no
reader asks for are passed over.
-/

namespace ContentFilter.Stored

/-- **A stored value.** -/
inductive Value where
  /-- No value. -/
  | null
  /-- A truth value. -/
  | bool (b : Bool)
  /-- An integer. -/
  | integer (n : Int)
  /-- A number that is no integer. -/
  | fraction
  /-- A text. -/
  | text (t : Text)
  /-- A list of values. -/
  | list (vs : List Value)
  /-- Values with names. -/
  | object (fields : List (String × Value))
  deriving Repr, Inhabited

namespace Value

/-- **A field of an object**, if it is there. -/
def field? (v : Value) (name : String) : Option Value :=
  match v with
  | object fields => (fields.find? (·.1 = name)).map (·.2)
  | _ => none

/-- A truth value. -/
def bool? : Value → Option Bool
  | bool b => some b
  | _ => none

/-- A text. -/
def text? : Value → Option Text
  | text t => some t
  | _ => none

/-- An integer from zero up to a bound. -/
def nat? (bound : Nat) : Value → Option Nat
  | integer n => if 0 ≤ n && n ≤ bound then some n.toNat else none
  | _ => none

/-- A number of 32 bits. -/
def uint32? (v : Value) : Option UInt32 :=
  (v.nat? 0xFFFFFFFF).map UInt32.ofNat

/-- A number of 8 bits. -/
def uint8? (v : Value) : Option UInt8 :=
  (v.nat? 0xFF).map UInt8.ofNat

/-- A list whose members all have a form. -/
def listOf? {α : Type} (read? : Value → Option α) : Value → Option (List α)
  | list vs => vs.mapM read?
  | _ => none

/-- A value that may be missing: `null` stands for a missing one. -/
def optional? {α : Type} (read? : Value → Option α) : Option Value → Option (Option α)
  | none | some null => some none
  | some v => (read? v).map some

/-! ## Writing -/

/-- A number of 32 bits. -/
def ofUInt32 (n : UInt32) : Value :=
  integer n.toNat

/-- A number of 8 bits. -/
def ofUInt8 (n : UInt8) : Value :=
  integer n.toNat

/-- A list of texts. -/
def ofTexts (ts : List Text) : Value :=
  list (ts.map text)

/-- A text that may be missing. -/
def ofText? : Option Text → Value
  | none => null
  | some t => text t

/-- A number of 32 bits reads back. -/
@[simp] theorem uint32?_ofUInt32 (n : UInt32) : (ofUInt32 n).uint32? = some n := by
  have := n.toNat_lt
  have h : (n.toNat : Int) ≤ 4294967295 := by omega
  simp [ofUInt32, uint32?, nat?, h]

/-- A number of 8 bits reads back. -/
@[simp] theorem uint8?_ofUInt8 (n : UInt8) : (ofUInt8 n).uint8? = some n := by
  have := n.toNat_lt
  have h : (n.toNat : Int) ≤ 255 := by omega
  simp [ofUInt8, uint8?, nat?, h]

/-- A list of values that read back reads back. -/
theorem mapM_map_eq_some {α : Type} {read? : Value → Option α} {write : α → Value}
    (h : ∀ a, read? (write a) = some a) (as : List α) : (as.map write).mapM read? = some as := by
  induction as with
  | nil => rfl
  | cons a as ih => simp [h, ih]

/-- A list of texts reads back. -/
@[simp] theorem listOf?_ofTexts (ts : List Text) : listOf? text? (ofTexts ts) = some ts :=
  @mapM_map_eq_some Text text? text (fun _ => rfl) ts

/-- A text that may be missing reads back. -/
@[simp] theorem optional?_ofText? (t : Option Text) :
    optional? text? (some (ofText? t)) = some t := by
  cases t <;> rfl

end Value

end ContentFilter.Stored
