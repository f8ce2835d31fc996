import Mathlib.Data.Option.Basic
import Mathlib.Data.List.Perm.Basic
import ContentFilter.Stored.Filters

/-!
# Stored values in another order

The order of the fields of an object means nothing, and a format may keep
it or not. `Value.Rearranged` relates the values that differ in nothing
else, however deep the fields lie.

No reader of filters can tell such values apart (`IgnoresOrder`), so what
is stored reads back as the same filter from every value it was rearranged
to. A reader is seen to be one by the readers it is put together from.
-/

namespace ContentFilter.Stored

namespace Value

/-- **Values that differ in the order of fields**, in their parts as well.
No name stands twice in an object that is put in another order. -/
inductive Rearranged : Value → Value → Prop where
  /-- Nothing differs. -/
  | refl (v : Value) : Rearranged v v
  /-- Lists whose members differ in the order of fields. -/
  | list {vs ws : List Value} (h : List.Forall₂ Rearranged vs ws) :
    Rearranged (.list vs) (.list ws)
  /-- Objects whose fields stand in another order, with values that differ
  in the order of fields. -/
  | object {fs gs hs : List (String × Value)} (names : (fs.map (·.1)).Nodup) (order : fs.Perm gs)
    (sameNames : gs.map (·.1) = hs.map (·.1))
    (values : List.Forall₂ Rearranged (gs.map (·.2)) (hs.map (·.2))) :
    Rearranged (.object fs) (.object hs)

/-! ## Fields -/

/-- Fields with the same name and the same value are found, whatever their
order. -/
theorem find?_eq_of_perm {fs gs : List (String × Value)} (order : fs.Perm gs)
    (names : (fs.map (·.1)).Nodup) (name : String) :
    fs.find? (·.1 = name) = gs.find? (·.1 = name) := by
  induction order with
  | nil => rfl
  | @cons f fs gs _ ih =>
    rw [List.map_cons, List.nodup_cons] at names
    rw [List.find?_cons, List.find?_cons, ih names.2]
  | swap f g fs =>
    have differ : g.1 ≠ f.1 := by
      simp only [List.map_cons, List.nodup_cons, List.mem_cons, not_or] at names
      exact names.1.1
    simp only [List.find?_cons]
    grind
  | trans order _ ih₁ ih₂ =>
    exact (ih₁ names).trans (ih₂ ((order.map (·.1)).nodup_iff.1 names))

/-- Fields with the same names and related values are found alike. -/
theorem rel_find?_of_forall₂ {R : Value → Value → Prop} {gs hs : List (String × Value)}
    (sameNames : gs.map (·.1) = hs.map (·.1))
    (values : List.Forall₂ R (gs.map (·.2)) (hs.map (·.2))) (name : String) :
    Option.Rel R ((gs.find? (·.1 = name)).map (·.2)) ((hs.find? (·.1 = name)).map (·.2)) := by
  induction gs generalizing hs with
  | nil =>
    obtain rfl : hs = [] := by simpa using sameNames
    exact .none
  | cons g gs ih =>
    obtain _ | ⟨h, hs⟩ := hs
    · simp at sameNames
    · simp only [List.map_cons, List.cons.injEq, List.forall₂_cons] at sameNames values
      rw [List.find?_cons, List.find?_cons, sameNames.1]
      by_cases found : h.1 = name
      · simpa [found] using Option.Rel.some values.1
      · simpa [found] using ih sameNames.2 values.2

/-- **A field is found in both values or in none**, with values that differ
in the order of fields. -/
theorem Rearranged.field? {v w : Value} (h : Rearranged v w) (name : String) :
    Option.Rel Rearranged (v.field? name) (w.field? name) := by
  cases h with
  | refl v =>
    cases v.field? name with
    | none => exact .none
    | some a => exact .some (.refl a)
  | list => exact .none
  | object names order sameNames values =>
    simp only [Value.field?, find?_eq_of_perm order names]
    exact rel_find?_of_forall₂ sameNames values name

/-! ## Readers -/

/-- **A reader that cannot tell rearranged values apart.** -/
def IgnoresOrder {α : Type} (read? : Value → Option α) : Prop :=
  ∀ v w, Rearranged v w → read? v = read? w

section Readers

variable {α β : Type} {read? : Value → Option α}

/-- Readers of single values. -/
theorem ignoresOrder_text? : IgnoresOrder text? := by
  rintro v w (_ | _ | _) <;> rfl

@[inherit_doc ignoresOrder_text?]
theorem ignoresOrder_bool? : IgnoresOrder bool? := by
  rintro v w (_ | _ | _) <;> rfl

@[inherit_doc ignoresOrder_text?]
theorem ignoresOrder_nat? (bound : Nat) : IgnoresOrder (nat? bound) := by
  rintro v w (_ | _ | _) <;> rfl

@[inherit_doc ignoresOrder_text?]
theorem ignoresOrder_uint32? : IgnoresOrder uint32? := fun v w h =>
  congrArg (Option.map UInt32.ofNat) (ignoresOrder_nat? _ v w h)

@[inherit_doc ignoresOrder_text?]
theorem ignoresOrder_uint8? : IgnoresOrder uint8? := fun v w h =>
  congrArg (Option.map UInt8.ofNat) (ignoresOrder_nat? _ v w h)

/-- A list is read member by member. -/
theorem IgnoresOrder.listOf? (h : IgnoresOrder read?) : IgnoresOrder (Value.listOf? read?) := by
  intro v w related
  cases related with
  | refl | object => rfl
  | list members =>
    simp only [Value.listOf?]
    induction members with
    | nil => rfl
    | cons first _ ih => rw [List.mapM_cons, List.mapM_cons, h _ _ first, ih]

/-- **A field is read alike**, and then what depends on it. -/
theorem IgnoresOrder.field (h : IgnoresOrder read?) (name : String) {rest : α → Value → Option β}
    (hrest : ∀ a, IgnoresOrder (rest a)) :
    IgnoresOrder fun v => (v.field? name).bind fun f => (read? f).bind fun a => rest a v := by
  intro v w hvw
  have fields := hvw.field? name
  change (v.field? name).bind _ = (w.field? name).bind _
  generalize v.field? name = f at fields ⊢
  generalize w.field? name = g at fields ⊢
  cases fields with
  | none => rfl
  | some related => simp only [Option.bind_some, h _ _ related, hrest _ v w hvw]

/-- A field that may be missing is read alike, and then what depends on
it. -/
theorem IgnoresOrder.optionalField (h : IgnoresOrder read?) (name : String)
    {rest : Option α → Value → Option β} (hrest : ∀ a, IgnoresOrder (rest a)) :
    IgnoresOrder fun v => (optional? read? (v.field? name)).bind fun a => rest a v := by
  intro v w hvw
  have read : optional? read? (v.field? name) = optional? read? (w.field? name) := by
    have fields := hvw.field? name
    generalize v.field? name = f at fields
    generalize w.field? name = g at fields
    cases fields with
    | none => rfl
    | some related =>
      have same := h _ _ related
      -- `null` stands for a missing field, and is related to nothing else
      cases related with
      | refl => rfl
      | list | object => simp only [optional?, same]
  simp only [read, hrest _ v w hvw]

/-- What does not depend on the value is the same. -/
theorem ignoresOrder_const (result : Option α) : IgnoresOrder fun _ => result :=
  fun _ _ _ => rfl

end Readers

end Value

end ContentFilter.Stored

namespace ContentFilter

/-! ## Filters -/

open Stored.Value

/-- A mask is read from its field in any order. -/
theorem Mask.ignoresOrder_ofValue? : IgnoresOrder Mask.ofValue? :=
  ignoresOrder_uint32?.field "bits" fun _ => ignoresOrder_const _

@[inherit_doc Mask.ignoresOrder_ofValue?]
theorem CosmeticMask.ignoresOrder_ofValue? : IgnoresOrder CosmeticMask.ofValue? :=
  ignoresOrder_uint8?.field "bits" fun _ => ignoresOrder_const _

/-- A shape has no fields. -/
theorem Shape.ignoresOrder_ofValue? : IgnoresOrder Shape.ofValue? := fun v w h =>
  congrArg (Option.bind · fun name => ofName? (String.ofList name)) (ignoresOrder_text? v w h)

/-- **A network filter is read from its fields in any order.** -/
theorem NetworkFilter.ignoresOrder_ofValue? : IgnoresOrder NetworkFilter.ofValue? :=
  Mask.ignoresOrder_ofValue?.field "mask" fun _ =>
  Shape.ignoresOrder_ofValue?.field "shape" fun _ =>
  ignoresOrder_text?.field "filter" fun _ =>
  ignoresOrder_text?.field "hostname" fun _ =>
  ignoresOrder_text?.listOf?.field "opt_domains" fun _ =>
  ignoresOrder_text?.listOf?.field "opt_not_domains" fun _ =>
  ignoresOrder_text?.field "redirect" fun _ =>
  ignoresOrder_text?.optionalField "raw_line" fun _ =>
  ignoresOrder_uint32?.field "id" fun _ => ignoresOrder_const _

/-- **A cosmetic filter is read from its fields in any order.** -/
theorem CosmeticFilter.ignoresOrder_ofValue? : IgnoresOrder CosmeticFilter.ofValue? :=
  CosmeticMask.ignoresOrder_ofValue?.field "mask" fun _ =>
  ignoresOrder_text?.listOf?.field "hostnames" fun _ =>
  ignoresOrder_text?.field "selector" fun _ =>
  ignoresOrder_text?.optionalField "raw_line" fun _ =>
  ignoresOrder_uint32?.field "id" fun _ => ignoresOrder_const _

/-- **A set of filters is read from its fields in any order.** -/
theorem FilterSet.ignoresOrder_ofValue? : IgnoresOrder FilterSet.ofValue? :=
  ignoresOrder_bool?.field "debug" fun _ =>
  NetworkFilter.ignoresOrder_ofValue?.listOf?.field "network_filters" fun _ =>
  CosmeticFilter.ignoresOrder_ofValue?.listOf?.field "cosmetic_filters" fun _ =>
  ignoresOrder_const _

end ContentFilter
