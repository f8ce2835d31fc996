import ContentFilter.FilterList.FilterSet
import ContentFilter.Stored.Value

/-!
# The stored form of filters

Each filter is stored as an object with all its fields, and read back as
it is: shape and identity are stored beside what they follow from, and
nothing is computed anew or checked. Bits of a mask that are no flag's are
kept. A line that was not kept may be missing altogether.

What is written reads back as it was (`ofValue?_toValue`), for filters of
both types and for sets of them.
-/

namespace ContentFilter

open Stored (Value)

namespace Mask

/-- **A mask as it is stored.** -/
def toValue (m : Mask) : Value :=
  .object [("bits", .ofUInt32 m.bits)]

/-- **The mask stored as a value.** -/
def ofValue? (v : Value) : Option Mask := do
  let bits ← (← v.field? "bits").uint32?
  some ⟨bits⟩

/-- A mask reads back. -/
@[simp] theorem ofValue?_toValue (m : Mask) : ofValue? m.toValue = some m := by
  simp [ofValue?, toValue, Value.field?]

end Mask

namespace CosmeticMask

/-- **A mask as it is stored.** -/
def toValue (m : CosmeticMask) : Value :=
  .object [("bits", .ofUInt8 m.bits)]

/-- **The mask stored as a value.** -/
def ofValue? (v : Value) : Option CosmeticMask := do
  let bits ← (← v.field? "bits").uint8?
  some ⟨bits⟩

/-- A mask reads back. -/
@[simp] theorem ofValue?_toValue (m : CosmeticMask) : ofValue? m.toValue = some m := by
  simp [ofValue?, toValue, Value.field?]

end CosmeticMask

namespace Shape

/-- **A shape as it is stored.** -/
def toValue (s : Shape) : Value :=
  .text s.name.toList

/-- **The shape stored as a value.** -/
def ofValue? (v : Value) : Option Shape := do
  let name ← v.text?
  ofName? (String.ofList name)

/-- A shape reads back. -/
@[simp] theorem ofValue?_toValue (s : Shape) : ofValue? s.toValue = some s := by
  simp [ofValue?, toValue, Value.text?]

end Shape

namespace RequestKind

/-- **The kind stored as a value.** -/
def ofValue? (v : Value) : Option RequestKind := do
  let name ← v.text?
  ofStoredName? (String.ofList name)

end RequestKind

namespace NetworkFilter

/-- **A network filter as it is stored.** -/
def toValue (f : NetworkFilter) : Value :=
  .object
    [("mask", f.mask.toValue), ("shape", f.shape.toValue), ("filter", .text f.pattern),
      ("hostname", .text f.hostname), ("opt_domains", .ofTexts f.domains),
      ("opt_not_domains", .ofTexts f.excludedDomains), ("redirect", .text f.redirect),
      ("raw_line", .ofText? f.rawLine?), ("id", .ofUInt32 f.id)]

/-- **The network filter stored as a value.** -/
def ofValue? (v : Value) : Option NetworkFilter := do
  let mask ← Mask.ofValue? (← v.field? "mask")
  let shape ← Shape.ofValue? (← v.field? "shape")
  let pattern ← (← v.field? "filter").text?
  let hostname ← (← v.field? "hostname").text?
  let domains ← Value.listOf? Value.text? (← v.field? "opt_domains")
  let excludedDomains ← Value.listOf? Value.text? (← v.field? "opt_not_domains")
  let redirect ← (← v.field? "redirect").text?
  let rawLine? ← Value.optional? Value.text? (v.field? "raw_line")
  let id ← (← v.field? "id").uint32?
  some { mask, shape, pattern, hostname, domains, excludedDomains, redirect, rawLine?, id }

/-- **A network filter reads back.** -/
@[simp] theorem ofValue?_toValue (f : NetworkFilter) : ofValue? f.toValue = some f := by
  simp [ofValue?, toValue, Value.field?, Value.text?]

end NetworkFilter

namespace CosmeticFilter

/-- **A cosmetic filter as it is stored.** -/
def toValue (f : CosmeticFilter) : Value :=
  .object
    [("mask", f.mask.toValue), ("hostnames", .ofTexts f.hostnames),
      ("selector", .text f.selector), ("raw_line", .ofText? f.rawLine?), ("id", .ofUInt32 f.id)]

/-- **The cosmetic filter stored as a value.** -/
def ofValue? (v : Value) : Option CosmeticFilter := do
  let mask ← CosmeticMask.ofValue? (← v.field? "mask")
  let hostnames ← Value.listOf? Value.text? (← v.field? "hostnames")
  let selector ← (← v.field? "selector").text?
  let rawLine? ← Value.optional? Value.text? (v.field? "raw_line")
  let id ← (← v.field? "id").uint32?
  some { mask, hostnames, selector, rawLine?, id }

/-- **A cosmetic filter reads back.** -/
@[simp] theorem ofValue?_toValue (f : CosmeticFilter) : ofValue? f.toValue = some f := by
  simp [ofValue?, toValue, Value.field?, Value.text?]

end CosmeticFilter

namespace FilterSet

/-- **A set of filters as it is stored.** -/
def toValue (s : FilterSet) : Value :=
  .object
    [("debug", .bool s.keepsLines),
      ("network_filters", .list (s.networkFilters.map NetworkFilter.toValue)),
      ("cosmetic_filters", .list (s.cosmeticFilters.map CosmeticFilter.toValue))]

/-- **The set of filters stored as a value.** -/
def ofValue? (v : Value) : Option FilterSet := do
  let keepsLines ← (← v.field? "debug").bool?
  let networkFilters ← Value.listOf? NetworkFilter.ofValue? (← v.field? "network_filters")
  let cosmeticFilters ← Value.listOf? CosmeticFilter.ofValue? (← v.field? "cosmetic_filters")
  some { keepsLines, networkFilters, cosmeticFilters }

/-- **A set of filters reads back.** -/
@[simp] theorem ofValue?_toValue (s : FilterSet) : ofValue? s.toValue = some s := by
  have network := Value.mapM_map_eq_some NetworkFilter.ofValue?_toValue s.networkFilters
  have cosmetic := Value.mapM_map_eq_some CosmeticFilter.ofValue?_toValue s.cosmeticFilters
  simp [ofValue?, toValue, Value.field?, Value.bool?, Value.listOf?, network, cosmetic]

end FilterSet

namespace ParseOptions

/-- **The options stored as an object.** A field that is missing has its
usual value. -/
def ofValue? (v : Value) : Option ParseOptions :=
  match v with
  | .object _ => do
    let format ← match v.field? "format" with
      | none => some ListFormat.standard
      | some f => f.text?.bind fun name => ListFormat.ofName? (String.ofList name)
    let ruleTypes ← match v.field? "rule_types" with
      | none => some RuleTypes.all
      | some t => t.text?.bind fun name => RuleTypes.ofName? (String.ofList name)
    some { format, ruleTypes }
  | _ => none

end ParseOptions

end ContentFilter
