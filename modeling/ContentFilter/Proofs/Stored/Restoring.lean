import ContentFilter.Idna.Ascii
import ContentFilter.Proofs.Expression.Engine
import ContentFilter.Proofs.Network.LoadedFilter
import ContentFilter.Proofs.Stored.Json
import ContentFilter.Cosmetic.Matching

/-!
# Restoring filters

Filters in use are stored without the programs they keep, and a restored
filter keeps none. Nothing is lost by that: whatever format they are written
in, as long as it is faithful, each filter is restored with all its fields
as they were, and answers every use as the stored filter would have gone on
to answer it. A set is restored with its filters in the order they were in.

There is no condition on the filters. Their fields may be any, also such
that no line gives: bits of the mask that mean nothing, a shape that does
not follow from the mask, the identity of another filter, domains in any
order.
-/

namespace ContentFilter

open Stored (Format Value)

namespace LoadedFilter

/-- **A filter in use as it is stored**, without the program it keeps. -/
def toValue (l : LoadedFilter) : Value :=
  l.filter.toValue

/-- **The filter stored as a value**, not used yet. -/
def ofValue? (v : Value) : Option LoadedFilter :=
  (NetworkFilter.ofValue? v).map load

/-- **A filter in use and what it is restored as.** -/
structure Restores (engine : Engine) (l m : LoadedFilter) : Prop where
  /-- All fields are the same. -/
  filter : m.filter = l.filter
  /-- No program was stored. -/
  program? : m.program? = none
  /-- Whatever they are used for, they answer the same. -/
  answers : ∀ uses, (m.run engine uses).2 = (l.run engine uses).2

/-- A filter that is loaded again answers as the one in use does. -/
theorem IsReachable.restores_load {engine : Engine} {l : LoadedFilter}
    (h : l.IsReachable engine) : Restores engine l (load l.filter) where
  filter := rfl
  program? := rfl
  answers uses := by
    rw [((isSound_load engine l.filter).yields_run uses).value, (h.isSound.yields_run uses).value]
    rfl

/-- A filter is read from its fields in any order. -/
theorem ignoresOrder_ofValue? : Value.IgnoresOrder ofValue? := fun v w h =>
  congrArg (Option.map load) (NetworkFilter.ignoresOrder_ofValue? v w h)

/-- The stored form reads back as the filter, loaded again. -/
theorem ofValue?_toValue (l : LoadedFilter) : ofValue? l.toValue = some (load l.filter) := by
  rw [ofValue?, toValue, NetworkFilter.ofValue?_toValue, Option.map_some]

end LoadedFilter

/-- **A set of filters in use.** -/
structure LoadedSet where
  /-- Whether the lines are kept on the filters. -/
  keepsLines : Bool
  /-- The network filters, each with the program it keeps. -/
  networkFilters : List LoadedFilter
  /-- The cosmetic filters. -/
  cosmeticFilters : List CosmeticFilter

namespace LoadedSet

/-- The set, whatever its filters keep. -/
def filterSet (s : LoadedSet) : FilterSet :=
  ⟨s.keepsLines, s.networkFilters.map (·.filter), s.cosmeticFilters⟩

/-- **A set whose filters were not used yet.** -/
def load (s : FilterSet) : LoadedSet :=
  ⟨s.keepsLines, s.networkFilters.map .load, s.cosmeticFilters⟩

/-- **A set in use as it is stored.** -/
def toValue (s : LoadedSet) : Value :=
  s.filterSet.toValue

/-- **The set stored as a value**, not used yet. -/
def ofValue? (v : Value) : Option LoadedSet :=
  (FilterSet.ofValue? v).map load

/-- **A set as it can be met**: each filter was used any number of times. -/
def IsReachable (engine : Engine) (s : LoadedSet) : Prop :=
  ∀ l ∈ s.networkFilters, l.IsReachable engine

/-- **A set in use and what it is restored as**: the same choice, and the
filters restored one by one, in their order. -/
structure Restores (engine : Engine) (s t : LoadedSet) : Prop where
  /-- Whether lines are kept is the same. -/
  keepsLines : t.keepsLines = s.keepsLines
  /-- The network filters are restored. -/
  networkFilters : List.Forall₂ (LoadedFilter.Restores engine) s.networkFilters t.networkFilters
  /-- The cosmetic filters are the same. -/
  cosmeticFilters : t.cosmeticFilters = s.cosmeticFilters

/-- A set that is loaded again has its filters loaded again. -/
theorem IsReachable.restores_load {engine : Engine} {s : LoadedSet} (h : s.IsReachable engine) :
    Restores engine s (load s.filterSet) where
  keepsLines := rfl
  networkFilters := by
    rw [load, filterSet, List.map_map, List.forall₂_map_right_iff, List.forall₂_same]
    exact fun l hl => (h l hl).restores_load
  cosmeticFilters := rfl

/-- A set is read from its fields in any order. -/
theorem ignoresOrder_ofValue? : Value.IgnoresOrder ofValue? := fun v w h =>
  congrArg (Option.map load) (FilterSet.ignoresOrder_ofValue? v w h)

/-- The stored form reads back as the set, loaded again. -/
theorem ofValue?_toValue (s : LoadedSet) : ofValue? s.toValue = some (load s.filterSet) := by
  rw [ofValue?, toValue, FilterSet.ofValue?_toValue, Option.map_some]

end LoadedSet

/-- **Storing loses nothing.** Through any faithful format, network filters
and sets in use are restored as the filters they were, which answer as
before by the same engine, and cosmetic filters as the same filters, which apply
as before. -/
theorem Stored.Format.IsFaithful.restores {format : Format} (faithful : format.IsFaithful)
    (engine : Engine) :
    (∀ l : LoadedFilter, l.IsReachable engine →
      ∃ m, format.restore? LoadedFilter.toValue LoadedFilter.ofValue? l = some m ∧
        LoadedFilter.Restores engine l m) ∧
    (∀ f : CosmeticFilter,
      ∃ g, format.restore? CosmeticFilter.toValue CosmeticFilter.ofValue? f = some g ∧ g = f ∧
        ∀ r hostname, g.match? r hostname = f.match? r hostname) ∧
    ∀ s : LoadedSet, s.IsReachable engine →
      ∃ t, format.restore? LoadedSet.toValue LoadedSet.ofValue? s = some t ∧
        LoadedSet.Restores engine s t := by
  refine ⟨fun l reachable => ⟨.load l.filter, ?_, reachable.restores_load⟩,
    fun f => ⟨f, ?_, rfl, fun _ _ => rfl⟩,
    fun s reachable => ⟨.load s.filterSet, ?_, reachable.restores_load⟩⟩
  · exact faithful.restore?_eq LoadedFilter.ignoresOrder_ofValue? (l.filter.isStorable_toValue 125)
      l.ofValue?_toValue
  · exact faithful.restore?_eq CosmeticFilter.ignoresOrder_ofValue? (f.isStorable_toValue 125)
      f.ofValue?_toValue
  · exact faithful.restore?_eq LoadedSet.ignoresOrder_ofValue? (s.filterSet.isStorable_toValue 123)
      s.ofValue?_toValue

/-- A filter with a separator that keeps its program. -/
theorem Stored.Format.IsFaithful.restores_separator :
    Stored.Json.compact.IsFaithful ∧
    ∃ f, NetworkFilter.ofLine "||foo.com^bar".toList false = .ok f ∧
      let used := ((LoadedFilter.load f).run .splitting [.program]).1
      used.program? = some (f.program .splitting) ∧ used.IsReachable .splitting ∧
        ∃ m, Stored.Json.compact.restore? LoadedFilter.toValue LoadedFilter.ofValue? used = some m ∧
          m.filter = f ∧ m.program? = none ∧ m.filter.shape = .hostnameRegex ∧
          (m.program .splitting).2.isMatch (Text.utf8 "/bar".toList) = true := by
  obtain ⟨f, line, shape, isMatch⟩ :
      ∃ f, NetworkFilter.ofLine "||foo.com^bar".toList false = .ok f ∧ f.shape = .hostnameRegex ∧
        (f.program .splitting).isMatch (Text.utf8 "/bar".toList) = true :=
    ⟨_, rfl, by decide +kernel, by decide +kernel⟩
  have reachable := LoadedFilter.isReachable_run .splitting f [.program]
  obtain ⟨⟨g, p?⟩, restored, filter, program?, -⟩ :=
    (Stored.Format.IsFaithful.restores Stored.Json.isFaithful_compact .splitting).1 _ reachable
  obtain rfl : g = f := filter
  obtain rfl : p? = none := program?
  exact ⟨Stored.Json.isFaithful_compact, g, line, rfl, reachable, _, restored, rfl, rfl, shape,
    isMatch⟩

end ContentFilter
