import ContentFilter.FilterList.FilterSet
import ContentFilter.Idna.Ascii

/-!
# Loading the rules of one type

A list can be loaded in full, or only its network rules or only its cosmetic
rules. The three ways look at every line alike, and what is not to be loaded is
passed over as if it were not supported. So the outcome of a line under
restricted types follows from its outcome under all of them
(`Filter.ofLine_eq_restrict`), whatever the line holds, and in both formats.

It follows that the two restricted ways divide what the full one loads. Each
filter is loaded by one of them and is unsupported for the other, and each
fault is reported by the one that reads rules of its type
(`Filter.divides_ofLine`). For a list the network rules alone give the network
filters and nothing else, and the cosmetic rules alone the cosmetic filters and
nothing else (`Filters.ruleTypes_divide`).
-/

namespace ContentFilter

namespace RuleTypes

/-- **Whether a filter is loaded**: its type is. -/
def loads (types : RuleTypes) : Filter → Bool
  | .network _ => types.loadsNetwork
  | .cosmetic _ => types.loadsCosmetic

/-- **Whether an error is reported**: a fault is if rules of its type are
loaded. -/
def reports (types : RuleTypes) : LineError → Bool
  | .network _ => types.loadsNetwork
  | .cosmetic _ => types.loadsCosmetic
  | .unsupported | .empty => true

/-- **What becomes of the outcome of a line** if not all types are loaded. -/
def restrict (types : RuleTypes) : Except LineError Filter → Except LineError Filter
  | .ok f => if types.loads f then .ok f else .error .unsupported
  | .error e => if types.reports e then .error e else .error .unsupported

end RuleTypes

namespace Filter

section Line

variable (line : Text) (keepsLine : Bool) (types : RuleTypes)

/-- The outcome of a network rule stays if network rules are loaded. -/
theorem restrict_ofNetworkLine [IdnaService] :
    types.restrict (ofNetworkLine line keepsLine) =
      if types.loadsNetwork then ofNetworkLine line keepsLine else .error .unsupported := by
  unfold ofNetworkLine
  cases NetworkFilter.ofLine line keepsLine <;> rfl

/-- The outcome of a cosmetic rule stays if cosmetic rules are loaded. -/
theorem restrict_ofCosmeticLine [IdnaService] :
    types.restrict (ofCosmeticLine line keepsLine) =
      if types.loadsCosmetic then ofCosmeticLine line keepsLine else .error .unsupported := by
  unfold ofCosmeticLine
  cases CosmeticFilter.ofLine line keepsLine <;> rfl

/-- The outcome of a line of a hosts file stays if network rules are loaded. -/
theorem restrict_ofHostsLine [IdnaService] :
    types.restrict (ofHostsLine line keepsLine) =
      if types.loadsNetwork then ofHostsLine line keepsLine else .error .unsupported := by
  unfold ofHostsLine
  cases HostsLine.hostname? line with
  | none => cases types <;> rfl
  | some hostname =>
    dsimp only
    cases NetworkFilter.ofHostsEntry hostname keepsLine <;> rfl

/-- **The outcome of a line follows from its outcome under all types**, in both
formats. -/
theorem ofLine_eq_restrict [IdnaService] (format : ListFormat) :
    ofLine line keepsLine ⟨format, types⟩ =
      types.restrict (ofLine line keepsLine ⟨format, .all⟩) := by
  unfold ofLine
  dsimp only
  split
  · rfl
  · cases format with
    | standard =>
      unfold ofStandardLine
      cases LineKind.ofLine (Text.trim line) with
      | network => exact (restrict_ofNetworkLine (Text.trim line) keepsLine types).symm
      | hosts => exact (restrict_ofHostsLine (Text.trim line) keepsLine types).symm
      | cosmetic => exact (restrict_ofCosmeticLine (Text.trim line) keepsLine types).symm
      | unsupported => rfl
    | hosts => exact (restrict_ofHostsLine (Text.trim line) keepsLine types).symm

end Line

/-- **How the outcomes of a line go together**: under all types, under network
rules only, and under cosmetic rules only. -/
inductive Divides : (all network cosmetic : Except LineError Filter) → Prop where
  /-- A network filter is loaded with the network rules. -/
  | network (f : NetworkFilter) :
      Divides (.ok (.network f)) (.ok (.network f)) (.error .unsupported)
  /-- A cosmetic filter is loaded with the cosmetic rules. -/
  | cosmetic (f : CosmeticFilter) :
      Divides (.ok (.cosmetic f)) (.error .unsupported) (.ok (.cosmetic f))
  /-- A fault of a network rule is reported with the network rules. -/
  | networkFault (e : NetworkError) :
      Divides (.error (.network e)) (.error (.network e)) (.error .unsupported)
  /-- A fault of a cosmetic rule is reported with the cosmetic rules. -/
  | cosmeticFault (e : CosmeticError) :
      Divides (.error (.cosmetic e)) (.error .unsupported) (.error (.cosmetic e))
  /-- What is not supported never is. -/
  | unsupported : Divides (.error .unsupported) (.error .unsupported) (.error .unsupported)
  /-- An empty line is always empty. -/
  | empty : Divides (.error .empty) (.error .empty) (.error .empty)

/-- **The restricted types divide the outcome of every line.** -/
theorem divides_ofLine [IdnaService] (line : Text) (keepsLine : Bool) (format : ListFormat) :
    Divides (ofLine line keepsLine ⟨format, .all⟩) (ofLine line keepsLine ⟨format, .networkOnly⟩)
      (ofLine line keepsLine ⟨format, .cosmeticOnly⟩) := by
  rw [ofLine_eq_restrict line keepsLine .networkOnly,
    ofLine_eq_restrict line keepsLine .cosmeticOnly]
  cases ofLine line keepsLine ⟨format, .all⟩ with
  | ok f =>
    cases f with
    | network f => exact .network f
    | cosmetic f => exact .cosmetic f
  | error e =>
    cases e with
    | network e => exact .networkFault e
    | cosmetic e => exact .cosmeticFault e
    | unsupported => exact .unsupported
    | empty => exact .empty

/-- The filter of a line under restricted types is its filter under all of
them, if that one is loaded. -/
theorem toOption_ofLine [IdnaService] (line : Text) (keepsLine : Bool) (format : ListFormat)
    (types : RuleTypes) :
    (ofLine line keepsLine ⟨format, types⟩).toOption =
      (ofLine line keepsLine ⟨format, .all⟩).toOption.filter types.loads := by
  rw [ofLine_eq_restrict line keepsLine types format]
  cases ofLine line keepsLine ⟨format, .all⟩ with
  | ok f =>
    show (if types.loads f then .ok f else .error .unsupported : Except LineError Filter).toOption =
      (some f).filter types.loads
    rw [Option.filter_some]
    cases types.loads f <;> rfl
  | error e =>
    show (if types.reports e then .error e else .error .unsupported :
      Except LineError Filter).toOption = none
    cases types.reports e <;> rfl

end Filter

namespace Filters

/-- **The filters that are loaded**, of both types. -/
def restrict (types : RuleTypes) (fs : Filters) : Filters where
  network := if types.loadsNetwork then fs.network else []
  cosmetic := if types.loadsCosmetic then fs.cosmetic else []

/-- What is left of filters when only those of a type are kept. -/
theorem filterMap_filter_loads {α : Type} {select? : Filter → Option α} {types : RuleTypes}
    {loaded : Bool} (h : ∀ f, (select? f).isSome = true → types.loads f = loaded)
    (fs : List Filter) :
    (fs.filter types.loads).filterMap select? =
      if loaded then fs.filterMap select? else [] := by
  induction fs with
  | nil => exact (ite_self []).symm
  | cons f fs ih =>
    rw [List.filter_cons, List.filterMap_cons]
    cases hf : select? f with
    | none =>
      split
      · rw [List.filterMap_cons_none hf, ih]
      · exact ih
    | some a =>
      rw [h f (by rw [hf]; rfl)]
      cases loaded with
      | false => exact ih
      | true => rw [if_pos rfl, List.filterMap_cons_some hf, ih]; rfl

/-- Parting the filters that are loaded is parting all and leaving out those
that are not. -/
theorem partition_filter_loads (types : RuleTypes) (fs : List Filter) :
    partition (fs.filter types.loads) = (partition fs).restrict types := by
  have network : ∀ f, (network? f).isSome = true → types.loads f = types.loadsNetwork := by
    rintro (f | f) h
    · rfl
    · cases h
  have cosmetic : ∀ f, (cosmetic? f).isSome = true → types.loads f = types.loadsCosmetic := by
    rintro (f | f) h
    · cases h
    · rfl
  unfold partition restrict
  rw [filterMap_filter_loads network, filterMap_filter_loads cosmetic]

/-- **The filters of some lines under restricted types** are those under all of
them that are loaded. -/
theorem ofLines_eq_restrict [IdnaService] (lines : List Text) (keepsLines : Bool)
    (format : ListFormat) (types : RuleTypes) :
    ofLines lines keepsLines ⟨format, types⟩ =
      (ofLines lines keepsLines ⟨format, .all⟩).restrict types := by
  unfold ofLines
  rw [← partition_filter_loads, List.filter_filterMap]
  simp only [Filter.toOption_ofLine _ _ _ types]

/-- **The types of rules part what is loaded.** Of some lines the network rules
alone give exactly the network filters, in their order, and the cosmetic rules
alone the cosmetic ones. On every single line the two divide the outcome: each
filter and each fault is that of one of them, as it is, and is not supported
for the other. -/
theorem ruleTypes_divide [IdnaService] (keepsLines : Bool) (format : ListFormat) :
    (∀ lines : List Text,
      ofLines lines keepsLines ⟨format, .networkOnly⟩ =
          ⟨(ofLines lines keepsLines ⟨format, .all⟩).network, []⟩ ∧
        ofLines lines keepsLines ⟨format, .cosmeticOnly⟩ =
          ⟨[], (ofLines lines keepsLines ⟨format, .all⟩).cosmetic⟩) ∧
      ∀ line : Text,
        Filter.Divides (Filter.ofLine line keepsLines ⟨format, .all⟩)
          (Filter.ofLine line keepsLines ⟨format, .networkOnly⟩)
          (Filter.ofLine line keepsLines ⟨format, .cosmeticOnly⟩) :=
  ⟨fun lines => ⟨ofLines_eq_restrict lines keepsLines format .networkOnly,
    ofLines_eq_restrict lines keepsLines format .cosmeticOnly⟩,
    fun line => Filter.divides_ofLine line keepsLines format⟩

/-- Of a list with a rule of each type and one at fault, each way loads its
part. -/
example :
    let lines := ["||ads.com^".toList, "foo.com##.ad".toList, "ads$foo".toList]
    let all := ofLines lines false {}
    all.network.length = 1 ∧ all.cosmetic.length = 1 ∧
      ofLines lines false { ruleTypes := .networkOnly } = ⟨all.network, []⟩ := by
  intro lines all
  decide +kernel

end Filters

end ContentFilter
