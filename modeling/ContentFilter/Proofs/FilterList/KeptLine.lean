import ContentFilter.Cosmetic.Matching
import ContentFilter.Idna.Ascii
import ContentFilter.Network.Matching
import ContentFilter.Proofs.FilterList.Accumulation
import ContentFilter.Proofs.Network.HostsEntry

/-!
# The line that is kept

Lines may be kept on the filters made from them, to show where a filter comes from. Apart
from that it makes no difference whether they are: reading a line and keeping it is
reading it, and then putting the line on the filter (`Filter.ofLine_eq_map`). So the same
lines are refused, for the same reasons, and the filters agree in all that decides what
they apply to; after any run of calls two sets that are filled alike hold the same filters
but for the lines (`FilterSet.withoutLines_filters_run`).

What is kept of a network or a cosmetic rule is the line without the blanks around it. Of
an entry of a hosts file it is not the line but the hostname in normal form, with neither
the address, nor the comment, nor the hostname as it was written (`Filter.ofLine_keepsLine`).
Where that hostname is read as a line in turn, it can be another filter.
-/

namespace ContentFilter

/-! ## Filters and their lines -/

/-- A network filter with the line it was made from, or without it. -/
def NetworkFilter.withLine (line? : Option Text) (f : NetworkFilter) : NetworkFilter :=
  { f with rawLine? := line? }

/-- A cosmetic filter with the line it was made from, or without it. -/
def CosmeticFilter.withLine (line? : Option Text) (f : CosmeticFilter) : CosmeticFilter :=
  { f with rawLine? := line? }

namespace Filter

/-- **A filter with the line it was made from, or without it.** -/
def withLine (line? : Option Text) : Filter → Filter
  | network f => network (f.withLine line?)
  | cosmetic f => cosmetic (f.withLine line?)

/-- **The line a filter was made from**, if it was kept. -/
def rawLine? : Filter → Option Text
  | network f => f.rawLine?
  | cosmetic f => f.rawLine?

/-- **The hostname of an entry of a hosts file**, if the filter was made from one. -/
def entryHostname? : Filter → Option Text
  | network f => if f.mask.has .hostname then some f.hostname else none
  | cosmetic _ => none

/-- **What is kept of a line** on the filter made from it. -/
def keptLine (line : Text) (f : Filter) : Text :=
  f.entryHostname?.getD line

/-- **Two filters apply alike**: to the same requests by any engine, or to the same hostnames
by the same pattern. -/
def AppliesLike : Filter → Filter → Prop
  | network f, network g => ∀ engine r, f.isMatch engine r = g.isMatch engine r
  | cosmetic f, cosmetic g =>
    ∀ resolver hostname, f.match? resolver hostname = g.match? resolver hostname
  | _, _ => False

/-- A line changes nothing of what a filter applies to. -/
theorem appliesLike_withLine (line? : Option Text) (f : Filter) :
    (f.withLine line?).AppliesLike f := by
  cases f with
  | network f => exact fun _ _ => rfl
  | cosmetic f => exact fun _ _ => rfl

/-- A line changes nothing of the identity. -/
@[simp] theorem id_withLine (line? : Option Text) (f : Filter) : (f.withLine line?).id = f.id := by
  cases f <;> rfl

/-- A filter has the line it is given. -/
@[simp] theorem rawLine?_withLine (line? : Option Text) (f : Filter) :
    (f.withLine line?).rawLine? = line? := by
  cases f <;> rfl

/-- Of several lines a filter has the last one. -/
@[simp] theorem withLine_withLine (line? line'? : Option Text) (f : Filter) :
    (f.withLine line?).withLine line'? = f.withLine line'? := by
  cases f <;> rfl

end Filter

/-! ## Reading a line and keeping it -/

/-- **Keeping the line of a network rule** puts it on the filter. -/
theorem NetworkFilter.ofLine_eq_map [IdnaService] (line : Text) (keepsLine : Bool) :
    ofLine line keepsLine =
      (ofLine line false).map (withLine (if keepsLine then some line else none)) := by
  unfold ofLine NetworkRule.toFilter
  cases NetworkRule.ofText line with
  | error e => rfl
  | ok rule =>
    dsimp only
    cases Hostname.normalize? rule.hostname <;> rfl

/-- **Keeping the line of an entry of a hosts file** puts the hostname on the filter. -/
theorem NetworkFilter.ofHostsEntry_eq_map [IdnaService] (entry : Text) (keepsLine : Bool) :
    ofHostsEntry entry keepsLine = (ofHostsEntry entry false).map fun f =>
      f.withLine (if keepsLine then some f.hostname else none) := by
  unfold ofHostsEntry
  cases HostsEntry.isHostname entry with
  | false => rfl
  | true =>
    rw [if_pos rfl, if_pos rfl]
    cases Hostname.normalize? (entry.dropWhile (· == '.')) <;> rfl

/-- **Keeping the line of a cosmetic rule** puts it on the filter. -/
theorem CosmeticFilter.ofLine_eq_map [IdnaService] (line : Text) (keepsLine : Bool) :
    ofLine line keepsLine =
      (ofLine line false).map (withLine (if keepsLine then some line else none)) := by
  unfold ofLine
  cases CosmeticLine.ofText? line with
  | none => rfl
  | some l =>
    show l.toFilter _ = (l.toFilter none).map _
    unfold CosmeticLine.toFilter
    cases l.patterns.mapM HostnamePattern.normalize? with
    | none => rfl
    | some hostnames =>
      dsimp only
      cases l.isUnhide && hostnames = [] with
      | true => rfl
      | false =>
        cases SelectorKind.read (Text.trim l.selector) with
        | error e => rfl
        | ok read =>
          show (if read.2 = [] then _ else _) = Except.map _ (if read.2 = [] then _ else _)
          split <;> rfl

namespace Filter

variable (line : Text) (keepsLine : Bool)

/-- A network rule is no entry of a hosts file. -/
theorem entryHostname?_of_ofLine [IdnaService] {f : NetworkFilter}
    (h : NetworkFilter.ofLine line keepsLine = .ok f) : (network f).entryHostname? = none := by
  obtain ⟨rule, -, isFilter⟩ := NetworkFilter.exists_isFilterOf_of_ofLine h
  have notHostname : f.mask.has .hostname = false := isFilter.has_eq .hostname
  rw [entryHostname?, notHostname]
  rfl

/-- The filter of an entry has the hostname of the entry. -/
theorem entryHostname?_of_ofHostsEntry [IdnaService] {f : NetworkFilter}
    (h : NetworkFilter.ofHostsEntry line keepsLine = .ok f) :
    (network f).entryHostname? = some f.hostname := by
  obtain ⟨hostname, rawLine?, rfl⟩ := NetworkFilter.exists_make_of_ofHostsEntry h
  exact if_pos (Mask.has_of _ _)

/-- **A filter with the line that is kept on it**, if one is. -/
def keeping (f : Filter) : Filter :=
  f.withLine (if keepsLine then some (f.keptLine line) else none)

/-- Keeping the line of a network rule. -/
theorem ofNetworkLine_eq_map [IdnaService] :
    ofNetworkLine line keepsLine = (ofNetworkLine line false).map (keeping line keepsLine) := by
  unfold ofNetworkLine
  rw [NetworkFilter.ofLine_eq_map line keepsLine]
  cases h : NetworkFilter.ofLine line false with
  | error e => rfl
  | ok f =>
    show Except.ok _ = Except.ok _
    rw [keeping, keptLine, entryHostname?_of_ofLine line false h]
    rfl

/-- Keeping the line of a cosmetic rule. -/
theorem ofCosmeticLine_eq_map [IdnaService] :
    ofCosmeticLine line keepsLine = (ofCosmeticLine line false).map (keeping line keepsLine) := by
  unfold ofCosmeticLine
  rw [CosmeticFilter.ofLine_eq_map line keepsLine]
  cases CosmeticFilter.ofLine line false <;> rfl

/-- Keeping the line of an entry of a hosts file. -/
theorem ofHostsLine_eq_map [IdnaService] :
    ofHostsLine line keepsLine = (ofHostsLine line false).map (keeping line keepsLine) := by
  unfold ofHostsLine
  cases HostsLine.hostname? line with
  | none => rfl
  | some entry =>
    dsimp only
    rw [NetworkFilter.ofHostsEntry_eq_map entry keepsLine]
    cases h : NetworkFilter.ofHostsEntry entry false with
    | error e => rfl
    | ok f =>
      show Except.ok _ = Except.ok _
      rw [keeping, keptLine, entryHostname?_of_ofHostsEntry entry false h]
      rfl

/-- Keeping a line of a list in the standard format. -/
theorem ofStandardLine_eq_map [IdnaService] (types : RuleTypes) :
    ofStandardLine line keepsLine types =
      (ofStandardLine line false types).map (keeping line keepsLine) := by
  unfold ofStandardLine
  cases LineKind.ofLine line with
  | network =>
    dsimp only
    rw [ofNetworkLine_eq_map line keepsLine]
    cases types.loadsNetwork <;> rfl
  | hosts =>
    dsimp only
    rw [ofHostsLine_eq_map line keepsLine]
    cases types.loadsNetwork <;> rfl
  | cosmetic =>
    dsimp only
    rw [ofCosmeticLine_eq_map line keepsLine]
    cases types.loadsCosmetic <;> rfl
  | unsupported => rfl

/-- **Keeping a line is reading it, and putting on the filter what is kept.** -/
theorem ofLine_eq_map [IdnaService] (options : ParseOptions) :
    ofLine line keepsLine options =
      (ofLine line false options).map (keeping (Text.trim line) keepsLine) := by
  unfold ofLine
  dsimp only
  by_cases blank : Text.trim line = []
  · rw [if_pos blank, if_pos blank]
    rfl
  · rw [if_neg blank, if_neg blank]
    cases options.format with
    | standard => exact ofStandardLine_eq_map _ keepsLine options.ruleTypes
    | hosts =>
      dsimp only
      rw [ofHostsLine_eq_map _ keepsLine]
      cases options.ruleTypes.loadsNetwork <;> rfl

/-! ## What is kept -/

variable {line keepsLine} {options : ParseOptions} {f : Filter}

/-- A filter that was made without keeping the line has none. -/
theorem withLine_none_of_ofLine [IdnaService] (h : ofLine line false options = .ok f) :
    f.withLine none = f := by
  have same := ofLine_eq_map line false options
  rw [h] at same
  exact (Except.ok.inj same).symm

/-- What is loaded was read. -/
theorem eq_ok_of_loads {loads : Bool} {read : Except LineError Filter}
    (h : (if loads then read else .error .unsupported) = .ok f) : read = .ok f := by
  cases loads with
  | true => exact h
  | false => cases h

/-- The filter of a line of a hosts file is that of an entry. -/
theorem entryHostname?_ne_none_of_ofHostsLine [IdnaService]
    (h : ofHostsLine line keepsLine = .ok f) : f.entryHostname? ≠ none := by
  unfold ofHostsLine at h
  split at h
  · cases h
  · split at h
    · next hf =>
      cases h
      rw [entryHostname?_of_ofHostsEntry _ keepsLine hf]
      exact Option.some_ne_none _
    · cases h

/-- That of a line in the standard format is only if the line is one of a hosts file. -/
theorem entryHostname?_eq_none_iff_of_ofStandardLine [IdnaService] {types : RuleTypes}
    (h : ofStandardLine line keepsLine types = .ok f) :
    f.entryHostname? = none ↔ LineKind.ofLine line ≠ .hosts := by
  unfold ofStandardLine at h
  cases hkind : LineKind.ofLine line with
  | network =>
    rw [hkind] at h
    have hread := eq_ok_of_loads h
    unfold ofNetworkLine at hread
    split at hread
    · next hf =>
      cases hread
      exact iff_of_true (entryHostname?_of_ofLine line keepsLine hf) nofun
    · cases hread
  | hosts =>
    rw [hkind] at h
    exact iff_of_false (entryHostname?_ne_none_of_ofHostsLine (eq_ok_of_loads h)) (· rfl)
  | cosmetic =>
    rw [hkind] at h
    have hread := eq_ok_of_loads h
    unfold ofCosmeticLine at hread
    split at hread
    · cases hread
      exact iff_of_true rfl nofun
    · cases hread
  | unsupported =>
    rw [hkind] at h
    cases h

/-- **The filters of entries** are those of lines that are read as lines of hosts files. -/
theorem entryHostname?_eq_none_iff_of_ofLine [IdnaService]
    (h : ofLine line keepsLine options = .ok f) :
    f.entryHostname? = none ↔
      options.format = .standard ∧ LineKind.ofLine (Text.trim line) ≠ .hosts := by
  unfold ofLine at h
  dsimp only at h
  split at h
  · cases h
  · cases hformat : options.format with
    | standard =>
      rw [hformat] at h
      rw [entryHostname?_eq_none_iff_of_ofStandardLine h]
      exact (and_iff_right rfl).symm
    | hosts =>
      rw [hformat] at h
      exact iff_of_false (entryHostname?_ne_none_of_ofHostsLine (eq_ok_of_loads h)) nofun

/-- **Keeping lines adds the lines and nothing else.** The same lines are refused for the
same reasons; the filters agree in all but the line, have the same identity and apply
alike. Without keeping lines there is none on a filter. What is kept is the line without
the blanks around it, for network and cosmetic rules; of a line of a hosts file it is the
hostname alone, so that it is the line only if nothing else stands there and the hostname
is written in normal form. -/
theorem ofLine_keepsLine [IdnaService] (line : Text) (options : ParseOptions) :
    (∀ e, ofLine line true options = .error e ↔ ofLine line false options = .error e) ∧
      ∀ f, ofLine line false options = .ok f →
        f.rawLine? = none ∧
        (f.entryHostname? = none ↔
          options.format = .standard ∧ LineKind.ofLine (Text.trim line) ≠ .hosts) ∧
        ∃ g, ofLine line true options = .ok g ∧
          g.withLine none = f ∧ g.id = f.id ∧ g.AppliesLike f ∧
          g.rawLine? = some (f.entryHostname?.getD (Text.trim line)) ∧
          (g.rawLine? = some (Text.trim line) ↔
            ∀ hostname, f.entryHostname? = some hostname → hostname = Text.trim line) := by
  refine ⟨fun e => ?_, fun f h => ?_⟩
  · rw [ofLine_eq_map line true]
    cases ofLine line false options with
    | error e' => exact Iff.rfl
    | ok f => exact iff_of_false nofun nofun
  · have without := withLine_none_of_ofLine h
    have kept : ofLine line true options =
        .ok (f.withLine (some (f.keptLine (Text.trim line)))) := by
      rw [ofLine_eq_map line true, h]
      rfl
    refine ⟨by rw [← without, rawLine?_withLine], entryHostname?_eq_none_iff_of_ofLine h, _, kept,
      by rw [withLine_withLine, without], id_withLine _ f, appliesLike_withLine _ f,
      rawLine?_withLine _ f, ?_⟩
    rw [rawLine?_withLine, Option.some_inj, keptLine]
    cases f.entryHostname? with
    | none => exact iff_of_true rfl nofun
    | some hostname => simp

/-- A network rule with blanks around it. -/
theorem ofLine_keepsLine_network :
    ∃ f g, ofLine " ||ads.com^$script\t".toList false {} = .ok f ∧
      ofLine " ||ads.com^$script\t".toList true {} = .ok g ∧
      g.withLine none = f ∧ g.rawLine? = some "||ads.com^$script".toList := by
  obtain ⟨f, hf⟩ : ∃ f, ofLine " ||ads.com^$script\t".toList false {} = .ok f := ⟨_, rfl⟩
  obtain ⟨-, kind, g, hg, without, -, -, -, raw⟩ := (ofLine_keepsLine _ _).2 f hf
  have rule : f.entryHostname? = none := kind.2 ⟨rfl, by decide⟩
  exact ⟨f, g, hf, hg, without, raw.2 (by rw [rule]; nofun)⟩

/-- **Of a line of a hosts file another text is kept**, and as a line it would be read as
another filter. -/
theorem ofLine_keeps_otherText :
    (¬ ∀ line options g, ofLine line true options = .ok g →
      g.rawLine? = some (Text.trim line)) ∧
    ∃ g g', ofLine "127.0.0.1 ads.com".toList true {} = .ok g ∧
      g.rawLine? = some "ads.com".toList ∧
      ofLine "ads.com".toList true {} = .ok g' ∧ g'.id ≠ g.id := by
  refine ⟨fun keeps => ?_, _, _, rfl, rfl, rfl, ?_⟩
  · have same := keeps "127.0.0.1 ads.com".toList {} _ rfl
    revert same
    decide +kernel
  · decide +kernel

end Filter

/-! ## Sets -/

/-- Filters of both types without their lines. -/
def Filters.withoutLines (fs : Filters) : Filters :=
  ⟨fs.network.map (·.withLine none), fs.cosmetic.map (·.withLine none)⟩

/-- Lines may be taken off before filters are parted by their types. -/
theorem Filters.withoutLines_partition (fs : List Filter) :
    (partition fs).withoutLines = partition (fs.map (·.withLine none)) := by
  unfold withoutLines partition
  dsimp only
  rw [List.map_filterMap, List.map_filterMap, List.filterMap_map, List.filterMap_map]
  congr 2 <;> funext f <;> cases f <;> rfl

/-- **The filters of some offers, kept without lines**, are those kept with them but for
the lines. -/
theorem Offer.map_withLine_accepted [IdnaService] (offers : List Offer) :
    (accepted true offers).map (·.withLine none) = accepted false offers := by
  unfold accepted
  rw [List.map_filterMap]
  congr 1
  funext o
  unfold filter?
  rw [Filter.ofLine_eq_map o.line true]
  cases h : Filter.ofLine o.line false o.options with
  | error e => rfl
  | ok f =>
    show some ((f.withLine _).withLine none) = some f
    rw [Filter.withLine_withLine, Filter.withLine_none_of_ofLine h]

namespace FilterSet

/-- Whether a line is at fault does not depend on the set. -/
theorem isFaulty_eq_empty [IdnaService] (s : FilterSet) (options : ParseOptions) (line : Text) :
    s.isFaulty options line = (empty false).isFaulty options line := by
  unfold isFaulty
  rw [Filter.ofLine_eq_map line s.keepsLines, Filter.ofLine_eq_map line (empty false).keepsLines]
  cases Filter.ofLine line false options <;> rfl

/-- **A set that keeps lines holds the filters of one that does not**, but for the lines,
after any run of calls on both; and of some lines both return the same ones as faulty. -/
theorem withoutLines_filters_run [IdnaService] (calls : List Call) :
    ((empty true).run calls).filters.withoutLines = ((empty false).run calls).filters ∧
      ∀ lines options, (((empty true).run calls).addLines lines options).2 =
        (((empty false).run calls).addLines lines options).2 := by
  refine ⟨?_, fun lines options => ?_⟩
  · rw [filters_run_empty, filters_run_empty, Filters.withoutLines_partition,
      Offer.map_withLine_accepted]
  · rw [addLines_eq, addLines_eq]
    refine List.filter_congr fun line _ => ?_
    rw [isFaulty_eq_empty, isFaulty_eq_empty ((empty false).run calls)]

end FilterSet

end ContentFilter
