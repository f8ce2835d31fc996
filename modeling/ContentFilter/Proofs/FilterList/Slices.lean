import ContentFilter.FilterList.Filter
import ContentFilter.Idna.Ascii
import ContentFilter.Proofs.Cosmetic.Slices
import ContentFilter.Proofs.FilterList.Markers
import ContentFilter.Proofs.Network.Slices
import ContentFilter.Proofs.Network.UrlSlices

/-!
# Lines in slices

No input can break a slice. `Filter.ofSlices?` reads a line of a list with every
part of it taken as a slice between two places, counted in bytes: to tell what kind
of line it is, to drop the comment of a line of a hosts file, and to take apart
the rule it holds. Reading a line whose markers overlap, as `###`, `|` or `@@|`, or
whose characters take several bytes, is no exception: the reader has a value for
every line, and that value is the filter of the line.

The same goes for matching, where the place of a slice comes from another text than
the one it is applied to (`NetworkFilter.isMatchOfSlices?`).
-/

namespace ContentFilter

namespace LineKind

/-- **What the `#` before a place marks**, by the slice behind it. -/
def markerAt? (line : Text) (n : Nat) : Option (Option Marker) :=
  (Text.sliceFrom? (n + 1) line).map marker?

/-- **The kind of a line, in slices.** -/
def ofSlices? (line : Text) : Option LineKind :=
  if isRemark line then some unsupported
  else if isHostsLine line then some hosts
  else if line.head? = some '|' || Search.startsWith ['@', '@', '|'] line then some network
  else do
    match ← Text.scanFrom? (markerAt? line) line.utf8 0 with
    | some (_, .foreign) => some unsupported
    | some (n, .element) =>
      let before ← Bytes.takeTo? n line.utf8
      some (if before.contains '$'.val.toUInt8 then withoutElements line else cosmetic)
    | none => some (withoutElements line)

/-- **The slices of a line can all be taken, and tell its kind.** -/
theorem ofSlices?_eq (line : Text) : ofSlices? line = some (ofLine line) := by
  have looked (before after : Text) (h : line = before ++ '#' :: after) :
      markerAt? line (Text.byteLength before) = some ((marker? after).map id) := by
    have hplace : Text.byteLength (before ++ ['#']) = Text.byteLength before + 1 :=
      Text.byteLength_append before ['#']
    have cut := Text.sliceFrom?_append _ after hplace
    rw [List.append_assoc, List.singleton_append, ← h] at cut
    rw [markerAt?, cut, Option.map_id, Option.map_some]
    rfl
  have hscan := Text.scanFrom?_eq isScan_firstMarker? id looked
  unfold ofSlices? ofLine
  rw [hscan, Option.bind_eq_bind, Option.bind_some]
  split
  · rfl
  split
  · rfl
  split
  · rfl
  cases hfirst : firstMarker? line with
  | none => rfl
  | some found =>
    obtain ⟨before, m⟩ := found
    cases m with
    | foreign => rfl
    | element =>
      obtain ⟨after, first, -⟩ := isScan_firstMarker?.eq_some_iff.1 hfirst
      have hfront : Bytes.takeTo? (Text.byteLength before) line.utf8 = some before.utf8 := by
        rw [first.eq_append, Text.utf8_append, ← Text.length_utf8]
        exact Bytes.takeTo?_append _ _
      have hdollar : before.utf8.contains '$'.val.toUInt8 = before.contains '$' := by
        rw [Bool.eq_iff_iff, List.contains_iff_mem, List.contains_iff_mem]
        exact Text.toUInt8_mem_utf8 rfl
      dsimp only [Option.map_some, id]
      rw [hfront, Option.bind_eq_bind, Option.bind_some, hdollar]

end LineKind

namespace HostsLine

/-- A line without the comment at its end, as a slice. -/
def dropCommentOfSlices? (line : Text) : Option Text :=
  match Text.firstByte? '#' line.utf8 with
  | some n => Text.sliceTo? n line
  | none => some line

/-- The slice can be taken. -/
theorem dropCommentOfSlices?_eq (line : Text) :
    dropCommentOfSlices? line = some (dropComment line) := by
  unfold dropCommentOfSlices? dropComment
  rw [Text.firstByte?_utf8 rfl]
  cases hsplit : Search.splitFirst? '#' line with
  | none => rfl
  | some parts =>
    obtain ⟨before, after⟩ := parts
    rw [(Search.splitFirst?_eq_some.1 hsplit).1]
    exact Text.sliceTo?_append before _ rfl

/-- **The hostname on a line, in slices.** -/
def hostnameOfSlices? (line : Text) : Option (Option Text) :=
  if line.head? = some '!' then some none
  else
    (dropCommentOfSlices? line).map fun entry =>
      match Text.words entry with
      | [hostname] => some hostname
      | address :: hostname :: _ => if Address.isAddress address then some hostname else none
      | [] => none

/-- **The slice of a line of a hosts file can be taken.** -/
theorem hostnameOfSlices?_eq (line : Text) : hostnameOfSlices? line = some (hostname? line) := by
  unfold hostnameOfSlices? hostname?
  rw [dropCommentOfSlices?_eq]
  split <;> rfl

end HostsLine

namespace Filter

/-- What becomes of a network rule, as a filter of either type. -/
def ofNetwork : Except NetworkError NetworkFilter → Except LineError Filter
  | .ok f => .ok (network f)
  | .error e => .error (.network e)

/-- What becomes of a cosmetic rule, as a filter of either type. -/
def ofCosmetic : Except CosmeticError CosmeticFilter → Except LineError Filter
  | .ok f => .ok (cosmetic f)
  | .error e => .error (.cosmetic e)

/-- The filter of a line of a hosts file, in slices. -/
def ofHostsSlices? [IdnaService] (line : Text) (keepsLine : Bool) :
    Option (Except LineError Filter) := do
  match ← HostsLine.hostnameOfSlices? line with
  | none => some (.error .unsupported)
  | some hostname => (NetworkFilter.ofHostsEntrySlices? hostname keepsLine).map ofNetwork

/-- The filter of a line in the standard format, in slices. -/
def ofStandardSlices? [IdnaService] (line : Text) (keepsLine : Bool) (types : RuleTypes) :
    Option (Except LineError Filter) := do
  match ← LineKind.ofSlices? line with
  | .network =>
    if types.loadsNetwork then (NetworkFilter.ofSlices? line keepsLine).map ofNetwork
    else some (.error .unsupported)
  | .hosts =>
    if types.loadsNetwork then ofHostsSlices? line keepsLine else some (.error .unsupported)
  | .cosmetic =>
    if types.loadsCosmetic then (CosmeticFilter.ofSlices? line keepsLine).map ofCosmetic
    else some (.error .unsupported)
  | .unsupported => some (.error .unsupported)

/-- **The filter of a line of a list, in slices.** -/
def ofSlices? [IdnaService] (line : Text) (keepsLine : Bool) (options : ParseOptions) :
    Option (Except LineError Filter) :=
  let line := Text.trim line
  if line = [] then some (.error .empty)
  else
    match options.format with
    | .standard => ofStandardSlices? line keepsLine options.ruleTypes
    | .hosts =>
      if options.ruleTypes.loadsNetwork then ofHostsSlices? line keepsLine
      else some (.error .unsupported)

/-- The slices of a line of a hosts file can all be taken. -/
theorem ofHostsSlices?_eq [IdnaService] (line : Text) (keepsLine : Bool) :
    ofHostsSlices? line keepsLine = some (ofHostsLine line keepsLine) := by
  unfold ofHostsSlices? ofHostsLine
  rw [HostsLine.hostnameOfSlices?_eq, Option.bind_eq_bind, Option.bind_some]
  cases HostsLine.hostname? line with
  | none => rfl
  | some hostname =>
    dsimp only
    rw [NetworkFilter.ofHostsEntrySlices?_eq, Option.map_some]
    rfl

/-- The slices of a line in the standard format can all be taken. -/
theorem ofStandardSlices?_eq [IdnaService] (line : Text) (keepsLine : Bool) (types : RuleTypes) :
    ofStandardSlices? line keepsLine types = some (ofStandardLine line keepsLine types) := by
  unfold ofStandardSlices? ofStandardLine
  rw [LineKind.ofSlices?_eq, Option.bind_eq_bind, Option.bind_some]
  cases LineKind.ofLine line with
  | network =>
    dsimp only
    rw [NetworkFilter.ofSlices?_eq, Option.map_some]
    split <;> rfl
  | hosts =>
    dsimp only
    rw [ofHostsSlices?_eq]
    split <;> rfl
  | cosmetic =>
    dsimp only
    rw [CosmeticFilter.ofSlices?_eq, Option.map_some]
    split <;> rfl
  | unsupported => rfl

/-- **The slices of a line can all be taken, and give its filter.** -/
theorem ofSlices?_eq [IdnaService] (line : Text) (keepsLine : Bool) (options : ParseOptions) :
    ofSlices? line keepsLine options = some (ofLine line keepsLine options) := by
  unfold ofSlices? ofLine
  dsimp only
  rw [ofStandardSlices?_eq, ofHostsSlices?_eq]
  split
  · rfl
  cases options.format with
  | standard => rfl
  | hosts =>
    dsimp only
    split <;> rfl

/-- **No input breaks a slice.** Every slice of every line can be taken, whatever is
to be read and kept, and gives the filter of the line. And for every filter, even one
whose parts do not go together, and every request, the place behind the filter's
hostname is within the lowered URL and the URL as given and between two characters
of both, and every slice of the URL can be taken and decides whether the filter
matches. -/
theorem slices_exist [IdnaService] :
    (∀ line keepsLine options,
      ofSlices? line keepsLine options = some (ofLine line keepsLine options)) ∧
    ∀ (f : NetworkFilter) (engine : Engine) (r : Request),
      (∀ n ∈ r.offsetBehind? f.hostname,
        (n ≤ r.lowerUrl.byteLength ∧ r.lowerUrl.IsBoundary n) ∧
          n ≤ r.url.byteLength ∧ r.url.IsBoundary n) ∧
      f.isMatchOfSlices? engine r = some (f.isMatch engine r) := by
  refine ⟨ofSlices?_eq, fun f engine r => ⟨fun n hn => ?_, f.isMatchOfSlices?_eq engine r⟩⟩
  obtain ⟨lowered, given⟩ := Request.isBoundary_of_offsetBehind? hn
  exact ⟨⟨lowered.le, lowered⟩, given.le, given⟩

/-- A rule and a URL with characters of two bytes, and a filter whose parts do not go
together. -/
theorem slices_exist_tampered :
    let f : NetworkFilter := ⟨⟨0⟩, .hostnameAnchored, [], "é".toList, [], [], [], none, 0⟩
    let r : Request := .make "HTTP://A.com/é?".toList "a.com".toList [] [] [] .script
    (∃ result, ofSlices? "@@||é.fr*$~css".toList true ⟨.standard, .all⟩ = some result) ∧
      r.offsetBehind? f.hostname = some 15 ∧ r.lowerUrl.IsBoundary 15 ∧ r.url.IsBoundary 15 ∧
      ∀ engine, f.isMatchOfSlices? engine r = some (f.isMatch engine r) := by
  intro f r
  have offset : r.offsetBehind? f.hostname = some 15 := by decide +kernel
  obtain ⟨⟨-, lowered⟩, -, given⟩ := (slices_exist.2 f .splitting r).1 15 offset
  exact ⟨⟨_, slices_exist.1 _ _ _⟩, offset, lowered, given, fun engine =>
    (slices_exist.2 f engine r).2⟩

end Filter

end ContentFilter
