import ContentFilter.FilterList.Filter
import ContentFilter.FilterList.Metadata

/-!
# Sets of filters

Filters are loaded line by line and kept in the order of the lines, the
two types apart. `partition` reads a list of lines once and for all; a
`FilterSet` takes lines at any time, one by one (`addLine`), several at
once (`addLines`) or as the text of a list (`addList`), and ends up with
the same filters in the same order. Lines that give no filter leave it as
it is. Whether the lines are kept on the filters is decided when a set is
made, and holds for all it takes.
-/

namespace ContentFilter

/-- **Filters of both types**, in the order of the lines they were read
from. -/
structure Filters where
  /-- The network filters. -/
  network : List NetworkFilter
  /-- The cosmetic filters. -/
  cosmetic : List CosmeticFilter
  deriving DecidableEq, Repr

namespace Filters

/-- A network filter, if the filter is one. -/
def network? : Filter → Option NetworkFilter
  | .network f => some f
  | .cosmetic _ => none

/-- A cosmetic filter, if the filter is one. -/
def cosmetic? : Filter → Option CosmeticFilter
  | .network _ => none
  | .cosmetic f => some f

/-- **Filters parted by their types.** -/
def partition (fs : List Filter) : Filters where
  network := fs.filterMap network?
  cosmetic := fs.filterMap cosmetic?

/-- **The filters of some lines.** Lines that give none are passed over. -/
def ofLines [IdnaService] (lines : List Text) (keepsLines : Bool) (options : ParseOptions) :
    Filters :=
  partition (lines.filterMap fun line => (Filter.ofLine line keepsLines options).toOption)

/-- **The filters of the text of a list**, in the standard format. -/
def ofList [IdnaService] (text : Text) (keepsLines : Bool) : Filters :=
  ofLines (Text.lines text) keepsLines {}

end Filters

/-- **A set of filters that grows.** -/
structure FilterSet where
  /-- Whether the lines are kept on the filters. -/
  keepsLines : Bool
  /-- The network filters, in the order they were added. -/
  networkFilters : List NetworkFilter
  /-- The cosmetic filters, in the order they were added. -/
  cosmeticFilters : List CosmeticFilter
  deriving DecidableEq, Repr

namespace FilterSet

/-- **A set without filters.** -/
def empty (keepsLines : Bool) : FilterSet :=
  ⟨keepsLines, [], []⟩

/-- **Add a filter** behind those of its type. -/
def add (s : FilterSet) : Filter → FilterSet
  | .network f => { s with networkFilters := s.networkFilters ++ [f] }
  | .cosmetic f => { s with cosmeticFilters := s.cosmeticFilters ++ [f] }

/-- Adding leaves it as it was decided whether lines are kept. -/
@[simp] theorem keepsLines_add (s : FilterSet) (f : Filter) :
    (s.add f).keepsLines = s.keepsLines := by
  cases f <;> rfl

/-- **Add the filter of a line**, unless the line gives none. -/
def addLine [IdnaService] (s : FilterSet) (line : Text) (options : ParseOptions) :
    Except LineError FilterSet :=
  (Filter.ofLine line s.keepsLines options).map s.add

/-- The set after a line was offered to it. -/
def offerLine [IdnaService] (options : ParseOptions) (s : FilterSet) (line : Text) : FilterSet :=
  (s.addLine line options).toOption.getD s

/-- A line that gives a filter adds it. -/
theorem offerLine_of_ok [IdnaService] {options : ParseOptions} {s : FilterSet} {line : Text}
    {f : Filter} (h : Filter.ofLine line s.keepsLines options = .ok f) :
    offerLine options s line = s.add f := by
  rw [offerLine, addLine, h]
  rfl

/-- A line that gives none leaves the set as it is. -/
theorem offerLine_of_error [IdnaService] {options : ParseOptions} {s : FilterSet} {line : Text}
    {e : LineError} (h : Filter.ofLine line s.keepsLines options = .error e) :
    offerLine options s line = s := by
  rw [offerLine, addLine, h]
  rfl

/-- Whether the rule on a line is at fault. -/
def isFaulty [IdnaService] (s : FilterSet) (options : ParseOptions) (line : Text) : Bool :=
  match Filter.ofLine line s.keepsLines options with
  | .ok _ => false
  | .error e => e.isFault

/-- Offering a line leaves it as it was decided whether lines are kept, and so
which rules are at fault. -/
theorem isFaulty_offerLine [IdnaService] (s : FilterSet) (options : ParseOptions) (line : Text) :
    (offerLine options s line).isFaulty options = s.isFaulty options := by
  have keepsLines : (offerLine options s line).keepsLines = s.keepsLines := by
    cases h : Filter.ofLine line s.keepsLines options with
    | ok f => rw [offerLine_of_ok h, keepsLines_add]
    | error e => rw [offerLine_of_error h]
  unfold isFaulty
  rw [keepsLines]

/-- One more line of a collection, with the lines at fault so far. -/
def collectLine [IdnaService] (options : ParseOptions) (added : FilterSet × List Text)
    (line : Text) : FilterSet × List Text :=
  match added.1.addLine line options with
  | .ok s => (s, added.2)
  | .error e => (added.1, if e.isFault then added.2 ++ [line] else added.2)

/-- **Add the filters of some lines**, and return the lines whose rules are
at fault. -/
def addLines [IdnaService] (s : FilterSet) (lines : List Text) (options : ParseOptions) :
    FilterSet × List Text :=
  lines.foldl (collectLine options) (s, [])

/-- One line is offered to the set, and is returned if its rule is at fault. -/
theorem collectLine_eq [IdnaService] (options : ParseOptions) (s : FilterSet) (faults : List Text)
    (line : Text) :
    collectLine options (s, faults) line =
      (offerLine options s line, faults ++ [line].filter (s.isFaulty options)) := by
  unfold collectLine isFaulty
  cases h : Filter.ofLine line s.keepsLines options with
  | ok f =>
    rw [offerLine_of_ok h, addLine, h]
    simp [h, Except.map]
  | error e =>
    rw [offerLine_of_error h, addLine, h]
    cases hfault : e.isFault <;> simp [h, hfault, Except.map]

/-- **Adding lines in one pass** offers each to the set, and returns those whose rules
are at fault. -/
theorem addLines_eq [IdnaService] (s : FilterSet) (lines : List Text) (options : ParseOptions) :
    s.addLines lines options =
      (lines.foldl (offerLine options) s, lines.filter (s.isFaulty options)) := by
  have run (faults : List Text) : lines.foldl (collectLine options) (s, faults) =
      (lines.foldl (offerLine options) s, faults ++ lines.filter (s.isFaulty options)) := by
    induction lines generalizing s faults with
    | nil => rw [List.foldl_nil, List.foldl_nil, List.filter_nil, List.append_nil]
    | cons line lines ih =>
      rw [List.foldl_cons, collectLine_eq, ih, isFaulty_offerLine, List.append_assoc,
        ← List.filter_append, List.singleton_append, List.foldl_cons]
  exact run []

/-- **Add the filters of the text of a list**, and return what it says about
itself. -/
def addList [IdnaService] (s : FilterSet) (text : Text) (options : ParseOptions) :
    FilterSet × Metadata :=
  let lines := (Text.lines text).map Text.trim
  (lines.foldl (offerLine options) s, Metadata.ofLines lines)

/-- **The filters of a set.** -/
def filters (s : FilterSet) : Filters :=
  ⟨s.networkFilters, s.cosmeticFilters⟩

end FilterSet

end ContentFilter
