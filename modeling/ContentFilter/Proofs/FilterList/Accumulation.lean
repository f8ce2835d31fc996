import ContentFilter.FilterList.FilterSet
import ContentFilter.Idna.Ascii
import ContentFilter.Proofs.Text.Lines

/-!
# A set holds what its lines give

A set is filled by calls of three sorts: with one line, with some lines, and
with the text of a list. Each call offers lines to the set, and the order of
the offers is all that matters. A call is nothing but its offers made one
after the other (`FilterSet.Call.apply_eq_foldl`), and so is a run of calls
(`FilterSet.run_eq_foldl`), so that one induction over the offers says what a
set holds after any run: the filters of the lines offered so far, in order,
behind those it held before (`FilterSet.filters_foldl_offer`).

The calls treat lines differently. The lines of a list are trimmed before they
are offered, and all lines are trimmed when they are read. Trimming twice is
trimming once, so this leaves no trace. Reading a list at once, without a set,
gives the same filters, and the filters of two lists with a line end between
them are those of the one and then those of the other
(`Filters.ofList_append_lineFeed`, `Filters.ofList_append_returnLineFeed`).
-/

namespace ContentFilter

/-! ## Filters of both types -/

namespace Filters

/-- Filters of both types behind others: the network filters behind the
network filters, the cosmetic filters behind the cosmetic filters. -/
instance : Append Filters where
  append fs gs := ⟨fs.network ++ gs.network, fs.cosmetic ++ gs.cosmetic⟩

/-- **Parting keeps the order.** -/
theorem partition_append (fs gs : List Filter) :
    partition (fs ++ gs) = partition fs ++ partition gs := by
  show partition (fs ++ gs) = ⟨_, _⟩
  unfold partition
  rw [List.filterMap_append, List.filterMap_append]

/-- Filters behind those of an empty list are the filters. -/
theorem partition_nil_append (fs : Filters) : partition [] ++ fs = fs := rfl

/-- Nothing is added by an empty list of filters. -/
theorem append_partition_nil (fs : Filters) : fs ++ partition [] = fs := by
  show (⟨fs.network ++ [], fs.cosmetic ++ []⟩ : Filters) = fs
  rw [List.append_nil, List.append_nil]

/-- Three lists of filters behind each other. -/
theorem append_assoc (fs gs hs : Filters) : fs ++ gs ++ hs = fs ++ (gs ++ hs) := by
  show (⟨fs.network ++ gs.network ++ hs.network, fs.cosmetic ++ gs.cosmetic ++ hs.cosmetic⟩ :
    Filters) =
      ⟨fs.network ++ (gs.network ++ hs.network), fs.cosmetic ++ (gs.cosmetic ++ hs.cosmetic)⟩
  rw [List.append_assoc, List.append_assoc]

end Filters

/-! ## Offers -/

/-- **A line that is offered to a set**, with the options to read it by. -/
structure Offer where
  /-- The line. -/
  line : Text
  /-- How it is read. -/
  options : ParseOptions

namespace Offer

/-- **The filter an offer gives**, if it gives one. -/
def filter? [IdnaService] (keepsLines : Bool) (o : Offer) : Option Filter :=
  (Filter.ofLine o.line keepsLines o.options).toOption

/-- **The filters some offers give**, in their order. -/
def accepted [IdnaService] (keepsLines : Bool) (offers : List Offer) : List Filter :=
  offers.filterMap (filter? keepsLines)

/-- The first offer gives its filter before those of the others. -/
theorem accepted_cons [IdnaService] (keepsLines : Bool) (o : Offer) (offers : List Offer) :
    accepted keepsLines (o :: offers) =
      (o.filter? keepsLines).toList ++ accepted keepsLines offers := by
  unfold accepted
  rw [List.filterMap_cons]
  cases o.filter? keepsLines <;> rfl

end Offer

/-! ## Trimming -/

/-- **A line is read as it is read trimmed.** -/
theorem Filter.ofLine_trim [IdnaService] (line : Text) (keepsLine : Bool) (options : ParseOptions) :
    ofLine (Text.trim line) keepsLine options = ofLine line keepsLine options := by
  unfold ofLine
  rw [Text.trim_trim]

namespace Filters

/-- **The filters of some lines are those of their contents.** -/
theorem ofLines_contents [IdnaService] (lines : List Text) (keepsLines : Bool)
    (options : ParseOptions) :
    ofLines (Text.contents lines) keepsLines options = ofLines lines keepsLines options := by
  unfold ofLines
  rw [Text.filterMap_contents]
  · intro line
    rw [Filter.ofLine_trim]
  · rfl

/-- The filters of some lines and further ones. -/
theorem ofLines_append [IdnaService] (lines lines' : List Text) (keepsLines : Bool)
    (options : ParseOptions) :
    ofLines (lines ++ lines') keepsLines options =
      ofLines lines keepsLines options ++ ofLines lines' keepsLines options := by
  unfold ofLines
  rw [List.filterMap_append, partition_append]

/-- Two lists that hold the same on their lines as two others one behind the
other have their filters. -/
theorem ofList_eq_append [IdnaService] {text s t : Text} (keepsLines : Bool)
    (h : Text.contents (Text.lines text) =
      Text.contents (Text.lines s) ++ Text.contents (Text.lines t)) :
    ofList text keepsLines = ofList s keepsLines ++ ofList t keepsLines := by
  unfold ofList
  rw [← ofLines_contents, h, ofLines_append, ofLines_contents, ofLines_contents]

/-- **Two lists with a line feed between them** have the filters of the one
and then those of the other. -/
theorem ofList_append_lineFeed [IdnaService] (s t : Text) (keepsLines : Bool) :
    ofList (s ++ '\n' :: t) keepsLines = ofList s keepsLines ++ ofList t keepsLines :=
  ofList_eq_append keepsLines (Text.contents_lines_append_lineFeed s t)

/-- **Two lists with a carriage return and a line feed between them** have the
filters of the one and then those of the other. -/
theorem ofList_append_returnLineFeed [IdnaService] (s t : Text) (keepsLines : Bool) :
    ofList (s ++ '\r' :: '\n' :: t) keepsLines = ofList s keepsLines ++ ofList t keepsLines :=
  ofList_eq_append keepsLines (Text.contents_lines_append_returnLineFeed s t)

end Filters

/-! ## Calls -/

namespace FilterSet

/-- **A call that fills a set.** -/
inductive Call where
  /-- With a line. -/
  | addLine (line : Text) (options : ParseOptions)
  /-- With some lines. -/
  | addLines (lines : List Text) (options : ParseOptions)
  /-- With the text of a list. -/
  | addList (text : Text) (options : ParseOptions)

/-- **The lines a call offers**, those of a list as they stand in its text. -/
def Call.offers : Call → List Offer
  | .addLine line options => [⟨line, options⟩]
  | .addLines lines options => lines.map (⟨·, options⟩)
  | .addList text options => (Text.lines text).map (⟨·, options⟩)

/-- **The set after a call.** -/
def Call.apply [IdnaService] (s : FilterSet) : Call → FilterSet
  | .addLine line options => s.offerLine options line
  | .addLines lines options => (s.addLines lines options).1
  | .addList text options => (s.addList text options).1

/-- **The set after some calls**, one after the other. -/
def run [IdnaService] (s : FilterSet) (calls : List Call) : FilterSet :=
  calls.foldl Call.apply s

/-- The set after an offer. -/
def offer [IdnaService] (s : FilterSet) (o : Offer) : FilterSet :=
  s.offerLine o.options o.line

/-- An offered line may be trimmed before. -/
theorem offerLine_trim [IdnaService] (options : ParseOptions) (s : FilterSet) (line : Text) :
    s.offerLine options (Text.trim line) = s.offerLine options line := by
  unfold offerLine addLine
  rw [Filter.ofLine_trim]

/-- **A call is its offers**, made one after the other. -/
theorem Call.apply_eq_foldl [IdnaService] (s : FilterSet) (call : Call) :
    call.apply s = call.offers.foldl offer s := by
  cases call with
  | addLine line options => rfl
  | addLines lines options =>
    rw [apply, addLines_eq]
    show lines.foldl (offerLine options) s = (lines.map _).foldl offer s
    rw [List.foldl_map]
    rfl
  | addList text options =>
    show ((Text.lines text).map Text.trim).foldl (offerLine options) s =
      ((Text.lines text).map _).foldl offer s
    rw [List.foldl_map, List.foldl_map]
    congr 1
    funext s line
    exact offerLine_trim options s line

/-- **A run of calls is their offers**, made one after the other. -/
theorem run_eq_foldl [IdnaService] (s : FilterSet) (calls : List Call) :
    s.run calls = (calls.flatMap Call.offers).foldl offer s := by
  unfold run
  rw [List.foldl_flatMap]
  congr 1
  funext s call
  exact Call.apply_eq_foldl s call

/-! ## What a set holds -/

/-- **An offer adds its filter**, if it gives one, behind those of its type. -/
theorem filters_offer [IdnaService] (s : FilterSet) (o : Offer) :
    (s.offer o).filters = s.filters ++ Filters.partition (o.filter? s.keepsLines).toList := by
  unfold offer Offer.filter?
  cases h : Filter.ofLine o.line s.keepsLines o.options with
  | error e =>
    rw [offerLine_of_error h]
    exact (Filters.append_partition_nil s.filters).symm
  | ok f =>
    rw [offerLine_of_ok h]
    cases f with
    | network f =>
      show (⟨_, _⟩ : Filters) = ⟨_, s.cosmeticFilters ++ []⟩
      rw [List.append_nil]
      rfl
    | cosmetic f =>
      show (⟨_, _⟩ : Filters) = ⟨s.networkFilters ++ [], _⟩
      rw [List.append_nil]
      rfl

/-- An offer leaves it as it was decided whether lines are kept. -/
theorem keepsLines_offer [IdnaService] (s : FilterSet) (o : Offer) :
    (s.offer o).keepsLines = s.keepsLines := by
  unfold offer
  cases h : Filter.ofLine o.line s.keepsLines o.options with
  | error e => rw [offerLine_of_error h]
  | ok f => rw [offerLine_of_ok h, keepsLines_add]

/-- **Offers add their filters** in their order, behind those the set held. -/
theorem filters_foldl_offer [IdnaService] (s : FilterSet) (offers : List Offer) :
    (offers.foldl offer s).filters =
      s.filters ++ Filters.partition (Offer.accepted s.keepsLines offers) := by
  induction offers generalizing s with
  | nil => exact (Filters.append_partition_nil s.filters).symm
  | cons o offers ih =>
    rw [List.foldl_cons, ih, filters_offer, keepsLines_offer, Offer.accepted_cons,
      Filters.partition_append, Filters.append_assoc]

/-- A run leaves it as it was decided whether lines are kept. -/
theorem keepsLines_run [IdnaService] (s : FilterSet) (calls : List Call) :
    (s.run calls).keepsLines = s.keepsLines := by
  rw [run_eq_foldl]
  induction calls.flatMap Call.offers generalizing s with
  | nil => rfl
  | cons o offers ih => rw [List.foldl_cons, ih, keepsLines_offer]

/-- **A new set holds the filters of the lines offered to it**, after any
run. -/
theorem filters_run_empty [IdnaService] (keepsLines : Bool) (calls : List Call) :
    ((empty keepsLines).run calls).filters =
      Filters.partition (Offer.accepted keepsLines (calls.flatMap Call.offers)) := by
  rw [run_eq_foldl, filters_foldl_offer]
  exact Filters.partition_nil_append _

/-- Filling a new set with a list gives the filters the list is read as. -/
theorem filters_run_addList [IdnaService] (keepsLines : Bool) (text : Text) :
    ((empty keepsLines).run [.addList text {}]).filters = Filters.ofList text keepsLines := by
  rw [filters_run_empty, List.flatMap_singleton]
  unfold Filters.ofList Filters.ofLines Offer.accepted Call.offers
  rw [List.filterMap_map]
  rfl

/-! ## Lines that give no filter -/

/-- **A line is faulty if its rule is refused**, as a network rule or as a
cosmetic one. -/
theorem isFaulty_iff [IdnaService] (s : FilterSet) (options : ParseOptions) (line : Text) :
    s.isFaulty options line = true ↔
      (∃ e, Filter.ofLine line s.keepsLines options = .error (.network e)) ∨
        ∃ e, Filter.ofLine line s.keepsLines options = .error (.cosmetic e) := by
  unfold isFaulty
  cases Filter.ofLine line s.keepsLines options with
  | ok f => simp
  | error e => cases e <;> simp [LineError.isFault]

/-- **A set holds what its lines give.** After any run of calls on a new set
its filters are those of the lines offered so far, in order; a line that gives
none leaves the set as it is; and of some lines those are returned whose rules
are refused, in order and as they are. Filling a new set with a list gives the
filters the list is read as, and these are read line by line: two lists with a
line end between them have the filters of the one and then those of the
other. -/
theorem run_empty_holds [IdnaService] (keepsLines : Bool) (calls : List Call) :
    ((empty keepsLines).run calls).networkFilters =
        (Offer.accepted keepsLines (calls.flatMap Call.offers)).filterMap Filters.network? ∧
      ((empty keepsLines).run calls).cosmeticFilters =
        (Offer.accepted keepsLines (calls.flatMap Call.offers)).filterMap Filters.cosmetic? ∧
      (∀ line options e, Filter.ofLine line keepsLines options = .error e →
        ((empty keepsLines).run calls).addLine line options = .error e ∧
          (empty keepsLines).run (calls ++ [.addLine line options]) =
            (empty keepsLines).run calls) ∧
      (∀ lines options, ∃ isRefused : Text → Bool,
        (∀ line, isRefused line = true ↔
          (∃ e, Filter.ofLine line keepsLines options = .error (.network e)) ∨
            ∃ e, Filter.ofLine line keepsLines options = .error (.cosmetic e)) ∧
        (((empty keepsLines).run calls).addLines lines options).2 = lines.filter isRefused) ∧
      (∀ text, Filters.ofList text keepsLines =
        ((empty keepsLines).run [.addList text {}]).filters) ∧
      ∀ s t, Filters.ofList (s ++ '\n' :: t) keepsLines =
          Filters.ofList s keepsLines ++ Filters.ofList t keepsLines ∧
        Filters.ofList (s ++ '\r' :: '\n' :: t) keepsLines =
          Filters.ofList s keepsLines ++ Filters.ofList t keepsLines := by
  have held := filters_run_empty keepsLines calls
  have keeps : ((empty keepsLines).run calls).keepsLines = keepsLines := keepsLines_run _ calls
  refine ⟨congrArg Filters.network held, congrArg Filters.cosmetic held, ?_, ?_,
    fun text => (filters_run_addList keepsLines text).symm,
    fun s t => ⟨Filters.ofList_append_lineFeed s t keepsLines,
      Filters.ofList_append_returnLineFeed s t keepsLines⟩⟩
  · intro line options e h
    rw [← keeps] at h
    refine ⟨?_, ?_⟩
    · rw [addLine, h]
      rfl
    · unfold run
      rw [List.foldl_append]
      exact offerLine_of_error h
  · intro lines options
    refine ⟨((empty keepsLines).run calls).isFaulty options, fun line => ?_,
      congrArg Prod.snd (addLines_eq _ lines options)⟩
    rw [isFaulty_iff, keeps]

/-- A line with an unknown option, behind a list of two rules. -/
theorem run_empty_holds_refused :
    Filter.ofLine "ads$foo".toList false {} = .error (.network .unknownOption) ∧
      ((empty false).run [.addList "||ads.com^\r\nfoo.com##.ad".toList {}]).addLine
        "ads$foo".toList {} = .error (.network .unknownOption) ∧
      (empty false).run ([.addList "||ads.com^\r\nfoo.com##.ad".toList {}] ++
          [.addLine "ads$foo".toList {}]) =
        (empty false).run [.addList "||ads.com^\r\nfoo.com##.ad".toList {}] :=
  have refused : Filter.ofLine "ads$foo".toList false {} = .error (.network .unknownOption) := rfl
  ⟨refused, (run_empty_holds false _).2.2.1 _ _ _ refused⟩

end FilterSet

end ContentFilter
