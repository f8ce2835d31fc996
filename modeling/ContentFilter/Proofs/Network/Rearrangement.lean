import ContentFilter.Idna.Ascii
import ContentFilter.Proofs.Network.OptionFaults
import ContentFilter.Proofs.Network.Parts
import ContentFilter.Proofs.Network.Statements
import ContentFilter.Proofs.Text.Lines

/-!
# Rearranging the options of a line

The author of a rule may write its options in any order, and say twice what was
said; spread the domains over one option or several; and take either spelling of
a name. `NetworkLine.Rearranged` has a constructor for each of these, applied to
any part of the options and any number of times.

Rearranging keeps all that is read. Each step takes options that can be read to
options that can be read and say the same (`NetworkLine.Rearranged.saySame`), and
brings no comma and no `$` into one of them, so that they are still found on the
line (`NetworkLine.Rearranged.notMem`). A line whose options are rearranged then
makes the very same filter (`NetworkFilter.ofLine_replaceOptions`), as long as it
names at most one resource: of two, the last would be taken.
-/

namespace ContentFilter

/-- No spelling holds a comma or a `$`. -/
theorem OptionName.notMem_spelling {name : OptionName} {s : String} (h : s ∈ name.spellings)
    {c : Char} (hc : c ∈ [',', '$']) : c ∉ s.toList := by
  have comma : ∀ n ∈ all, ∀ s ∈ n.spellings, ',' ∉ s.toList := by decide
  have dollar : ∀ n ∈ all, ∀ s ∈ n.spellings, '$' ∉ s.toList := by decide
  rcases List.mem_cons.1 hc with rfl | hc
  · exact comma name (mem_all name) s h
  · exact List.mem_singleton.1 hc ▸ dollar name (mem_all name) s h

/-- A comma or a `$` in an option stands in its value. -/
theorem OptionName.IsWritten.mem_iff {name : OptionName} {isNegated : Bool} {value option : Text}
    (h : name.IsWritten isNegated value option) {c : Char} (hc : c ∈ [',', '$']) :
    c ∈ option ↔ c ∈ value := by
  obtain ⟨spelling, hspelling, marks, -, written⟩ := h
  have lacks := notMem_spelling hspelling hc
  have hmark : c ∉ List.replicate marks '~' := fun hmem =>
    absurd (List.eq_of_mem_replicate hmem ▸ hc) (by decide)
  have hequals : c ≠ '=' := fun he => absurd (he ▸ hc) (by decide)
  rcases written with ⟨rfl, rfl⟩ | rfl
  · exact iff_of_false (fun hmem => (List.mem_append.1 hmem).elim hmark lacks) List.not_mem_nil
  · simp only [List.mem_append, List.mem_cons, hmark, lacks, hequals, false_or]

/-! ## Steps -/

namespace NetworkLine

/-- **A domain option** as it is written, with a value. -/
def domainOption (value : Text) : Text :=
  "domain".toList ++ '=' :: value

/-- **The options of a line are rearranged.** -/
inductive Rearranged : List Text → List Text → Prop
  /-- Options are put in another order, and repeated. -/
  | reorder {options options' : List Text} (same : ∀ option, option ∈ options ↔ option ∈ options') :
      Rearranged options options'
  /-- The entries of a domain option are put in another order, and repeated. -/
  | entries {value value' : Text}
      (same : ∀ piece, piece ∈ value.splitOn '|' ↔ piece ∈ value'.splitOn '|') :
      Rearranged [domainOption value] [domainOption value']
  /-- Two domain options become one. -/
  | merge (value value' : Text) :
      Rearranged [domainOption value, domainOption value'] [domainOption (value ++ '|' :: value')]
  /-- A domain option becomes two, each with a hostname among its entries. -/
  | split {value value' : Text}
      (named : ∃ piece ∈ value.splitOn '|', (DomainEntry.split piece).2 ≠ [])
      (named' : ∃ piece ∈ value'.splitOn '|', (DomainEntry.split piece).2 ≠ []) :
      Rearranged [domainOption (value ++ '|' :: value')] [domainOption value, domainOption value']
  /-- An option is written in another way, as with another spelling of its name. -/
  | respell {name : OptionName} {isNegated : Bool} {value option option' : Text}
      (written : name.IsWritten isNegated value option)
      (written' : name.IsWritten isNegated value option') : Rearranged [option] [option']
  /-- Other options stand in front and behind. -/
  | within {options options' : List Text} (before after : List Text)
      (step : Rearranged options options') :
      Rearranged (before ++ options ++ after) (before ++ options' ++ after)
  /-- One step is made after another. -/
  | trans {options options' options'' : List Text} (step : Rearranged options options')
      (step' : Rearranged options' options'') : Rearranged options options''

/-- A domain option is written as such. -/
theorem isWritten_domainOption (value : Text) :
    OptionName.domain.IsWritten false value (domainOption value) :=
  ⟨"domain", List.mem_singleton_self _, 0, iff_of_false nofun fun h => h rfl, .inr rfl⟩

/-- A domain option that can be read is written as it may be. -/
theorem allows_of_ofText_domainOption [IdnaService] {value : Text} {o : FilterOption}
    (h : FilterOption.ofText (domainOption value) = .ok o) :
    OptionName.domain.Allows false value := by
  have faultless (e : NetworkError) : ¬ FilterOption.Fault (domainOption value) e := by
    intro fault
    rw [FilterOption.ofText_of_fault fault] at h
    cases h
  refine ⟨nofun, nofun, fun _ => ?_, fun _ piece hpiece hne => ?_⟩
  · by_contra none
    exact faultless _ (.domains (isWritten_domainOption value) fun piece hpiece =>
      not_not.1 fun hne => none ⟨piece, hpiece, hne⟩)
  · by_contra none
    exact faultless _ (.hostname (isWritten_domainOption value) hpiece hne
      (Option.eq_none_iff_forall_ne_some.2 (not_exists.1 none)))

/-- The option a domain option is read as has the entries written in its value. -/
theorem exists_entries_of_ofText_domainOption [IdnaService] {value : Text} {o : FilterOption}
    (h : FilterOption.ofText (domainOption value) = .ok o) :
    o.name = .domain ∧
      ∀ entry, entry ∈ o.domainEntries ↔ ∃ piece ∈ value.splitOn '|', entry.IsWritten piece := by
  rw [FilterOption.ofText_of_isWritten (isWritten_domainOption value)] at h
  obtain ⟨entries, hlist, rfl⟩ := FilterOption.ofName_domain_eq_ok h
  exact ⟨rfl, fun entry => DomainEntry.mem_listOfText_iff hlist⟩

/-- A domain option that was read has a hostname among its entries. -/
theorem exists_named_of_mapM [IdnaService] {value : Text} {rest : List Text}
    {options : List FilterOption}
    (read : (domainOption value :: rest).mapM FilterOption.ofText = .ok options) :
    ∃ piece ∈ value.splitOn '|', (DomainEntry.split piece).2 ≠ [] := by
  obtain ⟨o, -, hoption, -⟩ := mapM_cons_eq_ok read
  exact (allows_of_ofText_domainOption hoption).domains rfl

/-- Two values hold the entries of the one they are the sides of. -/
theorem exists_mem_splitOn_append_iff {value value' piece : Text} :
    (∃ v ∈ [value ++ '|' :: value'], piece ∈ v.splitOn '|') ↔
      ∃ v ∈ [value, value'], piece ∈ v.splitOn '|' := by
  simp only [List.exists_mem_cons_iff, List.not_mem_nil, false_and, exists_false, or_false,
    List.splitOn_append_cons_self, List.mem_append]

section DomainOptions

variable {values values' : List Text} {options options' : List FilterOption}

/-- **What domain options say together** is written in their values, however these
are spread over them. -/
theorem mem_domainEntries_iff [IdnaService]
    (read : (values.map domainOption).mapM FilterOption.ofText = .ok options)
    {entry : DomainEntry} :
    entry ∈ options.flatMap FilterOption.domainEntries ↔
      ∃ piece, (∃ value ∈ values, piece ∈ value.splitOn '|') ∧ entry.IsWritten piece := by
  rw [List.mem_flatMap]
  constructor
  · rintro ⟨o, ho, hentry⟩
    obtain ⟨_, hmem, hread⟩ := (mem_of_mapM_eq_ok read).1 ho
    obtain ⟨value, hvalue, rfl⟩ := List.mem_map.1 hmem
    obtain ⟨piece, hpiece, written⟩ :=
      ((exists_entries_of_ofText_domainOption hread).2 entry).1 hentry
    exact ⟨piece, ⟨value, hvalue, hpiece⟩, written⟩
  · rintro ⟨piece, ⟨value, hvalue, hpiece⟩, written⟩
    have hmem := List.mem_map_of_mem (f := domainOption) hvalue
    obtain ⟨o, hread⟩ := exists_of_mapM_eq_ok read hmem
    exact ⟨o, (mem_of_mapM_eq_ok read).2 ⟨_, hmem, hread⟩,
      ((exists_entries_of_ofText_domainOption hread).2 entry).2 ⟨piece, hpiece, written⟩⟩

/-- Domain options are read as nothing else. -/
theorem name_eq_domain_of_mem [IdnaService]
    (read : (values.map domainOption).mapM FilterOption.ofText = .ok options) {o : FilterOption}
    (ho : o ∈ options) : o.name = .domain := by
  obtain ⟨_, hmem, hread⟩ := (mem_of_mapM_eq_ok read).1 ho
  obtain ⟨value, -, rfl⟩ := List.mem_map.1 hmem
  exact (exists_entries_of_ofText_domainOption hread).1

/-- **Domain options with the same entries say the same**, and can be read if each
of them has a hostname among its entries. -/
theorem saySame_domainOptions [IdnaService] (values values' : List Text)
    (read : (values.map domainOption).mapM FilterOption.ofText = .ok options)
    (same : ∀ piece, (∃ value ∈ values, piece ∈ value.splitOn '|') ↔
      ∃ value ∈ values', piece ∈ value.splitOn '|')
    (named : ∀ value ∈ values', ∃ piece ∈ value.splitOn '|', (DomainEntry.split piece).2 ≠ []) :
    ∃ options', (values'.map domainOption).mapM FilterOption.ofText = .ok options' ∧
      FilterOption.SaySame options options' := by
  have readable : ∃ options',
      (values'.map domainOption).mapM FilterOption.ofText = .ok options' := by
    refine exists_mapM_eq_ok_iff.2 fun _ hmem => ?_
    obtain ⟨value', hvalue', rfl⟩ := List.mem_map.1 hmem
    refine FilterOption.exists_ofText_of_isValid ⟨_, _, value', isWritten_domainOption value',
      nofun, nofun, fun _ => named value' hvalue', fun _ piece hpiece => ?_⟩
    -- the piece stands in one of the values that were read
    obtain ⟨value, hvalue, hpiece⟩ := (same piece).2 ⟨value', hvalue', hpiece⟩
    obtain ⟨o, hread⟩ := exists_of_mapM_eq_ok read (List.mem_map_of_mem hvalue)
    exact (allows_of_ofText_domainOption hread).normal rfl piece hpiece
  obtain ⟨options', read'⟩ := readable
  refine ⟨options', read', .of_domains (fun o => name_eq_domain_of_mem read)
    (fun o => name_eq_domain_of_mem read') fun entry => ?_⟩
  rw [mem_domainEntries_iff read, mem_domainEntries_iff read']
  exact exists_congr fun piece => and_congr_left fun _ => same piece

end DomainOptions

namespace Rearranged

variable {options options' : List Text}

/-- **Options that are rearranged can still be read, and say the same.** -/
theorem saySame [IdnaService] (h : Rearranged options options') {read : List FilterOption}
    (hread : options.mapM FilterOption.ofText = .ok read) :
    ∃ read', options'.mapM FilterOption.ofText = .ok read' ∧ FilterOption.SaySame read read' := by
  induction h generalizing read with
  | reorder same =>
    have readable := exists_mapM_eq_ok_iff.1 ⟨read, hread⟩
    obtain ⟨read', hread'⟩ := exists_mapM_eq_ok_iff.2 fun option hoption =>
      readable option ((same option).2 hoption)
    refine ⟨read', hread', .of_mem_iff fun o => ?_⟩
    simp only [mem_of_mapM_eq_ok hread, mem_of_mapM_eq_ok hread', same]
  | @entries value value' same =>
    obtain ⟨piece, hpiece, hne⟩ := exists_named_of_mapM hread
    refine saySame_domainOptions [value] [value'] hread (fun piece => ?_) ?_
    · simp only [List.mem_singleton, exists_eq_left, same]
    · exact List.forall_mem_singleton.2 ⟨piece, (same piece).1 hpiece, hne⟩
  | merge value value' =>
    obtain ⟨piece, hpiece, hne⟩ := exists_named_of_mapM hread
    refine saySame_domainOptions [value, value'] [value ++ '|' :: value'] hread
      (fun piece => exists_mem_splitOn_append_iff.symm) ?_
    rw [List.forall_mem_singleton, List.splitOn_append_cons_self]
    exact ⟨piece, List.mem_append_left _ hpiece, hne⟩
  | @split value value' named named' =>
    exact saySame_domainOptions [value ++ '|' :: value'] [value, value'] hread
      (fun piece => exists_mem_splitOn_append_iff)
      (List.forall_mem_cons.2 ⟨named, List.forall_mem_singleton.2 named'⟩)
  | @respell _ _ _ option option' written written' =>
    have alike : [option'].mapM FilterOption.ofText = [option].mapM FilterOption.ofText := by
      rw [List.mapM_cons, List.mapM_cons, FilterOption.ofText_of_isWritten written,
        FilterOption.ofText_of_isWritten written']
    exact ⟨read, alike.trans hread, .of_mem_iff fun _ => Iff.rfl⟩
  | within before after step ih =>
    obtain ⟨front, last, hfront, hlast, rfl⟩ := mapM_append_eq_ok_iff.1 hread
    obtain ⟨first, middle, hfirst, hmiddle, rfl⟩ := mapM_append_eq_ok_iff.1 hfront
    obtain ⟨middle', hmiddle', same⟩ := ih hmiddle
    have hfront' := mapM_append_eq_ok_iff.2 ⟨first, middle', hfirst, hmiddle', rfl⟩
    exact ⟨_, mapM_append_eq_ok_iff.2 ⟨_, last, hfront', hlast, rfl⟩, same.within first last⟩
  | trans step step' ih ih' =>
    obtain ⟨read', hread', same⟩ := ih hread
    obtain ⟨read'', hread'', same'⟩ := ih' hread'
    exact ⟨read'', hread'', same.trans same'⟩

/-- Options are rearranged to none only if there are none. -/
theorem eq_nil_iff (h : Rearranged options options') : options = [] ↔ options' = [] := by
  induction h with
  | reorder same => simp only [List.eq_nil_iff_forall_not_mem, same]
  | entries | merge | split | respell => exact iff_of_false nofun nofun
  | within before after step ih => simp only [List.append_eq_nil_iff, ih]
  | trans step step' ih ih' => exact ih.trans ih'

/-- **Rearranging brings no comma and no `$`** into an option. -/
theorem notMem (h : Rearranged options options') {c : Char} (hc : c ∈ [',', '$'])
    (lacks : ∀ option ∈ options, c ∉ option) : ∀ option ∈ options', c ∉ option := by
  have hbar : c ≠ '|' := fun he => absurd (he ▸ hc) (by decide)
  have inValue (value : Text) : c ∈ domainOption value ↔ c ∈ value :=
    (isWritten_domainOption value).mem_iff hc
  have inPieces (value : Text) : c ∈ value ↔ ∃ piece ∈ value.splitOn '|', c ∈ piece := by
    rw [Text.exists_mem_splitOn_iff, and_iff_left hbar]
  have inBoth (value value' : Text) :
      c ∈ domainOption (value ++ '|' :: value') ↔ c ∈ value ∨ c ∈ value' := by
    rw [inValue, List.mem_append, List.mem_cons, or_iff_right hbar]
  induction h with
  | reorder same => exact fun option hoption => lacks option ((same option).2 hoption)
  | entries same =>
    rw [List.forall_mem_singleton, inValue, inPieces] at lacks ⊢
    simpa only [same] using lacks
  | merge value value' =>
    rw [List.forall_mem_cons, List.forall_mem_singleton, inValue, inValue] at lacks
    rw [List.forall_mem_singleton, inBoth, not_or]
    exact lacks
  | split named named' =>
    rw [List.forall_mem_singleton, inBoth, not_or] at lacks
    rw [List.forall_mem_cons, List.forall_mem_singleton, inValue, inValue]
    exact lacks
  | respell written written' =>
    rw [List.forall_mem_singleton, written.mem_iff hc] at lacks
    rw [List.forall_mem_singleton, written'.mem_iff hc]
    exact lacks
  | within before after step ih =>
    simp only [List.forall_mem_append] at lacks ⊢
    exact ⟨⟨lacks.1.1, ih lacks.1.2⟩, lacks.2⟩
  | trans step step' ih ih' => exact ih' (ih lacks)

end Rearranged

/-! ## Lines -/

/-- **A line with other options** in place of its own. -/
def replaceOptions (line : Text) (options : List Text) : Text :=
  match Search.splitLast? '$' line with
  | some (body, _) => body ++ '$' :: Text.join [','] options
  | none => line

/-- **The line names a resource** to redirect to. -/
def NamesResource (line resource : Text) : Prop :=
  ∃ option ∈ optionTexts line, OptionName.redirect.IsWritten false resource option

/-- **The line names at most one resource.** -/
def NamesOneResource (line : Text) : Prop :=
  ∀ resource resource', NamesResource line resource → NamesResource line resource' →
    resource = resource'

/-- The mark of an exception stands in front of the options. -/
theorem exception_prefix_append_iff {body options : Text} :
    ['@', '@'] <+: body ++ '$' :: options ↔ ['@', '@'] <+: body := by
  match body with
  | [] => simp
  | [c] => simp
  | c :: d :: body => simp

/-- **The other parts of a line** do not depend on its options. -/
theorem ofText_append_options {body options options' : Text} (h : '$' ∉ options)
    (h' : '$' ∉ options') :
    ofText (body ++ '$' :: options') =
      { ofText (body ++ '$' :: options) with options? := some options' } := by
  have reads : (ofText (body ++ '$' :: options)).Reads (body ++ '$' :: options) := reads_iff.2 rfl
  have found : (ofText (body ++ '$' :: options)).options? = some options := by
    rw [options?_ofText, Search.splitLast?_eq_some.2 ⟨rfl, h⟩]
    rfl
  generalize ofText (body ++ '$' :: options) = l at reads found ⊢
  have front : markToText ['@', '@'] l.isException ++ l.start.toText ++ l.pattern ++
      markToText ['|'] l.anchoredEnd = body := by
    have whole := reads.toText
    rw [toText, found] at whole
    exact List.append_cancel_right whole
  have replaced : Reads { l with options? := some options' } (body ++ '$' :: options') := by
    refine ⟨?_, fun unmarked => ?_, fun o ho => ?_, fun none => absurd none (Option.some_ne_none _),
      reads.start, reads.anchoredEnd⟩
    · rw [← front]
      rfl
    · have bare := reads.exception unmarked
      rwa [exception_prefix_append_iff] at bare ⊢
    · cases ho
      exact h'
  exact (reads_iff.1 replaced).symm

/-- **Options that are put together** behind a `$` are the options of the line. -/
theorem optionTexts_append_join (body : Text) {options : List Text} (hne : options ≠ [])
    (lacks : ∀ c ∈ [',', '$'], ∀ option ∈ options, c ∉ option) :
    '$' ∉ Text.join [','] options ∧
      optionTexts (body ++ '$' :: Text.join [','] options) = options := by
  have pieces : (Text.join [','] options).splitOn ',' = options :=
    List.splitOn_intercalate ',' (lacks ',' (by decide)) hne
  have dollar : '$' ∉ Text.join [','] options := by
    intro hmem
    obtain ⟨option, hoption, hmem⟩ := Text.exists_mem_splitOn_iff.2 ⟨hmem, show '$' ≠ ',' by decide⟩
    rw [pieces] at hoption
    exact lacks '$' (by decide) option hoption hmem
  refine ⟨dollar, ?_⟩
  rw [optionTexts, Search.splitLast?_eq_some.2 ⟨rfl, dollar⟩]
  exact pieces

/-- **Options of a line that were rearranged** are found again behind its `$`. -/
theorem Rearranged.found {written : Text} {options : List Text}
    (h : Rearranged (written.splitOn ',') options) (last : '$' ∉ written) (body : Text) :
    '$' ∉ Text.join [','] options ∧
      optionTexts (body ++ '$' :: Text.join [','] options) = options := by
  have hne : options ≠ [] := fun none => List.splitOn_ne_nil ',' written (h.eq_nil_iff.2 none)
  refine optionTexts_append_join body hne fun c hc => h.notMem hc fun option hoption hmem => ?_
  obtain ⟨hwritten, hcomma⟩ := Text.exists_mem_splitOn_iff.1 ⟨option, hoption, hmem⟩
  rcases List.mem_cons.1 hc with rfl | hc
  · exact hcomma rfl
  · exact last (List.mem_singleton.1 hc ▸ hwritten)

end NetworkLine

/-- **An option is read as a resource** if it is written with it. -/
theorem FilterOption.ofText_eq_redirect_iff [IdnaService] {option resource : Text} :
    ofText option = .ok (redirect resource) ↔
      OptionName.redirect.IsWritten false resource option ∧ resource ≠ [] := by
  have chosen (value : Text) : ofName .redirect false value = .ok (redirect resource) ↔
      value = resource ∧ resource ≠ [] := by
    by_cases hvalue : value = []
    · rw [hvalue]
      exact iff_of_false nofun fun h => h.2 h.1.symm
    · rw [show ofName .redirect false value = .ok (redirect value) from if_neg hvalue,
        Except.ok.injEq, redirect.injEq]
      exact ⟨fun h => ⟨h, h ▸ hvalue⟩, And.left⟩
  constructor
  · intro h
    obtain ⟨name, isNegated, value, written, hname⟩ := ofText_eq_ok h
    obtain ⟨rfl, rfl⟩ := ofName_eq_ok hname
    obtain ⟨rfl, hne⟩ := (chosen value).1 hname
    exact ⟨written, hne⟩
  · rintro ⟨written, hne⟩
    rw [ofText_of_isWritten written]
    exact (chosen resource).2 ⟨rfl, hne⟩

/-- **A rule redirects to a resource** exactly if its line names it. -/
theorem NetworkRule.redirect_mem_options_iff [IdnaService] {line : Text} {rule : NetworkRule}
    (h : ofText line = .ok rule) {resource : Text} :
    .redirect resource ∈ rule.options ↔ NetworkLine.NamesResource line resource := by
  rw [mem_of_mapM_eq_ok (mapM_optionTexts h)]
  refine exists_congr fun option => and_congr_right fun hoption => ?_
  rw [FilterOption.ofText_eq_redirect_iff]
  refine and_iff_left_of_imp fun written => ?_
  rintro rfl
  -- an empty resource would have refused the rule
  obtain ⟨o, hread⟩ := exists_of_mapM_eq_ok (mapM_optionTexts h) hoption
  rw [FilterOption.ofText_of_isWritten written] at hread
  cases hread

/-- The options of a rule name at most one resource exactly if its line does. -/
theorem NetworkRule.namesOneResource_iff [IdnaService] {line : Text} {rule : NetworkRule}
    (h : ofText line = .ok rule) :
    FilterOption.NamesOneResource rule.options ↔ NetworkLine.NamesOneResource line := by
  simp only [FilterOption.NamesOneResource, NetworkLine.NamesOneResource,
    redirect_mem_options_iff h]

/-- **A rule whose options are rearranged** on its line has the same parts, and its
options say the same. -/
theorem NetworkRule.exists_ofText_replaceOptions [IdnaService] {line : Text} {rule : NetworkRule}
    {options : List Text} (h : ofText line = .ok rule)
    (rearranged : NetworkLine.Rearranged (NetworkLine.optionTexts line) options) :
    ∃ options? read, FilterOption.SaySame rule.options read ∧
      ofText (NetworkLine.replaceOptions line options) =
        .ok ⟨{ rule.line with options? := options? }, read⟩ := by
  obtain ⟨read, hread, same⟩ := rearranged.saySame (mapM_optionTexts h)
  unfold NetworkLine.replaceOptions
  cases hsplit : Search.splitLast? '$' line with
  | none => exact ⟨rule.line.options?, rule.options, .of_mem_iff fun _ => Iff.rfl, h⟩
  | some parts =>
    obtain ⟨body, written⟩ := parts
    obtain ⟨rfl, last⟩ := Search.splitLast?_eq_some.1 hsplit
    have pieces : NetworkLine.optionTexts (body ++ '$' :: written) = written.splitOn ',' := by
      rw [NetworkLine.optionTexts, hsplit]
    obtain ⟨dollar, found⟩ := (pieces ▸ rearranged).found last body
    refine ⟨some (Text.join [','] options), read, same, ofText_eq_ok_iff.2 ⟨?_, ?_⟩⟩
    · rw [NetworkLine.ofText_append_options last dollar, ← line_eq_of_ofText h]
    · rw [found]
      exact hread

open NetworkLine (optionTexts replaceOptions Rearranged NamesOneResource) in
/-- **A line whose options are rearranged makes the same filter**, if it names at
most one resource. -/
theorem NetworkFilter.ofLine_replaceOptions [IdnaService] {line : Text} {options : List Text}
    {f : NetworkFilter} (h : ofLine line false = .ok f) (one : NamesOneResource line)
    (rearranged : Rearranged (optionTexts line) options) :
    ofLine (replaceOptions line options) false = .ok f := by
  cases hrule : NetworkRule.ofText line with
  | error e =>
    rw [ofLine, hrule] at h
    cases h
  | ok rule =>
    obtain ⟨options?, read, same, hrule'⟩ :=
      NetworkRule.exists_ofText_replaceOptions hrule rearranged
    have one' := (NetworkRule.namesOneResource_iff hrule).2 one
    rw [ofLine, hrule] at h
    rw [ofLine, hrule']
    exact (NetworkRule.toFilter_eq_of_saySame same one' rule.line options? none).trans h

open NetworkLine (replaceOptions Rearranged domainOption) in
/-- A third party and two domains in another order, under other names, spread over
other options and said twice. -/
theorem NetworkFilter.ofLine_replaceOptions_domains :
    ∃ f, ofLine "ads$redirect=noop,3p,domain=b.com|a.com".toList false = .ok f ∧
      ofLine (replaceOptions "ads$redirect=noop,3p,domain=b.com|a.com".toList
        ["third-party".toList, domainOption "b.com".toList, "redirect=noop".toList,
          domainOption "a.com|a.com".toList, "redirect=noop".toList]) false = .ok f := by
  have shuffled (a b c d : Text) : Rearranged [a, b, c, d] [b, c, a, d, a] := by
    refine .reorder fun option => ?_
    simp only [List.mem_cons, List.not_mem_nil, or_false]
    tauto
  have hrule : NetworkRule.ofText "ads$redirect=noop,3p,domain=b.com|a.com".toList =
      .ok ⟨NetworkLine.ofText "ads$redirect=noop,3p,domain=b.com|a.com".toList,
        [.redirect "noop".toList, .thirdParty false,
          .domain [⟨false, "b.com".toList⟩, ⟨false, "a.com".toList⟩]]⟩ := by decide +kernel
  have texts : NetworkLine.optionTexts "ads$redirect=noop,3p,domain=b.com|a.com".toList =
      ["redirect=noop".toList, "3p".toList,
        domainOption ("b.com".toList ++ '|' :: "a.com".toList)] := by decide +kernel
  have short : OptionName.thirdParty.IsWritten false [] "3p".toList :=
    ⟨"3p", by decide, 0, by decide, .inl ⟨rfl, rfl⟩⟩
  have long : OptionName.thirdParty.IsWritten false [] "third-party".toList :=
    ⟨"third-party", by decide, 0, by decide, .inl ⟨rfl, rfl⟩⟩
  have spread : Rearranged [domainOption ("b.com".toList ++ '|' :: "a.com".toList)]
      [domainOption "b.com".toList, domainOption "a.com".toList] :=
    .split (by decide +kernel) (by decide +kernel)
  have repeated : Rearranged [domainOption "a.com".toList] [domainOption "a.com|a.com".toList] := by
    refine .entries fun piece => ?_
    rw [show "a.com".toList.splitOn '|' = ["a.com".toList] by decide +kernel,
      show "a.com|a.com".toList.splitOn '|' = ["a.com".toList, "a.com".toList] by decide +kernel]
    simp
  refine ⟨_, rfl, ofLine_replaceOptions rfl ?_ ?_⟩
  · refine (NetworkRule.namesOneResource_iff hrule).1 fun resource resource' h h' => ?_
    simp at h h'
    rw [h, h']
  · rw [texts]
    refine .trans (.within ["redirect=noop".toList] [_] (.respell short long)) ?_
    refine .trans (.within ["redirect=noop".toList, "third-party".toList] [] spread) ?_
    exact .trans (.within ["redirect=noop".toList, "third-party".toList,
      domainOption "b.com".toList] [] repeated) (shuffled _ _ _ _)

/-- Of two resources the last is taken, so their order matters. -/
example :
    (NetworkFilter.ofLine "ads$redirect=a,redirect=b".toList false).map (·.redirect) ≠
      (NetworkFilter.ofLine "ads$redirect=b,redirect=a".toList false).map (·.redirect) := by
  decide +kernel

end ContentFilter
