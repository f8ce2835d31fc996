import ContentFilter.Proofs.Network.Flags
import ContentFilter.Proofs.Search.Occurrence
import ContentFilter.Proofs.Search.Traversal

/-!
# Options as they are written

The options of a rule, as its author sees them: what stands between commas
behind the last `$` of the line. Each option has a name, which may be negated
by any number of `~` in front, and possibly a value behind a `=`
(`OptionName.IsWritten`). Nothing here is read from left to right, and nothing
is merged: the options are a set of texts, and `NetworkLine.Names` and
`NetworkLine.ListsDomain` ask for what stands in it.

That the options of a rule are those written on its line is then a matter of
single options. `FilterOption.ofText_of_isWritten` and
`FilterOption.ofText_eq_ok` say it of one, and
`NetworkRule.exists_option_iff` and `NetworkRule.exists_domain_iff` of a rule
that was read: it has an option of a name if the line names it, and an entry
of a domain option if the line lists it.
-/

namespace ContentFilter

/-! ## Writing -/

/-- **How an option is written**: marks that negate it, a spelling of its
name, and either no value or one behind a `=`. -/
def OptionName.IsWritten (name : OptionName) (isNegated : Bool) (value option : Text) : Prop :=
  ∃ spelling ∈ name.spellings, ∃ marks, (isNegated = true ↔ marks ≠ 0) ∧
    ((option = List.replicate marks '~' ++ spelling.toList ∧ value = []) ∨
      option = List.replicate marks '~' ++ spelling.toList ++ '=' :: value)

/-- **How an entry of a domain option is written**: a hostname, with a `~` in
front if it is excluded. -/
def DomainEntry.IsWritten [IdnaService] (entry : DomainEntry) (piece : Text) : Prop :=
  ∃ written, written ≠ [] ∧ Hostname.normalize? written = some entry.hostname ∧
    if entry.isExcluded then piece = '~' :: written
    else piece = written ∧ written.head? ≠ some '~'

namespace NetworkLine

/-- **The options on a line**, one by one. -/
def optionTexts (line : Text) : List Text :=
  match Search.splitLast? '$' line with
  | some (_, options) => options.splitOn ','
  | none => []

/-- **The line has an option of this name**, negated or not. -/
def Names (line : Text) (name : OptionName) (isNegated : Bool) : Prop :=
  ∃ option ∈ optionTexts line, ∃ value, name.IsWritten isNegated value option

/-- **Some domain option of the line lists a domain**, excluding it or not. -/
def ListsDomain [IdnaService] (line : Text) (isExcluded : Bool) (domain : Text) : Prop :=
  ∃ option ∈ optionTexts line, ∃ value, OptionName.domain.IsWritten false value option ∧
    ∃ piece ∈ value.splitOn '|', (⟨isExcluded, domain⟩ : DomainEntry).IsWritten piece

end NetworkLine

/-! ## Reading one option -/

namespace OptionName

/-- No spelling holds a `=`. -/
theorem equals_notMem_spelling {name : OptionName} {s : String} (h : s ∈ name.spellings) :
    '=' ∉ s.toList := by
  have all : ∀ n ∈ all, ∀ s ∈ n.spellings, '=' ∉ s.toList := by decide
  exact all name (mem_all name) s h

/-- No spelling starts with a `~`. -/
theorem head?_spelling_ne {name : OptionName} {s : String} (h : s ∈ name.spellings) :
    ∃ c t, s.toList = c :: t ∧ c ≠ '~' := by
  have all : ∀ n ∈ all, ∀ s ∈ n.spellings,
      s.toList.head?.any (· != '~') = true := by decide
  have hs := all name (mem_all name) s h
  cases ht : s.toList with
  | nil =>
    rw [ht] at hs
    cases hs
  | cons c t =>
    rw [ht] at hs
    exact ⟨c, t, rfl, bne_iff_ne.1 hs⟩

/-- **A name is read if it is one of the spellings.** -/
theorem ofText?_eq_some {t : Text} {name : OptionName} :
    ofText? t = some name ↔ ∃ s ∈ name.spellings, t = s.toList := by
  constructor
  · intro h
    have hspelled := List.find?_some h
    obtain ⟨s, hs, ht⟩ := List.any_eq_true.1 hspelled
    exact ⟨s, hs, (of_decide_eq_true ht).symm⟩
  · rintro ⟨s, hs, rfl⟩
    exact ofText?_of_mem hs

end OptionName

/-- A text is its marks and what is left without them. -/
theorem Text.exists_marks (t : Text) :
    ∃ marks, t = List.replicate marks '~' ++ t.dropWhile (· == '~') := by
  have hmarks : ∀ c ∈ t.takeWhile (· == '~'), c = '~' := fun c hc =>
    beq_iff_eq.1 (List.all_eq_true.1 List.all_takeWhile c hc)
  refine ⟨(t.takeWhile (· == '~')).length, ?_⟩
  rw [← List.eq_replicate_of_mem hmarks, List.takeWhile_append_dropWhile]

/-- Dropping the marks of a text leaves what stands behind them. -/
theorem Text.dropWhile_marks {body : Text} (h : body.head? ≠ some '~') (marks : Nat) :
    (List.replicate marks '~' ++ body).dropWhile (· == '~') = body := by
  rw [List.dropWhile_append_of_pos fun c hc => beq_iff_eq.2 (List.eq_of_mem_replicate hc)]
  cases body with
  | nil => rfl
  | cons c body =>
    have hc : c ≠ '~' := fun he => h (congrArg some he)
    exact List.dropWhile_cons_of_neg (by simp [hc])

/-- A text starts with a mark if it has one. -/
theorem Text.startsWith_marks {body : Text} (h : body.head? ≠ some '~') (marks : Nat) :
    Search.startsWith ['~'] (List.replicate marks '~' ++ body) = true ↔ marks ≠ 0 := by
  rw [Search.startsWith_iff]
  cases marks with
  | zero =>
    refine iff_of_false ?_ (fun h0 => h0 rfl)
    rintro ⟨r, hr⟩
    exact h (by rw [show body = '~' :: r from hr.symm]; rfl)
  | succ n => exact iff_of_true ⟨_, rfl⟩ (Nat.succ_ne_zero n)

namespace FilterOption

/-- What stands behind the marks of an option is not a mark. -/
theorem head?_body_ne (t : Text) : (t.dropWhile (· == '~')).head? ≠ some '~' := by
  intro h
  have hnot := List.head?_dropWhile_not (· == '~') t
  rw [h] at hnot
  cases hnot

/-- A spelling starts with no mark, whatever follows it. -/
theorem head?_spelling_append_ne {name : OptionName} {s : String} (h : s ∈ name.spellings)
    (rest : Text) : (s.toList ++ rest).head? ≠ some '~' := by
  obtain ⟨c, t, ht, hc⟩ := OptionName.head?_spelling_ne h
  rw [ht]
  exact fun he => hc (Option.some.inj he)

/-- Reading an option is reading its name, once the name and the value are
known. -/
theorem ofText_of_parts [IdnaService] {t name value : Text}
    (h : (Search.splitFirst? '=' (t.dropWhile (· == '~'))).getD (t.dropWhile (· == '~'), [])
      = (name, value)) :
    ofText t =
      match OptionName.ofText? name with
      | none => .error .unknownOption
      | some name => ofName name (Search.startsWith ['~'] t) value := by
  unfold ofText
  dsimp only
  generalize (Search.splitFirst? '=' (t.dropWhile (· == '~'))).getD (t.dropWhile (· == '~'), [])
    = parts at h ⊢
  subst h
  rfl

/-- **An option is read for the name it is written with.** -/
theorem ofText_of_isWritten [IdnaService] {name : OptionName} {isNegated : Bool} {value t : Text}
    (h : name.IsWritten isNegated value t) : ofText t = ofName name isNegated value := by
  obtain ⟨s, hs, marks, hneg, written⟩ := h
  have lacks := OptionName.equals_notMem_spelling hs
  -- behind the marks stands a text that has none and is cut behind the spelling
  obtain ⟨body, ht, hbody, hparts⟩ : ∃ body, t = List.replicate marks '~' ++ body ∧
      body.head? ≠ some '~' ∧
      (Search.splitFirst? '=' body).getD (body, []) = (s.toList, value) := by
    rcases written with ⟨ht, hv⟩ | ht
    · refine ⟨s.toList, ht, ?_, Search.splitFirst?_getD_eq_iff.2 ⟨lacks, .inl ⟨rfl, hv⟩⟩⟩
      rw [← List.append_nil s.toList]
      exact head?_spelling_append_ne hs []
    · exact ⟨s.toList ++ '=' :: value, by rw [ht, List.append_assoc],
        head?_spelling_append_ne hs _, Search.splitFirst?_getD_eq_iff.2 ⟨lacks, .inr rfl⟩⟩
  have hmarks : Search.startsWith ['~'] t = isNegated := by
    rw [Bool.eq_iff_iff, hneg, ht]
    exact Text.startsWith_marks hbody marks
  have hdropped : t.dropWhile (· == '~') = body := ht ▸ Text.dropWhile_marks hbody marks
  rw [← hdropped] at hparts
  rw [ofText_of_parts hparts, OptionName.ofText?_of_mem hs, hmarks]

/-- **A text is an option written with a name, or none is known for it.** -/
theorem exists_isWritten_or_unknown [IdnaService] (t : Text) :
    (∃ name isNegated value, OptionName.IsWritten name isNegated value t) ∨
      ofText t = .error .unknownOption := by
  obtain ⟨marks, ht⟩ := Text.exists_marks t
  obtain ⟨parts, hparts⟩ : ∃ parts : Text × Text, (Search.splitFirst? '='
      (t.dropWhile (· == '~'))).getD (t.dropWhile (· == '~'), []) = parts := ⟨_, rfl⟩
  obtain ⟨-, written⟩ := Search.splitFirst?_getD_eq_iff.1 hparts
  rw [ofText_of_parts hparts]
  have hbody := head?_body_ne t
  generalize t.dropWhile (· == '~') = body at ht hbody written
  cases hname : OptionName.ofText? parts.1 with
  | none => exact .inr rfl
  | some name =>
    obtain ⟨s, hs, hspelled⟩ := OptionName.ofText?_eq_some.1 hname
    refine .inl ⟨name, Search.startsWith ['~'] t, parts.2, s, hs, marks, ?_, ?_⟩
    · rw [ht]
      exact Text.startsWith_marks hbody marks
    · rw [hspelled] at written
      rcases written with ⟨hb, hv⟩ | hb
      · exact .inl ⟨by rw [ht, hb], hv⟩
      · exact .inr (by rw [ht, hb, List.append_assoc])

/-- **What can be read is written with a name.** -/
theorem ofText_eq_ok [IdnaService] {t : Text} {option : FilterOption} (h : ofText t = .ok option) :
    ∃ name isNegated value, OptionName.IsWritten name isNegated value t ∧
      ofName name isNegated value = .ok option := by
  rcases exists_isWritten_or_unknown t with ⟨name, isNegated, value, written⟩ | unknown
  · rw [ofText_of_isWritten written] at h
    exact ⟨name, isNegated, value, written, h⟩
  · rw [unknown] at h
    cases h

/-- **The name of an option.** -/
def name : FilterOption → OptionName
  | domain _ => .domain
  | important => .important
  | matchCase => .matchCase
  | thirdParty _ => .thirdParty
  | firstParty _ => .firstParty
  | redirect _ => .redirect
  | kind k _ => .kind k

/-- Whether an option is negated. -/
def isNegated : FilterOption → Bool
  | thirdParty n | firstParty n | kind _ n => n
  | domain _ | important | matchCase | redirect _ => false

/-- An option without a value is its name and its negation. -/
theorem eq_of_name_eq {o p : FilterOption} (hd : p.name ≠ .domain) (hr : p.name ≠ .redirect)
    (hname : o.name = p.name) (hneg : o.isNegated = p.isNegated) : o = p := by
  cases p with
  | domain => exact absurd rfl hd
  | redirect => exact absurd rfl hr
  | important | matchCase =>
    cases o <;> first | rfl | cases hname
  | thirdParty | firstParty | kind =>
    cases o <;> first | (cases hname; cases hneg; rfl) | cases hname

/-- An option that is read has the name it is read for, and is negated if it
says so. -/
theorem ofName_eq_ok [IdnaService] {n : OptionName} {negated : Bool} {value : Text}
    {option : FilterOption} (h : ofName n negated value = .ok option) :
    option.name = n ∧ option.isNegated = negated := by
  unfold ofName at h
  split at h
  case h_2 =>
    split at h
    · cases h
    · cases h
    · cases h
      exact ⟨rfl, rfl⟩
  case h_10 =>
    split at h
    · cases h
    · cases h
      exact ⟨rfl, rfl⟩
  all_goals
    cases h
    try exact ⟨rfl, rfl⟩

/-- A domain option is read from its entries. -/
theorem ofName_domain_eq_ok [IdnaService] {value : Text} {option : FilterOption}
    (h : ofName .domain false value = .ok option) :
    ∃ entries, DomainEntry.listOfText value = .ok entries ∧ option = domain entries := by
  unfold ofName at h
  dsimp only at h
  split at h
  · cases h
  · cases h
  · next entries _ hread =>
    cases h
    exact ⟨entries, hread, rfl⟩

end FilterOption

/-! ## Reading the entries of a domain option -/

namespace DomainEntry

/-- A piece is split at its mark, if it has one. -/
theorem split_eq_iff {piece written : Text} {isExcluded : Bool} :
    split piece = (isExcluded, written) ↔
      if isExcluded then piece = '~' :: written
      else piece = written ∧ written.head? ≠ some '~' := by
  unfold split
  split
  · next rest =>
    -- only one mark is taken off, so a second one would belong to the hostname
    cases isExcluded with
    | true => simp
    | false =>
      refine iff_of_false (by simp) ?_
      rintro ⟨rfl, h⟩
      exact h rfl
  · next hmark =>
    cases isExcluded with
    | true =>
      refine iff_of_false (by simp) ?_
      rintro rfl
      exact hmark written rfl
    | false =>
      rw [Prod.mk.injEq, eq_self, true_and]
      refine ⟨fun h => ⟨h, ?_⟩, fun h => h.1⟩
      subst h
      cases piece with
      | nil => exact nofun
      | cons c rest =>
        intro he
        exact hmark rest (by rw [Option.some.inj he])

/-- **The entries of a value are those written in its pieces.** -/
theorem mem_listOfText_iff [IdnaService] {value : Text} {entries : List DomainEntry}
    (h : listOfText value = .ok entries) {entry : DomainEntry} :
    entry ∈ entries ↔ ∃ piece ∈ value.splitOn '|', entry.IsWritten piece := by
  refine (mem_of_mapM_eq_ok h).trans ?_
  constructor
  · rintro ⟨⟨isExcluded, written⟩, hparts, hentry⟩
    obtain ⟨hmem, hne⟩ := List.mem_filter.1 hparts
    obtain ⟨piece, hpiece, hsplit⟩ := List.mem_map.1 hmem
    dsimp only at hentry
    split at hentry
    · next hostname hname =>
      cases hentry
      exact ⟨piece, hpiece, written, of_decide_eq_true hne, hname, split_eq_iff.1 hsplit⟩
    · cases hentry
  · rintro ⟨piece, hpiece, written, hne, hname, hsplit⟩
    refine ⟨(entry.isExcluded, written), List.mem_filter.2 ⟨?_, decide_eq_true hne⟩, ?_⟩
    · exact List.mem_map.2 ⟨piece, hpiece, split_eq_iff.2 hsplit⟩
    · dsimp only
      rw [hname]

end DomainEntry

/-! ## Reading a rule -/

namespace NetworkLine

/-- The mark of an exception has no part in the options. -/
theorem splitLast?_readException (line : Text) :
    (Search.splitLast? '$' (readException line).2).map (·.2) =
      (Search.splitLast? '$' line).map (·.2) := by
  unfold readException
  split
  · next rest =>
    -- neither of the two characters in front is a `$`
    show _ = (Search.splitLast? '$' ('@' :: '@' :: rest)).map (·.2)
    rw [Search.splitLast?, Search.splitLast?]
    cases Search.splitLast? '$' rest <;> rfl
  · rfl

/-- **The options of a line are cut off at its last `$`.** -/
theorem options?_ofText (line : Text) :
    (ofText line).options? = (Search.splitLast? '$' line).map (·.2) := by
  rw [← splitLast?_readException]
  show (readOptions (readException line).2).2 = _
  unfold readOptions
  cases Search.splitLast? '$' (readException line).2 <;> rfl

end NetworkLine

namespace NetworkRule

variable {line : Text} {rule : NetworkRule}

/-- **Reading a rule** is reading the options on its line, one by one. -/
theorem ofText_eq [IdnaService] (line : Text) :
    ofText line = ((NetworkLine.optionTexts line).mapM FilterOption.ofText).map
      fun options => ⟨NetworkLine.ofText line, options⟩ := by
  unfold ofText NetworkLine.optionTexts
  dsimp only
  rw [NetworkLine.options?_ofText]
  cases Search.splitLast? '$' line with
  | none => rfl
  | some parts => rfl

/-- A rule that was read has the parts of its line, and its options are what
those on the line are read as. -/
theorem ofText_eq_ok_iff [IdnaService] :
    ofText line = .ok rule ↔ rule.line = NetworkLine.ofText line ∧
      (NetworkLine.optionTexts line).mapM FilterOption.ofText = .ok rule.options := by
  rw [ofText_eq]
  obtain ⟨parts, options⟩ := rule
  cases (NetworkLine.optionTexts line).mapM FilterOption.ofText with
  | error e => exact iff_of_false nofun nofun
  | ok read =>
    constructor
    · intro h
      cases h
      exact ⟨rfl, rfl⟩
    · rintro ⟨rfl, h⟩
      cases h
      rfl

/-- A rule that was read has the parts of its line. -/
theorem line_eq_of_ofText [IdnaService] (h : ofText line = .ok rule) :
    rule.line = NetworkLine.ofText line :=
  (ofText_eq_ok_iff.1 h).1

/-- **A rule that was read has the options on its line.** -/
theorem mapM_optionTexts [IdnaService] (h : ofText line = .ok rule) :
    (NetworkLine.optionTexts line).mapM FilterOption.ofText = .ok rule.options :=
  (ofText_eq_ok_iff.1 h).2

/-- **A rule that was read has an option of a name exactly if its line names
it.** -/
theorem exists_option_iff [IdnaService] (h : ofText line = .ok rule) {name : OptionName}
    {isNegated : Bool} :
    (∃ option ∈ rule.options, option.name = name ∧ option.isNegated = isNegated) ↔
      NetworkLine.Names line name isNegated := by
  have read := mapM_optionTexts h
  constructor
  · rintro ⟨option, hoption, rfl, rfl⟩
    obtain ⟨t, ht, hread⟩ := (mem_of_mapM_eq_ok read).1 hoption
    obtain ⟨name, isNegated, value, written, hname⟩ := FilterOption.ofText_eq_ok hread
    obtain ⟨rfl, rfl⟩ := FilterOption.ofName_eq_ok hname
    exact ⟨t, ht, value, written⟩
  · rintro ⟨t, ht, value, written⟩
    obtain ⟨option, hread⟩ := exists_of_mapM_eq_ok read ht
    have hname := FilterOption.ofText_of_isWritten written
    rw [hread] at hname
    exact ⟨option, (mem_of_mapM_eq_ok read).2 ⟨t, ht, hread⟩,
      FilterOption.ofName_eq_ok hname.symm⟩

/-- **An option without a value is one of the rule's exactly if its line names
it.** -/
theorem contains_option_iff [IdnaService] (h : ofText line = .ok rule) {option : FilterOption}
    (hd : option.name ≠ .domain) (hr : option.name ≠ .redirect) :
    rule.options.contains option = true ↔
      NetworkLine.Names line option.name option.isNegated := by
  rw [← exists_option_iff h, List.contains_iff_mem]
  constructor
  · intro hmem
    exact ⟨option, hmem, rfl, rfl⟩
  · rintro ⟨o, hmem, hname, hneg⟩
    exact FilterOption.eq_of_name_eq hd hr hname hneg ▸ hmem

/-- **A rule that was read has an entry in its domain options exactly if its
line lists it.** -/
theorem exists_domain_iff [IdnaService] (h : ofText line = .ok rule) {isExcluded : Bool}
    {domain : Text} :
    (⟨isExcluded, domain⟩ : DomainEntry) ∈ rule.options.flatMap FilterOption.domainEntries ↔
      NetworkLine.ListsDomain line isExcluded domain := by
  have read := mapM_optionTexts h
  rw [List.mem_flatMap]
  constructor
  · rintro ⟨option, hoption, hentry⟩
    obtain ⟨t, ht, hread⟩ := (mem_of_mapM_eq_ok read).1 hoption
    obtain ⟨name, isNegated, value, written, hname⟩ := FilterOption.ofText_eq_ok hread
    -- only a domain option has entries
    cases option with
    | domain entries =>
      obtain ⟨rfl, rfl⟩ := FilterOption.ofName_eq_ok hname
      obtain ⟨_, hlist, ⟨⟩⟩ := FilterOption.ofName_domain_eq_ok hname
      obtain ⟨piece, hpiece, hwritten⟩ := (DomainEntry.mem_listOfText_iff hlist).1 hentry
      exact ⟨t, ht, value, written, piece, hpiece, hwritten⟩
    | important | matchCase | thirdParty | firstParty | redirect | kind => cases hentry
  · rintro ⟨t, ht, value, written, piece, hpiece, hentry⟩
    obtain ⟨option, hread⟩ := exists_of_mapM_eq_ok read ht
    have hname := FilterOption.ofText_of_isWritten written
    rw [hread] at hname
    obtain ⟨entries, hlist, rfl⟩ := FilterOption.ofName_domain_eq_ok hname.symm
    exact ⟨.domain entries, (mem_of_mapM_eq_ok read).2 ⟨t, ht, hread⟩,
      (DomainEntry.mem_listOfText_iff hlist).2 ⟨piece, hpiece, hentry⟩⟩

end NetworkRule

end ContentFilter
