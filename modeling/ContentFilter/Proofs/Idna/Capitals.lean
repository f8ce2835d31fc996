import ContentFilter.Proofs.Idna.Signs
import ContentFilter.Proofs.Unicode.Capitals

/-!
# The service writes no capitals

A hostname is in lower case when it is brought into ASCII, but this alone does not
keep capitals out of the result. The mapping of hostnames replaces characters by
others, composing takes characters apart, and reading Punycode makes new ones.

The mapping is where capitals end. Every capital, and every letter with marks on a
capital, is replaced by it (`capitalRuns_sublist`), and nothing is replaced by one
(`isCapital_of_mem_mapChar?`). So what is mapped and composed has no capitals of
ASCII. A label that is read from Punycode has to consist of characters that the
mapping keeps, so it has none either, and Punycode is written with small letters.
-/

namespace ContentFilter.Idna

open Unicode (capitalRuns isCapital isCapitalCode)

/-! ## The mapping -/

/-- The mapping replaces the capitals of the table. -/
theorem capitalRuns_sublist : capitalRuns.Sublist mappingRuns := by
  rw [← List.isSublist_iff_sublist, mappingRuns]
  simp only [List.flatMap_cons]
  rw [Unicode.runs_ofList rfl, Unicode.runs_ofList rfl]
  decide +kernel

/-- **A run that leads to no capitals.** Most lead to where there are none. -/
def LeadsToNoCapital (r : Unicode.Run) : Prop :=
  let last := r.image + (r.range.last - r.range.first)
  0x1EFF ≤ r.image ∨ (0x5B ≤ r.image ∧ last < 0xC0) ∨ (0x233 ≤ r.image ∧ last < 0x1E00) ∨
    ∀ k ∈ r.offsets, isCapitalCode (r.image + k) = false

/-- Whether a run leads to capitals can be computed. -/
instance (r : Unicode.Run) : Decidable (LeadsToNoCapital r) :=
  inferInstanceAs (Decidable (_ ∨ _ ∨ _ ∨ _))

/-- What such a run leads to is no capital. -/
theorem LeadsToNoCapital.isCapital_of_image? {r : Unicode.Run} (hr : LeadsToNoCapital r)
    {c d : Char} (h : r.image? c = some d) : isCapital d = false := by
  rw [Unicode.Run.image?_eq] at h
  obtain ⟨hc, hd⟩ := Option.ite_none_right_eq_some.1 h
  cases hd
  refine Bool.eq_false_iff.2 fun hcapital => ?_
  have hcode := Unicode.isCapitalCode_of_isCapital_ofNat hcapital
  have bounds := Unicode.bounds_of_isCapitalCode hcode
  have place := Unicode.Run.sub_mem_offsets hc
  have hplace := List.mem_range.1 (List.mem_filter.1 place).1
  rcases hr with hbeyond | hsmall | hbetween | hnone
  · omega
  · omega
  · omega
  · exact absurd hcode (Bool.eq_false_iff.1 (hnone _ place))

/-- No character is replaced by a capital. -/
theorem leadsToNoCapital_of_mem_mappingRuns : ∀ r ∈ mappingRuns, LeadsToNoCapital r := by
  rw [mappingRuns]
  simp only [List.flatMap_cons, List.flatMap_nil, List.forall_mem_append]
  -- one goal for each piece of the table, and one for its end
  refine ⟨?_, ?_, ?_, ?_, ?_, ?_, ?_, ?_, ?_, ?_, ?_, ?_, List.forall_mem_nil _⟩ <;>
  · rw [Unicode.runs_ofList rfl]
    decide +kernel

/-- Entries of a table, from its characters one by one. -/
theorem expansionsOfText_ofList {table : String} {l : List Char} (h : table = String.ofList l) :
    expansionsOfText table = (Text.words l).map expansionOfText := by
  rw [h, expansionsOfText, String.toList_ofList]

/-- No character is replaced by several with a capital among them. -/
theorem any_isCapital_of_mem_expansions :
    ∀ entry ∈ expansions, entry.2.any isCapital = false := by
  rw [expansions]
  simp only [List.flatMap_cons, List.flatMap_nil, List.forall_mem_append]
  refine ⟨?_, ?_, ?_, ?_, ?_, ?_, ?_, ?_, ?_, ?_, ?_, ?_, List.forall_mem_nil _⟩ <;>
  · rw [expansionsOfText_ofList rfl]
    decide +kernel

/-- `İ` is replaced by two characters. -/
theorem lookup_expansions_dotted : expansions.lookup 'İ' ≠ none := by
  rw [expansions, List.flatMap_cons, expansionsOfText_ofList rfl]
  decide +kernel

/-- **A capital beyond ASCII is replaced.** -/
theorem isCapital_eq_false_of_kept {c : Char} (hc : Text.isAsciiChar c = false)
    (himage : Unicode.image? mappingRuns c = none) (hlookup : expansions.lookup c = none) :
    isCapital c = false := by
  refine Bool.eq_false_iff.2 fun hcapital => ?_
  rcases Unicode.exists_of_isCapital hc hcapital with rfl | ⟨r, hr, hon⟩
  · exact lookup_expansions_dotted hlookup
  · have hnone := List.findSome?_eq_none_iff.1 himage r (capitalRuns_sublist.subset hr)
    rw [Unicode.Run.image?_eq, if_pos hon] at hnone
    cases hnone

/-- **What a character stands for has no capitals.** -/
theorem isCapital_of_mem_mapChar? {c : Char} {t : Text} (h : mapChar? c = some t) :
    ∀ d ∈ t, isCapital d = false := by
  unfold mapChar? at h
  by_cases hc : Text.isAsciiChar c = true
  · rw [if_pos hc] at h
    cases h
    refine List.forall_mem_singleton.2
      (Unicode.not_isCapital_of_isAsciiChar (Text.isAsciiChar_toLower hc) ?_)
    exact Text.toLower_eq_self_iff.1 (Text.toLower_toLower c)
  rw [if_neg hc] at h
  by_cases hignored : Unicode.covers ignoredRanges c = true
  · rw [if_pos hignored] at h
    cases h
    exact List.forall_mem_nil _
  rw [if_neg hignored] at h
  cases himage : Unicode.image? mappingRuns c with
  | some d =>
    rw [himage] at h
    cases h
    obtain ⟨r, hr, hd⟩ := List.exists_of_findSome?_eq_some himage
    exact List.forall_mem_singleton.2
      ((leadsToNoCapital_of_mem_mappingRuns r hr).isCapital_of_image? hd)
  | none =>
    rw [himage] at h
    cases hlookup : expansions.lookup c with
    | some t' =>
      rw [hlookup] at h
      cases h
      obtain ⟨before, after, hcut, -⟩ := List.lookup_eq_some_iff.1 hlookup
      have none := any_isCapital_of_mem_expansions (c, t) (hcut ▸ by simp)
      exact fun d hd => Bool.eq_false_iff.2 (List.any_eq_false.1 none d hd)
    | none =>
      rw [hlookup] at h
      obtain ⟨-, h⟩ := Option.ite_none_left_eq_some.1 h
      cases h
      exact List.forall_mem_singleton.2
        (isCapital_eq_false_of_kept (by simpa using hc) himage hlookup)

/-- **A mapped text has no capitals.** -/
theorem isCapital_of_mem_map? {t mapped : Text} (h : map? t = some mapped) :
    ∀ d ∈ mapped, isCapital d = false := by
  obtain ⟨pieces, hpieces, rfl⟩ := Option.map_eq_some_iff.1 h
  intro d hd
  obtain ⟨piece, hpiece, hd⟩ := List.mem_flatten.1 hd
  obtain ⟨c, -, hc⟩ := exists_of_mem_mapM hpieces hpiece
  exact isCapital_of_mem_mapChar? hc d hd

/-- A character that stands for itself is no capital of ASCII. -/
theorem isUpper_of_isMapped {c : Char} (h : isMapped c = true) : c.isUpper = false :=
  Unicode.isUpper_of_not_isCapital
    (isCapital_of_mem_mapChar? (of_decide_eq_true h) c (List.mem_singleton.2 rfl))

/-! ## Labels -/

/-- **A label is read without capitals of ASCII** if there are none in it. -/
theorem isUpper_of_mem_readLabel? {piece label : Text} (h : readLabel? piece = some label)
    (hpiece : ∀ c ∈ piece, c.isUpper = false) : ∀ c ∈ label, c.isUpper = false := by
  unfold readLabel? at h
  split at h
  · -- a label that is decoded consists of characters that stand for themselves
    obtain ⟨-, -, mapped⟩ := decode?_of_decodeLabel? h
    exact fun c hc => isUpper_of_isMapped (List.all_eq_true.1 mapped c hc)
  · cases h
    exact hpiece

/-- **A label is written without capitals of ASCII** if there are none in it. -/
theorem isUpper_of_mem_writeLabel {label : Text} (h : ∀ c ∈ label, c.isUpper = false) :
    ∀ c ∈ writeLabel label, c.isUpper = false := by
  unfold writeLabel
  split
  · exact h
  · obtain ⟨hyphen, digits, heq, hhyphen, hdigits⟩ := Punycode.exists_encode_eq label
    rw [heq]
    have mark : punycodeMark.any (·.isUpper) = false := by decide
    refine List.forall_mem_append.2 ⟨fun c hc => ?_, List.forall_mem_append.2
      ⟨List.forall_mem_append.2 ⟨?_, ?_⟩, ?_⟩⟩
    · exact Bool.eq_false_iff.2 (List.any_eq_false.1 mark c hc)
    · exact fun c hc => h c (List.mem_filter.1 hc).1
    · exact fun c hc => hhyphen c hc ▸ rfl
    · exact fun c hc => (hdigits c hc).isAlphanumeric.2

/-- **The ASCII form of a hostname has no capitals.** -/
theorem isUpper_of_mem_toAscii? {hostname name : Text} (h : toAscii? hostname = some name) :
    ∀ c ∈ name, c.isUpper = false := by
  unfold toAscii? at h
  obtain ⟨mapped, hmapped, h⟩ := Option.bind_eq_some_iff.1 h
  obtain ⟨labels, hlabels, h⟩ := Option.bind_eq_some_iff.1 h
  have composed := Unicode.isUpper_of_mem_composed (isCapital_of_mem_map? hmapped)
  obtain ⟨-, h⟩ := Option.ite_none_right_eq_some.1 h
  cases h
  refine Text.forall_mem_join (List.forall_mem_singleton.2 rfl) fun written hwritten => ?_
  obtain ⟨label, hlabel, rfl⟩ := List.mem_map.1 hwritten
  obtain ⟨piece, hpiece, hread⟩ := exists_of_mem_mapM hlabels hlabel
  refine isUpper_of_mem_writeLabel (isUpper_of_mem_readLabel? hread fun c hc => ?_)
  exact composed c (Text.exists_mem_splitOn_iff.1 ⟨piece, hpiece, hc⟩).1

/-- **The service in use** writes no capitals. -/
instance : IdnaService.WritesNoCapitals where
  notUpper := isUpper_of_mem_toAscii?

end ContentFilter.Idna
