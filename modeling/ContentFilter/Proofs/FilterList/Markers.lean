import ContentFilter.FilterList.LineKind
import ContentFilter.Idna.Ascii
import ContentFilter.Proofs.Cosmetic.Rule
import ContentFilter.Proofs.Search.Occurrence
import ContentFilter.Proofs.Text.Encoding

/-!
# What the first marker of a line decides

The kind of a line is told by a scan that stops at the first marker, and a
cosmetic rule is then cut by another scan, that looks for separators only and
knows nothing of the first one. Both are scans for a `#` with something behind
it, so both find what `Search.IsFirstMark` describes
(`LineKind.firstMarker?_eq_some_iff`, `CosmeticLine.ofText?_eq_some_iff`).

A separator is a marker, and the two sorts of markers exclude each other. So if
the first marker of a line is the start of a separator, it is the first
separator as well, and the line is cut where it was told to be a cosmetic rule
(`LineKind.isCut_of_isFirst`). What stands in front then holds no `$`, because
a `$` there would have made it a network rule.
-/

namespace ContentFilter.LineKind

/-! ## Remarks and lines of hosts files -/

/-- **A remark**: a line of one byte, a comment or a header. -/
inductive IsRemark (line : Text) : Prop
  /-- The line is a single byte. -/
  | byte (h : line.byteLength = 1)
  /-- The line is a comment. -/
  | comment (h : ['!'] <+: line)
  /-- The line starts with a `#` that starts no separator. -/
  | sharp (h : ['#'] <+: line) (hide : ¬ ['#', '#'] <+: line) (unhide : ¬ ['#', '@', '#'] <+: line)
  /-- The line is the header of a list. -/
  | header (h : "[Adblock".toList <+: line)
  /-- The line stands in brackets. -/
  | bracketed (h : ['['] <+: line) (h' : [']'] <:+ line)

/-- **A line of a hosts file**: one of the usual addresses and a blank. -/
def IsHosts (line : Text) : Prop :=
  ∃ address ∈ hostsAddresses, ∃ blank rest, Text.isBlank blank = true ∧
    line = address ++ blank :: rest

/-- One byte is one ASCII character. -/
theorem byteLength_eq_one_iff {t : Text} :
    t.byteLength = 1 ↔ t.length = 1 ∧ Text.isAscii t = true := by
  cases t with
  | nil => exact iff_of_false nofun nofun
  | cons c t =>
    have bytes : Text.byteLength (c :: t) = c.utf8Size + Text.byteLength t := rfl
    have hc := c.utf8Size_pos
    cases t with
    | nil =>
      have single : Text.isAscii [c] = Text.isAsciiChar c := Bool.and_true _
      rw [bytes, single]
      constructor
      · intro h
        have hle := Char.utf8Size_eq_one_iff.1 (show c.utf8Size = 1 from h)
        exact ⟨rfl, decide_eq_true (UInt32.lt_of_le_of_lt hle (by decide))⟩
      · rintro ⟨-, h⟩
        exact Text.utf8Size_of_isAsciiChar h
    | cons d t =>
      have bytes' : Text.byteLength (d :: t) = d.utf8Size + Text.byteLength t := rfl
      have hd := d.utf8Size_pos
      refine iff_of_false ?_ ?_
      · omega
      · rintro ⟨h, -⟩
        exact absurd (Nat.succ.inj h) (Nat.succ_ne_zero _)

/-- **Remarks are told by their looks.** -/
theorem isRemark_iff {line : Text} : isRemark line = true ↔ IsRemark line := by
  unfold isRemark
  simp only [Bool.or_eq_true, Bool.and_eq_true, Bool.not_eq_true', decide_eq_true_eq,
    Bool.eq_false_iff, Ne, Search.startsWith_iff, Search.head?_eq_some_iff,
    Search.getLast?_eq_some_iff, ← byteLength_eq_one_iff]
  constructor
  · rintro ((((h | h) | ⟨⟨h, hide⟩, unhide⟩) | h) | ⟨h, h'⟩)
    · exact .byte h
    · exact .comment h
    · exact .sharp h hide unhide
    · exact .header h
    · exact .bracketed h h'
  · intro h
    cases h with
    | byte h => exact .inl (.inl (.inl (.inl h)))
    | comment h => exact .inl (.inl (.inl (.inr h)))
    | sharp h hide unhide => exact .inl (.inl (.inr ⟨⟨h, hide⟩, unhide⟩))
    | header h => exact .inl (.inr h)
    | bracketed h h' => exact .inr ⟨h, h'⟩

/-- **Lines of hosts files are told by their looks.** -/
theorem isHostsLine_iff {line : Text} : isHostsLine line = true ↔ IsHosts line := by
  unfold isHostsLine
  rw [List.any_eq_true]
  refine exists_congr fun address => and_congr_right fun _ => ?_
  rw [Option.any_eq_true]
  constructor
  · rintro ⟨rest, hrest, hblank⟩
    rw [Option.any_eq_true] at hblank
    obtain ⟨blank, hhead, hblank⟩ := hblank
    obtain ⟨rest, rfl⟩ := List.head?_eq_some_iff.1 hhead
    exact ⟨blank, rest, hblank, Search.dropStart?_eq_some.1 hrest⟩
  · rintro ⟨blank, rest, hblank, hline⟩
    exact ⟨blank :: rest, Search.dropStart?_eq_some.2 hline, hblank⟩

/-! ## Markers -/

/-- **What follows the `#` of a marker.** -/
def Marker.Ends : Marker → Text → Prop
  | .element, after => CosmeticLine.EndsSeparator after
  | .foreign, after => ∃ e ∈ foreignEnds, e <+: after

/-- **The first marker of a line**, with what stands before and behind its
`#`. -/
def IsFirst (m : Marker) (line before after : Text) : Prop :=
  Search.IsFirstMark '#' (fun a => ∃ m : Marker, m.Ends a) line before after ∧ m.Ends after

/-- **No `#` is a marker of both sorts.** -/
theorem Marker.Ends.unique {m m' : Marker} {after : Text} (h : m.Ends after)
    (h' : m'.Ends after) : m = m' := by
  have apart : ¬ (Marker.Ends .element after ∧ Marker.Ends .foreign after) := by
    rintro ⟨⟨isUnhide, hs⟩, e, he, hf⟩
    have all : ∀ e ∈ foreignEnds, ∀ b, ¬ CosmeticLine.separatorEnd b <+: e ∧
        ¬ e <+: CosmeticLine.separatorEnd b := by decide
    obtain ⟨hse, hes⟩ := all e he isUnhide
    exact (List.prefix_or_prefix_of_prefix hs hf).elim hse hes
  cases m with
  | element =>
    cases m' with
    | element => rfl
    | foreign => exact absurd ⟨h, h'⟩ apart
  | foreign =>
    cases m' with
    | element => exact absurd ⟨h', h⟩ apart
    | foreign => rfl

/-- What follows a `#` is read as the end of the marker it is. -/
theorem marker?_eq_some_iff {after : Text} {m : Marker} :
    marker? after = some m ↔ m.Ends after := by
  have foreign : foreignEnds.any (Search.startsWith · after) = true ↔
      Marker.Ends .foreign after := by
    rw [List.any_eq_true]
    exact exists_congr fun e => and_congr_right fun _ => Search.startsWith_iff
  have element : (Search.startsWith ['#'] after || Search.startsWith ['@', '#'] after) = true ↔
      Marker.Ends .element after := by
    show _ ↔ ∃ isUnhide, CosmeticLine.separatorEnd isUnhide <+: after
    rw [Bool.or_eq_true, Search.startsWith_iff, Search.startsWith_iff, Bool.exists_bool]
    rfl
  unfold marker?
  split
  · next h =>
    have ends := foreign.1 h
    rw [Option.some.injEq]
    exact ⟨fun hm => hm ▸ ends, ends.unique⟩
  · next h =>
    rw [foreign] at h
    split
    · next h' =>
      have ends := element.1 h'
      rw [Option.some.injEq]
      exact ⟨fun hm => hm ▸ ends, ends.unique⟩
    · next h' =>
      rw [element] at h'
      refine iff_of_false (Option.some_ne_none m).symm fun ends => ?_
      cases m with
      | element => exact h' ends
      | foreign => exact h ends

/-- **Looking for the first marker is a scan.** -/
theorem isScan_firstMarker? : Search.IsScan '#' marker? firstMarker? where
  nil := rfl
  start := by
    intro rest m h
    rw [firstMarker?, if_pos rfl, h]
  skip := by
    intro c rest h
    have passed : (if c = '#' then marker? rest else none) = none := by
      split
      · next hc => exact Option.eq_none_iff_forall_ne_some.2 fun m hm => h ⟨hc, m, hm⟩
      · rfl
    rw [firstMarker?, passed]

/-- A marker is read exactly from what ends one. -/
theorem exists_marker?_iff : (fun r => ∃ m, marker? r = some m) = fun a => ∃ m : Marker, m.Ends a :=
  funext fun _ => propext (exists_congr fun _ => marker?_eq_some_iff)

/-- **The scan finds the first marker.** -/
theorem firstMarker?_eq_some_iff {line before : Text} {m : Marker} :
    firstMarker? line = some (before, m) ↔ ∃ after, IsFirst m line before after := by
  rw [isScan_firstMarker?.eq_some_iff, exists_marker?_iff]
  exact exists_congr fun after => and_congr_right fun _ => marker?_eq_some_iff

/-- **A first marker that starts a separator** is the first separator. -/
theorem isCut_of_isFirst {line before after : Text} (h : IsFirst .element line before after) :
    ∃ l : CosmeticLine, l.IsCut line ∧ l.hostnames = before ∧
      CosmeticLine.separatorEnd l.isUnhide ++ l.selector = after := by
  obtain ⟨isUnhide, selector, hafter⟩ := h.2
  refine ⟨⟨before, isUnhide, selector⟩, ?_, rfl, hafter⟩
  have cut := h.1.of_imp h.2 fun a ends => ⟨.element, ends⟩
  rwa [← hafter] at cut

/-! ## The kind of a line -/

/-- The kind of a line without cosmetic rules, by what stands in it. -/
theorem withoutElements_eq (line : Text) :
    (['$', '$'] <:+: line → withoutElements line = unsupported) ∧
      (¬ ['$', '$'] <:+: line → withoutElements line = network) := by
  unfold withoutElements
  rw [← Search.occursIn_iff]
  exact ⟨fun h => if_pos h, fun h => if_neg h⟩

/-- **The first marker decides**, unless the line is told before. -/
theorem ofLine_of_not_told {line : Text} (remark : ¬ IsRemark line) (hosts : ¬ IsHosts line)
    (anchored : ¬ ['|'] <+: line) (exception : ¬ ['@', '@', '|'] <+: line) :
    ofLine line =
      match firstMarker? line with
      | some (_, .foreign) => unsupported
      | some (before, .element) => if before.contains '$' then withoutElements line else cosmetic
      | none => withoutElements line := by
  have told : ¬ (line.head? = some '|' || Search.startsWith ['@', '@', '|'] line) = true := by
    rw [Bool.or_eq_true, decide_eq_true_eq, Search.head?_eq_some_iff, Search.startsWith_iff]
    exact not_or.2 ⟨anchored, exception⟩
  unfold ofLine
  rw [if_neg (mt isRemark_iff.1 remark), if_neg (mt isHostsLine_iff.1 hosts)]
  exact if_neg told

/-- **A cosmetic rule** has a separator for its first marker, and no `$` before
it. -/
theorem exists_isFirst_of_cosmetic {line : Text} (h : ofLine line = cosmetic) :
    ∃ before after, IsFirst .element line before after ∧ '$' ∉ before := by
  have other : withoutElements line ≠ cosmetic := by
    unfold withoutElements
    split <;> exact nofun
  unfold ofLine at h
  split at h
  · cases h
  split at h
  · cases h
  split at h
  · cases h
  split at h
  · cases h
  · next before hfound =>
    split at h
    · exact absurd h other
    · next hdollar =>
      obtain ⟨after, first⟩ := firstMarker?_eq_some_iff.1 hfound
      exact ⟨before, after, first, fun hmem => hdollar (List.contains_iff_mem.2 hmem)⟩
  · exact absurd h other

/-- **The kind of a line that is not told before** is decided by its first
marker: a foreign one is not supported, and the start of a separator makes a
cosmetic rule if no `$` stands before it. Without either, the line is a network
rule unless it holds `$$`. A cosmetic rule is cut at its first marker, so it
has a separator, and its hostnames hold no `$`. -/
theorem ofLine_eq_of_isFirst [IdnaService] (line : Text) :
    (¬ IsRemark line → ¬ IsHosts line → ¬ ['|'] <+: line → ¬ ['@', '@', '|'] <+: line →
      (∀ before after, IsFirst .foreign line before after → ofLine line = unsupported) ∧
      (∀ before after, IsFirst .element line before after → '$' ∉ before →
        ofLine line = cosmetic) ∧
      ((∀ m before after, IsFirst m line before after → m = .element ∧ '$' ∈ before) →
        (['$', '$'] <:+: line → ofLine line = unsupported) ∧
          (¬ ['$', '$'] <:+: line → ofLine line = network))) ∧
    (ofLine line = cosmetic →
      ∃ l, CosmeticLine.ofText? line = some l ∧
        IsFirst .element line l.hostnames
          (CosmeticLine.separatorEnd l.isUnhide ++ l.selector) ∧
        '$' ∉ l.hostnames ∧
        ∀ keepsLine, CosmeticFilter.ofLine line keepsLine ≠ .error .noSeparator) := by
  constructor
  -- the kind of a line, by its first marker if there is one
  · intro remark hosts anchored exception
    rw [ofLine_of_not_told remark hosts anchored exception]
    refine ⟨fun before after first => ?_, fun before after first hdollar => ?_, fun markers => ?_⟩
    · rw [firstMarker?_eq_some_iff.2 ⟨after, first⟩]
    · rw [firstMarker?_eq_some_iff.2 ⟨after, first⟩]
      exact if_neg fun hmem => hdollar (List.contains_iff_mem.1 hmem)
    · cases hfound : firstMarker? line with
      | none => exact withoutElements_eq line
      | some found =>
        obtain ⟨before, m⟩ := found
        obtain ⟨after, first⟩ := firstMarker?_eq_some_iff.1 hfound
        obtain ⟨rfl, hdollar⟩ := markers m before after first
        dsimp only
        rw [if_pos (List.contains_iff_mem.2 hdollar)]
        exact withoutElements_eq line
  -- a cosmetic rule, by the cut at its first marker
  · intro h
    obtain ⟨before, after, first, hdollar⟩ := exists_isFirst_of_cosmetic h
    obtain ⟨l, cut, rfl, rfl⟩ := isCut_of_isFirst first
    have parts := CosmeticLine.ofText?_eq_some_iff.2 cut
    exact ⟨l, parts, first, hdollar, fun keepsLine => CosmeticFilter.ofLine_ne_noSeparator cut⟩

/-- A line whose first marker is a separator, with a foreign one behind it. -/
theorem ofLine_eq_of_isFirst_unhide :
    ¬ IsRemark "foo.com#@#a$#b".toList ∧ ¬ IsHosts "foo.com#@#a$#b".toList ∧
      ¬ ['|'] <+: "foo.com#@#a$#b".toList ∧ ¬ ['@', '@', '|'] <+: "foo.com#@#a$#b".toList ∧
      (∃ after, IsFirst .element "foo.com#@#a$#b".toList "foo.com".toList after) ∧
      '$' ∉ "foo.com".toList ∧ ofLine "foo.com#@#a$#b".toList = cosmetic ∧
      ∀ keepsLine, CosmeticFilter.ofLine "foo.com#@#a$#b".toList keepsLine ≠
        .error .noSeparator := by
  have remark : ¬ IsRemark "foo.com#@#a$#b".toList := mt isRemark_iff.2 (by decide)
  have hosts : ¬ IsHosts "foo.com#@#a$#b".toList := mt isHostsLine_iff.2 (by decide)
  have anchored : ¬ ['|'] <+: "foo.com#@#a$#b".toList := by decide
  have exception : ¬ ['@', '@', '|'] <+: "foo.com#@#a$#b".toList := by decide
  have found : firstMarker? "foo.com#@#a$#b".toList = some ("foo.com".toList, .element) := by
    decide
  obtain ⟨after, first⟩ := firstMarker?_eq_some_iff.1 found
  obtain ⟨dispatch, cosmetics⟩ := ofLine_eq_of_isFirst "foo.com#@#a$#b".toList
  have kind := (dispatch remark hosts anchored exception).2.1 _ _ first (by decide)
  obtain ⟨-, -, -, -, separated⟩ := cosmetics kind
  exact ⟨remark, hosts, anchored, exception, ⟨after, first⟩, by decide, kind, separated⟩

end ContentFilter.LineKind
