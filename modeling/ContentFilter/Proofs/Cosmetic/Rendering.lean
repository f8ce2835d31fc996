import ContentFilter.Idna.Ascii
import ContentFilter.Proofs.Cosmetic.Rule
import ContentFilter.Proofs.Text.Case
import ContentFilter.Proofs.Text.Lines

/-!
# What a cosmetic filter is written as

A filter that has not kept its line is written as its hostnames between commas, the
separator, and its selector, which is closed by a `)` behind the start of a script if
it is about scripts. Everything that reading did is undone by this, or is done again
without an effect. The separator that was written is the first one, since there is no
`#` in front of it. The hostnames are split at the commas that were written, since
there are no other ones, and are trimmed, lowered and not empty already. Whatever
separators, commas and parentheses there are in the selector stand behind the ones
that were written, or in front of the last.

The exception is the pattern of scripts to block, which loses two slashes when it is
read and does not get them back when it is written. If there are two more below them,
reading drops these too. `CosmeticFilter.ofLine_toText_iff` says that a filter is read
back but for that; where hostnames with a `#` or in other scripts are written, it does
not say anything.
-/

namespace ContentFilter

/-! ## Trimmed texts -/

namespace Text

/-- **A text that has no blank at its ends** is left as it is. -/
theorem trim_eq_self {t : Text} (head : ∀ c, t.head? = some c → isBlank c = false)
    (last : ∀ c, t.getLast? = some c → isBlank c = false) : trim t = t := by
  have start : trimStart t = t := by
    cases t with
    | nil => rfl
    | cons c t =>
      refine List.dropWhile_cons_of_neg ?_
      rw [head c rfl]
      nofun
  rw [trim, start]
  exact Search.dropEndWhile_eq_self last

/-- A blank in front of a text is trimmed. -/
theorem trim_cons {c : Char} (hc : isBlank c = true) (t : Text) : trim (c :: t) = trim t := by
  unfold trim trimStart
  rw [List.dropWhile_cons_of_pos hc]

/-- What is trimmed is a part of the text. -/
theorem trim_subset (t : Text) : trim t ⊆ t :=
  fun _ hc => (List.dropWhile_sublist _).subset ((Search.dropEndWhile_initial _ _).subset hc)

/-- **Lowering and trimming** do not depend on their order. -/
theorem trim_lower (t : Text) : trim (lower t) = lower (trim t) := by
  have blank (c : Char) : isBlank c.toLower = isBlank c :=
    forall_toLower (P := fun c l => isBlank l = isBlank c) (fun _ => rfl) (by decide) c
  unfold trim trimEnd trimStart
  rw [dropWhile_lower blank, dropEndWhile_lower blank]

/-- **The pieces of a list** as it is read: no piece has a comma, nor blanks at its
ends. -/
structure IsPiece (piece : Text) : Prop where
  /-- There is no comma in it. -/
  noComma : ',' ∉ piece
  /-- There are no blanks at its ends. -/
  trimmed : trim piece = piece

/-- The pieces between commas, trimmed, are pieces. -/
theorem isPiece_of_mem {t piece : Text} (h : piece ∈ (t.splitOn ',').map trim) :
    IsPiece piece := by
  obtain ⟨written, hwritten, rfl⟩ := List.mem_map.1 h
  refine ⟨fun hcomma => ?_, trim_trim written⟩
  exact (exists_mem_splitOn_iff.1 ⟨written, hwritten, trim_subset written hcomma⟩).2 rfl

/-- Blanks in front of a list are trimmed off its first piece. -/
theorem map_trim_splitOn_append {blanks : Text} (hblanks : ∀ c ∈ blanks, isBlank c = true)
    (t : Text) : ((blanks ++ t).splitOn ',').map trim = (t.splitOn ',').map trim := by
  induction blanks with
  | nil => rfl
  | cons c blanks ih =>
    obtain ⟨hc, hblanks⟩ := List.forall_mem_cons.1 hblanks
    have notComma : (c == ',') = false := beq_eq_false_iff_ne.2 fun h => by
      rw [h] at hc
      exact absurd hc (by decide)
    obtain ⟨piece, pieces, hpieces⟩ :=
      List.exists_cons_of_ne_nil (List.splitOn_ne_nil ',' (blanks ++ t))
    rw [← ih hblanks, List.cons_append, List.splitOn_cons_eq_if_modifyHead, notComma,
      if_neg Bool.false_ne_true, hpieces, List.modifyHead_cons, List.map_cons, List.map_cons,
      trim_cons hc]

/-- **Joined pieces are read back**, whether or not blanks follow the commas. -/
theorem map_trim_splitOn_join {blanks : Text} (hblanks : ∀ c ∈ blanks, isBlank c = true)
    {pieces : List Text} (hne : pieces ≠ []) (h : ∀ piece ∈ pieces, IsPiece piece) :
    ((join (',' :: blanks) pieces).splitOn ',').map trim = pieces := by
  unfold join
  induction pieces with
  | nil => exact absurd rfl hne
  | cons piece rest ih =>
    obtain ⟨hpiece, h⟩ := List.forall_mem_cons.1 h
    have single : piece.splitOn ',' = [piece] := List.splitOn_eq_singleton hpiece.noComma
    cases rest with
    | nil => rw [List.intercalate_singleton, single, List.map_singleton, hpiece.trimmed]
    | cons piece' rest =>
      rw [List.intercalate_cons_cons, List.append_assoc, List.cons_append,
        List.splitOn_append_cons_self, single, List.map_append, List.map_singleton, hpiece.trimmed,
        map_trim_splitOn_append hblanks, ih (List.cons_ne_nil _ _) h, List.singleton_append]

end Text

/-! ## The selector -/

namespace SelectorKind

variable {t selector : Text} {kind : SelectorKind}

/-- **Arguments that are joined anew** are joined for good. -/
theorem joinArguments_joinArguments (t : Text) :
    joinArguments (joinArguments t) = joinArguments t := by
  have pieces : ((joinArguments t).splitOn ',').map Text.trim = (t.splitOn ',').map Text.trim :=
    Text.map_trim_splitOn_join (List.forall_mem_singleton.2 rfl)
      (mt List.map_eq_nil_iff.1 (List.splitOn_ne_nil ',' t)) fun _ => Text.isPiece_of_mem
  rw [joinArguments, pieces]
  rfl

/-- **A selector as it is written** for what it asks for. -/
def toText (kind : SelectorKind) (selector : Text) : Text :=
  match kind with
  | elements => selector
  | scriptBlock => "script:contains(".toList ++ (selector ++ [')'])
  | scriptInject => "script:inject(".toList ++ (selector ++ [')'])

/-- **A selector that is written asks for the same**, and what is kept of it is what
is kept of what was kept. -/
theorem Asks.toText (h : Asks (Text.trim t) kind selector) :
    Text.trim (kind.toText selector) = kind.toText selector ∧
      Asks (kind.toText selector) kind (kind.kept selector) := by
  have script {start : Text} {c : Char} (hstart : start.head? = some c)
      (hc : Text.isBlank c = false) (body : Text) :
      Text.trim (start ++ (body ++ [')'])) = start ++ (body ++ [')']) := by
    refine Text.trim_eq_self (fun d hd => ?_) fun d hd => ?_
    · rw [List.head?_append, hstart, Option.some_or] at hd
      cases hd
      exact hc
    · rw [← List.append_assoc, List.getLast?_concat] at hd
      cases hd
      rfl
  cases kind with
  | elements =>
    generalize ht : Text.trim t = trimmed at h
    cases h with
    | elements h => exact ⟨ht ▸ Text.trim_trim t, .elements h⟩
  | scriptBlock => exact ⟨script rfl rfl selector, asks_kept (by decide) selector⟩
  | scriptInject => exact ⟨script rfl rfl selector, asks_kept (by decide) selector⟩

/-- **What was kept is kept again**, unless it is a pattern of scripts between two
slashes. -/
theorem Asks.kept_eq_self_iff (h : Asks t kind selector) :
    kind.kept selector = selector ↔
      (kind = scriptBlock → ∀ pattern, selector ≠ '/' :: (pattern ++ ['/'])) := by
  cases h with
  | elements => exact iff_of_true rfl nofun
  | inject => exact iff_of_true (joinArguments_joinArguments _) nofun
  | block =>
    constructor
    · rintro kept - pattern rfl
      -- the slashes would be dropped
      have dropped := dropSlashes_eq_iff.2 (Keeps.slashes pattern)
      have lengths := congrArg List.length (dropped.symm.trans kept)
      simp at lengths
      omega
    · exact fun unslashed => dropSlashes_eq_iff.2 (.plain _ (unslashed rfl))

end SelectorKind

/-! ## The hostnames -/

namespace CosmeticLine

variable {l : CosmeticLine} {hostnames : List Text} {kind : SelectorKind} {selector : Text}

/-- **The patterns of a line** are pieces of a list, and not empty. -/
theorem isPiece_of_mem_patterns {pattern : Text} (h : pattern ∈ l.patterns) :
    Text.IsPiece pattern ∧ pattern ≠ [] := by
  obtain ⟨hmem, hne⟩ := List.mem_filter.1 h
  exact ⟨Text.isPiece_of_mem hmem, of_decide_eq_true hne⟩

/-- A pattern is a part of the line. -/
theorem subset_of_mem_patterns {pattern : Text} (h : pattern ∈ l.patterns) :
    pattern ⊆ l.hostnames := by
  obtain ⟨written, hwritten, rfl⟩ := List.mem_map.1 (List.mem_filter.1 h).1
  exact fun c hc =>
    (Text.exists_mem_splitOn_iff.1 ⟨written, hwritten, Text.trim_subset written hc⟩).1

/-- Patterns of ASCII hostnames are ASCII. -/
theorem isAscii_of_mem_patterns (ascii : Text.isAscii l.hostnames = true) {pattern : Text}
    (h : pattern ∈ l.patterns) : Text.isAscii pattern = true :=
  List.all_eq_true.2 fun c hc => List.all_eq_true.1 ascii c (subset_of_mem_patterns h hc)

/-- **The parts of a rendering**: the hostnames joined, the separator, and the selector
as it is written. -/
def rendered (l : CosmeticLine) (hostnames : List Text) (kind : SelectorKind) (selector : Text) :
    CosmeticLine :=
  ⟨Text.join [','] hostnames, l.isUnhide, kind.toText selector⟩

/-- **Names that are joined by commas are the patterns of a line.** -/
theorem patterns_rendered (h : ∀ name ∈ hostnames, Text.IsPiece name ∧ name ≠ []) :
    (l.rendered hostnames kind selector).patterns = hostnames := by
  have named : ∀ name ∈ hostnames, decide (name ≠ []) = true := fun name hname =>
    decide_eq_true (h name hname).2
  unfold patterns rendered
  cases hostnames with
  | nil => rfl
  | cons name names =>
    have noBlanks : ∀ c ∈ ([] : Text), Text.isBlank c = true := nofun
    rw [Text.map_trim_splitOn_join noBlanks (List.cons_ne_nil _ _) fun name hname =>
      (h name hname).1]
    exact List.filter_eq_self.2 named

end CosmeticLine

/-- Lowering keeps a text in ASCII. -/
theorem Text.isAscii_lower {t : Text} (h : isAscii t = true) : isAscii (lower t) = true :=
  List.all_eq_true.2 fun c hc => by
    obtain ⟨d, hd, rfl⟩ := List.mem_map.1 hc
    exact isAsciiChar_toLower (List.all_eq_true.1 h d hd)

/-- A lowered piece is a piece. -/
theorem Text.IsPiece.lower {piece : Text} (h : IsPiece piece) : IsPiece (Text.lower piece) where
  noComma := mt (mem_lower rfl).1 h.noComma
  trimmed := by rw [trim_lower, h.trimmed]

/-- **The normal form of an ASCII pattern** is its lower case. -/
theorem HostnamePattern.normalize?_of_isAscii [IdnaService] {pattern : Text}
    (h : Text.isAscii pattern = true) : normalize? pattern = some (Text.lower pattern) := by
  unfold normalize?
  rw [Unicode.lowercase_eq_lower h]
  exact if_pos (Text.isAscii_lower h)

namespace CosmeticLine

variable {l : CosmeticLine} {hostnames : List Text} {kind : SelectorKind} {selector : Text}

/-- **The hostnames on an ASCII line** are its patterns, lowered. -/
theorem eq_map_lower_of_lists [IdnaService] (ascii : Text.isAscii l.hostnames = true)
    (h : l.Lists hostnames) : hostnames = l.patterns.map Text.lower := by
  have lowered : l.Lists (l.patterns.map Text.lower) :=
    List.forall₂_map_right_iff.2 (List.forall₂_same.2 fun pattern hpattern =>
      HostnamePattern.normalize?_of_isAscii (isAscii_of_mem_patterns ascii hpattern))
  exact Option.some.inj ((mapM_eq_some_iff.2 h).symm.trans (mapM_eq_some_iff.2 lowered))

/-- **The hostnames of a rendering** are those of the line. -/
theorem lists_rendered [IdnaService] (ascii : Text.isAscii l.hostnames = true)
    (h : l.Lists hostnames) :
    (l.rendered hostnames kind selector).patterns = hostnames ∧
      (l.rendered hostnames kind selector).Lists hostnames := by
  obtain rfl := eq_map_lower_of_lists ascii h
  have joined : (l.rendered (l.patterns.map Text.lower) kind selector).patterns =
      l.patterns.map Text.lower := by
    refine patterns_rendered (List.forall_mem_map.2 fun pattern hpattern => ?_)
    obtain ⟨isPiece, nonempty⟩ := isPiece_of_mem_patterns hpattern
    exact ⟨isPiece.lower, mt List.map_eq_nil_iff.1 nonempty⟩
  refine ⟨joined, ?_⟩
  unfold Lists
  rw [joined]
  refine List.forall₂_same.2 (List.forall_mem_map.2 fun pattern hpattern => ?_)
  rw [HostnamePattern.normalize?_of_isAscii
    (Text.isAscii_lower (isAscii_of_mem_patterns ascii hpattern)), Text.lower_lower]

/-- The flags of a rendering are those of the line: nothing in it is beyond ASCII. -/
theorem holds_rendered [IdnaService] (ascii : Text.isAscii l.hostnames = true)
    (h : l.Lists hostnames) : (l.rendered hostnames kind selector).holds kind = l.holds kind := by
  have plain {l' : CosmeticLine} (ascii' : ∀ pattern ∈ l'.patterns, Text.isAscii pattern = true) :
      l'.holds kind .unicode = false := List.any_eq_false.2 fun pattern hpattern => by
    rw [ascii' pattern hpattern]
    nofun
  funext flag
  cases flag with
  | unhide | scriptBlock | scriptInject => rfl
  | unicode =>
    rw [plain fun pattern => isAscii_of_mem_patterns ascii, plain fun name hname => ?_]
    rw [(lists_rendered ascii h).1, eq_map_lower_of_lists ascii h] at hname
    obtain ⟨pattern, hpattern, rfl⟩ := List.mem_map.1 hname
    exact Text.isAscii_lower (isAscii_of_mem_patterns ascii hpattern)

/-- A `#` in a hostname of the rendering is one on the line. -/
theorem notMem_rendered [IdnaService] (ascii : Text.isAscii l.hostnames = true)
    (h : l.Lists hostnames) (hsharp : '#' ∉ l.hostnames) :
    '#' ∉ (l.rendered hostnames kind selector).hostnames := by
  obtain rfl := eq_map_lower_of_lists ascii h
  intro hmem
  refine Text.forall_mem_join (P := (· ≠ '#')) (List.forall_mem_singleton.2 (by decide))
    (List.forall_mem_map.2 fun pattern hpattern c hc => ?_) '#' hmem rfl
  rintro rfl
  exact hsharp (subset_of_mem_patterns hpattern ((Text.mem_lower rfl).1 hc))

end CosmeticLine

/-! ## The line -/

/-- **A line is cut behind its hostnames** if there is no `#` in them. -/
theorem CosmeticLine.isCut_of_notMem {l : CosmeticLine} (h : '#' ∉ l.hostnames) :
    l.IsCut (l.hostnames ++ '#' :: (separatorEnd l.isUnhide ++ l.selector)) where
  eq_append := rfl
  is_mark := endsSeparator_append l.isUnhide l.selector
  is_first := fun before after joined shorter => by
    have first : before ++ ['#'] <+:
        l.hostnames ++ '#' :: (separatorEnd l.isUnhide ++ l.selector) :=
      ⟨after, by rw [joined, List.append_assoc, List.singleton_append]⟩
    have inside : before ++ ['#'] <+: l.hostnames := by
      refine List.prefix_of_prefix_length_le first (List.prefix_append _ _) ?_
      rw [List.length_append]
      exact shorter
    exact absurd (inside.subset List.mem_concat_self) h

namespace CosmeticFilter

variable {line : Text} {f : CosmeticFilter} {l : CosmeticLine}

/-- **A filter is written in the parts of its rendering.** -/
theorem toText_make (l : CosmeticLine) (kind : SelectorKind) (hostnames : List Text)
    (selector : Text) :
    (make (.of (l.holds kind)) hostnames selector none).toText =
      Text.join [','] hostnames ++
        '#' :: (CosmeticLine.separatorEnd l.isUnhide ++ kind.toText selector) := by
  have has := has_mask_make l kind hostnames selector none
  have separator : (if l.isUnhide = true then ['#', '@', '#'] else ['#', '#']) =
      '#' :: CosmeticLine.separatorEnd l.isUnhide := by
    cases l.isUnhide <;> rfl
  have selector_eq : (make (.of (l.holds kind)) hostnames selector none).selectorToText =
      kind.toText selector := by
    unfold selectorToText
    rw [has, has]
    cases kind with
    | elements => rfl
    | scriptBlock | scriptInject => exact List.append_assoc _ _ _
  unfold toText
  rw [has, selector_eq, show l.holds kind .unhide = l.isUnhide from rfl, separator]
  exact List.append_assoc _ _ _

/-- **A filter is read back from its rendering**, if the hostnames on its line are ASCII
without a `#`, exactly if it does not block scripts by a pattern that is between two
slashes again once it has lost those on its line. -/
theorem ofLine_toText_iff [IdnaService] (h : ofLine line false = .ok f) (cut : l.IsCut line)
    (ascii : Text.isAscii l.hostnames = true) (hsharp : '#' ∉ l.hostnames) :
    ofLine f.toText false = .ok f ↔
      (f.mask.has .scriptBlock = true → ∀ pattern, f.selector ≠ '/' :: (pattern ++ ['/'])) := by
  obtain ⟨l', hostnames, kind, selector, cut', means, hf⟩ := ofLine_eq_ok_iff.1 h
  obtain rfl := cut.unique cut'
  rw [if_neg Bool.false_ne_true] at hf
  subst hf
  obtain ⟨trimmed, asks⟩ := means.asks.toText
  have listed := means.hostnames
  have rendering : (l.rendered hostnames kind selector).IsCut
      (make (.of (l.holds kind)) hostnames selector none).toText := by
    rw [toText_make]
    exact CosmeticLine.isCut_of_notMem (CosmeticLine.notMem_rendered ascii listed hsharp)
  rw [has_mask_make, show l.holds kind .scriptBlock = decide (kind = .scriptBlock) from rfl,
    decide_eq_true_eq]
  refine Iff.trans ⟨fun read => ?_, fun kept => ?_⟩ means.asks.kept_eq_self_iff
  · obtain ⟨l', hostnames', kind', selector', cut', means', same⟩ := ofLine_eq_ok_iff.1 read
    obtain rfl := rendering.unique cut'
    -- the selector of the rendering asks for one thing only
    have asks' : SelectorKind.Asks (kind.toText selector) kind' selector' := trimmed ▸ means'.asks
    have once := (SelectorKind.read_eq_ok_iff.2 asks).symm.trans
      (SelectorKind.read_eq_ok_iff.2 asks')
    obtain ⟨-, kept_eq⟩ := Prod.mk.inj (Except.ok.inj once)
    rw [kept_eq]
    exact (congrArg CosmeticFilter.selector same).symm
  · rw [kept] at asks
    refine ofLine_eq_ok_iff.2 ⟨l.rendered hostnames kind selector, hostnames, kind, selector,
      rendering, ⟨(CosmeticLine.lists_rendered ascii listed).2, ?_, ?_, means.nonempty⟩, ?_⟩
    · intro hunhide
      rw [(CosmeticLine.lists_rendered ascii listed).1]
      exact mt listed.eq_nil_iff.1 (means.isScoped hunhide)
    · exact trimmed.symm ▸ asks
    · rw [CosmeticLine.holds_rendered ascii listed]
      rfl

/-- Scripts to block on two hostnames, with a pattern that holds what ends selectors. -/
theorem ofLine_toText_iff_script :
    let line := "Foo.com ,, ~Bar.*#@# script:contains(/a,b)##c)/)".toList
    ∃ f, ofLine line false = .ok f ∧
      f.toText = "foo.com,~bar.*#@#script:contains(a,b)##c))".toList ∧
      ofLine f.toText false = .ok f := by
  intro line
  obtain ⟨f, hf⟩ : ∃ f, ofLine line false = .ok f := ⟨_, rfl⟩
  have cut : CosmeticLine.IsCut
      ⟨"Foo.com ,, ~Bar.*".toList, true, " script:contains(/a,b)##c)/)".toList⟩ line :=
    CosmeticLine.ofText?_eq_some_iff.1 (by decide +kernel)
  refine ⟨f, hf, ?_, (ofLine_toText_iff hf cut (by decide +kernel) (by decide +kernel)).2 ?_⟩
  · cases hf
    decide +kernel
  · rintro - pattern slashed
    have hhead : f.selector.head? = some '/' := by rw [slashed, List.head?_cons]
    cases hf
    revert hhead
    decide +kernel

end CosmeticFilter

end ContentFilter
