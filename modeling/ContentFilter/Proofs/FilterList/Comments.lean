import ContentFilter.Idna.Ascii
import ContentFilter.Proofs.FilterList.Accumulation

/-!
# Comments of a list

A line that starts with `!` is a comment, whatever it holds behind that, and in both
formats. It gives no filter and is not at fault (`Filter.ofLine_of_isComment`), but it is
the only sort of line that can say something of the list itself
(`Metadata.isComment_of_says`). So the comments and the other lines of a list go two ways:
the set that is filled depends on what stands on the other lines alone
(`FilterSet.fst_addList`), what the list says about itself on the comments alone
(`FilterSet.snd_addList`).

Of the comments that give a title, the first one counts. A list is read in one pass, with
what it has said so far carried along (`FilterSet.readLine`), and a title is taken only
while there is none; each step keeps that what was said is what the first comment of the
lines read so far says (`Metadata.foldl_add`).
-/

namespace ContentFilter

/-! ## Folds and searches that pass over something -/

section Passing

variable {α β : Type}

/-- A fold may leave out what its step passes over. -/
theorem foldl_filter_of_passes {p : α → Bool} {f : β → α → β}
    (passes : ∀ b a, p a = false → f b a = b) (l : List α) (b : β) :
    (l.filter p).foldl f b = l.foldl f b := by
  rw [List.foldl_filter]
  congr 1
  funext b a
  cases h : p a with
  | true => exact if_pos rfl
  | false => exact (passes b a h).symm

/-- A search may leave out what it passes over. -/
theorem findSome?_filter_of_passes {p : α → Bool} {f : α → Option β}
    (passes : ∀ a, p a = false → f a = none) (l : List α) :
    (l.filter p).findSome? f = l.findSome? f := by
  rw [← List.head?_filterMap, ← List.head?_filterMap, List.filterMap_filter]
  congr 2
  funext a
  cases h : p a with
  | true => exact if_pos rfl
  | false => exact (passes a h).symm

end Passing

/-! ## Comments -/

/-- **A comment**: a line that starts with `!`, blanks aside. -/
def Text.isComment (line : Text) : Bool :=
  (trim line).head? == some '!'

/-- A line is a comment if it is one once it is trimmed. -/
theorem Text.isComment_trim (line : Text) : isComment (trim line) = isComment line := by
  rw [isComment, trim_trim]
  rfl

/-- A line that starts with `!` is a comment, as `!` is not trimmed. -/
theorem Text.isComment_cons (line : Text) : isComment ('!' :: line) = true := by
  obtain ⟨blanks, hline, hblanks⟩ := Search.exists_dropEndWhile isBlank ('!' :: line)
  rw [isComment, trim, trimStart, List.dropWhile_cons_of_neg (by decide), trimEnd]
  cases htrim : Search.dropEndWhile isBlank ('!' :: line) with
  | nil =>
    rw [htrim, List.nil_append] at hline
    have blank := hblanks '!' (hline ▸ List.mem_cons_self)
    exact absurd blank (by decide)
  | cons c rest =>
    rw [htrim, List.cons_append] at hline
    obtain rfl := (List.cons.inj hline).1
    rfl

/-- A blank line is no comment. -/
theorem Text.trim_ne_nil_of_isComment {line : Text} (h : isComment line = true) :
    trim line ≠ [] := by
  intro blank
  rw [isComment, blank] at h
  cases h

/-- **A comment gives no filter**, and is not at fault. -/
theorem Filter.ofLine_of_isComment [IdnaService] {line : Text} (h : Text.isComment line = true)
    (keepsLine : Bool) (options : ParseOptions) :
    ofLine line keepsLine options = .error .unsupported := by
  have starts : (Text.trim line).head? = some '!' := eq_of_beq h
  have remark : LineKind.ofLine (Text.trim line) = .unsupported := by
    simp [LineKind.ofLine, LineKind.isRemark, starts]
  have noHostname : HostsLine.hostname? (Text.trim line) = none := by
    rw [HostsLine.hostname?, if_pos starts]
  rw [ofLine, if_neg (Text.trim_ne_nil_of_isComment h), ofStandardLine, remark, ofHostsLine,
    noHostname]
  cases options.format with
  | standard => rfl
  | hosts => exact ite_self _

/-! ## What a list says about itself -/

namespace Metadata

/-- **A line says something under a key**: it is a comment, and up to its first colon it
holds the key. -/
def Says (key value line : Text) : Prop :=
  ∃ name rest, Text.trim line = '!' :: (name ++ ':' :: rest) ∧ ':' ∉ name ∧
    Text.trim name = key ∧ Text.trim rest = value

/-- **Some lines say something first under a key**: one of them says it, and none before
it says anything under the key. -/
def SaysFirst (key value : Text) (lines : List Text) : Prop :=
  ∃ before line after, lines = before ++ line :: after ∧ Says key value line ∧
    ∀ earlier ∈ before, ∀ other, ¬ Says key other earlier

/-- Only comments say something. -/
theorem isComment_of_says {key value line : Text} (h : Says key value line) :
    Text.isComment line = true := by
  obtain ⟨name, rest, hline, -⟩ := h
  rw [Text.isComment, hline]
  rfl

/-- The value of a comment is what it says. -/
theorem valueOf?_trim_eq_some {key value line : Text} :
    valueOf? key (Text.trim line) = some value ↔ Says key value line := by
  unfold valueOf? Says
  rw [Option.bind_eq_some_iff]
  constructor
  · rintro ⟨⟨k, v⟩, hkeyed, hvalue⟩
    unfold keyed? at hkeyed
    split at hkeyed
    · next comment hline =>
      obtain ⟨⟨name, rest⟩, hsplit, hpair⟩ := Option.map_eq_some_iff.1 hkeyed
      obtain ⟨rfl, hname⟩ := Search.splitFirst?_eq_some.1 hsplit
      cases hpair
      obtain ⟨hkey, hvalue⟩ := Option.ite_none_right_eq_some.1 hvalue
      exact ⟨name, rest, hline, hname, hkey, Option.some.inj hvalue⟩
    · cases hkeyed
  · rintro ⟨name, rest, hline, hname, rfl, rfl⟩
    refine ⟨(Text.trim name, Text.trim rest), ?_, if_pos rfl⟩
    rw [hline, keyed?, Search.splitFirst?_eq_some.2 ⟨rfl, hname⟩]
    rfl

/-- A line has no value if it says nothing. -/
theorem valueOf?_trim_eq_none {key line : Text} :
    valueOf? key (Text.trim line) = none ↔ ∀ value, ¬ Says key value line := by
  rw [Option.eq_none_iff_forall_ne_some]
  exact forall_congr' fun value => not_congr valueOf?_trim_eq_some

/-- **What is found on some lines is what they say first.** -/
theorem findSome?_valueOf?_eq_some {key value : Text} {lines : List Text} :
    (lines.map Text.trim).findSome? (valueOf? key) = some value ↔ SaysFirst key value lines := by
  rw [List.findSome?_map, List.findSome?_eq_some_iff]
  unfold SaysFirst
  simp only [Function.comp_apply, valueOf?_trim_eq_some, valueOf?_trim_eq_none]

/-- Nothing is found if none of the lines says anything. -/
theorem findSome?_valueOf?_eq_none {key : Text} {lines : List Text} :
    (lines.map Text.trim).findSome? (valueOf? key) = none ↔
      ∀ line ∈ lines, ∀ value, ¬ Says key value line := by
  rw [List.findSome?_map, List.findSome?_eq_none_iff]
  simp only [Function.comp_apply, valueOf?_trim_eq_none]

/-- **What a list has said, and what one more line says.** -/
def add (m : Metadata) (line : Text) : Metadata :=
  match keyed? line with
  | some (key, value) =>
    if key = titleKey ∧ m.title? = none then { m with title? := some value }
    else if key = homepageKey ∧ m.homepage? = none then { m with homepage? := some value }
    else m
  | none => m

/-- What was said before counts. -/
theorem add_eq (m : Metadata) (line : Text) :
    m.add line = ⟨m.title?.or (valueOf? titleKey line),
      m.homepage?.or (valueOf? homepageKey line)⟩ := by
  have distinct : titleKey ≠ homepageKey := by decide
  obtain ⟨title?, homepage?⟩ := m
  unfold add valueOf?
  cases keyed? line with
  | none => simp
  | some pair =>
    obtain ⟨key, value⟩ := pair
    by_cases htitle : key = titleKey
    · subst htitle
      cases title? <;> simp [distinct]
    · by_cases hhomepage : key = homepageKey
      · subst hhomepage
        cases homepage? <;> simp [htitle]
      · simp [htitle, hhomepage]

/-- **What was said before some lines counts, and then what they say first.** -/
theorem foldl_add (m : Metadata) (lines : List Text) :
    lines.foldl add m = ⟨m.title?.or (ofLines lines).title?,
      m.homepage?.or (ofLines lines).homepage?⟩ := by
  induction lines generalizing m with
  | nil => simp [ofLines]
  | cons line lines ih =>
    rw [List.foldl_cons, ih, add_eq]
    simp only [ofLines, List.findSome?_cons, Option.or_assoc]
    congr 2
    · cases valueOf? titleKey line <;> rfl
    · cases valueOf? homepageKey line <;> rfl

/-- A line that is no comment has no value. -/
theorem valueOf?_of_not_isComment {line : Text} (h : Text.isComment line = false) (key : Text) :
    valueOf? key line = none := by
  unfold valueOf? keyed?
  split
  · next comment => exact absurd (Text.isComment_cons comment) (Bool.eq_false_iff.1 h)
  · rfl

/-- **What some lines say is said by the comments among them.** -/
theorem ofLines_filter {p : Text → Bool}
    (passes : ∀ line, p line = false → Text.isComment line = false) (lines : List Text) :
    ofLines (lines.filter p) = ofLines lines := by
  unfold ofLines
  congr 1 <;> exact findSome?_filter_of_passes
    (fun line h => valueOf?_of_not_isComment (passes line h) _) lines

end Metadata

/-! ## Sets -/

namespace FilterSet

variable (s : FilterSet) (options : ParseOptions)

/-- A comment leaves a set as it is. -/
theorem offerLine_of_isComment [IdnaService] {line : Text} (h : Text.isComment line = true) :
    s.offerLine options line = s :=
  offerLine_of_error (Filter.ofLine_of_isComment h s.keepsLines options)

/-- A comment is not at fault. -/
theorem isFaulty_of_isComment [IdnaService] {line : Text} (h : Text.isComment line = true) :
    s.isFaulty options line = false := by
  rw [isFaulty, Filter.ofLine_of_isComment h]
  rfl

/-- **Some lines and the same lines without their comments** add the same filters, and the
same ones of them are at fault. -/
theorem addLines_filter_not_isComment [IdnaService] (lines : List Text) :
    s.addLines (lines.filter (!Text.isComment ·)) options = s.addLines lines options := by
  rw [addLines_eq, addLines_eq]
  congr 1
  · exact foldl_filter_of_passes
      (fun s line h => s.offerLine_of_isComment options (by simpa using h)) lines s
  · rw [List.filter_filter]
    refine List.filter_congr fun line _ => ?_
    cases h : Text.isComment line with
    | true => rw [isFaulty_of_isComment s options h]; rfl
    | false => exact Bool.and_true _

/-- **The set after a list** depends on what stands on its lines other than comments. -/
theorem fst_addList [IdnaService] (text : Text) :
    (s.addList text options).1 =
      ((Text.contents (Text.lines text)).filter (!Text.isComment ·)).foldl
        (offerLine options) s := by
  have blank (s : FilterSet) (line : Text) (h : decide (line ≠ []) = false) :
      s.offerLine options line = s := by
    rw [of_not_not (of_decide_eq_false h)]
    exact offerLine_of_error (e := .empty) rfl
  rw [foldl_filter_of_passes
    fun s line h => s.offerLine_of_isComment options (by simpa using h)]
  exact (foldl_filter_of_passes blank _ s).symm

/-- **What a list says about itself** depends on what stands on its comments. -/
theorem snd_addList [IdnaService] (text : Text) :
    (s.addList text options).2 =
      Metadata.ofLines ((Text.contents (Text.lines text)).filter Text.isComment) := by
  rw [Metadata.ofLines_filter fun _ h => h]
  refine (Metadata.ofLines_filter (fun line h => ?_) _).symm
  rw [of_not_not (of_decide_eq_false h)]
  rfl

/-- **A list is read line by line**: a line is trimmed, what it says is taken if it is a
comment, and it is offered to the set. -/
def readLine [IdnaService] (read : FilterSet × Metadata) (line : Text) : FilterSet × Metadata :=
  (read.1.offerLine options (Text.trim line),
    if Text.isComment line then read.2.add (Text.trim line) else read.2)

/-- One more line is read. -/
theorem readLine_eq [IdnaService] (read : FilterSet × Metadata) (line : Text) :
    readLine options read line =
      (read.1.offerLine options (Text.trim line), read.2.add (Text.trim line)) := by
  unfold readLine
  cases h : Text.isComment line with
  | true => rfl
  | false =>
    rw [← Text.isComment_trim] at h
    rw [Metadata.add_eq, Metadata.valueOf?_of_not_isComment h, Metadata.valueOf?_of_not_isComment h,
      Option.or_none, Option.or_none]
    rfl

/-- **Reading some lines** fills the set with them and collects what they say. -/
theorem foldl_readLine [IdnaService] (read : FilterSet × Metadata) (lines : List Text) :
    lines.foldl (readLine options) read =
      ((lines.map Text.trim).foldl (offerLine options) read.1,
        (lines.map Text.trim).foldl Metadata.add read.2) := by
  induction lines generalizing read with
  | nil => rfl
  | cons line lines ih =>
    rw [List.foldl_cons, ih, readLine_eq]
    rfl

/-- **Adding a list is reading it line by line.** -/
theorem foldl_readLine_lines [IdnaService] (text : Text) :
    (Text.lines text).foldl (readLine options) (s, {}) = s.addList text options := by
  rw [foldl_readLine, Metadata.foldl_add]
  rfl

/-- **Taking the comments out of a list changes no filter.** -/
theorem fst_addList_keepLines [IdnaService] (text : Text) :
    (s.addList (Text.keepLines (!Text.isComment ·) text) options).1 =
      (s.addList text options).1 := by
  have trims (line : Text) : (!Text.isComment (Text.trim line)) = !Text.isComment line :=
    congrArg (!·) (Text.isComment_trim line)
  rw [fst_addList, fst_addList, Text.contents_lines_keepLines trims, List.filter_filter]
  simp only [Bool.and_self]

/-- **Taking all other lines out changes nothing of what it says about itself.** -/
theorem snd_addList_keepLines [IdnaService] (text : Text) :
    (s.addList (Text.keepLines Text.isComment text) options).2 = (s.addList text options).2 := by
  rw [snd_addList, snd_addList, Text.contents_lines_keepLines Text.isComment_trim,
    List.filter_filter]
  simp only [Bool.and_self]

/-- **Comments carry what a list says about itself, and nothing else.** In both formats
and whatever they hold, they add no filter to a set and are not returned as faulty, among
any lines. A list is read in one pass, and of what it says under `Title` and under
`Homepage` the first counts. So without its comments a list adds the same filters, and its
comments alone say the same about it. -/
theorem comments_carry_metadata [IdnaService] :
    (∀ line, Text.isComment line = true →
      s.addLine line options = .error .unsupported ∧
        ∀ lines, line ∉ (s.addLines lines options).2) ∧
      (∀ lines, s.addLines (lines.filter (!Text.isComment ·)) options =
        s.addLines lines options) ∧
      ∀ text,
        (Text.lines text).foldl (readLine options) (s, {}) = s.addList text options ∧
        (∀ title, (s.addList text options).2.title? = some title ↔
          Metadata.SaysFirst "Title".toList title (Text.lines text)) ∧
        ((s.addList text options).2.title? = none ↔
          ∀ line ∈ Text.lines text, ∀ title, ¬ Metadata.Says "Title".toList title line) ∧
        (∀ homepage, (s.addList text options).2.homepage? = some homepage ↔
          Metadata.SaysFirst "Homepage".toList homepage (Text.lines text)) ∧
        ((s.addList text options).2.homepage? = none ↔
          ∀ line ∈ Text.lines text, ∀ homepage,
            ¬ Metadata.Says "Homepage".toList homepage line) ∧
        (s.addList (Text.keepLines (!Text.isComment ·) text) options).1 =
          (s.addList text options).1 ∧
        (s.addList (Text.keepLines Text.isComment text) options).2 =
          (s.addList text options).2 := by
  refine ⟨fun line h => ⟨?_, fun lines hmem => ?_⟩, s.addLines_filter_not_isComment options,
    fun text => ⟨s.foldl_readLine_lines options text,
      fun _ => Metadata.findSome?_valueOf?_eq_some, Metadata.findSome?_valueOf?_eq_none,
      fun _ => Metadata.findSome?_valueOf?_eq_some, Metadata.findSome?_valueOf?_eq_none,
      s.fst_addList_keepLines options text, s.snd_addList_keepLines options text⟩⟩
  · rw [addLine, Filter.ofLine_of_isComment h]
    rfl
  · rw [addLines_eq] at hmem
    have faulty : s.isFaulty options line = true := (List.mem_filter.1 hmem).2
    rw [s.isFaulty_of_isComment options h] at faulty
    cases faulty

/-- A title that would be a cosmetic rule, and a second one behind it. -/
theorem comments_carry_metadata_titles :
    Text.isComment " ! Title : a##.b : c".toList = true ∧
      (empty false).addLine " ! Title : a##.b : c".toList ⟨.hosts, .all⟩ = .error .unsupported ∧
      Metadata.SaysFirst "Title".toList "a##.b : c".toList
        (Text.lines " ! Title : a##.b : c\r\nads.com\n!Title:d".toList) ∧
      ((empty false).addList " ! Title : a##.b : c\r\nads.com\n!Title:d".toList
        ⟨.hosts, .all⟩).2.title? = some "a##.b : c".toList :=
  have comment : Text.isComment " ! Title : a##.b : c".toList = true := by decide
  have first : Metadata.SaysFirst "Title".toList "a##.b : c".toList
      (Text.lines " ! Title : a##.b : c\r\nads.com\n!Title:d".toList) :=
    ⟨[], _, _, rfl, ⟨" Title ".toList, " a##.b : c".toList, by decide, by decide, rfl, rfl⟩, nofun⟩
  have holds := comments_carry_metadata (empty false) ⟨.hosts, .all⟩
  ⟨comment, (holds.1 _ comment).1, first, ((holds.2.2 _).2.1 _).2 first⟩

end FilterSet

end ContentFilter
