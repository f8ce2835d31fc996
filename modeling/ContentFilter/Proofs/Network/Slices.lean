import ContentFilter.Network.HostsEntry
import ContentFilter.Proofs.Network.Meaning
import ContentFilter.Proofs.Network.Parts
import ContentFilter.Proofs.Text.Slice

/-!
# Network rules in slices

A network rule is cut into its parts by marks that may touch: `@@|`, `|` and `**`
are whole lines. A reader that cuts a line by places in its bytes has to keep the
places in order, between characters and not behind the end, and has to do so
although some of them are found from the left and some from the right.

This module is such a reader. `NetworkRule.ofSlices?` takes the slices of a line,
`PatternCut.of?` those of a pattern and `HostsEntry.isHostnameOfSlices?` the one of
an entry of a hosts file, each with no value as soon as one of its slices cannot be
taken. For every text they have a value, and it is what the rest of the library
reads (`NetworkFilter.ofSlices?_eq`, `NetworkFilter.ofHostsEntrySlices?_eq`).
-/

namespace ContentFilter

/-- A list ends as its last part does, if there is something in that part. -/
theorem Search.endsWith_append {α : Type} [DecidableEq α] {a : α} {l r : List α} (hr : r ≠ []) :
    endsWith [a] (l ++ r) = endsWith [a] r := by
  rw [Bool.eq_iff_iff, endsWith_iff, endsWith_iff, ← getLast?_eq_some_iff, ← getLast?_eq_some_iff,
    List.getLast?_append_of_ne_nil l hr]

/-! ## Slices of a line -/

/-- The anchor at the start of a text, by what the text starts with. -/
theorem StartAnchor.fst_read (t : Text) :
    (read t).1 =
      if Search.startsWith ['|', '|'] t then hostname
      else if Search.startsWith ['|'] t then url
      else none := by
  unfold read
  split
  · rfl
  · next rest single =>
    have not_double : ¬ Search.startsWith ['|', '|'] ('|' :: rest) = true := by
      rw [Search.startsWith_iff]
      rintro ⟨after, h⟩
      exact single after (List.cons.inj h).2.symm
    rw [if_neg not_double]
    rfl
  · next double single =>
    have not_double : ¬ Search.startsWith ['|', '|'] t = true := by
      rw [Search.startsWith_iff]
      rintro ⟨after, h⟩
      exact double after h.symm
    have not_single : ¬ Search.startsWith ['|'] t = true := by
      rw [Search.startsWith_iff]
      rintro ⟨after, h⟩
      exact single after h.symm
    rw [if_neg not_double, if_neg not_single]

namespace NetworkLine

/-- Whether there is an anchor at the end of what stands between two places. It is
looked for only if something is left for it to stand in. -/
def endsWithAnchor? (line : Text) (start stop : Nat) : Option Bool :=
  if start < stop then (Text.sliceTo? stop line).map (Search.endsWith ['|']) else some false

/-- **The parts of a line between two places**: behind the mark of an exception,
and before the options. -/
def ofSlices? (line : Text) (isException : Bool) (options? : Option Text) (start stop : Nat) :
    Option NetworkLine := do
  let body ← Text.slice? start stop line
  let anchor : StartAnchor :=
    if Search.startsWith ['|', '|'] body then .hostname
    else if Search.startsWith ['|'] body then .url
    else .none
  let start := start + Text.byteLength anchor.toText
  let anchoredEnd ← endsWithAnchor? line start stop
  let pattern ← Text.slice? start (if anchoredEnd then stop - 1 else stop) line
  some ⟨isException, anchor, pattern, anchoredEnd, options?⟩

section End

variable {front after back pattern : Text} {anchoredEnd : Bool}

/-- The anchor at the end is found at the end of all that stands before the
options. -/
theorem endsWithAnchor?_of_readEnd (h : readEnd after = (pattern, anchoredEnd)) :
    endsWithAnchor? (front ++ after ++ back) (Text.byteLength front)
      (Text.byteLength (front ++ after)) = some anchoredEnd := by
  obtain ⟨rfl, unmarked⟩ := readEnd_eq_iff.1 h
  unfold endsWithAnchor?
  by_cases hafter : pattern ++ markToText ['|'] anchoredEnd = []
  · rw [if_neg (mt Text.byteLength_lt_append_iff.1 (not_not_intro hafter))]
    cases anchoredEnd with
    | false => rfl
    | true => simp [markToText] at hafter
  · rw [if_pos (Text.byteLength_lt_append_iff.2 hafter), Text.sliceTo?_append _ _ rfl,
      Option.map_some, Search.endsWith_append hafter, Option.some.injEq, Bool.eq_iff_iff,
      Search.endsWith_iff]
    cases anchoredEnd with
    | false => simpa [markToText] using unmarked rfl
    | true => exact iff_of_true ⟨pattern, rfl⟩ rfl

/-- The pattern is what is left before it. -/
theorem slice?_of_readEnd (h : readEnd after = (pattern, anchoredEnd)) :
    Text.slice? (Text.byteLength front)
        (if anchoredEnd then Text.byteLength (front ++ after) - 1
          else Text.byteLength (front ++ after)) (front ++ after ++ back) = some pattern := by
  obtain ⟨rfl, -⟩ := readEnd_eq_iff.1 h
  refine Text.slice?_eq_some.2 ⟨front, markToText ['|'] anchoredEnd ++ back, by simp, rfl, ?_⟩
  cases anchoredEnd with
  | false => simp [markToText]
  | true =>
    have bar : Text.byteLength ['|'] = 1 := rfl
    rw [if_pos rfl, markToText, if_pos rfl, ← List.append_assoc, Text.byteLength_append _ ['|'],
      bar, Nat.add_sub_cancel]

end End

/-- The slices between two places are what stands between them, cut at its anchors. -/
theorem ofSlices?_eq (front body back : Text) (isException : Bool) (options? : Option Text) :
    ofSlices? (front ++ body ++ back) isException options? (Text.byteLength front)
        (Text.byteLength (front ++ body)) =
      some ⟨isException, (StartAnchor.read body).1, (readEnd (StartAnchor.read body).2).1,
        (readEnd (StartAnchor.read body).2).2, options?⟩ := by
  obtain ⟨⟨anchor, after⟩, hread⟩ : ∃ parts, StartAnchor.read body = parts := ⟨_, rfl⟩
  obtain ⟨⟨pattern, anchoredEnd⟩, hend⟩ : ∃ parts, readEnd after = parts := ⟨_, rfl⟩
  have hbody : Text.slice? (Text.byteLength front) (Text.byteLength (front ++ body))
      (front ++ body ++ back) = some body :=
    Text.slice?_eq_some.2 ⟨front, back, rfl, rfl, rfl⟩
  have hanchor := StartAnchor.fst_read body
  rw [hread] at hanchor ⊢
  unfold ofSlices?
  rw [hbody]
  simp only [Option.bind_eq_bind, Option.bind_some, ← hanchor, hend]
  obtain ⟨rfl, -⟩ := StartAnchor.read_eq_iff.1 hread
  rw [← Text.byteLength_append, ← List.append_assoc, endsWithAnchor?_of_readEnd hend,
    Option.bind_some, slice?_of_readEnd hend, Option.bind_some]

end NetworkLine

namespace NetworkRule

/-- **The rule on a line, in slices.** Options that started before the pattern would
be refused, but none do. -/
def ofSlices? [IdnaService] (line : Text) : Option (Except NetworkError NetworkRule) :=
  let isException := Search.startsWith ['@', '@'] line
  let start := if isException then 2 else 0
  match Text.lastByte? '$' line.utf8 with
  | none =>
    (NetworkLine.ofSlices? line isException none start line.byteLength).map fun l => .ok ⟨l, []⟩
  | some stop =>
    if stop < start then some (.error .notAHostname)
    else do
      let options ← Text.sliceFrom? (stop + 1) line
      match FilterOption.listOfText options with
      | .error e => some (.error e)
      | .ok read =>
        (NetworkLine.ofSlices? line isException (some options) start stop).map fun l =>
          .ok ⟨l, read⟩

section Line

variable {line body options : Text} {isException : Bool}
  (marked : Search.startsWith ['@', '@'] line = isException)
include marked

/-- The place behind the mark of an exception. -/
theorem byteLength_mark :
    (if Search.startsWith ['@', '@'] line then 2 else 0) =
      Text.byteLength (NetworkLine.markToText ['@', '@'] isException) := by
  rw [marked]
  cases isException <;> rfl

/-- The slices of a line without options. -/
theorem ofSlices?_of_notMem [IdnaService]
    (hline : line = NetworkLine.markToText ['@', '@'] isException ++ body) (lacks : '$' ∉ line) :
    ofSlices? line = some (.ok ⟨⟨isException, (StartAnchor.read body).1,
      (NetworkLine.readEnd (StartAnchor.read body).2).1,
      (NetworkLine.readEnd (StartAnchor.read body).2).2, none⟩, []⟩) := by
  have cut := NetworkLine.ofSlices?_eq (NetworkLine.markToText ['@', '@'] isException) body []
    isException none
  rw [List.append_nil, ← hline] at cut
  unfold ofSlices?
  dsimp only
  rw [byteLength_mark marked, marked, Text.lastByte?_utf8 rfl, Search.splitLast?_eq_none.2 lacks]
  show Option.map _ (NetworkLine.ofSlices? line _ _ _ _) = _
  rw [cut]
  rfl

/-- The slices of a line with options. -/
theorem ofSlices?_of_options [IdnaService]
    (hline : line = NetworkLine.markToText ['@', '@'] isException ++ body ++ '$' :: options)
    (last : '$' ∉ options) :
    ofSlices? line = some ((FilterOption.listOfText options).map fun read =>
      ⟨⟨isException, (StartAnchor.read body).1,
        (NetworkLine.readEnd (StartAnchor.read body).2).1,
        (NetworkLine.readEnd (StartAnchor.read body).2).2, some options⟩, read⟩) := by
  have cut := NetworkLine.ofSlices?_eq (NetworkLine.markToText ['@', '@'] isException) body
    ('$' :: options) isException (some options)
  rw [← hline] at cut
  have start := byteLength_mark marked
  unfold ofSlices?
  dsimp only
  rw [start, marked, Text.lastByte?_utf8 rfl]
  generalize NetworkLine.markToText ['@', '@'] isException = mark at hline cut ⊢
  have hslice : Text.sliceFrom? (Text.byteLength (mark ++ body) + 1) line = some options := by
    have place : Text.byteLength (mark ++ body ++ ['$']) = Text.byteLength (mark ++ body) + 1 :=
      Text.byteLength_append _ ['$']
    have behind := Text.sliceFrom?_append _ options place
    rwa [List.append_assoc, List.singleton_append, ← hline] at behind
  have ordered : ¬ Text.byteLength (mark ++ body) < Text.byteLength mark := by
    rw [Text.byteLength_append]
    omega
  rw [Search.splitLast?_eq_some.2 ⟨hline, last⟩]
  show (if Text.byteLength (mark ++ body) < Text.byteLength mark then _ else _) = _
  rw [if_neg ordered, hslice, Option.bind_eq_bind, Option.bind_some]
  cases FilterOption.listOfText options with
  | error e => rfl
  | ok read =>
    show Option.map _ (NetworkLine.ofSlices? line _ _ _ _) = _
    rw [cut]
    rfl

end Line

/-- **The slices of a line can all be taken, and give its rule.** -/
theorem ofSlices?_eq [IdnaService] (line : Text) : ofSlices? line = some (ofText line) := by
  obtain ⟨⟨isException, rest⟩, hexception⟩ :
    ∃ parts, NetworkLine.readException line = parts := ⟨_, rfl⟩
  obtain ⟨⟨body, options?⟩, hoptions⟩ : ∃ parts, NetworkLine.readOptions rest = parts := ⟨_, rfl⟩
  have parts : NetworkLine.ofText line = ⟨isException, (StartAnchor.read body).1,
      (NetworkLine.readEnd (StartAnchor.read body).2).1,
      (NetworkLine.readEnd (StartAnchor.read body).2).2, options?⟩ := by
    simp only [NetworkLine.ofText, hexception, hoptions]
  obtain ⟨hline, unmarked⟩ := NetworkLine.readException_eq_iff.1 hexception
  obtain ⟨rfl, last, lacks⟩ := NetworkLine.readOptions_eq_iff.1 hoptions
  have marked : Search.startsWith ['@', '@'] line = isException := by
    rw [Bool.eq_iff_iff, Search.startsWith_iff]
    cases isException with
    | false => exact iff_of_false (unmarked rfl) Bool.false_ne_true
    | true => exact iff_of_true ⟨_, hline.symm⟩ rfl
  unfold ofText
  dsimp only
  rw [parts]
  cases options? with
  | none =>
    have markFree : '$' ∉ NetworkLine.markToText ['@', '@'] isException := by
      cases isException <;> decide
    refine ofSlices?_of_notMem marked (hline.trans (congrArg _ (List.append_nil body))) ?_
    rw [hline, List.mem_append, not_or]
    exact ⟨markFree, lacks rfl⟩
  | some options =>
    exact ofSlices?_of_options marked (hline.trans (List.append_assoc ..).symm) (last options rfl)

end NetworkRule

/-! ## Slices of a pattern -/

/-- **A byte of a character of hostnames**: one of ASCII, or any byte beyond. -/
def NetworkRule.isHostnameByte (b : UInt8) : Bool :=
  0x80 ≤ b || isHostnameChar (Char.ofNat b.toNat)

/-- **A pattern in slices.** -/
structure PatternCut where
  /-- The hostname in front. -/
  hostname : Text
  /-- Whether wildcards at the end are dropped. -/
  dropsEnd : Bool
  /-- Whether a wildcard at the start is dropped. -/
  dropsStart : Bool
  /-- What is kept of what follows the hostname. -/
  kept : Text
  deriving DecidableEq, Repr

namespace PatternCut

/-- **Where the wildcards start** that stand right before a place, if they are
looked for down to `start` only. Each of them is one byte. -/
def beforeWildcards? (bs : List UInt8) (start : Nat) : Nat → Option Nat
  | 0 => some 0
  | n + 1 =>
    if start < n + 1 then do
      let b ← bs[n]?
      if b = '*'.val.toUInt8 then beforeWildcards? bs start n else some (n + 1)
    else some (n + 1)

/-- Where a pattern ends once wildcards at its end are dropped. -/
def stop? (pattern : Text) (start : Nat) (dropsEnd : Bool) : Option Nat :=
  if dropsEnd then beforeWildcards? pattern.utf8 start pattern.byteLength
  else some pattern.byteLength

/-- Whether a wildcard at the start of a pattern is dropped; none is behind a
hostname. -/
def dropsStart? (hasHostname : Bool) (pattern : Text) (start stop : Nat) : Option Bool :=
  if start < stop && !hasHostname then do
    let rest ← Text.sliceFrom? start pattern
    if Search.startsWith ['*'] rest then
      (Text.slice? (start + 1) stop pattern).map Pattern.isPlain
    else some false
  else some false

/-- **A pattern, cut at places**, with a hostname in front or not. -/
def of? (hasHostname : Bool) (pattern : Text) : Option PatternCut := do
  let start :=
    if hasHostname then pattern.utf8.findIdx fun b => !NetworkRule.isHostnameByte b else 0
  let hostname ← Text.sliceTo? start pattern
  let dropsEnd := start < pattern.byteLength && Search.endsWith ['*'] pattern
  let stop ← stop? pattern start dropsEnd
  let dropsStart ← dropsStart? hasHostname pattern start stop
  let kept ← Text.slice? (if dropsStart then start + 1 else start) stop pattern
  some ⟨hostname, dropsEnd, dropsStart, kept⟩

end PatternCut

namespace NetworkRule

/-- **The bytes of a character of hostnames** are those bytes, and no other character
has one of them. -/
theorem isHostnameByte_of_mem {c : Char} {b : UInt8} (hb : b ∈ String.utf8EncodeChar c) :
    isHostnameByte b = isHostnameChar c := by
  unfold isHostnameByte
  rcases Text.char_of_mem_utf8EncodeChar hb with ⟨hlt, rfl⟩ | ⟨hle, notAscii⟩
  · rw [decide_eq_false (UInt8.not_le.2 hlt), Bool.false_or]
  · have beyond : isHostnameChar c = true := by
      rw [isHostnameChar, notAscii]
      exact Bool.or_true _
    rw [decide_eq_true hle, beyond, Bool.true_or]

end NetworkRule

namespace PatternCut

/-- Going back over wildcards ends where they start. -/
theorem beforeWildcards?_eq (front : List UInt8) {kept : List UInt8}
    (h : kept.getLast? ≠ some '*'.val.toUInt8) (n : Nat) (back : List UInt8) :
    beforeWildcards? (front ++ kept ++ List.replicate n '*'.val.toUInt8 ++ back) front.length
        ((front ++ kept).length + n) = some (front ++ kept).length := by
  induction n generalizing back with
  | zero =>
    rcases List.eq_nil_or_concat kept with rfl | ⟨l, b, rfl⟩
    · rw [List.append_nil, Nat.add_zero]
      cases front.length with
      | zero => rfl
      | succ n => exact if_neg (Nat.lt_irrefl _)
    · rw [List.concat_eq_append, List.getLast?_concat] at h
      have hlen : (front ++ l.concat b).length = (front ++ l).length + 1 := by simp [Nat.add_assoc]
      have hle : front.length ≤ (front ++ l).length := by
        rw [List.length_append]
        exact Nat.le_add_right ..
      have hbyte : (front ++ l.concat b ++ List.replicate 0 '*'.val.toUInt8 ++
          back)[(front ++ l).length]? = some b := by simp
      rw [Nat.add_zero, hlen, beforeWildcards?, if_pos (Nat.lt_succ_of_le hle), hbyte]
      exact if_neg fun hb => h (congrArg some hb)
  | succ n ih =>
    have row : front ++ kept ++ List.replicate (n + 1) '*'.val.toUInt8 ++ back =
        front ++ kept ++ List.replicate n '*'.val.toUInt8 ++ '*'.val.toUInt8 :: back := by
      rw [List.replicate_succ']
      simp
    have hlen : (front ++ kept ++ List.replicate n '*'.val.toUInt8).length =
        (front ++ kept).length + n := by
      rw [List.length_append, List.length_replicate]
    have hbyte : (front ++ kept ++ List.replicate n '*'.val.toUInt8 ++
        '*'.val.toUInt8 :: back)[(front ++ kept).length + n]? = some '*'.val.toUInt8 := by
      rw [← hlen, List.getElem?_append_right (Nat.le_refl _), Nat.sub_self]
      rfl
    rw [row, ← Nat.add_assoc, beforeWildcards?, if_pos (by rw [List.length_append]; omega), hbyte,
      Option.bind_eq_bind, Option.bind_some, if_pos rfl]
    exact ih _

/-- The last byte of a text is no wildcard if its last character is none. -/
theorem getLast?_utf8_ne {t : Text} (h : t.getLast? ≠ some '*') :
    t.utf8.getLast? ≠ some '*'.val.toUInt8 := by
  rcases List.eq_nil_or_concat t with rfl | ⟨l, c, rfl⟩
  · exact nofun
  · rw [List.concat_eq_append] at h ⊢
    intro hbyte
    have hne : Text.utf8 [c] ≠ [] := by
      rw [ne_eq, ← List.length_eq_zero_iff, Text.length_utf8]
      exact Nat.ne_of_gt c.utf8Size_pos
    rw [Text.utf8_append, List.getLast?_append_of_ne_nil _ hne] at hbyte
    have hmem := (Text.toUInt8_mem_utf8 rfl).1 (List.mem_of_getLast? hbyte)
    rw [List.getLast?_concat, List.mem_singleton.1 hmem] at h
    exact h rfl

/-- The wildcards at the end are dropped, down to the hostname. -/
theorem stop?_eq (hostname : Text) {kept : Text} (h : kept.getLast? ≠ some '*') (n : Nat) :
    stop? (hostname ++ (kept ++ List.replicate n '*')) (Text.byteLength hostname) (n != 0) =
      some (Text.byteLength (hostname ++ kept)) := by
  have stars (n : Nat) : Text.utf8 (List.replicate n '*') = List.replicate n '*'.val.toUInt8 :=
    Pattern.utf8_wildcards n
  unfold stop?
  cases n with
  | zero => simp
  | succ n =>
    have back := beforeWildcards?_eq hostname.utf8 (getLast?_utf8_ne h) (n + 1) []
    rw [List.append_nil, ← Text.utf8_append, ← stars, ← Text.utf8_append, Text.length_utf8,
      Text.length_utf8] at back
    have place : Text.byteLength (hostname ++ (kept ++ List.replicate (n + 1) '*')) =
        Text.byteLength (hostname ++ kept) + (n + 1) := by
      rw [← List.append_assoc, Text.byteLength_append, ← Text.length_utf8 (List.replicate _ _),
        stars, List.length_replicate]
    rw [if_pos (bne_iff_ne.2 (Nat.succ_ne_zero n)), place, ← List.append_assoc]
    exact back

/-- A wildcard at the start is dropped if what follows it is plain. -/
theorem dropsStart?_eq (kept back : Text) :
    dropsStart? false (kept ++ back) 0 (Text.byteLength kept) =
      some (kept.head? = some '*' && Pattern.isPlain kept.tail) := by
  unfold dropsStart?
  cases kept with
  | nil => rfl
  | cons c kept =>
    have hpos : 0 < Text.byteLength (c :: kept) := Nat.add_pos_left c.utf8Size_pos _
    have whole : Text.sliceFrom? 0 (c :: kept ++ back) = some (c :: kept ++ back) :=
      Text.sliceFrom?_append [] _ rfl
    rw [if_pos (by simp [hpos]), whole, Option.bind_eq_bind, Option.bind_some]
    by_cases hc : c = '*'
    · subst hc
      have hslice : Text.slice? (0 + 1) (Text.byteLength ('*' :: kept)) ('*' :: kept ++ back) =
          some kept :=
        Text.slice?_eq_some.2 ⟨['*'], back, rfl, rfl, rfl⟩
      have starred : Search.startsWith ['*'] ('*' :: kept ++ back) = true :=
        Search.startsWith_iff.2 ⟨kept ++ back, rfl⟩
      rw [if_pos starred, hslice]
      rfl
    · have unstarred : ¬ Search.startsWith ['*'] (c :: kept ++ back) = true := by
        rw [Search.startsWith_iff]
        rintro ⟨rest, h⟩
        exact hc (List.cons.inj h).1.symm
      rw [if_neg unstarred]
      simp [hc]

section Rule

variable (rule : NetworkRule)

/-- The first place is the one behind the hostname. -/
theorem start_eq :
    (if (rule.line.start = .hostname : Bool) then
        rule.line.pattern.utf8.findIdx fun b => !NetworkRule.isHostnameByte b
      else 0) = Text.byteLength rule.hostname := by
  unfold NetworkRule.hostname
  cases rule.line.start with
  | hostname => exact Text.findIdx_utf8 (fun _ _ => NetworkRule.isHostnameByte_of_mem) _
  | none | url => rfl

/-- Wildcards are dropped at the end if the pattern ends with one behind the hostname. -/
theorem dropsEnd_eq :
    (Text.byteLength rule.hostname < rule.line.pattern.byteLength &&
      Search.endsWith ['*'] rule.line.pattern) = rule.dropsEnd := by
  rw [← NetworkRule.hostname_append_body, NetworkRule.dropsEnd]
  by_cases hnil : rule.body = []
  · simp [hnil]
  · rw [Search.endsWith_append hnil, decide_eq_true (Text.byteLength_lt_append_iff.2 hnil),
      Bool.true_and, Bool.eq_iff_iff, Search.endsWith_iff, decide_eq_true_eq,
      Search.getLast?_eq_some_iff]

/-- The second place is the one behind what is left then. -/
theorem stop?_of_rule :
    stop? rule.line.pattern (Text.byteLength rule.hostname) rule.dropsEnd =
      some (Text.byteLength (rule.hostname ++ rule.endDropped)) := by
  obtain ⟨n, hbody, hn⟩ := rule.exists_wildcards
  have last : rule.endDropped.getLast? ≠ some '*' := fun h =>
    absurd (Search.getLast?_dropEndWhile h) (by decide)
  have cut := stop?_eq rule.hostname last n
  rwa [bne, hn, Bool.not_not, ← hbody, NetworkRule.hostname_append_body] at cut

/-- The same wildcard is dropped at the start. -/
theorem dropsStart?_of_rule :
    dropsStart? (rule.line.start = .hostname) rule.line.pattern (Text.byteLength rule.hostname)
        (Text.byteLength (rule.hostname ++ rule.endDropped)) = some rule.dropsStart := by
  obtain ⟨n, hbody, -⟩ := rule.exists_wildcards
  unfold NetworkRule.dropsStart
  cases hs : rule.line.start with
  | hostname => exact if_neg (by simp)
  | none | url =>
    have hnil : rule.hostname = [] := NetworkRule.hostname_of_start_ne (by rw [hs]; decide)
    rw [← NetworkRule.hostname_append_body, hnil, hbody, List.nil_append, List.nil_append]
    exact dropsStart?_eq rule.endDropped _

/-- The same part of the pattern is kept. -/
theorem slice?_of_rule :
    Text.slice?
        (if rule.dropsStart then Text.byteLength rule.hostname + 1
          else Text.byteLength rule.hostname)
        (Text.byteLength (rule.hostname ++ rule.endDropped)) rule.line.pattern =
      some rule.bothDropped := by
  obtain ⟨n, hbody, -⟩ := rule.exists_wildcards
  unfold NetworkRule.bothDropped
  rw [Text.slice?_eq_some, ← NetworkRule.hostname_append_body, hbody]
  cases hd : rule.dropsStart with
  | false => exact ⟨rule.hostname, List.replicate n '*', by simp, rfl, rfl⟩
  | true =>
    obtain ⟨-, hhead, -⟩ := NetworkRule.dropsStart_eq_true_iff.1 hd
    obtain ⟨kept, hcons⟩ := List.head?_eq_some_iff.1 hhead
    rw [hcons]
    exact ⟨rule.hostname ++ ['*'], List.replicate n '*', by simp, Text.byteLength_append _ ['*'],
      by simp⟩

/-- **The slices of the pattern of a rule can all be taken, and give its hostname
and what is kept of it.** -/
theorem of?_eq :
    of? (rule.line.start = .hostname) rule.line.pattern =
      some ⟨rule.hostname, rule.dropsEnd, rule.dropsStart, rule.bothDropped⟩ := by
  have front : Text.sliceTo? (Text.byteLength rule.hostname) rule.line.pattern =
      some rule.hostname := by
    rw [← NetworkRule.hostname_append_body]
    exact Text.sliceTo?_append _ _ rfl
  unfold of?
  simp only [Option.bind_eq_bind, start_eq, front, Option.bind_some, dropsEnd_eq, stop?_of_rule,
    dropsStart?_of_rule, slice?_of_rule]

end Rule

end PatternCut

/-! ## Filters from slices -/

namespace NetworkRule

variable (rule : NetworkRule) (cut : PatternCut)

/-- Whether a flag holds for a rule whose pattern was cut. -/
def holdsOfCut : Flag → Bool
  | .regex => !Pattern.isPlain cut.kept
  | .leftAnchor => rule.line.start = .url && !cut.dropsStart
  | .rightAnchor => rule.line.anchoredEnd && !cut.dropsEnd
  | f => rule.holds f

/-- **The filter of a rule whose pattern was cut.** -/
def toFilterOfCut [IdnaService] (rawLine? : Option Text) : Except NetworkError NetworkFilter :=
  match Hostname.normalize? cut.hostname with
  | none => .error .hostnameNotAscii
  | some hostname =>
    .ok (.make (.of (rule.holdsOfCut cut)) (Text.lowerUnless rule.matchesCase cut.kept) hostname
      (SortedList.ofList (FilterOption.domains false rule.options))
      (SortedList.ofList (FilterOption.domains true rule.options))
      (FilterOption.redirection rule.options) rawLine?)

/-- Nothing else of a pattern is needed for the filter. -/
theorem toFilterOfCut_eq [IdnaService] (rawLine? : Option Text) :
    rule.toFilterOfCut ⟨rule.hostname, rule.dropsEnd, rule.dropsStart, rule.bothDropped⟩ rawLine? =
      rule.toFilter rawLine? := by
  have flags : rule.holdsOfCut
      ⟨rule.hostname, rule.dropsEnd, rule.dropsStart, rule.bothDropped⟩ = rule.holds := by
    funext f
    cases f <;> rfl
  unfold toFilterOfCut
  rw [flags, toFilter_eq]
  rfl

end NetworkRule

namespace NetworkFilter

/-- **The network filter of a line, in slices.** -/
def ofSlices? [IdnaService] (line : Text) (keepsLine : Bool) :
    Option (Except NetworkError NetworkFilter) := do
  match ← NetworkRule.ofSlices? line with
  | .error e => some (.error e)
  | .ok rule =>
    let cut ← PatternCut.of? (rule.line.start = .hostname) rule.line.pattern
    some (rule.toFilterOfCut cut (if keepsLine then some line else none))

/-- **The slices of a network rule can all be taken, and give its filter.** -/
theorem ofSlices?_eq [IdnaService] (line : Text) (keepsLine : Bool) :
    ofSlices? line keepsLine = some (ofLine line keepsLine) := by
  unfold ofSlices? ofLine
  rw [NetworkRule.ofSlices?_eq, Option.bind_eq_bind, Option.bind_some]
  cases NetworkRule.ofText line with
  | error e => rfl
  | ok rule =>
    dsimp only
    rw [PatternCut.of?_eq, Option.bind_eq_bind, Option.bind_some, NetworkRule.toFilterOfCut_eq]

end NetworkFilter

/-! ## Slices of an entry of a hosts file -/

/-- **An entry that names a hostname to block, in slices.** What follows a dot at
the start is looked at only if there is one. -/
def HostsEntry.isHostnameOfSlices? (t : Text) : Option Bool :=
  if t = [] || t.any isRefused || !t.contains '.' then some false
  else
    (if Search.startsWith ['.'] t then (Text.sliceFrom? 1 t).map (·.contains '.')
      else some true).map fun isDotted => isDotted && t.getLast? ≠ some '.'

/-- The slice of an entry can be taken. -/
theorem HostsEntry.isHostnameOfSlices?_eq (t : Text) :
    isHostnameOfSlices? t = some (isHostname t) := by
  unfold isHostnameOfSlices? isHostname
  cases t with
  | nil => rfl
  | cons c t =>
    have hslice : Text.sliceFrom? 1 ('.' :: t) = some t :=
      Text.sliceFrom?_append ['.'] t rfl
    by_cases hc : c = '.'
    · subst hc
      have dotted : Search.startsWith ['.'] ('.' :: t) = true :=
        Search.startsWith_iff.2 ⟨t, rfl⟩
      rw [if_pos dotted, hslice]
      cases List.any ('.' :: t) isRefused <;> simp
    · have undotted : ¬ Search.startsWith ['.'] (c :: t) = true := by
        rw [Search.startsWith_iff]
        rintro ⟨rest, h⟩
        exact hc (List.cons.inj h).1.symm
      rw [if_neg undotted]
      cases List.any (c :: t) isRefused <;> cases hdot : List.contains (c :: t) '.' <;>
        simp [hc]

namespace NetworkFilter

/-- **The network filter of an entry of a hosts file, in slices.** -/
def ofHostsEntrySlices? [IdnaService] (entry : Text) (keepsLine : Bool) :
    Option (Except NetworkError NetworkFilter) :=
  (HostsEntry.isHostnameOfSlices? entry).map fun isHostname =>
    if isHostname then
      match Hostname.normalize? (entry.dropWhile (· == '.')) with
      | none => .error .hostnameNotAscii
      | some hostname =>
        .ok (.make (.of HostsEntry.holds) [] hostname [] [] []
          (if keepsLine then some hostname else none))
    else .error .notAHostname

/-- **The slices of an entry can be taken, and give its filter.** -/
theorem ofHostsEntrySlices?_eq [IdnaService] (entry : Text) (keepsLine : Bool) :
    ofHostsEntrySlices? entry keepsLine = some (ofHostsEntry entry keepsLine) := by
  unfold ofHostsEntrySlices?
  rw [HostsEntry.isHostnameOfSlices?_eq]
  rfl

end NetworkFilter

end ContentFilter
