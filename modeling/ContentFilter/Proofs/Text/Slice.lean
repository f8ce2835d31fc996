import ContentFilter.Proofs.Search.Mark
import ContentFilter.Proofs.Search.Occurrence
import ContentFilter.Proofs.Text.Encoding

/-!
# Slices of a text

A reader that keeps a text as its bytes takes parts of it between two places, and
counts the places in bytes. Such a slice can go wrong in three ways: its places may
be out of order, lie behind the end, or fall inside a character.
`Text.slice?` has no value then, and only then (`Text.slice?_isSome_iff`). Bytes
have slices as well (`Bytes.dropTo?`, `Bytes.takeTo?`), which can only go
wrong behind the end.

The places come from searches for single bytes. As these are bytes of ASCII
characters, they are found at the characters and nowhere else
(`Text.firstByte?_utf8`, `Text.lastByte?_utf8`), so what is cut off there is a text
again. A search that goes on behind each `#` it finds, until one of them is a mark,
is a scan of the characters (`Text.scanFrom?_eq`).
-/

namespace ContentFilter

/-! ## Slices of bytes -/

namespace Bytes

/-- **The bytes from a place on.** -/
def dropTo? (n : Nat) (bs : List UInt8) : Option (List UInt8) :=
  if n ≤ bs.length then some (bs.drop n) else none

/-- **The bytes up to a place.** -/
def takeTo? (n : Nat) (bs : List UInt8) : Option (List UInt8) :=
  if n ≤ bs.length then some (bs.take n) else none

/-- What is left behind a first part. -/
theorem dropTo?_append (l r : List UInt8) : dropTo? l.length (l ++ r) = some r := by
  rw [dropTo?, if_pos (by simp), List.drop_left]

/-- The first part. -/
theorem takeTo?_append (l r : List UInt8) : takeTo? l.length (l ++ r) = some l := by
  rw [takeTo?, if_pos (by simp), List.take_left]

end Bytes

namespace Text

/-! ## Slices of a text -/

/-- **The part of a text between two places.** -/
def slice? (start stop : Nat) (t : Text) : Option Text :=
  if start ≤ stop then do
    let (_, rest) ← cutBytes? start t
    let (part, _) ← cutBytes? (stop - start) rest
    some part
  else none

/-- **The part of a text from a place on.** -/
def sliceFrom? (start : Nat) (t : Text) : Option Text :=
  slice? start (byteLength t) t

/-- **The part of a text up to a place.** -/
def sliceTo? (stop : Nat) (t : Text) : Option Text :=
  slice? 0 stop t

/-- **A slice is what stands between its places.** -/
theorem slice?_eq_some {start stop : Nat} {t part : Text} :
    slice? start stop t = some part ↔
      ∃ before after, t = before ++ part ++ after ∧ byteLength before = start ∧
        byteLength (before ++ part) = stop := by
  unfold slice?
  constructor
  · intro h
    split at h
    · next hle =>
      obtain ⟨⟨before, rest⟩, hcut, h⟩ := Option.bind_eq_some_iff.1 h
      obtain ⟨⟨middle, after⟩, hcut', h⟩ := Option.bind_eq_some_iff.1 h
      cases h
      obtain ⟨rfl, hstart⟩ := cutBytes?_eq_some.1 hcut
      obtain ⟨rfl, hstop⟩ := cutBytes?_eq_some.1 hcut'
      refine ⟨before, after, (List.append_assoc ..).symm, hstart, ?_⟩
      rw [byteLength_append, hstart, hstop]
      omega
    · cases h
  · rintro ⟨before, after, rfl, rfl, rfl⟩
    have hcut : cutBytes? (byteLength before) (before ++ part ++ after) =
        some (before, part ++ after) :=
      cutBytes?_eq_some.2 ⟨List.append_assoc .., rfl⟩
    have hcut' : cutBytes? (byteLength (before ++ part) - byteLength before) (part ++ after) =
        some (part, after) :=
      cutBytes?_eq_some.2 ⟨rfl, by rw [byteLength_append]; omega⟩
    rw [if_pos (by rw [byteLength_append]; omega), hcut]
    show (cutBytes? _ (part ++ after)).bind _ = _
    rw [hcut']
    rfl

/-- A slice up to the end. -/
theorem sliceFrom?_append {start : Nat} (before rest : Text) (h : byteLength before = start) :
    sliceFrom? start (before ++ rest) = some rest :=
  slice?_eq_some.2 ⟨before, [], (List.append_nil _).symm, h, rfl⟩

/-- A slice from the start. -/
theorem sliceTo?_append {stop : Nat} (front after : Text) (h : byteLength front = stop) :
    sliceTo? stop (front ++ after) = some front :=
  slice?_eq_some.2 ⟨[], after, rfl, rfl, h⟩

/-- Of two places of a text, the one behind no more bytes is behind a start of what
stands before the other. -/
theorem prefix_of_byteLength_le {l r l' r' : Text} (h : l ++ r = l' ++ r')
    (hle : byteLength l ≤ byteLength l') : l <+: l' := by
  rcases List.append_eq_append_iff.1 h with ⟨m, hm, -⟩ | ⟨m, rfl, -⟩
  · exact ⟨m, hm.symm⟩
  · -- the first part cannot be the longer one, as characters take bytes
    cases m with
    | nil => exact ⟨[], by simp⟩
    | cons c m =>
      have hpos := c.utf8Size_pos
      rw [byteLength_append] at hle
      simp only [byteLength] at hle
      omega

/-- **A slice can be taken exactly if its places are in order, not behind the end,
and between characters.** -/
theorem slice?_isSome_iff {start stop : Nat} {t : Text} :
    (slice? start stop t).isSome = true ↔
      start ≤ stop ∧ stop ≤ byteLength t ∧ IsBoundary t start ∧ IsBoundary t stop := by
  rw [Option.isSome_iff_exists]
  constructor
  · rintro ⟨part, h⟩
    obtain ⟨before, after, rfl, rfl, rfl⟩ := slice?_eq_some.1 h
    refine ⟨?_, ?_, ⟨before, part ++ after, List.append_assoc .., rfl⟩,
      ⟨before ++ part, after, rfl, rfl⟩⟩ <;>
    · simp only [byteLength_append]
      omega
  · rintro ⟨hle, -, ⟨before, rest, rfl, rfl⟩, ⟨front, after, hcut, rfl⟩⟩
    obtain ⟨part, rfl⟩ := prefix_of_byteLength_le hcut hle
    exact ⟨part, slice?_eq_some.2 ⟨before, after, hcut, rfl, rfl⟩⟩

/-- No place between characters is behind the end. -/
theorem IsBoundary.le {t : Text} {n : Nat} (h : IsBoundary t n) : n ≤ byteLength t := by
  obtain ⟨l, r, rfl, rfl⟩ := h
  rw [byteLength_append]
  omega

/-- **A place is before another one** if something stands between them. -/
theorem byteLength_lt_append_iff {l r : Text} : byteLength l < byteLength (l ++ r) ↔ r ≠ [] := by
  rw [byteLength_append]
  cases r with
  | nil => simp [byteLength]
  | cons c r =>
    have hpos := c.utf8Size_pos
    simp only [byteLength, ne_eq, reduceCtorEq, not_false_eq_true, iff_true]
    omega

/-! ## Searches for bytes -/

/-- **The place of the first byte of an ASCII character.** -/
def firstByte? (c : Char) (bs : List UInt8) : Option Nat :=
  (Search.splitFirst? c.val.toUInt8 bs).map fun (before, _) => before.length

/-- **The place of the last one.** -/
def lastByte? (c : Char) (bs : List UInt8) : Option Nat :=
  (Search.splitLast? c.val.toUInt8 bs).map fun (before, _) => before.length

section Searches

variable {c : Char} (hc : isAsciiChar c = true) (t : Text)
include hc

/-- **The first byte is found at the first character.** -/
theorem firstByte?_utf8 :
    firstByte? c (utf8 t) =
      (Search.splitFirst? c t).map fun (before, _) => byteLength before := by
  unfold firstByte?
  cases h : Search.splitFirst? c t with
  | none =>
    have lacks := mt (toUInt8_mem_utf8 hc).1 (Search.splitFirst?_eq_none.1 h)
    rw [Search.splitFirst?_eq_none.2 lacks]
    rfl
  | some parts =>
    obtain ⟨before, after⟩ := parts
    obtain ⟨rfl, lacks⟩ := Search.splitFirst?_eq_some.1 h
    have found : Search.splitFirst? c.val.toUInt8 (utf8 (before ++ c :: after)) =
        some (utf8 before, utf8 after) :=
      Search.splitFirst?_eq_some.2 ⟨by simp [utf8EncodeChar_of_isAsciiChar hc],
        mt (toUInt8_mem_utf8 hc).1 lacks⟩
    rw [found]
    exact congrArg some (length_utf8 before)

/-- **The last byte is found at the last character.** -/
theorem lastByte?_utf8 :
    lastByte? c (utf8 t) =
      (Search.splitLast? c t).map fun (before, _) => byteLength before := by
  unfold lastByte?
  cases h : Search.splitLast? c t with
  | none =>
    have lacks := mt (toUInt8_mem_utf8 hc).1 (Search.splitLast?_eq_none.1 h)
    rw [Search.splitLast?_eq_none.2 lacks]
    rfl
  | some parts =>
    obtain ⟨before, after⟩ := parts
    obtain ⟨rfl, lacks⟩ := Search.splitLast?_eq_some.1 h
    have found : Search.splitLast? c.val.toUInt8 (utf8 (before ++ c :: after)) =
        some (utf8 before, utf8 after) :=
      Search.splitLast?_eq_some.2 ⟨by simp [utf8EncodeChar_of_isAsciiChar hc],
        mt (toUInt8_mem_utf8 hc).1 lacks⟩
    rw [found]
    exact congrArg some (length_utf8 before)

end Searches

/-! ## Searches for marks -/

section Scan

variable {β γ : Type}

/-- **The first `#` from a place on that is a mark**, and what it marks: what
follows a `#` is looked at, and the search goes on behind it if that is nothing. -/
def scanFrom? (look : Nat → Option (Option γ)) (bs : List UInt8) (start : Nat) :
    Option (Option (Nat × γ)) :=
  match _hrest : Bytes.dropTo? start bs with
  | none => none
  | some rest =>
    match _hfound : firstByte? '#' rest with
    | none => some none
    | some n =>
      match look (start + n) with
      | none => none
      | some (some mark) => some (some (start + n, mark))
      | some none => scanFrom? look bs (start + n + 1)
termination_by bs.length - start
decreasing_by
  obtain ⟨⟨before, after⟩, hsplit, -⟩ := Option.map_eq_some_iff.1 _hfound
  obtain ⟨hcut, -⟩ := Search.splitFirst?_eq_some.1 hsplit
  unfold Bytes.dropTo? at _hrest
  split at _hrest
  · cases _hrest
    have hlen := congrArg List.length hcut
    simp only [List.length_drop, List.length_append, List.length_cons] at hlen
    omega
  · cases _hrest

variable {look : Nat → Option (Option γ)}

/-- The rest of the bytes from a place between characters. -/
theorem dropTo?_utf8 (before rest : Text) :
    Bytes.dropTo? (byteLength before) (utf8 (before ++ rest)) = some (utf8 rest) := by
  rw [utf8_append, ← length_utf8]
  exact Bytes.dropTo?_append _ _

/-- The search finds nothing where no `#` follows. -/
theorem scanFrom?_of_notMem {before rest : Text} (lacks : '#' ∉ rest) :
    scanFrom? look (utf8 (before ++ rest)) (byteLength before) = some none := by
  have nothing : firstByte? '#' (utf8 rest) = none := by
    rw [firstByte?_utf8 rfl, Search.splitFirst?_eq_none.2 lacks]
    rfl
  rw [scanFrom?]
  split
  · next h =>
    rw [dropTo?_utf8] at h
    cases h
  · next bs h =>
    rw [dropTo?_utf8] at h
    cases h
    split
    · rfl
    · next m hfound =>
      rw [nothing] at hfound
      cases hfound

/-- **The search looks at the first `#` that follows**, and goes on behind it if that
is no mark. -/
theorem scanFrom?_step {before between after : Text} (lacks : '#' ∉ between) :
    scanFrom? look (utf8 (before ++ (between ++ '#' :: after))) (byteLength before) =
      (look (byteLength (before ++ between))).bind fun found? =>
        match found? with
        | some mark => some (some (byteLength (before ++ between), mark))
        | none => scanFrom? look (utf8 (before ++ (between ++ '#' :: after)))
            (byteLength (before ++ between ++ ['#'])) := by
  have first : firstByte? '#' (utf8 (between ++ '#' :: after)) = some (byteLength between) := by
    rw [firstByte?_utf8 rfl, Search.splitFirst?_eq_some.2 ⟨rfl, lacks⟩]
    rfl
  rw [scanFrom?]
  split
  · next h =>
    rw [dropTo?_utf8] at h
    cases h
  · next bs h =>
    rw [dropTo?_utf8] at h
    cases h
    split
    · next hfound =>
      rw [first] at hfound
      cases hfound
    · next m hfound =>
      rw [first] at hfound
      cases hfound
      rw [byteLength_append _ ['#'], byteLength_append]
      cases look (byteLength before + byteLength between) with
      | none => rfl
      | some found? => cases found? <;> rfl

/-- **Such a search is a scan of the characters**, as long as looking behind a `#`
tells what follows it. -/
theorem scanFrom?_eq {mark? : Text → Option β} {scan : Text → Option (Text × β)}
    (hscan : Search.IsScan '#' mark? scan) (kind : β → γ) {line : Text}
    (hlook : ∀ before after, line = before ++ '#' :: after →
      look (byteLength before) = some ((mark? after).map kind)) :
    scanFrom? look (utf8 line) 0 =
      some ((scan line).map fun (before, m) => (byteLength before, kind m)) := by
  -- the rest of the line behind some start of it, and the places moved by that start
  suffices within : ∀ n before rest, rest.length = n → line = before ++ rest →
      scanFrom? look (utf8 line) (byteLength before) =
        some ((scan rest).map fun (between, m) => (byteLength (before ++ between), kind m)) from
    within _ [] line rfl rfl
  intro n
  induction n using Nat.strongRecOn with
  | ind n ih =>
    rintro before rest rfl rfl
    cases hsplit : Search.splitFirst? '#' rest with
    | none =>
      have lacks := Search.splitFirst?_eq_none.1 hsplit
      have nothing := hscan.append_of_notMem lacks []
      rw [List.append_nil, hscan.nil] at nothing
      rw [scanFrom?_of_notMem lacks, nothing]
      rfl
    | some parts =>
      obtain ⟨between, after⟩ := parts
      obtain ⟨rfl, lacks⟩ := Search.splitFirst?_eq_some.1 hsplit
      have looked := hlook (before ++ between) after (List.append_assoc ..).symm
      rw [scanFrom?_step lacks, looked, hscan.append_of_notMem lacks, Option.bind_some]
      cases hmark : mark? after with
      | some m =>
        rw [hscan.start hmark]
        simp
      | none =>
        have shorter : after.length < (between ++ '#' :: after).length := by
          rw [List.length_append, List.length_cons]
          omega
        have passed : scan ('#' :: after) =
            (scan after).map fun (before, m) => ('#' :: before, m) :=
          hscan.skip fun ⟨_, m, hm⟩ => by
            rw [hmark] at hm
            cases hm
        show scanFrom? look _ (byteLength (before ++ between ++ ['#'])) = _
        rw [ih _ shorter (before ++ between ++ ['#']) after rfl (by simp), passed, Option.map_map,
          Option.map_map]
        refine congrArg some (congrArg (Option.map · (scan after)) (funext fun found => ?_))
        simp

end Scan

end Text

end ContentFilter
