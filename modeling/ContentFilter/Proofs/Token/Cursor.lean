import ContentFilter.Proofs.Text.Slice
import ContentFilter.Proofs.Token.Words

/-!
# Tokens read at a place

Tokens may be read off a text one by one, at any time, and from several places at
once. They are read by a cursor: the text as its bytes, and the place it has come to
(`TokenCursor`). To give the next token it passes over bytes up to the first one of a word,
then over those of the word, takes the slice between the two places, and starts over if the
word is one that is not kept. A copy of a cursor is another cursor at the same place.

That a cursor has come to a place between two characters, and has the tokens behind it
still ahead (`TokenCursor.IsAhead`), is what one answer keeps (`TokenCursor.IsAhead.next`).
So it holds for any number of readers, cursors with the answers they have given, however
they are asked and copied in turn (`TokenReader.run_holds`). The answers of one of them are
the tokens of the text from the first one on, and nothing once there are no more; what the
others have given in between does not matter, and no slice ever falls inside a character
(`Tokens.readers_yield`).
-/

namespace ContentFilter

/-! ## Bytes -/

namespace Bytes

/-- **The place of the first byte from a place on that fails a test**, or the end. -/
def passWhile (p : UInt8 → Bool) (bs : List UInt8) (n : Nat) : Nat :=
  if h : n < bs.length then
    if p bs[n] then passWhile p bs (n + 1) else n
  else n
termination_by bs.length - n

/-- The bytes from a place on are passed over up to the first one that fails. -/
theorem passWhile_eq (p : UInt8 → Bool) (bs : List UInt8) (n : Nat) :
    passWhile p bs n = n + (bs.drop n).findIdx fun b => !p b := by
  fun_induction passWhile p bs n with
  | case1 n h hp ih =>
    rw [ih, List.drop_eq_getElem_cons h, List.findIdx_cons, hp]
    show _ = n + (_ + 1)
    omega
  | case2 n h hp =>
    rw [List.drop_eq_getElem_cons h, List.findIdx_cons, Bool.eq_false_iff.2 hp]
    rfl
  | case3 n h =>
    rw [List.drop_eq_nil_of_le (Nat.not_lt.1 h)]
    rfl

/-- Passing over bytes never goes back. -/
theorem le_passWhile (p : UInt8 → Bool) (bs : List UInt8) (n : Nat) : n ≤ passWhile p bs n := by
  rw [passWhile_eq]
  exact Nat.le_add_right n _

/-- It goes on from a byte that passes. -/
theorem lt_passWhile {p : UInt8 → Bool} {bs : List UInt8} {n : Nat} (h : n < bs.length)
    (hp : p bs[n] = true) : n < passWhile p bs n := by
  rw [passWhile, dif_pos h, if_pos hp]
  exact le_passWhile p bs (n + 1)

/-- It stops at a byte that fails. -/
theorem getElem_passWhile {p : UInt8 → Bool} {bs : List UInt8} {n : Nat}
    (h : passWhile p bs n < bs.length) : p bs[passWhile p bs n] = false := by
  fun_induction passWhile p bs n with
  | case1 n hn hp ih => exact ih h
  | case2 n hn hp => exact Bool.eq_false_iff.2 hp
  | case3 n hn => exact absurd h hn

end Bytes

namespace TokenClass

/-- **A byte of a word.** -/
def allowsByte (k : TokenClass) (b : UInt8) : Bool :=
  k.allows (Char.ofNat b.toNat)

/-- Whether a word directly followed by a byte, or by none, is passed over. -/
def skipsByte : TokenClass → Option UInt8 → Bool
  | pattern, b? => b? == some '*'.val.toUInt8
  | selector, _ => false

end TokenClass

/-! ## Cursors -/

/-- **Tokens being read at a place of a text.** -/
structure TokenCursor where
  /-- What counts as a word. -/
  tokenClass : TokenClass
  /-- The text. -/
  text : Text
  /-- The place, in bytes. -/
  position : Nat
  deriving DecidableEq, Repr

namespace TokenCursor

/-- **The cursor at the start of a text.** -/
def start (k : TokenClass) (t : Text) : TokenCursor :=
  ⟨k, t, 0⟩

/-- **The next answer of a cursor**, and the cursor behind it: a token, or none if there
are no more. There is no value if the slice of a word cannot be taken. -/
def next? (c : TokenCursor) : Option (Option Hash × TokenCursor) :=
  let bs := c.text.utf8
  let start := Bytes.passWhile (fun b => !c.tokenClass.allowsByte b) bs c.position
  if _h : start < bs.length then
    let stop := Bytes.passWhile c.tokenClass.allowsByte bs start
    if c.tokenClass.skipsByte bs[stop]? then next? { c with position := stop }
    else
      (Text.slice? start stop c.text).map fun word =>
        (some (Hash.ofText word), { c with position := stop })
  else some (none, { c with position := start })
termination_by c.text.utf8.length - c.position
decreasing_by
  have passed : c.position ≤ start := Bytes.le_passWhile _ _ _
  have entered : start < stop := Bytes.lt_passWhile _h (by simpa using Bytes.getElem_passWhile _h)
  have _inside : start < bs.length := _h
  show bs.length - stop < bs.length - c.position
  omega

/-- **A cursor has tokens ahead**: it has come to a place between two characters, and they
are those of the text behind it. -/
def IsAhead (c : TokenCursor) (tokens : List Hash) : Prop :=
  ∃ before rest, c.text = before ++ rest ∧ c.position = Text.byteLength before ∧
    tokens = (c.tokenClass.words rest).map Hash.ofText

/-- At the start all tokens of the text are ahead. -/
theorem isAhead_start (k : TokenClass) (t : Text) :
    (start k t).IsAhead (Tokens.toList ⟨k, t⟩) :=
  ⟨[], t, rfl, rfl, rfl⟩

end TokenCursor

namespace TokenClass

variable {k : TokenClass} {before gap run rest : Text}

/-- Characters of words are ASCII. -/
theorem isAsciiChar_of_allows {c : Char} (h : k.allows c = true) : Text.isAsciiChar c = true := by
  cases k with
  | pattern => exact Text.isAsciiChar_of_isAlphanumeric h
  | selector =>
    simp only [allows, Bool.or_eq_true, beq_iff_eq] at h
    obtain (((h | rfl) | rfl) | rfl) | rfl := h
    · exact Text.isAsciiChar_of_isAlphanumeric h
    all_goals decide

/-- **The bytes of a character** are bytes of words exactly if it is a character of
words. -/
theorem allowsByte_of_mem {c : Char} {b : UInt8} (hb : b ∈ String.utf8EncodeChar c) :
    k.allowsByte b = k.allows c := by
  unfold allowsByte
  rcases Text.char_of_mem_utf8EncodeChar hb with ⟨-, rfl⟩ | ⟨hle, notAscii⟩
  · rfl
  · have valid : b.toNat.isValidChar := .inl (Nat.lt_trans b.toNat_lt (by decide))
    have beyond : Text.isAsciiChar (Char.ofNat b.toNat) = false := by
      refine decide_eq_false (UInt32.not_lt.2 (UInt32.le_iff_toNat_le.2 ?_))
      show 0x80 ≤ (Char.ofNat b.toNat).toNat
      rw [Char.ofNat, dif_pos valid]
      exact UInt8.le_iff_toNat_le.1 hle
    rw [Bool.eq_false_iff.2 fun h => Bool.eq_false_iff.1 beyond (isAsciiChar_of_allows h),
      Bool.eq_false_iff.2 fun h => Bool.eq_false_iff.1 notAscii (isAsciiChar_of_allows h)]

/-- The same goes for bytes and characters between words. -/
theorem not_allowsByte_of_mem (c : Char) (b : UInt8) (hb : b ∈ String.utf8EncodeChar c) :
    (!k.allowsByte b) = !k.allows c :=
  congrArg (!·) (allowsByte_of_mem hb)

/-- A run is passed over for the byte that follows it as it is for the character. -/
theorem skipsByte_eq (rest : Text) : k.skipsByte rest.utf8.head? = k.skipsBefore rest := by
  cases k with
  | selector => rfl
  | pattern =>
    unfold skipsByte skipsBefore
    rw [Bool.eq_iff_iff, beq_iff_eq, beq_iff_eq]
    exact Text.head?_utf8_eq_some_iff rfl

end TokenClass

/-- Passing over characters. -/
theorem Bytes.passWhile_utf8 {p : UInt8 → Bool} {q : Char → Bool}
    (h : ∀ c b, b ∈ String.utf8EncodeChar c → p b = q c) (before rest : Text) :
    passWhile p (before ++ rest).utf8 before.byteLength =
      Text.byteLength (before ++ rest.takeWhile q) := by
  rw [passWhile_eq, Text.utf8_append, ← Text.length_utf8, List.drop_left, Text.findIdx_utf8 h,
    Text.byteLength_append, Text.length_utf8]

namespace TokenClass.IsFirstRun

variable {k : TokenClass} {gap run rest : Text}

/-- Before the first run of a text the gap is passed over. -/
theorem passWhile_gap (first : k.IsFirstRun gap run rest) (before : Text) :
    Bytes.passWhile (fun b => !k.allowsByte b) (before ++ (gap ++ run ++ rest)).utf8
      before.byteLength = (before ++ gap).byteLength := by
  have gapOnly : (gap ++ run ++ rest).takeWhile (fun c => !k.allows c) = gap := by
    refine Search.takeWhile_eq_iff.2 ⟨run ++ rest, List.append_assoc .., fun c hc => ?_,
      fun c hc => ?_⟩
    · simp [first.gap_free c hc]
    · obtain ⟨d, run, rfl⟩ := List.exists_cons_of_ne_nil first.ne_nil
      obtain rfl := Option.some.inj hc
      rw [first.allowed d List.mem_cons_self]
      rfl
  rw [Bytes.passWhile_utf8 not_allowsByte_of_mem, gapOnly]

/-- And then the run. -/
theorem passWhile_run (first : k.IsFirstRun gap run rest) (before : Text) :
    Bytes.passWhile k.allowsByte (before ++ (gap ++ run ++ rest)).utf8
      (before ++ gap).byteLength = (before ++ (gap ++ run)).byteLength := by
  have runOnly : (run ++ rest).takeWhile k.allows = run :=
    Search.takeWhile_eq_iff.2 ⟨rest, rfl, first.allowed, first.ends⟩
  rw [List.append_assoc gap, ← List.append_assoc before,
    Bytes.passWhile_utf8 fun _ _ => allowsByte_of_mem, runOnly, List.append_assoc]

end TokenClass.IsFirstRun

namespace TokenCursor

variable {k : TokenClass} {c : TokenCursor} {tokens : List Hash}

/-- Where there are no characters of words the cursor comes to the end, and gives none. -/
theorem next?_of_free (before : Text) {rest : Text} (free : ∀ c ∈ rest, k.allows c = false) :
    next? ⟨k, before ++ rest, before.byteLength⟩ =
      some (none, ⟨k, before ++ rest, (before ++ rest).byteLength⟩) := by
  have all : rest.takeWhile (fun c => !k.allows c) = rest :=
    Search.takeWhile_eq_iff.2 ⟨[], (List.append_nil rest).symm, fun c hc => by simp [free c hc],
      nofun⟩
  have hend := Bytes.passWhile_utf8 (TokenClass.not_allowsByte_of_mem (k := k)) before rest
  rw [all] at hend
  rw [next?]
  dsimp only
  rw [hend, dif_neg (by rw [Text.length_utf8]; exact Nat.lt_irrefl _)]

/-- **A cursor before a run gives its token**, or goes on behind it if it is passed over. -/
theorem next?_of_isFirstRun (before : Text) {gap run rest : Text}
    (first : k.IsFirstRun gap run rest) :
    next? ⟨k, before ++ (gap ++ run ++ rest), before.byteLength⟩ =
      if k.skipsBefore rest then
        next? ⟨k, before ++ (gap ++ run ++ rest), (before ++ (gap ++ run)).byteLength⟩
      else
        some (some (Hash.ofText run),
          ⟨k, before ++ (gap ++ run ++ rest), (before ++ (gap ++ run)).byteLength⟩) := by
  have inside : (before ++ gap).byteLength < (before ++ (gap ++ run ++ rest)).utf8.length := by
    rw [Text.length_utf8, List.append_assoc gap, ← List.append_assoc before,
      Text.byteLength_lt_append_iff]
    exact List.append_ne_nil_of_left_ne_nil first.ne_nil rest
  have next : (before ++ (gap ++ run ++ rest)).utf8[(before ++ (gap ++ run)).byteLength]? =
      rest.utf8.head? := by
    rw [← List.append_assoc before, Text.utf8_append, ← Text.length_utf8,
      List.getElem?_append_right (Nat.le_refl _), Nat.sub_self, List.head?_eq_getElem?]
  have word : Text.slice? (before ++ gap).byteLength (before ++ (gap ++ run)).byteLength
      (before ++ (gap ++ run ++ rest)) = some run :=
    Text.slice?_eq_some.2 ⟨before ++ gap, rest, by simp, rfl, by simp⟩
  rw [next?]
  dsimp only
  rw [first.passWhile_gap, dif_pos inside, first.passWhile_run, next, TokenClass.skipsByte_eq, word]
  rfl

/-- **An answer is the first token ahead**, if there is one, and then the others are
ahead. -/
theorem IsAhead.next (h : c.IsAhead tokens) :
    ∃ c', c.next? = some (tokens.head?, c') ∧ c'.IsAhead tokens.tail := by
  obtain ⟨k, t, position⟩ := c
  obtain ⟨before, rest, rfl, rfl, rfl⟩ := h
  dsimp only
  induction rest using TokenClass.run_induction k generalizing before with
  | free rest free =>
    rw [TokenClass.words_of_forall_not_allows free, next?_of_free before free]
    refine ⟨_, rfl, before ++ rest, [], (List.append_nil _).symm, rfl, ?_⟩
    rw [TokenClass.words_of_forall_not_allows fun _ hc => absurd hc List.not_mem_nil]
    rfl
  | run gap run rest first ih =>
    have whole : before ++ (gap ++ run ++ rest) = before ++ (gap ++ run) ++ rest :=
      (List.append_assoc ..).symm
    rw [next?_of_isFirstRun before first, first.words_eq]
    cases k.skipsBefore rest with
    | true =>
      rw [whole]
      exact ih (before ++ (gap ++ run))
    | false => exact ⟨_, rfl, before ++ (gap ++ run), rest, whole, rfl, rfl⟩

end TokenCursor

/-! ## Answers -/

/-- **The answers to asking a number of times for the next of some tokens**: each one in
its turn, and none once there are no more. -/
def answers (tokens : List Hash) (n : ℕ) : List (Option Hash) :=
  (List.range n).map (tokens[·]?)

/-- One more answer. -/
theorem answers_succ (tokens : List Hash) (n : ℕ) :
    answers tokens (n + 1) = answers tokens n ++ [tokens[n]?] := by
  rw [answers, List.range_succ, List.map_append]
  rfl

/-- The first answer, and the other ones. -/
theorem answers_succ_eq_cons (tokens : List Hash) (n : ℕ) :
    answers tokens (n + 1) = tokens.head? :: answers tokens.tail n := by
  rw [answers, List.range_succ_eq_map, List.map_cons, List.map_map, List.head?_eq_getElem?]
  exact congrArg (_ :: ·) (List.map_congr_left fun i _ => List.getElem?_tail.symm)

/-- **Taking tokens off gives these answers**, and leaves the tokens behind. -/
theorem Tokens.take_eq (ts : Tokens) (n : ℕ) :
    (take n ts).1 = answers ts.toList n ∧ (take n ts).2.toList = ts.toList.drop n := by
  induction n generalizing ts with
  | zero => exact ⟨rfl, rfl⟩
  | succ n ih =>
    rw [take, answers_succ_eq_cons, toList_eq]
    cases hnext : ts.next? with
    | none =>
      have hnil : ts.toList = [] := by rw [toList_eq, hnext]
      obtain ⟨hheads, hbehind⟩ := ih ts
      rw [hnil] at hheads hbehind
      rw [List.drop_nil] at hbehind
      exact ⟨congrArg (none :: ·) hheads, hbehind⟩
    | some answer =>
      obtain ⟨h, behind⟩ := answer
      obtain ⟨hheads, hbehind⟩ := ih behind
      exact ⟨congrArg (some h :: ·) hheads, hbehind⟩

/-! ## Readers -/

/-- **A reader of tokens**: a cursor, and the answers that led to it. -/
structure TokenReader where
  /-- The cursor. -/
  cursor : TokenCursor
  /-- The answers it has given, from the first one on. -/
  given : List (Option Hash)
  deriving DecidableEq, Repr

/-- **What is done with one of several readers.** -/
inductive TokenReader.Use where
  /-- The `i`-th one is asked for its next token. -/
  | next (i : ℕ)
  /-- A copy is made of the `i`-th one, as the last of them. -/
  | copy (i : ℕ)
  deriving DecidableEq, Repr

namespace TokenReader

variable {tokens : List Hash} {r : TokenReader} {readers : List TokenReader}

/-- **How often each reader was asked**, and for a copy what it was copied from before
that. -/
def Use.count (counts : List ℕ) : Use → List ℕ
  | next i => counts.modify i (· + 1)
  | copy i => counts ++ counts[i]?.toList

/-- A reader at the start of a text. -/
def start (k : TokenClass) (t : Text) : TokenReader :=
  ⟨.start k t, []⟩

/-- **A reader gives its next answer.** -/
def next? (r : TokenReader) : Option TokenReader :=
  r.cursor.next?.map fun (answer, behind) => ⟨behind, r.given ++ [answer]⟩

/-- **One use of several readers.** -/
def step? (readers : List TokenReader) : Use → Option (List TokenReader)
  | .next i =>
    match readers[i]? with
    | some r => r.next?.map (readers.set i ·)
    | none => some readers
  | .copy i => some (readers ++ readers[i]?.toList)

/-- **Several uses**, one after the other. -/
def run? (uses : List Use) (readers : List TokenReader) : Option (List TokenReader) :=
  uses.foldlM step? readers

/-- How often a reader was asked. -/
def asked (r : TokenReader) : ℕ :=
  r.given.length

/-- **A reader gives the tokens of a text**: it has given the first answers, and has the
tokens behind them ahead. -/
structure Reads (r : TokenReader) (tokens : List Hash) : Prop where
  /-- The answers so far. -/
  given_eq : r.given = answers tokens r.asked
  /-- The tokens that were not given. -/
  ahead : r.cursor.IsAhead (tokens.drop r.asked)

/-- A reader at the start of a text gives its tokens. -/
theorem reads_start (k : TokenClass) (t : Text) : (start k t).Reads (Tokens.toList ⟨k, t⟩) :=
  ⟨rfl, TokenCursor.isAhead_start k t⟩

/-- **It goes on to give them.** -/
theorem Reads.next (h : r.Reads tokens) :
    ∃ r', r.next? = some r' ∧ r'.Reads tokens ∧ r'.asked = r.asked + 1 := by
  obtain ⟨behind, hnext, hahead⟩ := h.ahead.next
  rw [List.head?_drop] at hnext
  rw [List.tail_drop] at hahead
  have hasked : (r.given ++ [tokens[r.asked]?]).length = r.asked + 1 := List.length_append
  refine ⟨⟨behind, r.given ++ [tokens[r.asked]?]⟩, ?_, ⟨?_, ?_⟩, hasked⟩
  · rw [next?, hnext]
    rfl
  · show r.given ++ [tokens[r.asked]?] = answers tokens (r.given ++ [tokens[r.asked]?]).length
    rw [hasked, answers_succ, ← h.given_eq]
  · show behind.IsAhead (tokens.drop (r.given ++ [tokens[r.asked]?]).length)
    rwa [hasked]

/-- **One use keeps it for all readers**: the one that is asked goes on, the others stay
where they are, and a copy is where what it was copied from is. -/
theorem step_holds (h : ∀ r ∈ readers, r.Reads tokens) (use : Use) :
    ∃ readers', step? readers use = some readers' ∧ (∀ r ∈ readers', r.Reads tokens) ∧
      readers'.map asked = use.count (readers.map asked) := by
  cases use with
  | copy i =>
    refine ⟨_, rfl, fun r hr => ?_, ?_⟩
    · rcases List.mem_append.1 hr with hr | hr
      · exact h r hr
      · exact h r (List.mem_of_getElem? (Option.mem_toList.1 hr))
    · rw [Use.count, List.getElem?_map, List.map_append]
      cases readers[i]? <;> rfl
  | next i =>
    rw [step?, Use.count]
    cases hi : readers[i]? with
    | none =>
      refine ⟨readers, rfl, h, ?_⟩
      rw [List.modify_eq_self (by simpa using hi)]
    | some r =>
      obtain ⟨r', hnext, hreads, hasked⟩ := (h r (List.mem_of_getElem? hi)).next
      refine ⟨readers.set i r', congrArg (Option.map (readers.set i ·)) hnext, fun q hq => ?_, ?_⟩
      · rcases List.mem_or_eq_of_mem_set hq with hq | rfl
        · exact h q hq
        · exact hreads
      · rw [List.map_set, hasked, List.modify_eq_set_getElem?, List.getElem?_map, hi]
        rfl

/-- **So do any number of uses.** -/
theorem run_holds (uses : List Use) (h : ∀ r ∈ readers, r.Reads tokens) :
    ∃ readers', run? uses readers = some readers' ∧ (∀ r ∈ readers', r.Reads tokens) ∧
      readers'.map asked = uses.foldl Use.count (readers.map asked) := by
  induction uses generalizing readers with
  | nil => exact ⟨readers, rfl, h, rfl⟩
  | cons use uses ih =>
    obtain ⟨readers₁, hstep, h₁, hasked₁⟩ := step_holds h use
    obtain ⟨readers₂, hrun, h₂, hasked₂⟩ := ih h₁
    refine ⟨readers₂, ?_, h₂, by rw [hasked₂, hasked₁]; rfl⟩
    rw [run?, List.foldlM_cons, hstep]
    exact hrun

end TokenReader

/-- **Readers of a text give the hashes of its words.** The tokens of a text are the hashes
of the words at its places for words, each once and from left to right. They are the first
answers to any number of questions, and after them there are none. However several readers
are asked and copied in turn, each one has given just the answers to the questions it was
asked, those to what it was copied from among them; and no slice ever breaks. -/
theorem Tokens.readers_yield (k : TokenClass) (t : Text) :
    ∃ places : List TokenClass.Place, k.ArePlaces t places ∧
      Tokens.toList ⟨k, t⟩ = places.map (fun p => Hash.ofText p.word) ∧
      (∀ n, (Tokens.take n ⟨k, t⟩).1 = answers (places.map fun p => Hash.ofText p.word) n ∧
        (Tokens.take n ⟨k, t⟩).2.toList = (places.map fun p => Hash.ofText p.word).drop n) ∧
      ∀ uses, (TokenReader.run? uses [.start k t]).map (·.map TokenReader.given) =
        some ((uses.foldl TokenReader.Use.count [0]).map
          (answers (places.map fun p => Hash.ofText p.word))) := by
  obtain ⟨places, arePlaces, hwords⟩ := TokenClass.exists_places k t
  have tokens : Tokens.toList ⟨k, t⟩ = places.map (fun p => Hash.ofText p.word) := by
    rw [Tokens.toList, hwords, List.map_map]
    rfl
  refine ⟨places, arePlaces, tokens, fun n => ?_, fun uses => ?_⟩
  · rw [← tokens]
    exact Tokens.take_eq ⟨k, t⟩ n
  · obtain ⟨readers, hrun, hreads, hasked⟩ := TokenReader.run_holds uses
      (List.forall_mem_singleton.2 (TokenReader.reads_start k t))
    have hgiven : readers.map TokenReader.given =
        (readers.map TokenReader.asked).map (answers (Tokens.toList ⟨k, t⟩)) := by
      rw [List.map_map]
      exact List.map_congr_left fun r hr => (hreads r hr).given_eq
    rw [hrun, Option.map_some, hgiven, hasked, tokens]
    rfl

-- Both readers go on from behind `ab`, past `c`, which a wildcard follows.
example :
    (TokenReader.run? [.next 0, .copy 0, .next 0, .next 1, .next 1]
      [.start .pattern "ab/c*é/d".toList]).map (·.map TokenReader.given) =
    some [[some (Hash.ofText "ab".toList), some (Hash.ofText "d".toList)],
      [some (Hash.ofText "ab".toList), some (Hash.ofText "d".toList), none]] := by cbv

end ContentFilter
