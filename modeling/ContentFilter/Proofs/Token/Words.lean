import ContentFilter.Proofs.Search.Occurrence
import ContentFilter.Token
import Mathlib.Data.List.TakeWhile

/-!
# The words of a text

A word is a maximal run of word characters: neither in front of it nor behind it
stands another one (`TokenClass.IsWordAt`). The words that are read off a text one
after the other are these runs, without those that are passed over for what follows
them. Each is read once, at its own place, and the places go from left to right
(`TokenClass.exists_places`).

So it depends on the characters next to a run only whether it is a word. A word of a
part of a text is a word of the text if what stands next to it is still there, and
where the part ends with the word, it depends on what follows the part.
-/

namespace ContentFilter.TokenClass

variable {k : TokenClass} {t gap run rest before w after : Text}

/-- **A word at its place**, between what stands before and behind it. -/
structure IsWordAt (k : TokenClass) (before w after : Text) : Prop where
  /-- A word is not empty. -/
  ne_nil : w ≠ []
  /-- It has word characters only. -/
  allowed : ∀ c ∈ w, k.allows c = true
  /-- No word character stands directly before it. -/
  starts : ∀ c, before.getLast? = some c → k.allows c = false
  /-- None follows it directly. -/
  ends : ∀ c, after.head? = some c → k.allows c = false
  /-- It is not passed over for what follows it. -/
  kept : k.skipsBefore after = false

/-- A word starts with a word character. -/
theorem IsWordAt.exists_cons (hw : k.IsWordAt before w after) :
    ∃ c v, w = c :: v ∧ k.allows c = true := by
  obtain ⟨c, v, rfl⟩ := List.exists_cons_of_ne_nil hw.ne_nil
  exact ⟨c, v, rfl, hw.allowed c List.mem_cons_self⟩

/-! ## Runs -/

/-- **The first run of a text**: behind a gap without word characters, and up to a rest
that it does not go on into. -/
structure IsFirstRun (k : TokenClass) (gap run rest : Text) : Prop where
  /-- The gap has no word characters. -/
  gap_free : ∀ c ∈ gap, k.allows c = false
  /-- The run is not empty. -/
  ne_nil : run ≠ []
  /-- It has word characters only. -/
  allowed : ∀ c ∈ run, k.allows c = true
  /-- The rest does not start with one. -/
  ends : ∀ c, rest.head? = some c → k.allows c = false

/-- **A text has a first run, or no word characters.** -/
theorem exists_isFirstRun (k : TokenClass) (t : Text) :
    (∀ c ∈ t, k.allows c = false) ∨
      ∃ gap run rest, t = gap ++ run ++ rest ∧ k.IsFirstRun gap run rest := by
  obtain ⟨behind, ht, hgap, hbehind⟩ := Search.takeWhile_eq_iff.1
    (show t.takeWhile (fun c => !k.allows c) = _ from rfl)
  obtain ⟨rest, hrun, hall, hrest⟩ := Search.takeWhile_eq_iff.1
    (show behind.takeWhile k.allows = _ from rfl)
  have free : ∀ c ∈ t.takeWhile (fun c => !k.allows c), k.allows c = false :=
    fun c hc => by simpa using hgap c hc
  cases behind with
  | nil =>
    rw [List.append_nil] at ht
    exact .inl (ht ▸ free)
  | cons c behind =>
    have hc : k.allows c = true := by simpa using hbehind c rfl
    refine .inr ⟨_, _, rest, ?_, ⟨free, ?_, hall, hrest⟩⟩
    · rw [List.append_assoc, ← hrun]
      exact ht
    · rw [List.takeWhile_cons_of_pos hc]
      exact List.cons_ne_nil c _

/-- **Texts are read run by run**: what holds of texts without word characters, and of a
text if it does of the rest behind its first run, holds of every text. -/
@[elab_as_elim]
theorem run_induction (k : TokenClass) {motive : Text → Prop}
    (free : ∀ t, (∀ c ∈ t, k.allows c = false) → motive t)
    (run : ∀ gap run rest, k.IsFirstRun gap run rest → motive rest → motive (gap ++ run ++ rest))
    (t : Text) : motive t := by
  induction hn : t.length using Nat.strongRecOn generalizing t with
  | ind n ih =>
    subst hn
    obtain hfree | ⟨gap, word, rest, rfl, first⟩ := exists_isFirstRun k t
    · exact free t hfree
    · have shorter : rest.length < (gap ++ word ++ rest).length := by
        have hpos := List.length_pos_iff.2 first.ne_nil
        simp only [List.length_append]
        omega
      exact run gap word rest first (ih _ shorter rest rfl)

/-- **Two starts of a text that are runs are the same run.** -/
theorem run_unique (h : run ++ rest = w ++ after) (hrun : ∀ c ∈ run, k.allows c = true)
    (hrest : ∀ c, rest.head? = some c → k.allows c = false) (hw : ∀ c ∈ w, k.allows c = true)
    (hafter : ∀ c, after.head? = some c → k.allows c = false) : run = w ∧ rest = after := by
  have first := Search.takeWhile_eq_iff.2 ⟨rest, rfl, hrun, hrest⟩
  rw [h, Search.takeWhile_eq_iff.2 ⟨after, rfl, hw, hafter⟩] at first
  subst first
  exact ⟨rfl, List.append_cancel_left h⟩

/-- A text without word characters has no words. -/
theorem words_of_forall_not_allows (h : ∀ c ∈ t, k.allows c = false) : k.words t = [] := by
  have none : k.next? t = none := by
    rw [next?]
    split
    · rfl
    · next c r hdrop =>
      have hall : t.dropWhile (fun c => !k.allows c) = [] :=
        List.dropWhile_eq_nil_iff.2 fun c hc => by simp [h c hc]
      rw [hall] at hdrop
      cases hdrop
  rw [words_eq, none]

/-- The first word of a text is its first run, or the first word of the rest if the run is
passed over. -/
theorem IsFirstRun.next?_eq (first : k.IsFirstRun gap run rest) :
    k.next? (gap ++ run ++ rest) =
      if k.skipsBefore rest then k.next? rest else some (run, rest) := by
  obtain ⟨c, r, rfl⟩ := List.exists_cons_of_ne_nil first.ne_nil
  have hc : k.allows c = true := first.allowed c List.mem_cons_self
  have hr : ∀ a ∈ r, k.allows a = true := fun a ha => first.allowed a (List.mem_cons_of_mem c ha)
  have behind : (gap ++ c :: r ++ rest).dropWhile (fun c => !k.allows c) = c :: (r ++ rest) := by
    rw [List.append_assoc, List.dropWhile_append_of_pos fun a ha => by simp [first.gap_free a ha]]
    exact List.dropWhile_cons_of_neg (by simp [hc])
  have whole : (r ++ rest).takeWhile k.allows = r :=
    Search.takeWhile_eq_iff.2 ⟨rest, rfl, hr, first.ends⟩
  have left : (r ++ rest).dropWhile k.allows = rest := by
    have parts := List.takeWhile_append_dropWhile (p := k.allows) (l := r ++ rest)
    rw [whole] at parts
    exact List.append_cancel_left parts
  rw [next?]
  split
  · next hdrop =>
    rw [behind] at hdrop
    cases hdrop
  · next a s hdrop =>
    rw [behind] at hdrop
    cases hdrop
    dsimp only
    rw [left, whole]

/-- **The words of a text are its first run and the words of the rest**, or the words of
the rest alone if the run is passed over. -/
theorem IsFirstRun.words_eq (first : k.IsFirstRun gap run rest) :
    k.words (gap ++ run ++ rest) =
      if k.skipsBefore rest then k.words rest else run :: k.words rest := by
  rw [TokenClass.words_eq, first.next?_eq]
  cases k.skipsBefore rest with
  | true => exact (TokenClass.words_eq k rest).symm
  | false => rfl

/-- **A word behind a gap is there, or starts behind the run.** It cannot start in the
gap, as its first character is a word character, nor in the run, as none stands before
it. -/
theorem IsFirstRun.place_of_isWordAt (first : k.IsFirstRun gap run rest)
    (h : gap ++ run ++ rest = before ++ w ++ after) (hw : k.IsWordAt before w after) :
    before = gap ∨ ∃ m, before = gap ++ run ++ m := by
  rw [List.append_assoc, List.append_assoc] at h
  obtain ⟨m, rfl, hm⟩ | ⟨m, rfl, hm⟩ := List.append_eq_append_iff.1 h
  · rcases List.eq_nil_or_concat m with rfl | ⟨m, c, rfl⟩
    · exact .inl (List.append_nil gap)
    obtain ⟨m', hm', -⟩ | ⟨m', rfl, -⟩ := List.append_eq_append_iff.1 hm
    · exact .inr ⟨m', by rw [hm', List.append_assoc]⟩
    · have hnot := hw.starts c (by simp)
      exact absurd (hnot.symm.trans (first.allowed c (by simp))) Bool.false_ne_true
  · cases m with
    | nil => exact .inl (List.append_nil before).symm
    | cons c m =>
      obtain ⟨d, w, rfl, hd⟩ := hw.exists_cons
      obtain rfl : d = c := (List.cons.inj hm).1
      exact absurd ((first.gap_free d (by simp)).symm.trans hd) Bool.false_ne_true

/-- Something stands between the run and any word of the rest, or the run would go on into
the word. -/
theorem IsFirstRun.ne_nil_of_isWordAt {m : Text} (first : k.IsFirstRun gap run rest)
    (h : rest = m ++ w ++ after) (hw : k.IsWordAt m w after) : m ≠ [] := by
  rintro rfl
  obtain ⟨c, w, rfl, hc⟩ := hw.exists_cons
  exact absurd ((first.ends c (by rw [h]; rfl)).symm.trans hc) Bool.false_ne_true

/-- **A word behind a gap is the run there, unless that one is passed over, or a word of
the rest.** -/
theorem IsFirstRun.isWordAt_iff (first : k.IsFirstRun gap run rest) :
    gap ++ run ++ rest = before ++ w ++ after ∧ k.IsWordAt before w after ↔
      (before = gap ∧ w = run ∧ after = rest ∧ k.skipsBefore rest = false) ∨
        ∃ m, before = gap ++ run ++ m ∧ rest = m ++ w ++ after ∧ k.IsWordAt m w after := by
  constructor
  · rintro ⟨h, hw⟩
    rcases first.place_of_isWordAt h hw with rfl | ⟨m, rfl⟩
    · rw [List.append_assoc, List.append_assoc] at h
      obtain ⟨rfl, rfl⟩ :=
        run_unique (List.append_cancel_left h) first.allowed first.ends hw.allowed hw.ends
      exact .inl ⟨rfl, rfl, rfl, hw.kept⟩
    · refine .inr ⟨m, rfl, ?_, hw.ne_nil, hw.allowed, fun c hc => ?_, hw.ends, hw.kept⟩
      · rw [List.append_assoc (gap ++ run), List.append_assoc (gap ++ run)] at h
        exact List.append_cancel_left h
      · exact hw.starts c (by rw [List.getLast?_append, hc]; rfl)
  · rintro (⟨rfl, rfl, rfl, kept⟩ | ⟨m, rfl, hrest, hw⟩)
    · exact ⟨rfl, first.ne_nil, first.allowed,
        fun c hc => first.gap_free c (List.mem_of_getLast? hc), first.ends, kept⟩
    · refine ⟨by rw [hrest]; simp, hw.ne_nil, hw.allowed, fun c hc => ?_, hw.ends, hw.kept⟩
      rw [List.getLast?_append, Option.or_eq_some_iff, List.getLast?_eq_none_iff] at hc
      exact hw.starts c (hc.resolve_right fun h => first.ne_nil_of_isWordAt hrest hw h.1)

/-! ## Places -/

/-- **A place in a text**: a part of it, with what stands before and behind the part. -/
structure Place where
  /-- What stands before the part. -/
  before : Text
  /-- The part. -/
  word : Text
  /-- What stands behind it. -/
  after : Text

namespace Place

/-- **A place is left of another one** if its part ends before the other one starts. -/
def IsLeftOf (p q : Place) : Prop :=
  p.before.length + p.word.length < q.before.length

/-- A place, with more before it. -/
def behind (front : Text) (p : Place) : Place :=
  { p with before := front ++ p.before }

/-- Places stay in their order with the same before all of them. -/
theorem isLeftOf_behind_iff {front : Text} {p q : Place} :
    (p.behind front).IsLeftOf (q.behind front) ↔ p.IsLeftOf q := by
  show (front ++ p.before).length + p.word.length < (front ++ q.before).length ↔ _
  rw [List.length_append, List.length_append, Nat.add_assoc]
  exact Nat.add_lt_add_iff_left

end Place

/-! ## Words -/

/-- **Places are the places for words of a text, from left to right**: each one is there
once, and no other one. -/
structure ArePlaces (k : TokenClass) (t : Text) (places : List Place) : Prop where
  /-- They go from left to right. -/
  ordered : places.Pairwise Place.IsLeftOf
  /-- They are the places for words. -/
  mem_iff : ∀ p : Place, p ∈ places ↔
    t = p.before ++ p.word ++ p.after ∧ k.IsWordAt p.before p.word p.after

/-- A text without word characters has no places for words. -/
theorem arePlaces_nil (free : ∀ c ∈ t, k.allows c = false) : k.ArePlaces t [] := by
  refine ⟨.nil, fun p => iff_of_false List.not_mem_nil ?_⟩
  rintro ⟨rfl, hw⟩
  obtain ⟨c, w, hword, hc⟩ := hw.exists_cons
  exact absurd ((free c (by simp [hword])).symm.trans hc) Bool.false_ne_true

variable {places : List Place}

/-- The places for words of the rest of a text, seen from the start of the whole. -/
theorem ArePlaces.mem_map_behind_iff (h : k.ArePlaces rest places) {front : Text} {p : Place} :
    p ∈ places.map (·.behind front) ↔
      ∃ m, p.before = front ++ m ∧ rest = m ++ p.word ++ p.after ∧
        k.IsWordAt m p.word p.after := by
  rw [List.mem_map]
  constructor
  · rintro ⟨q, hq, rfl⟩
    exact ⟨q.before, rfl, (h.mem_iff q).1 hq⟩
  · rintro ⟨m, hbefore, hw⟩
    refine ⟨⟨m, p.word, p.after⟩, (h.mem_iff _).2 hw, ?_⟩
    rw [Place.behind, ← hbefore]

/-- They stay in their order. -/
theorem ArePlaces.ordered_behind (h : k.ArePlaces rest places) (front : Text) :
    (places.map (·.behind front)).Pairwise Place.IsLeftOf :=
  List.pairwise_map.2 (h.ordered.imp Place.isLeftOf_behind_iff.2)

/-- Behind a run that is passed over there are the places for words of the rest. -/
theorem IsFirstRun.arePlaces_of_skips (first : k.IsFirstRun gap run rest)
    (skips : k.skipsBefore rest = true) (h : k.ArePlaces rest places) :
    k.ArePlaces (gap ++ run ++ rest) (places.map (·.behind (gap ++ run))) := by
  refine ⟨h.ordered_behind _, fun p => ?_⟩
  rw [first.isWordAt_iff, h.mem_map_behind_iff]
  simp [skips]

/-- A run that is not passed over has its place before them. -/
theorem IsFirstRun.arePlaces_cons (first : k.IsFirstRun gap run rest)
    (kept : k.skipsBefore rest = false) (h : k.ArePlaces rest places) :
    k.ArePlaces (gap ++ run ++ rest)
      (⟨gap, run, rest⟩ :: places.map (·.behind (gap ++ run))) := by
  refine ⟨List.pairwise_cons.2 ⟨fun p hp => ?_, h.ordered_behind _⟩, fun p => ?_⟩
  · obtain ⟨m, hbefore, hrest, hw⟩ := h.mem_map_behind_iff.1 hp
    have between := List.length_pos_iff.2 (first.ne_nil_of_isWordAt hrest hw)
    show gap.length + run.length < p.before.length
    rw [hbefore, List.length_append, List.length_append]
    omega
  · obtain ⟨before, word, after⟩ := p
    rw [List.mem_cons, Place.mk.injEq, h.mem_map_behind_iff, first.isWordAt_iff]
    simp [kept]

/-- **The words of a text stand at its places for words, from left to right.** -/
theorem exists_places (k : TokenClass) (t : Text) :
    ∃ places : List Place, k.ArePlaces t places ∧ k.words t = places.map Place.word := by
  induction t using run_induction k with
  | free t free => exact ⟨[], arePlaces_nil free, words_of_forall_not_allows free⟩
  | run gap run rest first ih =>
    obtain ⟨places, arePlaces, hwords⟩ := ih
    have hwords' : k.words rest = (places.map (·.behind (gap ++ run))).map Place.word := by
      rw [hwords, List.map_map]
      rfl
    rw [first.words_eq]
    cases hskips : k.skipsBefore rest with
    | true => exact ⟨_, first.arePlaces_of_skips hskips arePlaces, hwords'⟩
    | false => exact ⟨_, first.arePlaces_cons hskips arePlaces, congrArg (run :: ·) hwords'⟩

/-- **The words of a text are its words at some place.** -/
theorem mem_words_iff :
    w ∈ k.words t ↔ ∃ before after, t = before ++ w ++ after ∧ k.IsWordAt before w after := by
  obtain ⟨places, arePlaces, hwords⟩ := exists_places k t
  rw [hwords, List.mem_map]
  constructor
  · rintro ⟨p, hp, rfl⟩
    exact ⟨p.before, p.after, (arePlaces.mem_iff p).1 hp⟩
  · rintro ⟨before, after, hw⟩
    exact ⟨⟨before, w, after⟩, (arePlaces.mem_iff _).2 hw, rfl⟩

end ContentFilter.TokenClass

namespace ContentFilter

/-- **The tokens of a pattern are the hashes of its words.** -/
theorem mem_patternTokens_iff {t : Text} {h : Hash} :
    h ∈ patternTokens t ↔ ∃ before w after, t = before ++ w ++ after ∧
      TokenClass.pattern.IsWordAt before w after ∧ h = Hash.ofText w := by
  show h ∈ (TokenClass.pattern.words t).map Hash.ofText ↔ _
  rw [List.mem_map]
  constructor
  · rintro ⟨w, hw, rfl⟩
    obtain ⟨before, after, ht, hword⟩ := TokenClass.mem_words_iff.1 hw
    exact ⟨before, w, after, ht, hword, rfl⟩
  · rintro ⟨before, w, after, ht, hword, rfl⟩
    exact ⟨w, TokenClass.mem_words_iff.2 ⟨before, after, ht, hword⟩, rfl⟩

end ContentFilter
