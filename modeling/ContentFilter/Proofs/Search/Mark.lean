import ContentFilter.Search

/-!
# The first mark in a list

Some characters are marks only together with what follows them: a `#` that is
followed by a `#` is a separator, and one that is followed by a `b` is
nothing. `IsFirstMark` says where the first one of a sort is that is a mark,
and what stands before and behind it. A scan from left to right (`IsScan`)
finds it: the list starts with a mark, or its first element is passed over and
the scan goes on (`IsScan.eq_some_iff`).

Two scans that look for different marks find the same one if the first mark of
the more general sort is one of the other sort as well (`IsFirstMark.of_imp`).
-/

namespace ContentFilter.Search

variable {α : Type} {c : α} {p q : List α → Prop} {s before after : List α}

/-- **The first `c` that is a mark**, that is, followed by what `p` asks
for. -/
structure IsFirstMark (c : α) (p : List α → Prop) (s before after : List α) : Prop where
  /-- It stands between the two parts of the list. -/
  eq_append : s = before ++ c :: after
  /-- It is a mark. -/
  is_mark : p after
  /-- None before it is a mark. -/
  is_first : ∀ b a, s = b ++ c :: a → b.length < before.length → ¬ p a

/-- There is no first mark in the empty list. -/
theorem not_isFirstMark_nil : ¬ IsFirstMark c p [] before after := by
  intro h
  have hlen := congrArg List.length h.eq_append
  simp at hlen

/-- **The first mark is at the start** if there is one. -/
theorem isFirstMark_nil_iff {a : α} :
    IsFirstMark c p (a :: s) [] after ↔ a = c ∧ s = after ∧ p after := by
  constructor
  · intro h
    obtain ⟨rfl, rfl⟩ := List.cons.inj h.eq_append
    exact ⟨rfl, rfl, h.is_mark⟩
  · rintro ⟨rfl, rfl, hp⟩
    exact ⟨rfl, hp, fun _ _ _ hlt => absurd hlt (Nat.not_lt_zero _)⟩

/-- **Otherwise it is the first one of the rest.** -/
theorem isFirstMark_cons_iff {a b : α} :
    IsFirstMark c p (a :: s) (b :: before) after ↔
      a = b ∧ ¬ (a = c ∧ p s) ∧ IsFirstMark c p s before after := by
  constructor
  · intro h
    obtain ⟨rfl, rfl⟩ := List.cons.inj h.eq_append
    refine ⟨rfl, ?_, rfl, h.is_mark, fun l r hs hlt => ?_⟩
    · rintro ⟨rfl, hp⟩
      exact h.is_first [] _ rfl (Nat.succ_pos _) hp
    · exact h.is_first (a :: l) r (congrArg (a :: ·) hs) (Nat.succ_lt_succ hlt)
  · rintro ⟨rfl, hstart, h⟩
    refine ⟨congrArg (a :: ·) h.eq_append, h.is_mark, fun l r hs hlt => ?_⟩
    cases l with
    | nil =>
      obtain ⟨rfl, rfl⟩ := List.cons.inj hs
      exact fun hp => hstart ⟨rfl, hp⟩
    | cons x l =>
      exact h.is_first l r (List.cons.inj hs).2 (Nat.lt_of_succ_lt_succ hlt)

/-- **There is only one first mark.** -/
theorem IsFirstMark.unique {before' after' : List α} (h : IsFirstMark c p s before after)
    (h' : IsFirstMark c p s before' after') : before = before' ∧ after = after' := by
  have hlen : before.length = before'.length := by
    rcases Nat.lt_trichotomy before.length before'.length with hlt | heq | hlt
    · exact absurd h.is_mark (h'.is_first _ _ h.eq_append hlt)
    · exact heq
    · exact absurd h'.is_mark (h.is_first _ _ h'.eq_append hlt)
  obtain ⟨hbefore, hafter⟩ := List.append_inj (h.eq_append.symm.trans h'.eq_append) hlen
  exact ⟨hbefore, (List.cons.inj hafter).2⟩

/-- **Where there is a mark, one is the first.** -/
theorem exists_isFirstMark (hp : ∃ before after, s = before ++ c :: after ∧ p after) :
    ∃ before after, IsFirstMark c p s before after := by
  induction s with
  | nil =>
    obtain ⟨before, after, h, -⟩ := hp
    simp at h
  | cons a s ih =>
    by_cases hstart : a = c ∧ p s
    · exact ⟨[], s, isFirstMark_nil_iff.2 ⟨hstart.1, rfl, hstart.2⟩⟩
    · obtain ⟨before, after, h, hmark⟩ := hp
      cases before with
      | nil =>
        obtain ⟨rfl, rfl⟩ := List.cons.inj h
        exact absurd ⟨rfl, hmark⟩ hstart
      | cons b before =>
        obtain ⟨l, r, hfirst⟩ := ih ⟨before, after, (List.cons.inj h).2, hmark⟩
        exact ⟨a :: l, r, isFirstMark_cons_iff.2 ⟨rfl, hstart, hfirst⟩⟩

/-- **The first mark of a general sort** is the first of a special one if it is
of that sort. -/
theorem IsFirstMark.of_imp (h : IsFirstMark c p s before after) (hq : q after)
    (hqp : ∀ a, q a → p a) : IsFirstMark c q s before after :=
  ⟨h.eq_append, hq, fun b a hs hlt hqa => h.is_first b a hs hlt (hqp a hqa)⟩

/-! ## Scans -/

section Scans

variable {β : Type} {mark? : List α → Option β} {scan : List α → Option (List α × β)} {m : β}

/-- **A scan for marks** from left to right, that reads what follows the mark
it finds. -/
structure IsScan (c : α) (mark? : List α → Option β) (scan : List α → Option (List α × β)) :
    Prop where
  /-- Nothing is found in the empty list. -/
  nil : scan [] = none
  /-- A mark at the start is found. -/
  start : ∀ {rest m}, mark? rest = some m → scan (c :: rest) = some ([], m)
  /-- Any other element is passed over. -/
  skip : ∀ {a rest}, ¬ (a = c ∧ ∃ m, mark? rest = some m) →
    scan (a :: rest) = (scan rest).map fun (before, m) => (a :: before, m)

/-- A scan passes over what holds no `c`. -/
theorem IsScan.append_of_notMem (h : IsScan c mark? scan) {l : List α} (hl : c ∉ l) (s : List α) :
    scan (l ++ s) = (scan s).map fun (before, m) => (l ++ before, m) := by
  induction l with
  | nil => exact Option.map_id'.symm
  | cons a l ih =>
    rw [List.mem_cons, not_or] at hl
    obtain ⟨ha, hl⟩ := hl
    rw [List.cons_append, h.skip fun hstart => ha hstart.1.symm, ih hl, Option.map_map]
    rfl

/-- **A scan finds the first mark.** -/
theorem IsScan.eq_some_iff (h : IsScan c mark? scan) :
    scan s = some (before, m) ↔
      ∃ after, IsFirstMark c (fun r => ∃ m, mark? r = some m) s before after ∧
        mark? after = some m := by
  induction s generalizing before with
  | nil =>
    rw [h.nil]
    exact iff_of_false nofun fun ⟨_, first, _⟩ => not_isFirstMark_nil first
  | cons a s ih =>
    by_cases hstart : a = c ∧ ∃ m, mark? s = some m
    · obtain ⟨rfl, m', hm'⟩ := hstart
      -- the mark at the start is the first one, and there is no other
      have first : IsFirstMark a (fun r => ∃ m, mark? r = some m) (a :: s) [] s :=
        isFirstMark_nil_iff.2 ⟨rfl, rfl, m', hm'⟩
      rw [h.start hm', Option.some.injEq, Prod.mk.injEq]
      constructor
      · rintro ⟨rfl, rfl⟩
        exact ⟨s, first, hm'⟩
      · rintro ⟨after, first', hm⟩
        obtain ⟨rfl, rfl⟩ := first.unique first'
        exact ⟨rfl, Option.some.inj (hm'.symm.trans hm)⟩
    · rw [h.skip hstart, Option.map_eq_some_iff]
      constructor
      · rintro ⟨⟨l, m'⟩, hscan, hcons⟩
        obtain ⟨rfl, rfl⟩ := Prod.mk.inj hcons
        obtain ⟨after, first, hm⟩ := ih.1 hscan
        exact ⟨after, isFirstMark_cons_iff.2 ⟨rfl, hstart, first⟩, hm⟩
      · rintro ⟨after, first, hm⟩
        cases before with
        | nil =>
          obtain ⟨rfl, rfl, hmark⟩ := isFirstMark_nil_iff.1 first
          exact absurd ⟨rfl, hmark⟩ hstart
        | cons b before =>
          obtain ⟨rfl, -, first⟩ := isFirstMark_cons_iff.1 first
          exact ⟨(before, m), ih.2 ⟨after, first, hm⟩, rfl⟩

/-- **A scan finds nothing exactly if there is no mark.** -/
theorem IsScan.eq_none_iff (h : IsScan c mark? scan) :
    scan s = none ↔ ∀ before after, s = before ++ c :: after → mark? after = none := by
  constructor
  · intro hscan before after hs
    rw [Option.eq_none_iff_forall_not_mem]
    intro m hm
    have marked : ∃ before after, s = before ++ c :: after ∧ ∃ m, mark? after = some m :=
      ⟨before, after, hs, m, hm⟩
    obtain ⟨l, r, first⟩ := exists_isFirstMark marked
    obtain ⟨m', hm'⟩ := first.is_mark
    rw [h.eq_some_iff.2 ⟨r, first, hm'⟩] at hscan
    cases hscan
  · intro hnone
    cases hscan : scan s with
    | none => rfl
    | some found =>
      obtain ⟨after, first, hm⟩ :=
        h.eq_some_iff.1 (show scan s = some (found.1, found.2) from hscan)
      rw [hnone _ _ first.eq_append] at hm
      cases hm

end Scans

end ContentFilter.Search
