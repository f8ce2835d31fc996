import ContentFilter.Search

/-!
# Where one list occurs in another

A hostname is looked for twice: in the hostname of a request and in its URL.
`OccursAt` says that a list occurs at a position and `IsFirstAt` that no
earlier position will do, and the search of `ContentFilter.Search` finds
exactly that position (`firstIndex?_eq_some_iff`).

The hostname of a request is a part of its URL, so the two searches are a
search in a list and one in a part of it. What was found first in the part
lies in the whole list as well, moved by what stands before the part
(`OccursAt.within`), but it need not come first there: it does exactly if
nothing is found before the part starts (`isFirstAt_within_iff`).
-/

namespace ContentFilter.Search

variable {α : Type}

/-- **An occurrence of `p` at position `n`.** -/
def OccursAt (p : List α) (n : Nat) (s : List α) : Prop :=
  ∃ before after, s = before ++ p ++ after ∧ before.length = n

/-- **The first occurrence of `p`.** -/
def IsFirstAt (p : List α) (n : Nat) (s : List α) : Prop :=
  OccursAt p n s ∧ ∀ m < n, ¬ OccursAt p m s

/-- An occurrence is a start of what follows its position. -/
theorem occursAt_iff {p s : List α} {n : Nat} :
    OccursAt p n s ↔ n ≤ s.length ∧ p <+: s.drop n := by
  constructor
  · rintro ⟨before, after, rfl, rfl⟩
    refine ⟨by simp, after, ?_⟩
    rw [List.append_assoc, List.drop_left]
  · rintro ⟨hn, after, h⟩
    refine ⟨s.take n, after, ?_, List.length_take_of_le hn⟩
    rw [List.append_assoc, h, List.take_append_drop]

/-- An occurrence fits into the list. -/
theorem OccursAt.add_length_le {p s : List α} {n : Nat} (h : OccursAt p n s) :
    n + p.length ≤ s.length := by
  obtain ⟨before, after, rfl, rfl⟩ := h
  simp only [List.length_append]
  omega

/-- **The search finds the first occurrence.** -/
theorem firstIndex?_eq_some_iff [DecidableEq α] {p s : List α} {n : Nat} :
    firstIndex? p s = some n ↔ IsFirstAt p n s := by
  rw [firstIndex?_eq_some, IsFirstAt, occursAt_iff, and_assoc]
  refine and_congr_right fun hn => and_congr_right fun _ => forall_congr' fun m =>
    forall_congr' fun hm => not_congr ?_
  rw [occursAt_iff]
  exact (and_iff_right (by omega)).symm

/-- There is only one first occurrence. -/
theorem IsFirstAt.eq {p s : List α} {m n : Nat} (hm : IsFirstAt p m s) (hn : IsFirstAt p n s) :
    m = n := by
  rcases Nat.lt_trichotomy m n with h | h | h
  · exact absurd hm.1 (hn.2 m h)
  · exact h
  · exact absurd hn.1 (hm.2 n h)

/-- The empty list occurs first where every list starts. -/
theorem isFirstAt_nil (s : List α) : IsFirstAt [] 0 s :=
  ⟨⟨[], s, rfl, rfl⟩, fun _ h => absurd h (Nat.not_lt_zero _)⟩

/-- **Where there is an occurrence, one comes first**, and not behind it. -/
theorem OccursAt.exists_isFirstAt [DecidableEq α] {p s : List α} {n : Nat} (h : OccursAt p n s) :
    ∃ m ≤ n, IsFirstAt p m s := by
  have found : (firstIndex? p s).isSome = true := by
    obtain ⟨before, after, rfl, -⟩ := h
    exact firstIndex?_isSome.2 ⟨before, after, rfl⟩
  obtain ⟨m, hm⟩ := Option.isSome_iff_exists.1 found
  have first := firstIndex?_eq_some_iff.1 hm
  exact ⟨m, Nat.le_of_not_lt fun hlt => first.2 n hlt h, first⟩

/-- An occurrence at the start is a start. -/
theorem occursAt_zero_iff {p s : List α} : OccursAt p 0 s ↔ p <+: s := by
  rw [occursAt_iff, List.drop_zero]
  exact and_iff_right (Nat.zero_le _)

/-- An occurrence behind the first element is one in the rest. -/
theorem occursAt_succ_iff {p s : List α} {a : α} {n : Nat} :
    OccursAt p (n + 1) (a :: s) ↔ OccursAt p n s := by
  rw [occursAt_iff, occursAt_iff, List.drop_succ_cons, List.length_cons, Nat.add_le_add_iff_right]

/-- The first occurrence is at the start if there is one at the start. -/
theorem isFirstAt_zero_iff {p s : List α} : IsFirstAt p 0 s ↔ p <+: s := by
  rw [IsFirstAt, occursAt_zero_iff]
  exact and_iff_left fun m hm => absurd hm (Nat.not_lt_zero m)

/-- **The first occurrence is behind the first element** if there is none at
the start and it comes first in the rest. -/
theorem isFirstAt_succ_iff {p s : List α} {a : α} {n : Nat} :
    IsFirstAt p (n + 1) (a :: s) ↔ ¬ p <+: a :: s ∧ IsFirstAt p n s := by
  constructor
  · rintro ⟨hocc, hfirst⟩
    refine ⟨fun hp => hfirst 0 (Nat.succ_pos n) (occursAt_zero_iff.2 hp),
      occursAt_succ_iff.1 hocc, fun m hm h => ?_⟩
    exact hfirst (m + 1) (Nat.succ_lt_succ hm) (occursAt_succ_iff.2 h)
  · rintro ⟨hp, hocc, hfirst⟩
    refine ⟨occursAt_succ_iff.2 hocc, fun m hm h => ?_⟩
    cases m with
    | zero => exact hp (occursAt_zero_iff.1 h)
    | succ m => exact hfirst m (Nat.lt_of_succ_lt_succ hm) (occursAt_succ_iff.1 h)

/-! ## Ends -/

/-- A list starts with an element exactly if that is its head. -/
theorem head?_eq_some_iff {s : List α} {a : α} : s.head? = some a ↔ [a] <+: s := by
  rw [List.head?_eq_some_iff]
  exact exists_congr fun _ => eq_comm

/-- A list ends with an element exactly if that is its last one. -/
theorem getLast?_eq_some_iff {s : List α} {a : α} : s.getLast? = some a ↔ [a] <:+ s := by
  rw [List.getLast?_eq_some_iff]
  exact exists_congr fun _ => eq_comm

/-- A start cannot be dropped exactly from the lists that do not begin with it. -/
theorem dropStart?_eq_none [DecidableEq α] {p s : List α} : dropStart? p s = none ↔ ¬ p <+: s := by
  rw [← startsWith_iff, startsWith, Bool.not_eq_true, Option.isSome_eq_false_iff,
    Option.isNone_iff_eq_none]

/-- An end cannot be dropped exactly from the lists that do not finish with it. -/
theorem dropEnd?_eq_none [DecidableEq α] {p s : List α} : dropEnd? p s = none ↔ ¬ p <:+ s := by
  rw [← endsWith_iff, endsWith, Bool.not_eq_true, Option.isSome_eq_false_iff,
    Option.isNone_iff_eq_none]

/-! ## Parts of a list -/

/-- An occurrence in a part of a list is one in the list. -/
theorem OccursAt.within {p part : List α} {n : Nat} (h : OccursAt p n part)
    (before after : List α) : OccursAt p (before.length + n) (before ++ part ++ after) := by
  obtain ⟨l, r, rfl, rfl⟩ := h
  exact ⟨before ++ l, r ++ after, by simp, by simp⟩

/-- An occurrence in a list that lies within a part of it is one in the
part. -/
theorem OccursAt.of_within {p before part after : List α} {n : Nat}
    (h : OccursAt p (before.length + n) (before ++ part ++ after))
    (hn : n + p.length ≤ part.length) : OccursAt p n part := by
  obtain ⟨-, hp⟩ := occursAt_iff.1 h
  refine occursAt_iff.2 ⟨by omega, ?_⟩
  rw [List.append_assoc, ← List.drop_drop, List.drop_left,
    List.drop_append_of_le_length (by omega)] at hp
  exact List.prefix_of_prefix_length_le hp (List.prefix_append _ _) (by simp; omega)

/-- **The first occurrence in a part comes first in the list exactly if
nothing occurs before the part starts.** An occurrence between the two would
end no later than the one in the part, and so lie in the part itself. -/
theorem isFirstAt_within_iff {p part : List α} {n : Nat} (h : IsFirstAt p n part)
    (before after : List α) :
    IsFirstAt p (before.length + n) (before ++ part ++ after) ↔
      ∀ m < before.length, ¬ OccursAt p m (before ++ part ++ after) := by
  constructor
  · intro hfirst m hm
    exact hfirst.2 m (by omega)
  · intro hbefore
    refine ⟨h.1.within before after, fun m hm hocc => ?_⟩
    rcases Nat.lt_or_ge m before.length with hlt | hge
    · exact hbefore m hlt hocc
    · obtain ⟨k, rfl⟩ := Nat.exists_eq_add_of_le hge
      have hfits := h.1.add_length_le
      exact h.2 k (by omega) (hocc.of_within (by omega))

/-! ## Runs -/

/-- **An initial run is what passes a test, up to an element that does
not.** -/
theorem takeWhile_eq_iff {p : α → Bool} {s run : List α} :
    s.takeWhile p = run ↔ ∃ rest, s = run ++ rest ∧ (∀ a ∈ run, p a = true) ∧
      ∀ a, rest.head? = some a → p a = false := by
  constructor
  · rintro rfl
    refine ⟨s.dropWhile p, List.takeWhile_append_dropWhile.symm,
      fun a ha => List.all_eq_true.1 List.all_takeWhile a ha, fun a ha => ?_⟩
    have hnot := List.head?_dropWhile_not p s
    rw [ha] at hnot
    simpa using hnot
  · rintro ⟨rest, rfl, hrun, hrest⟩
    rw [List.takeWhile_append_of_pos hrun]
    cases rest with
    | nil => rw [List.takeWhile_nil, List.append_nil]
    | cons a rest => rw [List.takeWhile_cons_of_neg (by simp [hrest a rfl]), List.append_nil]

/-- What the first elements of two lists do not pass, that of the two together does
not. -/
theorem head?_append_not {p : α → Bool} {s t : List α} (hs : ∀ a, s.head? = some a → p a = false)
    (ht : ∀ a, t.head? = some a → p a = false) : ∀ a, (s ++ t).head? = some a → p a = false := by
  cases s with
  | nil => exact ht
  | cons b s => exact hs

/-- A list is what is left of it and what was dropped from its end. -/
theorem exists_dropEndWhile (p : α → Bool) (s : List α) :
    ∃ dropped, s = dropEndWhile p s ++ dropped ∧ ∀ a ∈ dropped, p a = true := by
  refine ⟨(s.reverse.takeWhile p).reverse, ?_, fun a ha => ?_⟩
  · rw [dropEndWhile, ← List.reverse_append, List.takeWhile_append_dropWhile, List.reverse_reverse]
  · exact List.all_eq_true.1 List.all_takeWhile a (List.mem_reverse.1 ha)

/-- Dropping from the end takes off one more element that passes. -/
theorem dropEndWhile_concat {p : α → Bool} {a : α} (ha : p a = true) (s : List α) :
    dropEndWhile p (s ++ [a]) = dropEndWhile p s := by
  unfold dropEndWhile
  rw [List.reverse_append, List.reverse_singleton, List.singleton_append,
    List.dropWhile_cons_of_pos ha]

/-! ## Delimiters -/

/-- There is no first delimiter exactly if there is no delimiter. -/
theorem splitFirst?_eq_none [DecidableEq α] {c : α} {s : List α} :
    splitFirst? c s = none ↔ c ∉ s := by
  constructor
  · intro h hc
    obtain ⟨l, r, hs, hl⟩ := List.eq_append_cons_of_mem hc
    rw [splitFirst?_eq_some.2 ⟨hs, hl⟩] at h
    cases h
  · intro hc
    cases h : splitFirst? c s with
    | none => rfl
    | some parts =>
      obtain ⟨hs, -⟩ := splitFirst?_eq_some.1 (show _ = some (parts.1, parts.2) from h)
      exact absurd (by rw [hs]; simp) hc

/-- **What stands behind the last delimiter**, or the whole list if there is
none. -/
theorem splitLast?_elim_eq_iff [DecidableEq α] {c : α} {s last : List α} :
    (splitLast? c s).elim s (·.2) = last ↔
      ∃ before, s = before ++ last ∧ c ∉ last ∧
        (before = [] ∨ before.getLast? = some c) := by
  constructor
  · rintro rfl
    cases hsplit : splitLast? c s with
    | none => exact ⟨[], rfl, splitLast?_eq_none.1 hsplit, .inl rfl⟩
    | some parts =>
      obtain ⟨before, last⟩ := parts
      obtain ⟨rfl, hlast⟩ := splitLast?_eq_some.1 hsplit
      exact ⟨before ++ [c], by simp, hlast, .inr List.getLast?_concat⟩
  · rintro ⟨before, rfl, hlast, rfl | hend⟩
    · rw [List.nil_append, splitLast?_eq_none.2 hlast]
      rfl
    · obtain ⟨front, rfl⟩ := List.getLast?_eq_some_iff.1 hend
      have hsplit : splitLast? c (front ++ [c] ++ last) = some (front, last) :=
        splitLast?_eq_some.2 ⟨by simp, hlast⟩
      rw [hsplit]
      rfl

/-- **A name and its value**, with a delimiter between them if there is a
value. -/
theorem splitFirst?_getD_eq_iff [DecidableEq α] {c : α} {s name value : List α} :
    (splitFirst? c s).getD (s, []) = (name, value) ↔
      c ∉ name ∧ ((s = name ∧ value = []) ∨ s = name ++ c :: value) := by
  constructor
  · intro he
    cases h : splitFirst? c s with
    | none =>
      rw [h] at he
      obtain ⟨rfl, rfl⟩ : s = name ∧ [] = value := by simpa using he
      exact ⟨splitFirst?_eq_none.1 h, .inl ⟨rfl, rfl⟩⟩
    | some parts =>
      rw [h] at he
      obtain rfl : parts = (name, value) := he
      obtain ⟨hs, hname⟩ := splitFirst?_eq_some.1 h
      exact ⟨hname, .inr hs⟩
  · rintro ⟨hname, ⟨rfl, rfl⟩ | hs⟩
    · rw [splitFirst?_eq_none.2 hname]
      rfl
    · rw [splitFirst?_eq_some.2 ⟨hs, hname⟩]
      rfl

end ContentFilter.Search
