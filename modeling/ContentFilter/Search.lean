/-!
# Occurrences of one list in another

Rules, addresses and URLs are all taken apart by the same few questions:
does this text start or end with that one, where does that one occur
first, what lies before and after a delimiter. They are asked of lists of
characters and of lists of bytes alike, so they are stated for lists of
anything with decidable equality.

Each function comes with the equation that characterizes it by
concatenation – `dropStart?_eq_some`, `dropEnd?_eq_some`,
`splitFirst?_eq_some`, `splitLast?_eq_some` – and these equations are
what later modules use; none of them needs to look at how a search runs.

## First occurrences

`firstIndex? p s` is the least position at which `p` occurs in `s`
(`firstIndex?_eq_some`), and there is one exactly if `p` is a contiguous
part of `s` (`firstIndex?_isSome`). The empty list occurs at position `0`
of every list.
-/

namespace ContentFilter.Search

variable {α : Type} [DecidableEq α]

/-- **What follows `p`** in a list that starts with it. -/
def dropStart? : List α → List α → Option (List α)
  | [], s => some s
  | _ :: _, [] => none
  | a :: p, b :: s => if a = b then dropStart? p s else none

/-- A start can be dropped exactly from the lists that begin with it. -/
theorem dropStart?_eq_some {p s r : List α} :
    dropStart? p s = some r ↔ s = p ++ r := by
  fun_induction dropStart? p s with
  | case1 s => simp [eq_comm]
  | case2 => simp
  | case3 p b s ih => simpa using ih
  | case4 a p b s h => simp [Ne.symm h]

/-- Dropping a start that was put in front gives back the rest. -/
@[simp] theorem dropStart?_append (p r : List α) :
    dropStart? p (p ++ r) = some r :=
  dropStart?_eq_some.2 rfl

/-- **What precedes `p`** in a list that ends with it. -/
def dropEnd? (p s : List α) : Option (List α) :=
  (dropStart? p.reverse s.reverse).map List.reverse

/-- An end can be dropped exactly from the lists that finish with it. -/
theorem dropEnd?_eq_some {p s r : List α} :
    dropEnd? p s = some r ↔ s = r ++ p := by
  rw [dropEnd?, Option.map_eq_some_iff]
  constructor
  · rintro ⟨t, ht, rfl⟩
    rw [← List.reverse_inj, dropStart?_eq_some.1 ht]
    simp
  · rintro rfl
    exact ⟨r.reverse, dropStart?_eq_some.2 (by simp), by simp⟩

/-- Dropping an end that was put behind gives back the rest. -/
@[simp] theorem dropEnd?_append (p r : List α) :
    dropEnd? p (r ++ p) = some r :=
  dropEnd?_eq_some.2 rfl

/-- **Whether a list starts with `p`.** -/
def startsWith (p s : List α) : Bool :=
  (dropStart? p s).isSome

/-- Starting with `p` is having `p` as an initial segment. -/
theorem startsWith_iff {p s : List α} : startsWith p s = true ↔ p <+: s := by
  rw [startsWith, Option.isSome_iff_exists]
  exact ⟨fun ⟨r, h⟩ => ⟨r, (dropStart?_eq_some.1 h).symm⟩,
    fun ⟨r, h⟩ => ⟨r, dropStart?_eq_some.2 h.symm⟩⟩

/-- **Whether a list ends with `p`.** -/
def endsWith (p s : List α) : Bool :=
  (dropEnd? p s).isSome

/-- Ending with `p` is having `p` as a final segment. -/
theorem endsWith_iff {p s : List α} : endsWith p s = true ↔ p <:+ s := by
  rw [endsWith, Option.isSome_iff_exists]
  exact ⟨fun ⟨r, h⟩ => ⟨r, (dropEnd?_eq_some.1 h).symm⟩,
    fun ⟨r, h⟩ => ⟨r, dropEnd?_eq_some.2 h.symm⟩⟩

/-- **The position of the first occurrence of `p`.** -/
def firstIndex? (p : List α) : List α → Option Nat
  | [] => if p = [] then some 0 else none
  | a :: s => if startsWith p (a :: s) then some 0 else (firstIndex? p s).map (· + 1)

/-- The first index is an occurrence, and nothing before it is one. -/
theorem firstIndex?_eq_some {p s : List α} {n : Nat} :
    firstIndex? p s = some n ↔
      n ≤ s.length ∧ p <+: s.drop n ∧ ∀ m < n, ¬ p <+: s.drop m := by
  induction s generalizing n with
  | nil => cases p <;> cases n <;> simp [firstIndex?]
  | cons a s ih =>
    rw [firstIndex?]
    split
    · next h =>
      have h := startsWith_iff.1 h
      cases n with
      | zero => simp [h]
      | succ n =>
        simp only [Option.some.injEq, reduceCtorEq, false_iff, not_and]
        exact fun _ _ hm => hm 0 (by omega) h
    · next h =>
      rw [startsWith_iff] at h
      cases n with
      | zero => simp [h]
      | succ n =>
        rw [Option.map_eq_some_iff]
        constructor
        · rintro ⟨k, hk, hkn⟩
          obtain rfl : k = n := by omega
          obtain ⟨h₁, h₂, h₃⟩ := ih.1 hk
          refine ⟨by simpa using h₁, by simpa using h₂, fun m hm => ?_⟩
          cases m with
          | zero => simpa using h
          | succ m => simpa using h₃ m (by omega)
        · rintro ⟨h₁, h₂, h₃⟩
          refine ⟨n, ih.2 ⟨by simpa using h₁, by simpa using h₂, fun m hm => ?_⟩, rfl⟩
          simpa using h₃ (m + 1) (by omega)

/-- **Whether `p` occurs** in a list. -/
def occursIn (p s : List α) : Bool :=
  (firstIndex? p s).isSome

/-- There is a first index exactly if `p` is a contiguous part. -/
theorem firstIndex?_isSome {p s : List α} :
    (firstIndex? p s).isSome = true ↔ p <:+: s := by
  induction s with
  | nil => cases p <;> simp [firstIndex?]
  | cons a s ih =>
    rw [firstIndex?]
    split
    · next h => simpa using (startsWith_iff.1 h).isInfix
    · next h =>
      rw [startsWith_iff] at h
      rw [Option.isSome_map, ih, List.infix_cons_iff]
      simp [h]

/-- Occurring is being a contiguous part. -/
theorem occursIn_iff {p s : List α} : occursIn p s = true ↔ p <:+: s :=
  firstIndex?_isSome

/-! ## Delimiters -/

/-- **The parts before and after the first `c`.** -/
def splitFirst? (c : α) : List α → Option (List α × List α)
  | [] => none
  | a :: s => if a = c then some ([], s) else (splitFirst? c s).map fun (l, r) => (a :: l, r)

/-- The first delimiter is the one with none before it. -/
theorem splitFirst?_eq_some {c : α} {s l r : List α} :
    splitFirst? c s = some (l, r) ↔ s = l ++ c :: r ∧ c ∉ l := by
  induction s generalizing l with
  | nil => simp [splitFirst?]
  | cons a s ih =>
    rw [splitFirst?]
    split
    · next h =>
      subst h
      cases l with
      | nil => simp [eq_comm]
      | cons b l =>
        simp only [Option.some.injEq, Prod.mk.injEq, reduceCtorEq, false_and, List.cons_append,
          List.cons.injEq, List.mem_cons, not_or, false_iff, not_and, and_imp]
        exact fun h _ h' => absurd h h'
    · next h =>
      cases l with
      | nil => simp [h]
      | cons b l =>
        rw [Option.map_eq_some_iff]
        simp only [Prod.exists, Prod.mk.injEq, List.cons.injEq, List.cons_append,
          List.mem_cons, not_or]
        constructor
        · rintro ⟨l', r', h', ⟨rfl, rfl⟩, rfl⟩
          obtain ⟨rfl, hl⟩ := ih.1 h'
          exact ⟨⟨rfl, rfl⟩, Ne.symm h, hl⟩
        · rintro ⟨⟨rfl, rfl⟩, -, hl⟩
          exact ⟨l, r, ih.2 ⟨rfl, hl⟩, ⟨rfl, rfl⟩, rfl⟩

/-- **The parts before and after the last `c`.** -/
def splitLast? (c : α) : List α → Option (List α × List α)
  | [] => none
  | a :: s =>
    match splitLast? c s with
    | some (l, r) => some (a :: l, r)
    | none => if a = c then some ([], s) else none

/-- There is no last delimiter exactly if there is no delimiter. -/
theorem splitLast?_eq_none {c : α} {s : List α} : splitLast? c s = none ↔ c ∉ s := by
  induction s with
  | nil => simp [splitLast?]
  | cons a s ih =>
    cases h : splitLast? c s with
    | some q =>
      have : c ∈ s := Decidable.not_not.1 fun hc => by simp [ih.2 hc] at h
      simp [splitLast?, h, this]
    | none =>
      have : c ∉ s := ih.1 h
      by_cases ha : a = c
      · simp [splitLast?, h, ha]
      · simp [splitLast?, h, this, ha, Ne.symm ha]

/-- The last delimiter is the one with none behind it. -/
theorem splitLast?_eq_some {c : α} {s l r : List α} :
    splitLast? c s = some (l, r) ↔ s = l ++ c :: r ∧ c ∉ r := by
  induction s generalizing l r with
  | nil => simp [splitLast?]
  | cons a s ih =>
    rw [splitLast?]
    split
    · next l' r' h =>
      obtain ⟨hs, hr⟩ := ih.1 h
      cases l with
      | nil =>
        simp only [Option.some.injEq, Prod.mk.injEq, reduceCtorEq, false_and, List.nil_append,
          List.cons.injEq, false_iff, not_and, Decidable.not_not]
        rintro ⟨-, rfl⟩
        simp [hs]
      | cons b l =>
        constructor
        · intro h'
          obtain ⟨⟨rfl, rfl⟩, rfl⟩ : (a = b ∧ l' = l) ∧ r' = r := by simpa using h'
          exact ⟨by simp [hs], hr⟩
        · rintro ⟨h', hr'⟩
          obtain ⟨rfl, hs'⟩ : a = b ∧ s = l ++ c :: r := by simpa using h'
          have h'' := ih.2 ⟨hs', hr'⟩
          rw [h] at h''
          simpa using h''
    · next h =>
      have hc := splitLast?_eq_none.1 h
      split
      · next ha =>
        subst ha
        cases l with
        | nil => simp only [Option.some.injEq, Prod.mk.injEq, true_and, List.nil_append,
            List.cons.injEq]; exact ⟨fun h => ⟨h, h ▸ hc⟩, fun h => h.1⟩
        | cons b l =>
          simp only [Option.some.injEq, Prod.mk.injEq, reduceCtorEq, false_and, List.cons_append,
            List.cons.injEq, false_iff, not_and, and_imp]
          rintro - rfl
          simp at hc
      · next ha =>
        simp only [reduceCtorEq, false_iff, not_and]
        intro h'
        cases l with
        | nil => simp_all
        | cons b l =>
          obtain ⟨-, rfl⟩ : a = b ∧ s = l ++ c :: r := by simpa using h'
          simp at hc

/-! ## Trimming ends -/

/-- **Drop from the end** for as long as the elements pass a test. -/
def dropEndWhile (p : α → Bool) (s : List α) : List α :=
  (s.reverse.dropWhile p).reverse

omit [DecidableEq α] in
/-- What is left is an initial segment. -/
theorem dropEndWhile_initial (p : α → Bool) (s : List α) : dropEndWhile p s <+: s := by
  rw [← List.reverse_suffix, dropEndWhile, List.reverse_reverse]
  exact List.dropWhile_suffix p

omit [DecidableEq α] in
/-- What is left does not end with an element that passes. -/
theorem getLast?_dropEndWhile {p : α → Bool} {s : List α} {a : α}
    (h : (dropEndWhile p s).getLast? = some a) : p a = false := by
  rw [dropEndWhile, List.getLast?_reverse] at h
  have := List.head?_dropWhile_not p s.reverse
  rw [h] at this
  simpa using this

omit [DecidableEq α] in
/-- A list that does not end with an element that passes is left as it
is. -/
theorem dropEndWhile_eq_self {p : α → Bool} {s : List α}
    (h : ∀ a, s.getLast? = some a → p a = false) : dropEndWhile p s = s := by
  rw [dropEndWhile]
  cases hs : s.reverse with
  | nil => exact (List.reverse_eq_nil_iff.1 hs).symm
  | cons a r =>
    have ha : p a = false := h a (by rw [← List.head?_reverse, hs]; rfl)
    rw [List.dropWhile_cons_of_neg (by simp [ha]), ← hs, List.reverse_reverse]

end ContentFilter.Search
