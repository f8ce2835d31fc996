/-!
# Sorted lists

The domains an option names are kept sorted and without repetition, so
that two options naming the same domains are the same, and so that a
domain is found by halving.

`ofList` sorts and removes repetitions; its result is strictly increasing
(`sorted_ofList`) and has the same members (`mem_ofList`). `contains`
looks an element up by halving the list. On a strictly increasing list it
decides membership (`contains_iff`); on any other list, as one read from
stored data may be, its answer is that of the comparisons it makes.
-/

namespace ContentFilter.SortedList

variable {α : Type} [Ord α]

/-- **Strictly increasing.** -/
def Sorted (l : List α) : Prop :=
  l.Pairwise fun a b => compare a b = .lt

/-- **Insert an element** where it belongs, unless it is there. -/
def insert (a : α) : List α → List α
  | [] => [a]
  | b :: l =>
    match compare a b with
    | .lt => a :: b :: l
    | .eq => b :: l
    | .gt => b :: insert a l

/-- **The elements of a list, sorted and without repetition.** -/
def ofList (l : List α) : List α :=
  l.foldr insert []

/-- The halving look-up, driven by how an element compares with the one
that is sought. -/
def search (cmp : α → Ordering) (l : List α) : Bool :=
  if _h : 2 ≤ l.length then
    if cmp l[l.length / 2] == .gt then search cmp (l.take (l.length - l.length / 2))
    else search cmp (l.drop (l.length / 2))
  else l.any fun a => cmp a == .eq
termination_by l.length
decreasing_by
  all_goals
    simp only [List.length_take, List.length_drop]
    omega

/-- **Whether an element is found by halving.** -/
def contains (l : List α) (x : α) : Bool :=
  search (fun a => compare a x) l

/-! ## Laws -/

/-- Inserting adds one member. -/
theorem mem_insert [Std.LawfulEqOrd α] {a x : α} {l : List α} : x ∈ insert a l ↔ x = a ∨ x ∈ l := by
  induction l with
  | nil => simp [insert]
  | cons b l ih =>
    rw [insert]
    split
    · simp
    · next h => simp [Std.compare_eq_iff_eq.1 h]
    · simp only [List.mem_cons, ih]
      exact or_left_comm

/-- Inserting keeps a list strictly increasing. -/
theorem sorted_insert [Std.TransOrd α] [Std.LawfulEqOrd α] {a : α} {l : List α} (h : Sorted l) :
    Sorted (insert a l) := by
  induction l with
  | nil => simp [insert, Sorted]
  | cons b l ih =>
    obtain ⟨hb, hl⟩ := List.pairwise_cons.1 h
    rw [insert]
    split
    · next hab =>
      refine List.pairwise_cons.2 ⟨fun x hx => ?_, h⟩
      rcases List.mem_cons.1 hx with rfl | hx
      · exact hab
      · exact Std.TransCmp.lt_trans hab (hb x hx)
    · exact h
    · next hab =>
      refine List.pairwise_cons.2 ⟨fun x hx => ?_, ih hl⟩
      rcases mem_insert.1 hx with rfl | hx
      · rw [show compare b x = (compare x b).swap from Std.OrientedCmp.eq_swap, hab]
        rfl
      · exact hb x hx

/-- Sorting keeps the members. -/
@[simp] theorem mem_ofList [Std.LawfulEqOrd α] {x : α} {l : List α} : x ∈ ofList l ↔ x ∈ l := by
  induction l with
  | nil => simp [ofList]
  | cons a l ih =>
    rw [show ofList (a :: l) = insert a (ofList l) from rfl, mem_insert, ih, List.mem_cons]

/-- Sorting gives a strictly increasing list. -/
theorem sorted_ofList [Std.TransOrd α] [Std.LawfulEqOrd α] (l : List α) : Sorted (ofList l) := by
  induction l with
  | nil => exact List.Pairwise.nil
  | cons a l ih => exact sorted_insert ih

omit [Ord α] in
/-- The look-up finds what compares equal, if all that precedes an element
not beyond the one sought lies before the one sought. -/
theorem search_iff {cmp : α → Ordering} {l : List α}
    (h : l.Pairwise fun a b => cmp b ≠ .gt → cmp a = .lt) :
    search cmp l = true ↔ ∃ a ∈ l, cmp a = .eq := by
  induction l using WellFounded.induction (measure List.length).wf with
  | _ l ih =>
    rw [search]
    split
    · next hlen =>
      have hhalf : l.length / 2 < l.length := by omega
      have hcut := List.take_append_drop (l.length / 2) l
      have hdrop : l.drop (l.length / 2) = l[l.length / 2] :: l.drop (l.length / 2 + 1) :=
        List.drop_eq_getElem_cons hhalf
      have hpair := h
      rw [← hcut, List.pairwise_append, hdrop, List.pairwise_cons] at hpair
      split
      · next hgt =>
        have hgt : cmp l[l.length / 2] = .gt := by simpa using hgt
        rw [ih (l.take (l.length - l.length / 2))
          (show List.length _ < l.length by rw [List.length_take]; omega)
          (h.sublist (List.take_sublist _ _))]
        constructor
        · rintro ⟨x, hx, hxe⟩
          exact ⟨x, List.mem_of_mem_take hx, hxe⟩
        · rintro ⟨x, hx, hxe⟩
          refine ⟨x, ?_, hxe⟩
          rw [← hcut, List.mem_append, hdrop, List.mem_cons] at hx
          rcases hx with hx | rfl | hx
          · exact List.mem_of_mem_take (i := l.length / 2)
              (by rwa [List.take_take, Nat.min_eq_left (by omega)])
          · simp [hgt] at hxe
          · have := hpair.2.1.1 x hx (by simp [hxe])
            simp [hgt] at this
      · next hgt =>
        have hgt : cmp l[l.length / 2] ≠ .gt := by simpa using hgt
        rw [ih (l.drop (l.length / 2))
          (show List.length _ < l.length by rw [List.length_drop]; omega)
          (h.sublist (List.drop_sublist _ _))]
        constructor
        · rintro ⟨x, hx, hxe⟩
          exact ⟨x, List.mem_of_mem_drop hx, hxe⟩
        · rintro ⟨x, hx, hxe⟩
          refine ⟨x, ?_, hxe⟩
          rw [← hcut, List.mem_append] at hx
          rcases hx with hx | hx
          · have := hpair.2.2 x hx _ (List.mem_cons_self ..) hgt
            simp [hxe] at this
          · exact hx
    · simp

/-- **On a strictly increasing list the look-up decides membership.** -/
theorem contains_iff [Std.TransOrd α] [Std.LawfulEqOrd α] {l : List α} (h : Sorted l) {x : α} :
    contains l x = true ↔ x ∈ l := by
  rw [contains, search_iff]
  · exact ⟨fun ⟨a, ha, hx⟩ => Std.compare_eq_iff_eq.1 hx ▸ ha,
      fun hx => ⟨x, hx, Std.compare_eq_iff_eq.2 rfl⟩⟩
  · refine h.imp fun {a b} hab hbx => ?_
    match hb : compare b x with
    | .gt => exact absurd hb hbx
    | .eq => rwa [← Std.compare_eq_iff_eq.1 hb]
    | .lt => exact Std.TransCmp.lt_trans hab hb

end ContentFilter.SortedList
