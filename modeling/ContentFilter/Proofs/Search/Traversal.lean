import Mathlib.Data.List.Forall2

/-!
# Reading the elements of a list

A list of texts is read by reading one after the other, and the first that
cannot be read ends it. So all of them are read, in order and each as itself,
or else there is a first one that cannot be read, and its fault is that of the
list (`mapM_eq_error_iff`). Whether there is such an element does not depend on
the order (`exists_mapM_eq_ok_iff`); which fault is reported does.
-/

namespace ContentFilter

section Partial

variable {α β : Type} {f : α → Option β}

/-- **What a list is read as**: each element as itself, in order. -/
theorem mapM_eq_some_iff {l : List α} {l' : List β} :
    l.mapM f = some l' ↔ List.Forall₂ (fun a b => f a = some b) l l' := by
  induction l generalizing l' with
  | nil =>
    rw [List.mapM_nil, List.forall₂_nil_left_iff]
    exact Option.some_inj.trans eq_comm
  | cons a l ih =>
    rw [List.mapM_cons, List.forall₂_cons_left_iff]
    constructor
    · intro h
      obtain ⟨b, hb, h⟩ := Option.bind_eq_some_iff.1 h
      obtain ⟨bs, hbs, h⟩ := Option.bind_eq_some_iff.1 h
      cases h
      exact ⟨b, bs, hb, ih.1 hbs, rfl⟩
    · rintro ⟨b, bs, hb, hbs, rfl⟩
      rw [hb, ih.2 hbs]
      rfl

/-- What is in a list that was read, some element was read as. -/
theorem exists_of_mem_mapM {l : List α} {l' : List β} (h : l.mapM f = some l') {b : β}
    (hb : b ∈ l') : ∃ a ∈ l, f a = some b := by
  induction mapM_eq_some_iff.1 h with
  | nil => cases hb
  | @cons a b₀ l bs ha hl ih =>
    rcases List.mem_cons.1 hb with rfl | hb
    · exact ⟨a, List.mem_cons_self, ha⟩
    · obtain ⟨x, hx, hxb⟩ := ih (mapM_eq_some_iff.2 hl) hb
      exact ⟨x, List.mem_cons_of_mem a hx, hxb⟩

/-- **A list cannot be read** if one of its elements cannot. -/
theorem mapM_eq_none_iff {l : List α} : l.mapM f = none ↔ ∃ a ∈ l, f a = none := by
  induction l with
  | nil => exact iff_of_false nofun nofun
  | cons a l ih =>
    rw [List.mapM_cons, List.exists_mem_cons_iff, ← ih]
    cases f a with
    | none => exact iff_of_true rfl (.inl rfl)
    | some b =>
      cases l.mapM f with
      | none => exact iff_of_true rfl (.inr rfl)
      | some bs => exact iff_of_false nofun nofun

end Partial

section Faulty

variable {α β ε : Type} {f : α → Except ε β}

/-- Reading a list is reading its first element and then the others. -/
theorem mapM_cons_eq_ok {a : α} {l : List α} {l' : List β} (h : (a :: l).mapM f = .ok l') :
    ∃ b bs, f a = .ok b ∧ l.mapM f = .ok bs ∧ l' = b :: bs := by
  rw [List.mapM_cons] at h
  cases ha : f a with
  | error e =>
    rw [ha] at h
    cases h
  | ok b =>
    cases hl : l.mapM f with
    | error e =>
      rw [ha, hl] at h
      cases h
    | ok bs =>
      rw [ha, hl] at h
      cases h
      exact ⟨b, bs, rfl, rfl, rfl⟩

/-- **Reading a list in two parts** is reading each of them. -/
theorem mapM_append_eq_ok_iff {l₁ l₂ : List α} {l' : List β} :
    (l₁ ++ l₂).mapM f = .ok l' ↔
      ∃ bs₁ bs₂, l₁.mapM f = .ok bs₁ ∧ l₂.mapM f = .ok bs₂ ∧ l' = bs₁ ++ bs₂ := by
  rw [List.mapM_append]
  cases l₁.mapM f with
  | error e => exact iff_of_false nofun nofun
  | ok bs₁ =>
    cases l₂.mapM f with
    | error e => exact iff_of_false nofun nofun
    | ok bs₂ =>
      constructor
      · intro h
        exact ⟨bs₁, bs₂, rfl, rfl, (Except.ok.inj h).symm⟩
      · rintro ⟨_, _, ⟨rfl⟩, ⟨rfl⟩, rfl⟩
        rfl

/-- **What a list is read as**, if all of it can be read: what each of its
elements is read as. -/
theorem mem_of_mapM_eq_ok {l : List α} {l' : List β} (h : l.mapM f = .ok l') {b : β} :
    b ∈ l' ↔ ∃ a ∈ l, f a = .ok b := by
  induction l generalizing l' with
  | nil =>
    cases h
    simp
  | cons a l ih =>
    obtain ⟨b₀, bs, ha, hl, rfl⟩ := mapM_cons_eq_ok h
    rw [List.mem_cons, ih hl]
    constructor
    · rintro (rfl | ⟨x, hx, hb⟩)
      · exact ⟨a, List.mem_cons_self, ha⟩
      · exact ⟨x, List.mem_cons_of_mem a hx, hb⟩
    · rintro ⟨x, hx, hb⟩
      rcases List.mem_cons.1 hx with rfl | hx
      · rw [ha] at hb
        exact .inl (Except.ok.inj hb).symm
      · exact .inr ⟨x, hx, hb⟩

/-- If a list can be read, each of its elements can. -/
theorem exists_of_mapM_eq_ok {l : List α} {l' : List β} (h : l.mapM f = .ok l') {a : α}
    (ha : a ∈ l) : ∃ b, f a = .ok b := by
  induction l generalizing l' with
  | nil => cases ha
  | cons x l ih =>
    obtain ⟨b, bs, hx, hl, -⟩ := mapM_cons_eq_ok h
    rcases List.mem_cons.1 ha with rfl | ha
    · exact ⟨b, hx⟩
    · exact ih hl ha

/-- **The fault of a list is that of its first element that has one.** -/
theorem mapM_eq_error_iff {l : List α} {e : ε} :
    l.mapM f = .error e ↔
      ∃ before a after, l = before ++ a :: after ∧ (∀ b ∈ before, ∃ r, f b = .ok r) ∧
        f a = .error e := by
  induction l with
  | nil =>
    refine iff_of_false nofun ?_
    rintro ⟨before, a, after, h, -⟩
    exact List.append_ne_nil_of_right_ne_nil before (List.cons_ne_nil a after) h.symm
  | cons x l ih =>
    rw [List.mapM_cons]
    constructor
    · intro h
      cases hx : f x with
      | error e' =>
        rw [hx] at h
        cases h
        exact ⟨[], x, l, rfl, nofun, hx⟩
      | ok r =>
        cases hl : l.mapM f with
        | ok rs =>
          rw [hx, hl] at h
          cases h
        | error e' =>
          rw [hx, hl] at h
          cases h
          obtain ⟨before, a, after, rfl, hbefore, ha⟩ := ih.1 hl
          exact ⟨x :: before, a, after, rfl, List.forall_mem_cons.2 ⟨⟨r, hx⟩, hbefore⟩, ha⟩
    · rintro ⟨before, a, after, hl, hbefore, ha⟩
      cases before with
      | nil =>
        obtain ⟨rfl, rfl⟩ := List.cons.inj hl
        rw [ha]
        rfl
      | cons b before =>
        obtain ⟨rfl, rfl⟩ := List.cons.inj hl
        obtain ⟨⟨r, hx⟩, hbefore⟩ := List.forall_mem_cons.1 hbefore
        rw [hx, ih.2 ⟨before, a, after, rfl, hbefore, ha⟩]
        rfl

/-- **A list can be read exactly if each of its elements can.** -/
theorem exists_mapM_eq_ok_iff {l : List α} :
    (∃ l', l.mapM f = .ok l') ↔ ∀ a ∈ l, ∃ b, f a = .ok b := by
  constructor
  · rintro ⟨l', h⟩ a ha
    exact exists_of_mapM_eq_ok h ha
  · intro all
    cases h : l.mapM f with
    | ok l' => exact ⟨l', rfl⟩
    | error e =>
      obtain ⟨before, a, after, rfl, -, ha⟩ := mapM_eq_error_iff.1 h
      obtain ⟨b, hb⟩ := all a (List.mem_append_right before List.mem_cons_self)
      rw [ha] at hb
      cases hb

end Faulty

end ContentFilter
