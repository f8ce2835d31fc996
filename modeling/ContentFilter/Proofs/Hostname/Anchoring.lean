import ContentFilter.Network.Matching
import ContentFilter.Proofs.Search.Occurrence
import ContentFilter.Proofs.Text.Encoding

/-!
# Where a hostname is anchored

A rule behind `||` asks for its hostname at a label of the hostname of the
request: at its start, or right behind a dot. The search for it goes through
bytes, but a text is found in another one as bytes exactly where it is found
as characters (`Text.isFirstAt_utf8_iff`), so the answer is about characters
and labels (`isAnchoredBy_iff`).

Only the first occurrence decides. What follows it is not asked for: the
hostname of a rule may end in the middle of a label of the request's hostname,
or be followed by further labels.
-/

namespace ContentFilter

namespace Text

/-- A text with more characters in front takes more bytes in front. -/
theorem byteLength_lt_of_prefix {a b : Text} (h : a <+: b) (hlen : a.length < b.length) :
    byteLength a < byteLength b := by
  obtain ⟨r, rfl⟩ := h
  cases r with
  | nil => simp at hlen
  | cons c r =>
    rw [byteLength_append]
    exact Nat.lt_add_of_pos_right (Nat.add_pos_left c.utf8Size_pos _)

/-- Of two texts before occurrences, the one with fewer characters has fewer
bytes. -/
theorem byteLength_lt_iff {a b p r s : Text} (h : a ++ p ++ r = b ++ p ++ s) :
    byteLength a < byteLength b ↔ a.length < b.length := by
  have ha : a <+: a ++ p ++ r := ⟨p ++ r, (List.append_assoc ..).symm⟩
  have hb : b <+: a ++ p ++ r := ⟨p ++ s, (List.append_assoc ..).symm.trans h.symm⟩
  constructor
  · intro hlt
    refine Nat.lt_of_not_le fun hle => ?_
    obtain ⟨t, rfl⟩ := List.prefix_of_prefix_length_le hb ha hle
    rw [byteLength_append] at hlt
    omega
  · intro hlen
    exact byteLength_lt_of_prefix (List.prefix_of_prefix_length_le ha hb (Nat.le_of_lt hlen)) hlen

/-- A text occurs as bytes where it occurs as characters. -/
theorem occursAt_utf8_iff {p t : Text} (hp : p ≠ []) {n : Nat} :
    Search.OccursAt p.utf8 n t.utf8 ↔
      ∃ before after, t = before ++ p ++ after ∧ byteLength before = n := by
  constructor
  · rintro ⟨a, b, hcut, hn⟩
    obtain ⟨before, after, ht, rfl, -⟩ := (utf8_eq_append_append hp).1 hcut
    exact ⟨before, after, ht, by rw [← length_utf8, hn]⟩
  · rintro ⟨before, after, rfl, rfl⟩
    exact ⟨before.utf8, after.utf8, by rw [utf8_append, utf8_append], length_utf8 before⟩

/-- **A text occurs first as bytes where it occurs first as characters.** -/
theorem isFirstAt_utf8_iff {p t : Text} (hp : p ≠ []) {n : Nat} :
    Search.IsFirstAt p.utf8 n t.utf8 ↔
      ∃ before after, t = before ++ p ++ after ∧ byteLength before = n ∧
        Search.IsFirstAt p before.length t := by
  constructor
  · rintro ⟨hocc, hfirst⟩
    obtain ⟨before, after, ht, rfl⟩ := (occursAt_utf8_iff hp).1 hocc
    refine ⟨before, after, ht, rfl, ⟨before, after, ht, rfl⟩, ?_⟩
    -- an earlier occurrence of the characters is one of the bytes
    rintro m hm ⟨l, r, hcut, rfl⟩
    exact hfirst _ ((byteLength_lt_iff (hcut.symm.trans ht)).2 hm)
      ((occursAt_utf8_iff hp).2 ⟨l, r, hcut, rfl⟩)
  · rintro ⟨before, after, ht, rfl, -, hfirst⟩
    refine ⟨(occursAt_utf8_iff hp).2 ⟨before, after, ht, rfl⟩, fun m hm hocc => ?_⟩
    obtain ⟨l, r, hcut, rfl⟩ := (occursAt_utf8_iff hp).1 hocc
    exact hfirst _ ((byteLength_lt_iff (hcut.symm.trans ht)).1 hm) ⟨l, r, hcut, rfl⟩

/-- What occurs first as bytes occurs first as characters, also if it is empty. -/
theorem exists_of_isFirstAt_utf8 {p t : Text} {n : Nat} (h : Search.IsFirstAt p.utf8 n t.utf8) :
    ∃ before after, t = before ++ p ++ after ∧ byteLength before = n ∧
      Search.IsFirstAt p before.length t := by
  by_cases hp : p = []
  · subst hp
    obtain rfl := (Search.isFirstAt_nil t.utf8).eq h
    exact ⟨[], t, rfl, rfl, Search.isFirstAt_nil t⟩
  · exact (isFirstAt_utf8_iff hp).1 h

/-- **The last byte of a text is a dot exactly if its last character is.** -/
theorem getElem?_utf8_dot_iff {before after : Text} {n : Nat} (h : byteLength before = n + 1) :
    (utf8 (before ++ after))[n]? = some '.'.val.toUInt8 ↔ before.getLast? = some '.' := by
  have hlt : n < (utf8 before).length := by rw [length_utf8, h]; exact Nat.lt_succ_self n
  rw [utf8_append, List.getElem?_append_left hlt]
  rcases List.eq_nil_or_concat before with rfl | ⟨l, c, rfl⟩
  · cases h
  · have hc : byteLength [c] = c.utf8Size := rfl
    have hpos := c.utf8Size_pos
    rw [List.concat_eq_append] at h ⊢
    rw [List.getLast?_concat, Option.some.injEq]
    rw [byteLength_append, hc] at h
    rw [utf8_append, List.getElem?_append_right (by rw [length_utf8]; omega), length_utf8]
    constructor
    · intro hdot
      -- a dot among the bytes of the last character is that character
      have hmem : '.'.val.toUInt8 ∈ utf8 [c] := List.mem_of_getElem? hdot
      exact (List.mem_singleton.1 ((toUInt8_mem_utf8 rfl).1 hmem)).symm
    · rintro rfl
      have hn : n - byteLength l = 0 := by
        rw [show '.'.utf8Size = 1 from rfl] at h
        omega
      rw [hn]
      rfl

end Text

/-- **A label starts behind a text**: the text is empty or ends with a dot. -/
def Hostname.LabelStartsBehind (before : Text) : Prop :=
  before = [] ∨ before.getLast? = some '.'

/-- **A hostname is anchored by a name exactly if the first occurrence of the
name starts at a label.** -/
theorem isAnchoredBy_iff {name hostname : Text} :
    isAnchoredBy name hostname = true ↔
      ∃ before after, hostname = before ++ name ++ after ∧
        Search.IsFirstAt name before.length hostname ∧ Hostname.LabelStartsBehind before := by
  by_cases hname : name = []
  · subst hname
    exact iff_of_true rfl ⟨[], hostname, rfl, Search.isFirstAt_nil hostname, .inl rfl⟩
  unfold isAnchoredBy
  rw [decide_eq_false hname, Bool.false_or]
  cases hfound : Search.firstIndex? name.utf8 hostname.utf8 with
  | none =>
    refine iff_of_false Bool.false_ne_true ?_
    rintro ⟨before, after, hcut, hfirst, -⟩
    have hbytes := (Text.isFirstAt_utf8_iff hname).2 ⟨before, after, hcut, rfl, hfirst⟩
    rw [Search.firstIndex?_eq_some_iff.2 hbytes] at hfound
    cases hfound
  | some n =>
    obtain ⟨before, after, hcut, hn, hfirst⟩ :=
      (Text.isFirstAt_utf8_iff hname).1 (Search.firstIndex?_eq_some_iff.1 hfound)
    -- the first occurrence is the only one to look at
    have hlabel : (∃ b a, hostname = b ++ name ++ a ∧ Search.IsFirstAt name b.length hostname ∧
        Hostname.LabelStartsBehind b) ↔ Hostname.LabelStartsBehind before := by
      constructor
      · rintro ⟨b, a, hcut', hfirst', hstarts⟩
        have hb : b = before := (List.append_inj (by simpa using hcut'.symm.trans hcut)
          (hfirst'.eq hfirst)).1
        exact hb ▸ hstarts
      · intro hstarts
        exact ⟨before, after, hcut, hfirst, hstarts⟩
    rw [hlabel, Hostname.LabelStartsBehind]
    cases n with
    | zero =>
      have hnil : before = [] := by
        cases before with
        | nil => rfl
        | cons c t =>
          have hpos : 0 < Text.byteLength (c :: t) := Nat.add_pos_left c.utf8Size_pos _
          exact absurd hn (Nat.ne_of_gt hpos)
      exact iff_of_true rfl (.inl hnil)
    | succ n =>
      have hne : before ≠ [] := by
        rintro rfl
        cases hn
      rw [or_iff_right hne, ← Text.getElem?_utf8_dot_iff hn, hcut, List.append_assoc]
      exact decide_eq_true_iff

end ContentFilter
