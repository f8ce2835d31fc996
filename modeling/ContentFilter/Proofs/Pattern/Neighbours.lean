import ContentFilter.Proofs.Pattern.Reading

/-!
# What stands next to a part of a pattern

A part of a pattern without wildcards and separators is read as itself, so it stands in
every text the pattern is found in. Next to it stands what the pattern says there:
a character other than `*` and `^` stands for itself, and a `^` for a separating
character or for the end of the text (`Pattern.StandsFor`). Nothing is known next to
a `*`, and at an end of the pattern only if it is anchored there.

This is about characters, although patterns are read byte by byte: a part is found in
a text where its bytes are, and all separating characters are of ASCII.
-/

namespace ContentFilter.Pattern

variable {p before w after url : Text} {c d : Char} {taken rest : List UInt8}
  {fromStart toEnd : Bool}

/-- **What a character of a pattern stands for**: itself, and a `^` for any separating
character. -/
def StandsFor (c d : Char) : Prop :=
  d = c ∨ c = '^' ∧ d ∈ separators

/-- A separating byte is the one of a separating character. -/
theorem exists_mem_separators {b : UInt8} (h : isSeparator b = true) :
    ∃ d ∈ separators, Text.utf8 [d] = [b] := by
  obtain ⟨d, hd, hb⟩ := List.mem_flatMap.1 (List.contains_iff_mem.1 h)
  have ascii : separators.all Text.isAsciiChar = true := by decide
  have single := Text.utf8EncodeChar_of_isAsciiChar (List.all_eq_true.1 ascii d hd)
  rw [single, List.mem_singleton] at hb
  exact ⟨d, hd, by rw [Text.utf8_cons, single, hb]; rfl⟩

/-- **A text without wildcards and separators reads as itself.** -/
theorem reads_of_isPlain (hp : isPlain p = true) (h : Reads (Text.utf8 p) taken rest) :
    taken = Text.utf8 p := by
  have lacks := isPlain_iff.1 hp
  have star : 0x2A ∉ Text.utf8 p := mt (Text.toUInt8_mem_utf8 (c := '*') rfl).1 lacks.1
  have caret : 0x5E ∉ Text.utf8 p := mt (Text.toUInt8_mem_utf8 (c := '^') rfl).1 lacks.2
  generalize Text.utf8 p = bytes at h star caret
  induction h with
  | nil => rfl
  | byte _ _ _ ih =>
    rw [List.mem_cons, not_or] at star caret
    rw [ih star.2 caret.2]
  | wildcard => exact absurd List.mem_cons_self star
  | separator | atEnd => exact absurd List.mem_cons_self caret

/-- **A character that is no wildcard** reads as one it stands for, or as the end. -/
theorem reads_singleton (hc : c ≠ '*') (h : Reads (Text.utf8 [c]) taken rest) :
    (∃ d, StandsFor c d ∧ taken = Text.utf8 [d]) ∨ c = '^' ∧ taken = [] ∧ rest = [] := by
  by_cases hcaret : c = '^'
  · subst hcaret
    have bytes : Text.utf8 ['^'] = [0x5E] := rfl
    rw [bytes] at h
    cases h with
    | byte _ hs => exact absurd rfl hs
    | @separator b _ taken _ hb tail =>
      cases tail
      obtain ⟨d, hd, hbyte⟩ := exists_mem_separators hb
      exact .inl ⟨d, .inr ⟨rfl, hd⟩, hbyte.symm⟩
    | atEnd => exact .inr ⟨rfl, rfl, rfl⟩
  · have plain : isPlain [c] = true := isPlain_iff.2
      ⟨fun hmem => hc (List.mem_singleton.1 hmem).symm,
        fun hmem => hcaret (List.mem_singleton.1 hmem).symm⟩
    exact .inl ⟨c, .inl rfl, reads_of_isPlain plain h⟩

/-- What stands for a character that is no letter or digit is none. -/
theorem StandsFor.isAlphanumeric_eq_false (h : StandsFor c d) (hc : Text.isAlphanumeric c = false) :
    Text.isAlphanumeric d = false := by
  have separating : separators.all (fun d => !Text.isAlphanumeric d) = true := by decide
  rcases h with rfl | ⟨-, hd⟩
  · exact hc
  · simpa using List.all_eq_true.1 separating d hd

/-! ## Found in a text -/

/-- The empty pattern is found between both ends of the empty text only. -/
theorem eq_nil_of_matches_nil (h : Matches [] true true (Text.utf8 url)) : url = [] := by
  obtain ⟨before, taken, after, ht, hr, hstart, hend⟩ := h
  cases hr
  rw [hstart rfl, hend rfl] at ht
  exact Text.utf8_eq_nil_iff.1 ht

/-- **Where a pattern starts** with something else than a wildcard, the text starts with
what that stands for. -/
theorem Matches.head_standsFor (h : Matches p true toEnd (Text.utf8 url)) (hp : p.head? = some c)
    (hc : c ≠ '*') : (∃ d, StandsFor c d ∧ url.head? = some d) ∨ c = '^' ∧ url = [] := by
  obtain ⟨before, taken, after, ht, hr, hstart, -⟩ := h
  obtain ⟨p, rfl⟩ := List.head?_eq_some_iff.1 hp
  obtain ⟨first, others, rfl, hfirst, -⟩ :=
    reads_append.1 (show Reads (Text.utf8 [c] ++ Text.utf8 p) taken after by
      rwa [← Text.utf8_append])
  rw [hstart rfl, List.nil_append, List.append_assoc] at ht
  rcases reads_singleton hc hfirst with ⟨d, hd, rfl⟩ | ⟨hcaret, rfl, hrest⟩
  · obtain ⟨behind, rfl, -⟩ := Text.utf8_eq_append.1 ht
    exact .inl ⟨d, hd, rfl⟩
  · rw [hrest] at ht
    exact .inr ⟨hcaret, Text.utf8_eq_nil_iff.1 ht⟩

/-- **Where a pattern ends before more of it** with something else than a wildcard, what
is taken by it ends with what that stands for. -/
theorem Reads.getLast_standsFor (h : Reads (Text.utf8 p) taken rest) (hrest : rest ≠ [])
    (hp : p.getLast? = some c) (hc : c ≠ '*') :
    ∃ d others, StandsFor c d ∧ taken = others ++ Text.utf8 [d] := by
  obtain ⟨p, rfl⟩ := List.getLast?_eq_some_iff.1 hp
  rw [Text.utf8_append] at h
  obtain ⟨others, last, rfl, -, hlast⟩ := reads_append.1 h
  rcases reads_singleton hc hlast with ⟨d, hd, rfl⟩ | ⟨-, -, hnil⟩
  · exact ⟨d, others, hd, rfl⟩
  · exact absurd hnil hrest

/-- **A plain part of a pattern stands in every text the pattern is found in.** Before
it stands what the pattern says there, and what follows it in the pattern is found
right behind it. -/
theorem Matches.exists_part (hne : w ≠ []) (hw : isPlain w = true)
    (h : Matches (before ++ w ++ after) fromStart toEnd (Text.utf8 url)) :
    ∃ l r, url = l ++ w ++ r ∧ (before = [] → fromStart = true → l = []) ∧
      (∀ c, before.getLast? = some c → c ≠ '*' → ∃ d, StandsFor c d ∧ l.getLast? = some d) ∧
      Matches after true toEnd (Text.utf8 r) := by
  obtain ⟨start, taken, stop, ht, hreads, hstart, hend⟩ := h
  rw [Text.utf8_append, Text.utf8_append] at hreads
  obtain ⟨front, behind, rfl, hfront, hbehind⟩ := reads_append.1 hreads
  obtain ⟨front, word, rfl, hbefore, hword⟩ := reads_append.1 hfront
  obtain rfl := reads_of_isPlain hw hword
  obtain ⟨l, r, rfl, hl, hr⟩ := (Text.utf8_eq_append_append hne).1
    (show Text.utf8 url = (start ++ front) ++ Text.utf8 w ++ (behind ++ stop) by simpa using ht)
  refine ⟨l, r, rfl, fun hnil hanchored => ?_, fun c hlast hc => ?_,
    ⟨[], behind, stop, hr.symm, hbehind, fun _ => rfl, hend⟩⟩
  · rw [hnil] at hbefore
    cases hbefore
    rw [hstart hanchored] at hl
    exact Text.utf8_eq_nil_iff.1 hl.symm
  · have more : Text.utf8 w ++ (behind ++ stop) ≠ [] := fun hnil =>
      hne (Text.utf8_eq_nil_iff.1 (List.append_eq_nil_iff.1 hnil).1)
    obtain ⟨d, others, hd, rfl⟩ := hbefore.getLast_standsFor more hlast hc
    obtain ⟨l, end', rfl, -, hnil⟩ := (Text.utf8_eq_append_append (List.cons_ne_nil d [])).1
      (show Text.utf8 l = (start ++ others) ++ Text.utf8 [d] ++ [] by simpa using hl.symm)
    rw [Text.utf8_eq_nil_iff.1 hnil.symm, List.append_nil]
    exact ⟨d, hd, List.getLast?_concat ..⟩

end ContentFilter.Pattern
