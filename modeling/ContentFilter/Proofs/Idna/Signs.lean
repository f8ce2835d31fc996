import ContentFilter.Proofs.Idna.Ascii
import ContentFilter.Proofs.Search.Traversal
import ContentFilter.Proofs.Text.Lines

/-!
# Signs in the ASCII form of a hostname

Labels are written anew on the way to the ASCII form of a hostname: their
Punycode is read, and what is beyond ASCII is written as Punycode. Other letters
and digits come of this, and other hyphens, but nothing else does. The signs of a
label are copied in order both ways (`signs_of_readLabel?`,
`signs_writeLabel`), since Punycode puts what it copies in front and spells the
rest with letters and digits.

So the ASCII form has the signs that the hostname has when its characters have
been mapped and composed, dots among them, and it starts and ends with a dot if
the hostname then does (`exists_hasSignsOf_of_toAscii?`). What the mapping does
to the signs is another matter: it makes signs of characters that were none, and
drops characters between them.
-/

namespace ContentFilter.Idna

open Text (isSign signs signs_append signs_eq_nil isSign_of_isAlphanumeric
  isSign_of_not_isAsciiChar isAlphanumeric_of_isLower HasSignsOf)

/-- Inserting what is no sign keeps the signs. -/
theorem signs_insertIdx {c : Char} (hc : isSign c = false) (n : Nat) (t : Text) :
    signs (t.insertIdx n c) = signs t := by
  unfold signs
  induction t generalizing n with
  | nil =>
    cases n with
    | zero => rw [List.insertIdx_zero, List.filter_cons_of_neg (by simp [hc])]
    | succ n => rfl
  | cons d t ih =>
    cases n with
    | zero => rw [List.insertIdx_zero, List.filter_cons_of_neg (by simp [hc])]
    | succ n => rw [List.insertIdx_succ_cons, List.filter_cons, List.filter_cons, ih n]

namespace Punycode

/-- **The Punycode of a label has its signs.** -/
theorem signs_encode (label : Text) : signs (encode label) = signs label := by
  obtain ⟨hyphen, digits, heq, hhyphen, hdigits⟩ := exists_encode_eq label
  have copied : signs (label.filter Text.isAsciiChar) = signs label := by
    unfold signs
    rw [List.filter_filter]
    refine List.filter_congr fun c _ => ?_
    cases h : Text.isAsciiChar c with
    | true => rw [Bool.and_true]
    | false => rw [isSign_of_not_isAsciiChar h, Bool.and_false]
  rw [heq, signs_append, signs_append, copied,
    signs_eq_nil fun c hc => hhyphen c hc ▸ rfl,
    signs_eq_nil fun c hc => isSign_of_isAlphanumeric (hdigits c hc).isAlphanumeric.1,
    List.append_nil, List.append_nil]

/-- What has the value of a digit is a letter or a digit. -/
theorem isAlphanumeric_of_digitValue? {c : Char} {d : Nat} (h : digitValue? c = some d) :
    Text.isAlphanumeric c = true := by
  unfold digitValue? at h
  split at h
  · next hletter => exact isAlphanumeric_of_isLower hletter
  · split at h
    · next hdigit => exact Bool.or_eq_true_iff.2 (.inr hdigit)
    · cases h

/-- **A number takes letters and digits off a text.** -/
theorem signs_of_readNumber? {bias position weight i j : Nat} {t rest : Text}
    (h : readNumber? bias position weight i t = some (j, rest)) : signs t = signs rest := by
  induction t generalizing position weight i with
  | nil => cases h
  | cons c t ih =>
    rw [readNumber?] at h
    cases hdigit : digitValue? c with
    | none =>
      rw [hdigit] at h
      cases h
    | some d =>
      have hc := isSign_of_isAlphanumeric (isAlphanumeric_of_digitValue? hdigit)
      rw [signs, List.filter_cons_of_neg (by simp [hc]), ← signs]
      rw [hdigit] at h
      simp only at h
      split at h
      · cases h
      · split at h
        · cases h
          rfl
        · split at h
          · cases h
          · exact ih h

/-- The character of a code point beyond ASCII is no sign. -/
theorem isSign_of_charOf? {n : Nat} {c : Char} (h : charOf? n = some c) (hn : 0x80 ≤ n) :
    isSign c = false := by
  unfold charOf? at h
  by_cases valid : n.isValidChar
  · rw [dif_pos valid] at h
    cases h
    exact isSign_of_not_isAsciiChar
      (decide_eq_false fun hlt => Nat.not_lt_of_le hn (UInt32.lt_iff_toNat_lt.1 hlt))
  · rw [dif_neg valid] at h
    cases h

/-- **Inserting characters beyond ASCII** keeps the signs of a label, and the
text that tells where has none. -/
theorem signs_of_insertAll? {n i bias : Nat} {label t label' : Text} (hn : 0x80 ≤ n)
    (h : insertAll? n i bias label t = some label') :
    signs label' = signs label ∧ signs t = [] := by
  fun_induction insertAll? n i bias label t with
  | case1 =>
    cases h
    exact ⟨rfl, rfl⟩
  | case2 => cases h
  | case3 => cases h
  | case4 n i bias label t _ j rest hnumber count m c hc ih =>
    have hm : 0x80 ≤ m := Nat.le_trans hn (Nat.le_add_right n _)
    obtain ⟨hlabel, hrest⟩ := ih hm h
    rw [signs_insertIdx (isSign_of_charOf? hc hm)] at hlabel
    exact ⟨hlabel, (signs_of_readNumber? hnumber).trans hrest⟩

/-- **What is read as Punycode has its signs.** -/
theorem signs_of_decode? {t label : Text} (h : decode? t = some label) :
    signs label = signs t := by
  unfold decode? at h
  split at h
  · next basic digits hsplit =>
    split at h
    · cases h
    · obtain ⟨hlabel, hdigits⟩ := signs_of_insertAll? (Nat.le_refl _) h
      rw [(Search.splitLast?_eq_some.1 hsplit).1, signs_append, hlabel,
        show signs ('-' :: digits) = signs digits from rfl, hdigits, List.append_nil]
  · obtain ⟨hlabel, hdigits⟩ := signs_of_insertAll? (Nat.le_refl _) h
    rw [hlabel, hdigits]
    rfl

end Punycode

/-! ## Labels -/

/-- A label that is decoded is what its Punycode stands for, not ASCII, and made of
characters that stand for themselves. -/
theorem decode?_of_decodeLabel? {punycode label : Text} (h : decodeLabel? punycode = some label) :
    Punycode.decode? punycode = some label ∧ Text.isAscii label = false ∧
      label.all isMapped = true := by
  unfold decodeLabel? at h
  dsimp only at h
  split at h
  · obtain ⟨label', hdecoded, h⟩ := Option.bind_eq_some_iff.1 h
    obtain ⟨accepted, h⟩ := Option.ite_none_left_eq_some.1 h
    cases h
    simp only [Bool.or_eq_true, not_or, Bool.not_eq_true, Bool.not_eq_false'] at accepted
    exact ⟨hdecoded, accepted.1.1, accepted.1.2⟩
  · cases h

/-- **A label that is read has the signs of what it is read from.** -/
theorem signs_of_readLabel? {piece label : Text} (h : readLabel? piece = some label) :
    signs label = signs piece ∧ (label = [] ↔ piece = []) := by
  unfold readLabel? at h
  split at h
  · next punycode hmark =>
    obtain rfl := Search.dropStart?_eq_some.1 hmark
    obtain ⟨hdecoded, beyond, -⟩ := decode?_of_decodeLabel? h
    refine ⟨?_, iff_of_false ?_ ?_⟩
    · rw [Punycode.signs_of_decode? hdecoded, signs_append]
      rfl
    · rintro rfl
      cases beyond
    · exact List.append_ne_nil_of_left_ne_nil (List.cons_ne_nil _ _) _
  · cases h
    exact ⟨rfl, Iff.rfl⟩

/-- **A label that is written has its signs.** -/
theorem signs_writeLabel (label : Text) :
    signs (writeLabel label) = signs label ∧ (writeLabel label = [] ↔ label = []) := by
  unfold writeLabel
  split
  · exact ⟨rfl, Iff.rfl⟩
  · next beyond =>
    refine ⟨?_, iff_of_false ?_ ?_⟩
    · rw [signs_append, Punycode.signs_encode]
      rfl
    · exact List.append_ne_nil_of_left_ne_nil (List.cons_ne_nil _ _) _
    · rintro rfl
      exact beyond rfl

/-- **Labels are joined to a text with the signs of what their originals are
joined to.** -/
theorem hasSignsOf_join {written pieces : List Text}
    (h : List.Forall₂ (fun w p => signs w = signs p ∧ (w = [] ↔ p = [])) written pieces)
    (hdot : ∀ piece ∈ pieces, '.' ∉ piece) :
    HasSignsOf (Text.join ['.'] written) (Text.join ['.'] pieces) := by
  unfold Text.join
  induction h with
  | nil => exact ⟨rfl, Iff.rfl, Iff.rfl, Iff.rfl⟩
  | @cons w p ws ps hsame htail ih =>
    rw [List.forall_mem_cons] at hdot
    have hlabel := HasSignsOf.of_notMem hdot.1 hsame.1 hsame.2
    cases htail with
    | nil =>
      rw [List.intercalate_singleton, List.intercalate_singleton]
      exact hlabel
    | cons =>
      rw [List.intercalate_cons_cons, List.intercalate_cons_cons]
      exact (hlabel.append (.refl ['.'])).append (ih hdot.2)

/-- **The ASCII form of a hostname** has the signs of its mapped and composed
characters. -/
theorem exists_hasSignsOf_of_toAscii? {hostname name : Text} (h : toAscii? hostname = some name) :
    ∃ mapped, map? hostname = some mapped ∧ HasSignsOf name (Unicode.composed mapped) := by
  unfold toAscii? at h
  obtain ⟨mapped, hmapped, h⟩ := Option.bind_eq_some_iff.1 h
  obtain ⟨labels, hlabels, h⟩ := Option.bind_eq_some_iff.1 h
  refine ⟨mapped, hmapped, ?_⟩
  generalize Unicode.composed mapped = t at hlabels
  split at h
  · cases h
    have hdot : ∀ piece ∈ t.splitOn '.', '.' ∉ piece := fun piece hpiece hmem =>
      (Text.exists_mem_splitOn_iff.1 ⟨piece, hpiece, hmem⟩).2 rfl
    have written : List.Forall₂ (fun w p => signs w = signs p ∧ (w = [] ↔ p = []))
        (labels.map writeLabel) (t.splitOn '.') := by
      rw [List.forall₂_map_left_iff]
      refine .flip ((mapM_eq_some_iff.1 hlabels).imp fun piece label hread => ?_)
      obtain ⟨hsigns, hnil⟩ := signs_of_readLabel? hread
      obtain ⟨hsigns', hnil'⟩ := signs_writeLabel label
      exact ⟨hsigns'.trans hsigns, hnil'.trans hnil⟩
    have joined := hasSignsOf_join written hdot
    rwa [Text.join, Text.join, List.intercalate_splitOn] at joined
  · cases h

/-- **The service in use** prepares hostnames by mapping and composing them. -/
instance : IdnaService.Prepares where
  prepare? hostname := (map? hostname).map Unicode.composed
  exists_hasSignsOf h := by
    obtain ⟨mapped, hmapped, signs⟩ := exists_hasSignsOf_of_toAscii? h
    exact ⟨_, congrArg (Option.map Unicode.composed) hmapped, signs⟩

end ContentFilter.Idna
