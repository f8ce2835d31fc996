import ContentFilter.Expression.Rows
import ContentFilter.Proofs.Expression.Engine

/-!
# Rows decide what is found

The engine that goes by rows is faithful (`Engine.isFaithful_byRows`).

A row decides a property of places if its entries say where the property holds
(`Row.Decides`). The invariant of the run is about what is still to come: if the
row behind an expression decides `P`, the row in front of it decides whether the
expression matches a part that leads to a place with `P` (`Expression.LeadsTo`).
It is proved along the expression (`Expression.decides_row`), with one lemma for
each way of making a row.
-/

namespace ContentFilter

namespace Expression

/-- A property of places in a text: what stands before them and what follows. -/
abbrev PlaceProperty := (before text : List UInt8) → Prop

/-- **An expression leads to a place with a property** if it matches a part that
ends at one. -/
def LeadsTo (e : Expression) (P : PlaceProperty) : PlaceProperty := fun before text =>
  ∃ taken after, text = taken ++ after ∧ e.Matches before taken after ∧ P (before ++ taken) after

namespace Row

/-- **Whether a row says of every place of a text** behind others whether it has a
property. -/
def Decides (P : PlaceProperty) : (before text : List UInt8) → Row → Prop
  | before, [], r => ∃ b, r = [b] ∧ (b = true ↔ P before [])
  | before, x :: text, r =>
    ∃ b tail, r = b :: tail ∧ (b = true ↔ P before (x :: text)) ∧
      Decides P (before ++ [x]) text tail

variable {P Q : PlaceProperty} {before text : List UInt8} {x : UInt8} {r s : Row}

/-- A row that decides says at its start whether the place there has the property. -/
theorem Decides.here_iff (h : Decides P before text r) : here r = true ↔ P before text := by
  cases text with
  | nil =>
    obtain ⟨b, rfl, hb⟩ := h
    exact hb
  | cons x text =>
    obtain ⟨b, tail, rfl, hb, -⟩ := h
    exact hb

/-- The tail of a row decides about the later places. -/
theorem Decides.tail (h : Decides P before (x :: text) r) :
    Decides P (before ++ [x]) text (List.tail r) := by
  obtain ⟨b, tail, rfl, -, ht⟩ := h
  exact ht

/-- One property may be put for another that holds of the same places. -/
theorem Decides.congr (h : Decides P before text r) (same : ∀ b t, P b t ↔ Q b t) :
    Decides Q before text r := by
  induction text generalizing before r with
  | nil =>
    obtain ⟨b, rfl, hb⟩ := h
    exact ⟨b, rfl, hb.trans (same ..)⟩
  | cons x text ih =>
    obtain ⟨b, tail, rfl, hb, ht⟩ := h
    exact ⟨b, tail, rfl, hb.trans (same ..), ih ht⟩

/-- **A row that decides has a true entry** if some place has the property. -/
theorem Decides.any_iff (h : Decides P before text r) :
    r.any id = true ↔ ∃ passed rest, text = passed ++ rest ∧ P (before ++ passed) rest := by
  induction text generalizing before r with
  | nil =>
    obtain ⟨b, rfl, hb⟩ := h
    simp only [List.any_cons, id_eq, List.any_nil, Bool.or_false, hb, List.nil_eq_append_iff]
    constructor
    · exact fun h => ⟨[], [], ⟨rfl, rfl⟩, by rwa [List.append_nil]⟩
    · rintro ⟨_, _, ⟨rfl, rfl⟩, h⟩
      rwa [List.append_nil] at h
  | cons x text ih =>
    obtain ⟨b, tail, rfl, hb, ht⟩ := h
    simp only [List.any_cons, id_eq, Bool.or_eq_true, hb, ih ht]
    constructor
    · rintro (h | ⟨passed, rest, rfl, h⟩)
      · exact ⟨[], x :: text, rfl, by rwa [List.append_nil]⟩
      · exact ⟨x :: passed, rest, rfl, by rwa [List.append_assoc] at h⟩
    · rintro ⟨passed, rest, ht, h⟩
      cases passed with
      | nil =>
        rw [List.append_nil] at h
        exact .inl (ht ▸ h)
      | cons y passed =>
        obtain ⟨rfl, rfl⟩ := List.cons.inj ht
        exact .inr ⟨passed, rest, rfl, by rwa [List.append_assoc]⟩

/-! ## Making rows -/

/-- Every place has the property that nothing is asked for. -/
theorem decides_replicate (before text : List UInt8) :
    Decides (fun _ _ => True) before text (List.replicate (text.length + 1) true) := by
  induction text generalizing before with
  | nil => exact ⟨true, rfl, by simp⟩
  | cons x text ih => exact ⟨true, _, rfl, by simp, ih _⟩

/-- The row in front of a byte. -/
theorem Decides.ofByte (h : Decides P before text r) (asked : UInt8 → Bool) :
    Decides (fun before text => ∃ b after, text = b :: after ∧ asked b = true ∧
      P (before ++ [b]) after) before text (Row.ofByte asked text r) := by
  induction text generalizing before r with
  | nil => exact ⟨false, rfl, by simp⟩
  | cons x text ih =>
    refine ⟨_, _, rfl, ?_, ih h.tail⟩
    rw [Bool.and_eq_true, h.tail.here_iff]
    constructor
    · rintro ⟨hx, hP⟩
      exact ⟨x, text, rfl, hx, hP⟩
    · rintro ⟨b, after, ht, hb, hP⟩
      obtain ⟨rfl, rfl⟩ := List.cons.inj ht
      exact ⟨hb, hP⟩

/-- The row in front of what asks for a single byte. -/
theorem Decides.leadsTo_of_askedByte? (h : Decides P before text r) {e : Expression}
    {asked : UInt8 → Bool} (hasked : e.askedByte? = some asked) :
    Decides (e.LeadsTo P) before text (Row.ofByte asked text r) := by
  refine (h.ofByte asked).congr fun before text => ?_
  simp only [LeadsTo, matches_iff_of_askedByte? hasked]
  constructor
  · rintro ⟨b, after, rfl, hb, hP⟩
    exact ⟨[b], after, rfl, ⟨b, hb, rfl⟩, hP⟩
  · rintro ⟨_, after, rfl, ⟨b, hb, rfl⟩, hP⟩
    exact ⟨b, after, rfl, hb, hP⟩

/-- The row in front of some bytes. -/
theorem Decides.ofBytes (h : Decides P before text r) (bytes : List UInt8) :
    Decides (fun before text => ∃ after, text = bytes ++ after ∧ P (before ++ bytes) after)
      before text (Row.ofBytes bytes text r) := by
  induction bytes with
  | nil => exact h.congr fun b t => by simp
  | cons c bytes ih =>
    refine (ih.ofByte (· == c)).congr fun b t => ?_
    constructor
    · rintro ⟨_, _, rfl, hc, after, rfl, hP⟩
      obtain rfl := eq_of_beq hc
      exact ⟨after, rfl, by rwa [List.append_assoc] at hP⟩
    · rintro ⟨after, rfl, hP⟩
      exact ⟨c, bytes ++ after, rfl, beq_self_eq_true c, after, rfl, by rwa [List.append_assoc]⟩

/-- The row in front of a run of bytes. -/
theorem Decides.ofRun (h : Decides P before text r) (asked : UInt8 → Bool) :
    Decides (fun before text => ∃ run after, text = run ++ after ∧ (∀ b ∈ run, asked b = true) ∧
      P (before ++ run) after) before text (Row.ofRun asked text r) := by
  -- a run is empty, or it takes a byte and goes on as a run
  induction text generalizing before r with
  | nil =>
    obtain ⟨b, rfl, hb⟩ := h
    refine ⟨b, rfl, hb.trans ⟨fun hP => ⟨[], [], rfl, List.forall_mem_nil _, ?_⟩, ?_⟩⟩
    · rwa [List.append_nil]
    · rintro ⟨run, after, ht, -, hP⟩
      obtain ⟨rfl, rfl⟩ := List.nil_eq_append_iff.1 ht
      rwa [List.append_nil] at hP
  | cons x text ih =>
    have later := ih h.tail
    refine ⟨_, _, rfl, ?_, later⟩
    rw [Bool.or_eq_true, Bool.and_eq_true, h.here_iff, later.here_iff]
    constructor
    · rintro (hP | ⟨hx, run, after, rfl, hrun, hP⟩)
      · exact ⟨[], x :: text, rfl, List.forall_mem_nil _, by rwa [List.append_nil]⟩
      · exact ⟨x :: run, after, rfl, List.forall_mem_cons.2 ⟨hx, hrun⟩,
          by rwa [List.append_assoc] at hP⟩
    · rintro ⟨run, after, ht, hrun, hP⟩
      cases run with
      | nil =>
        rw [List.append_nil] at hP
        exact .inl (ht ▸ hP)
      | cons y run =>
        obtain ⟨rfl, rfl⟩ := List.cons.inj ht
        rw [List.forall_mem_cons] at hrun
        exact .inr ⟨hrun.1, run, after, rfl, hrun.2, by rwa [List.append_assoc]⟩

/-- A row of places that all lie behind others does not hold the start. -/
theorem decides_map_false (hbefore : before ≠ []) (h : Decides P before text r) :
    Decides (fun before text => before = [] ∧ P before text) before text
      (r.map fun _ => false) := by
  induction text generalizing before r with
  | nil =>
    obtain ⟨b, rfl, -⟩ := h
    exact ⟨false, rfl, by simp [hbefore]⟩
  | cons x text ih =>
    obtain ⟨b, tail, rfl, -, ht⟩ := h
    exact ⟨false, _, rfl, by simp [hbefore], ih (by simp) ht⟩

/-- The row at the start of the text. -/
theorem Decides.ofStart (h : Decides P [] text r) :
    Decides (fun before text => before = [] ∧ P before text) [] text (Row.ofStart r) := by
  have start : here r = true ↔ ([] : List UInt8) = [] ∧ P [] text := by
    rw [h.here_iff, eq_self, true_and]
  cases text with
  | nil =>
    obtain ⟨b, rfl, -⟩ := h
    exact ⟨b, rfl, start⟩
  | cons x text => exact ⟨_, _, rfl, start, decides_map_false (by simp) h.tail⟩

/-- The row at the end of the text. -/
theorem Decides.ofEnd (h : Decides P before text r) :
    Decides (fun before text => text = [] ∧ P before text) before text (Row.ofEnd text r) := by
  induction text generalizing before r with
  | nil =>
    obtain ⟨b, rfl, hb⟩ := h
    exact ⟨b, rfl, by simp [hb]⟩
  | cons x text ih => exact ⟨false, _, rfl, by simp, ih h.tail⟩

/-- The row of two alternatives. -/
theorem Decides.or (h : Decides P before text r) (h' : Decides Q before text s) :
    Decides (fun before text => P before text ∨ Q before text) before text
      (List.zipWith Bool.or r s) := by
  induction text generalizing before r s with
  | nil =>
    obtain ⟨b, rfl, hb⟩ := h
    obtain ⟨c, rfl, hc⟩ := h'
    exact ⟨b || c, rfl, by rw [Bool.or_eq_true, hb, hc]⟩
  | cons x text ih =>
    obtain ⟨b, tail, rfl, hb, ht⟩ := h
    obtain ⟨c, tail', rfl, hc, ht'⟩ := h'
    exact ⟨b || c, _, rfl, by rw [Bool.or_eq_true, hb, hc], ih ht ht'⟩

end Row

/-! ## The row of an expression -/

variable {P : PlaceProperty} {text : List UInt8} {r : Row}

/-- Expressions one after the other lead somewhere one after the other. -/
theorem leadsTo_sequence_iff {e f : Expression} {before text : List UInt8} :
    (sequence e f).LeadsTo P before text ↔ e.LeadsTo (f.LeadsTo P) before text := by
  constructor
  · rintro ⟨_, after, rfl, hmatches, hP⟩
    obtain ⟨first, rest, rfl, he, hf⟩ := matches_sequence_iff.1 hmatches
    exact ⟨first, rest ++ after, List.append_assoc .., he, rest, after, rfl, hf,
      by rwa [List.append_assoc]⟩
  · rintro ⟨first, _, rfl, he, rest, after, rfl, hf, hP⟩
    exact ⟨first ++ rest, after, (List.append_assoc ..).symm,
      matches_sequence_iff.2 ⟨first, rest, rfl, he, hf⟩, by rwa [List.append_assoc] at hP⟩

/-- **The row in front of an expression decides where the expression leads to a
place with a property**, if the row behind it decides the property. -/
theorem decides_row (e : Expression) (simple : e.repeatsBytes = true)
    (h : Row.Decides P [] text r) : Row.Decides (e.LeadsTo P) [] text (e.row text r) := by
  induction e generalizing P r with
  | nothing =>
    refine h.congr fun before text => ?_
    simp only [LeadsTo, matches_nothing_iff]
    constructor
    · exact fun hP => ⟨[], text, rfl, rfl, by rwa [List.append_nil]⟩
    · rintro ⟨_, after, rfl, rfl, hP⟩
      rwa [List.append_nil] at hP
  | char c =>
    refine (h.ofBytes _).congr fun before text => ?_
    simp only [LeadsTo, matches_char_iff]
    constructor
    · rintro ⟨after, ht, hP⟩
      exact ⟨_, after, ht, rfl, hP⟩
    · rintro ⟨_, after, ht, rfl, hP⟩
      exact ⟨after, ht, hP⟩
  | anyByte => exact h.leadsTo_of_askedByte? (e := anyByte) rfl
  | oneOf cs => exact h.leadsTo_of_askedByte? (e := oneOf cs) rfl
  | atStart =>
    refine h.ofStart.congr fun before text => ?_
    simp only [LeadsTo, matches_atStart_iff]
    constructor
    · rintro ⟨rfl, hP⟩
      exact ⟨[], text, rfl, ⟨rfl, rfl⟩, hP⟩
    · rintro ⟨_, after, rfl, ⟨rfl, rfl⟩, hP⟩
      exact ⟨rfl, hP⟩
  | atEnd =>
    refine h.ofEnd.congr fun before text => ?_
    simp only [LeadsTo, matches_atEnd_iff]
    constructor
    · rintro ⟨rfl, hP⟩
      exact ⟨[], [], rfl, ⟨rfl, rfl⟩, by rwa [List.append_nil]⟩
    · rintro ⟨_, _, rfl, ⟨rfl, rfl⟩, hP⟩
      exact ⟨rfl, by rwa [List.append_nil] at hP⟩
  | many e =>
    obtain ⟨asked, hasked⟩ := Option.isSome_iff_exists.1 simple
    rw [row, hasked]
    refine (h.ofRun asked).congr fun before text => ?_
    simp only [LeadsTo, matches_many_iff_of_askedByte? hasked]
  | sequence e f ihe ihf =>
    rw [repeatsBytes, Bool.and_eq_true] at simple
    exact (ihe simple.1 (ihf simple.2 h)).congr fun _ _ => leadsTo_sequence_iff.symm
  | either e f ihe ihf =>
    rw [repeatsBytes, Bool.and_eq_true] at simple
    refine ((ihe simple.1 h).or (ihf simple.2 h)).congr fun before text => ?_
    simp only [LeadsTo, matches_either_iff, or_and_right, and_or_left, exists_or]

/-- **Rows find what is to be found**, if nothing but single bytes is repeated. -/
theorem findsByRows_iff {e : Expression} (simple : e.repeatsBytes = true) {text : List UInt8} :
    e.findsByRows text = true ↔ e.IsFound text := by
  rw [findsByRows, (decides_row e simple (Row.decides_replicate [] text)).any_iff]
  constructor
  · rintro ⟨before, _, rfl, taken, after, rfl, h, -⟩
    exact ⟨before, taken, after, (List.append_assoc ..).symm, h⟩
  · rintro ⟨before, taken, after, rfl, h⟩
    exact ⟨before, taken ++ after, List.append_assoc .., taken, after, rfl, h, trivial⟩

end Expression

/-- **The engine that goes by rows is faithful.** -/
theorem Engine.isFaithful_byRows : byRows.IsFaithful := by
  intro source e test hread htest text
  rw [byRows, hread] at htest
  obtain ⟨accepted, htest⟩ := Option.ite_none_right_eq_some.1 htest
  obtain rfl := Option.some.inj htest
  exact Expression.findsByRows_iff accepted

end ContentFilter
