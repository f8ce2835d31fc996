import ContentFilter.Collision
import Mathlib.Data.Finset.Card

/-!
# The first text of each identity

Texts are offered to a collision map one after the other, in any order and
under any identities. What a map knows under an identity is the first text
that was offered under it, whatever was offered under it later
(`CollisionMap.text?_recordAll`). So a text is accepted exactly if no text
before it had its identity, or if the first one that had is the same text.

Each identity is known once. That is what one offer keeps
(`CollisionMap.nodup_ids_offer`), so after any run the size of a map is the
number of different identities that were offered, and neither a duplicate nor
a text that was reported counts beside the recorded one
(`CollisionMap.recordAll_holds`).
-/

namespace ContentFilter

namespace CollisionMap

variable {m : CollisionMap} {id : Hash} {text : Text}

/-- An identity differs from all that entries have exactly if none has it. -/
theorem forall_bne_iff {entries : List (Hash × Text)} :
    (∀ entry ∈ entries, (id != entry.1) = true) ↔ id ∉ entries.map Prod.fst := by
  simp only [bne_iff_ne, ne_eq, List.mem_map, not_exists, not_and]
  exact forall₂_congr fun entry _ => not_congr eq_comm

/-! ## One text -/

/-- **A text is accepted** exactly if it is the one that is known under its
identity, or none is. -/
theorem exists_record_eq_ok_iff :
    (∃ m', m.record id text = .ok m') ↔
      ∀ existing, m.text? id = some existing → existing = text := by
  cases hknown : m.text? id with
  | none => exact iff_of_true ⟨_, record_of_text?_eq_none hknown text⟩ nofun
  | some existing =>
    by_cases heq : existing = text
    · subst heq
      exact iff_of_true ⟨_, record_of_text?_eq_some hknown⟩ fun _ h => (Option.some.inj h).symm
    · rw [record_of_text?_ne hknown heq]
      exact iff_of_false nofun fun h => heq (h existing rfl)

/-- **A text is reported** exactly if another one is known under its identity,
and then with both texts. -/
theorem record_eq_error_iff {c : Collision} :
    m.record id text = .error c ↔
      ∃ existing, m.text? id = some existing ∧ existing ≠ text ∧ c = ⟨id, existing, text⟩ := by
  cases hknown : m.text? id with
  | none =>
    rw [record_of_text?_eq_none hknown text]
    exact iff_of_false nofun nofun
  | some existing =>
    by_cases heq : existing = text
    · subst heq
      rw [record_of_text?_eq_some hknown]
      refine iff_of_false nofun ?_
      rintro ⟨_, ⟨rfl⟩, hne, -⟩
      exact hne rfl
    · rw [record_of_text?_ne hknown heq]
      constructor
      · rintro ⟨rfl⟩
        exact ⟨existing, rfl, heq, rfl⟩
      · rintro ⟨_, ⟨rfl⟩, -, rfl⟩
        rfl

/-- **The map after a text was offered**: the one it was recorded in, or the
same as before if it collides. -/
def offer (m : CollisionMap) (entry : Hash × Text) : CollisionMap :=
  match m.record entry.1 entry.2 with
  | .ok m' => m'
  | .error _ => m

/-- A text that is offered changes nothing if one is known under its
identity. -/
theorem offer_eq_self {existing : Text} (h : m.text? id = some existing) (text : Text) :
    m.offer (id, text) = m := by
  unfold offer
  by_cases heq : existing = text
  · rw [record_of_text?_eq_some (heq ▸ h)]
  · rw [record_of_text?_ne h heq]

/-- **A text that is offered becomes known** under its identity unless one was
known before, and changes nothing else. -/
theorem text?_offer (m : CollisionMap) (entry : Hash × Text) (id : Hash) :
    (m.offer entry).text? id = (m.text? id).or ([entry].lookup id) := by
  obtain ⟨id', text⟩ := entry
  cases hknown : m.text? id' with
  | none =>
    rw [offer, record_of_text?_eq_none hknown]
    exact List.lookup_append
  | some existing =>
    rw [offer_eq_self hknown]
    by_cases hid : id = id'
    · rw [hid, hknown, Option.some_or]
    · rw [List.lookup_cons, beq_false_of_ne hid, List.lookup_nil, Option.or_none]

/-! ## Runs -/

/-- **The map after some texts were offered**, one after the other. -/
def recordAll (entries : List (Hash × Text)) : CollisionMap :=
  entries.foldl offer empty

/-- The map after one more text was offered. -/
theorem recordAll_concat (entries : List (Hash × Text)) (entry : Hash × Text) :
    recordAll (entries ++ [entry]) = (recordAll entries).offer entry := by
  unfold recordAll
  rw [List.foldl_concat]

/-- What is known after some texts were offered to a map is what was known
before, or else the first of them. -/
theorem text?_foldl_offer (m : CollisionMap) (entries : List (Hash × Text)) (id : Hash) :
    (entries.foldl offer m).text? id = (m.text? id).or (entries.lookup id) := by
  induction entries generalizing m with
  | nil => exact (Option.or_none).symm
  | cons entry entries ih =>
    rw [List.foldl_cons, ih, text?_offer, Option.or_assoc, ← List.lookup_append,
      List.singleton_append]

/-- **What a map knows** under an identity is the first text that was offered
under it. -/
theorem text?_recordAll (entries : List (Hash × Text)) (id : Hash) :
    (recordAll entries).text? id = entries.lookup id :=
  text?_foldl_offer empty entries id

/-- **A text is accepted after others** exactly if the first of them with its
identity is the same text, or none has its identity. -/
theorem exists_record_recordAll_iff {entries : List (Hash × Text)} :
    (∃ m', (recordAll entries).record id text = .ok m') ↔
      ∀ existing, entries.lookup id = some existing → existing = text := by
  rw [exists_record_eq_ok_iff, text?_recordAll]

/-! ## Identities -/

/-- **The identities a map knows**, in the order they became known. -/
def ids (m : CollisionMap) : List Hash :=
  m.entries.map Prod.fst

/-- An identity is known exactly if it is among those of the map. -/
theorem contains_iff : m.contains id = true ↔ id ∈ m.ids := by
  unfold contains text? ids
  rw [Option.isSome_iff_ne_none, ne_eq, List.lookup_eq_none_iff, forall_bne_iff, not_not]

/-- A text that is offered adds its identity if it was not known. -/
theorem ids_offer (m : CollisionMap) (entry : Hash × Text) :
    (m.offer entry).ids = if m.contains entry.1 then m.ids else m.ids ++ [entry.1] := by
  obtain ⟨id, text⟩ := entry
  unfold contains
  cases hknown : m.text? id with
  | none =>
    rw [offer, record_of_text?_eq_none hknown]
    exact List.map_append
  | some existing =>
    rw [offer_eq_self hknown]
    rfl

/-- **Each identity is known once**, and an offer keeps it so. -/
theorem nodup_ids_offer (h : m.ids.Nodup) (entry : Hash × Text) :
    (m.offer entry).ids.Nodup := by
  rw [ids_offer]
  split
  · exact h
  · next hnew =>
    rw [contains_iff] at hnew
    exact List.nodup_append.2 ⟨h, List.nodup_singleton entry.1, by
      rintro id hid _ hentry rfl
      exact hnew (List.mem_singleton.1 hentry ▸ hid)⟩

/-- Each identity is known once after any run. -/
theorem nodup_ids_recordAll (entries : List (Hash × Text)) : (recordAll entries).ids.Nodup := by
  suffices keeps : ∀ m : CollisionMap, m.ids.Nodup → (entries.foldl offer m).ids.Nodup from
    keeps empty List.nodup_nil
  induction entries with
  | nil => exact fun _ h => h
  | cons entry entries ih => exact fun m h => ih (m.offer entry) (nodup_ids_offer h entry)

/-- **An identity is known** exactly if some text was offered under it. -/
theorem contains_recordAll_iff {entries : List (Hash × Text)} :
    (recordAll entries).contains id = true ↔ id ∈ entries.map Prod.fst := by
  unfold contains
  rw [text?_recordAll, Option.isSome_iff_ne_none, ne_eq, List.lookup_eq_none_iff, forall_bne_iff,
    not_not]

/-- **The size of a map** is the number of different identities that were
offered to it. -/
theorem size_recordAll (entries : List (Hash × Text)) :
    (recordAll entries).size = (entries.map Prod.fst).toFinset.card := by
  have same : (recordAll entries).ids.toFinset = (entries.map Prod.fst).toFinset := by
    ext id
    rw [List.mem_toFinset, List.mem_toFinset, ← contains_iff, contains_recordAll_iff]
  rw [← same, List.toFinset_card_of_nodup (nodup_ids_recordAll entries)]
  exact (List.length_map Prod.fst).symm

/-! ## The first text -/

/-- **The first text under an identity** among some that were offered. -/
def IsFirst (entries : List (Hash × Text)) (id : Hash) (first : Text) : Prop :=
  ∃ before after, entries = before ++ (id, first) :: after ∧ id ∉ before.map Prod.fst

/-- The first text is the one that is looked up. -/
theorem isFirst_iff {entries : List (Hash × Text)} {first : Text} :
    IsFirst entries id first ↔ entries.lookup id = some first := by
  rw [List.lookup_eq_some_iff]
  exact exists_congr fun before => exists_congr fun after => and_congr_right fun _ =>
    forall_bne_iff.symm

/-- **A map keeps the first text of each identity**, over any run. An identity
is known exactly if some text was offered under it, and the size is the number
of different ones. Let another text be offered, and let `first` be the first
text under its identity then, which may be this text itself. It is accepted
exactly if it is `first`, and is reported with both texts otherwise. Being
reported, or coming under a known identity, it leaves the map as it was. -/
theorem recordAll_holds (entries : List (Hash × Text)) :
    (∀ id, (recordAll entries).contains id = true ↔ id ∈ entries.map Prod.fst) ∧
      (recordAll entries).size = (entries.map Prod.fst).toFinset.card ∧
      ∀ id text, ∃ first, IsFirst (entries ++ [(id, text)]) id first ∧
        (recordAll entries).record id text =
          (if text = first then .ok (recordAll (entries ++ [(id, text)]))
            else .error ⟨id, first, text⟩) ∧
        (text ≠ first ∨ (recordAll entries).contains id = true →
          recordAll (entries ++ [(id, text)]) = recordAll entries) := by
  refine ⟨fun id => contains_recordAll_iff, size_recordAll entries, fun id text => ?_⟩
  rw [recordAll_concat]
  simp only [isFirst_iff, List.lookup_append, ← text?_recordAll entries]
  cases hknown : (recordAll entries).text? id with
  | none =>
    -- the text is the first one under its identity
    refine ⟨text, by rw [Option.none_or, List.lookup_cons_self], ?_, ?_⟩
    · rw [if_pos rfl, offer, record_of_text?_eq_none hknown]
    · unfold contains
      rw [hknown]
      exact fun h => h.elim (absurd rfl) nofun
  | some first =>
    have same := offer_eq_self hknown text
    refine ⟨first, Option.some_or, ?_, fun _ => same⟩
    split
    · next heq => rw [same, record_of_text?_eq_some (heq ▸ hknown)]
    · next hne => exact record_of_text?_ne hknown (Ne.symm hne)

/-- A collision between two duplicates: it is reported with the first text,
and neither replaces it nor counts. -/
theorem recordAll_holds_collision :
    let entries := [(42, "a".toList), (7, "c".toList)]
    (recordAll entries).size = 2 ∧
      (recordAll entries).record 42 "b".toList = .error ⟨42, "a".toList, "b".toList⟩ ∧
      recordAll (entries ++ [(42, "b".toList)]) = recordAll entries := by
  intro entries
  obtain ⟨-, hsize, hnext⟩ := recordAll_holds entries
  obtain ⟨first, hfirst, hrecord, hsame⟩ := hnext 42 "b".toList
  obtain rfl : "a".toList = first := Option.some.inj (isFirst_iff.1 hfirst)
  have hne : "b".toList ≠ "a".toList := by decide
  rw [if_neg hne] at hrecord
  exact ⟨hsize, hrecord, hsame (.inl hne)⟩

end CollisionMap

end ContentFilter
