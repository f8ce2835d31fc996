import ContentFilter.Hash

/-!
# Collisions

Two filters that are written differently should have different identities.
A map from identities to the first text recorded under each tells when
they do not: recording the same text again is fine, and recording another
text under a known identity is a collision. What collides is not recorded.
-/

namespace ContentFilter

/-- **Two texts under one identity.** -/
structure Collision where
  /-- The identity. -/
  id : Hash
  /-- The text recorded first. -/
  existing : Text
  /-- The text that collides with it. -/
  new : Text
  deriving DecidableEq, Repr

/-- The wording of a collision. -/
def Collision.message (c : Collision) : Text :=
  "filter \x60".toList ++ c.new ++ "\x60 has the same id ".toList ++ (toString c.id.toNat).toList
    ++ " as \x60".toList ++ c.existing ++ "\x60".toList

/-- **The first text of each identity**, in the order they were recorded. -/
structure CollisionMap where
  /-- The identities with their texts. -/
  entries : List (Hash × Text)
  deriving DecidableEq, Repr

namespace CollisionMap

/-- **The map without entries.** -/
def empty : CollisionMap :=
  ⟨[]⟩

/-- The text recorded under an identity. -/
def text? (m : CollisionMap) (id : Hash) : Option Text :=
  m.entries.lookup id

/-- **Whether an identity is known.** -/
def contains (m : CollisionMap) (id : Hash) : Bool :=
  (m.text? id).isSome

/-- **The number of known identities.** -/
def size (m : CollisionMap) : Nat :=
  m.entries.length

/-- **Whether no identity is known.** -/
def isEmpty (m : CollisionMap) : Bool :=
  m.size = 0

/-- **Record a text under an identity.** -/
def record (m : CollisionMap) (id : Hash) (text : Text) : Except Collision CollisionMap :=
  match m.text? id with
  | none => .ok ⟨m.entries ++ [(id, text)]⟩
  | some existing => if existing = text then .ok m else .error ⟨id, existing, text⟩

/-- A text is recorded under an identity that is not known. -/
theorem record_of_text?_eq_none {m : CollisionMap} {id : Hash} (h : m.text? id = none)
    (text : Text) : m.record id text = .ok ⟨m.entries ++ [(id, text)]⟩ := by
  rw [record, h]

/-- Recording the text that is known leaves the map as it is. -/
theorem record_of_text?_eq_some {m : CollisionMap} {id : Hash} {text : Text}
    (h : m.text? id = some text) : m.record id text = .ok m := by
  rw [record, h]
  exact if_pos rfl

/-- Another text than the known one collides with it. -/
theorem record_of_text?_ne {m : CollisionMap} {id : Hash} {existing text : Text}
    (h : m.text? id = some existing) (hne : existing ≠ text) :
    m.record id text = .error ⟨id, existing, text⟩ := by
  rw [record, h]
  exact if_neg hne

end CollisionMap

end ContentFilter
