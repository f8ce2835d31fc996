import ContentFilter.Text.Basic

/-!
# Labels

A hostname is a sequence of labels between dots. Two questions about
labels come up again and again: what the last one is, and whether a
hostname is another one or a subdomain of it.
-/

namespace ContentFilter.Hostname

/-- **The labels of a hostname**: the pieces between its dots. -/
def labels (t : Text) : List Text :=
  t.splitOn '.'

/-- **The last label of a hostname**: what follows its last dot. -/
def lastLabel (t : Text) : Text :=
  match Search.splitLast? '.' t with
  | some (_, label) => label
  | none => t

/-- **Whether a hostname is `name` or a subdomain of it.** -/
def isUnder (name hostname : Text) : Bool :=
  hostname = name || Search.endsWith ('.' :: name) hostname

/-- A hostname is under a name if the name ends it at the start of a
label. -/
theorem isUnder_iff {name hostname : Text} :
    isUnder name hostname = true ↔ hostname = name ∨ ∃ sub, hostname = sub ++ '.' :: name := by
  rw [isUnder, Bool.or_eq_true, decide_eq_true_eq, Search.endsWith_iff]
  exact or_congr_right ⟨fun ⟨sub, h⟩ => ⟨sub, h.symm⟩, fun ⟨sub, h⟩ => ⟨sub, h.symm⟩⟩

end ContentFilter.Hostname
