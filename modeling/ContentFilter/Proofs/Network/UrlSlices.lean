import ContentFilter.Proofs.Hostname.Anchoring
import ContentFilter.Proofs.Network.Comparison
import ContentFilter.Proofs.Text.Case
import ContentFilter.Proofs.Text.Slice

/-!
# Matching in slices

Behind `||` a pattern is compared with a slice of the URL, from a place on that was
found in the lowered URL. The slice may be one of the URL as given, so the place has
to be one between characters there as well. It is: the place is behind an
occurrence of a text, and texts occur between characters only; and lowering keeps
all characters where they are (`Text.isBoundary_lower`,
`Request.isBoundary_of_offsetBehind?`).

Nothing is asked of the filter for that. A filter that was stored and tampered with
may have any shape, mask and hostname, and the empty hostname is found in front of
every URL.
-/

namespace ContentFilter

/-- **Lowering keeps the places between characters.** -/
theorem Text.isBoundary_lower {t : Text} {n : Nat} : IsBoundary (lower t) n ↔ IsBoundary t n := by
  constructor
  · rintro ⟨l, r, hcut, rfl⟩
    obtain ⟨l, r, rfl, rfl, -⟩ := List.map_eq_append_iff.1 hcut
    exact ⟨l, r, rfl, (byteLength_lower l).symm⟩
  · rintro ⟨l, r, rfl, rfl⟩
    exact ⟨lower l, lower r, lower_append l r, byteLength_lower l⟩

/-- **The place behind a hostname is one between characters**, in the lowered URL and
in the URL as given. -/
theorem Request.isBoundary_of_offsetBehind? {r : Request} {hostname : Text} {n : Nat}
    (h : r.offsetBehind? hostname = some n) :
    Text.IsBoundary r.lowerUrl n ∧ Text.IsBoundary r.url n := by
  have lowered : Text.IsBoundary r.lowerUrl n := by
    obtain ⟨m, hfound, rfl⟩ := Option.map_eq_some_iff.1 h
    obtain ⟨before, after, hurl, rfl, -⟩ :=
      Text.exists_of_isFirstAt_utf8 (Search.firstIndex?_eq_some_iff.1 hfound)
    exact ⟨before ++ hostname, after, hurl, Text.byteLength_append before hostname⟩
  exact ⟨lowered, Text.isBoundary_lower.1 lowered⟩

/-! ## The label before an occurrence -/

/-- **Whether a hostname starts with `name` at one of its labels**, with the byte
before the occurrence read from its place. -/
def isAnchoredByPlace? (name hostname : Text) : Option Bool :=
  if name = [] then some true
  else
    match Search.firstIndex? name.utf8 hostname.utf8 with
    | none => some false
    | some 0 => some true
    | some (n + 1) => (hostname.utf8[n]?).map (· = '.'.val.toUInt8)

/-- There is a byte before an occurrence that is not at the start. -/
theorem isAnchoredByPlace?_eq (name hostname : Text) :
    isAnchoredByPlace? name hostname = some (isAnchoredBy name hostname) := by
  unfold isAnchoredByPlace? isAnchoredBy
  by_cases hname : name = []
  · rw [if_pos hname, decide_eq_true hname, Bool.true_or]
  · rw [if_neg hname, decide_eq_false hname, Bool.false_or]
    cases hfound : Search.firstIndex? name.utf8 hostname.utf8 with
    | none => rfl
    | some n =>
      cases n with
      | zero => rfl
      | succ n =>
        have inside := (Search.firstIndex?_eq_some.1 hfound).1
        dsimp only
        rw [List.getElem?_eq_getElem inside, Option.map_some]
        simp

namespace NetworkFilter

variable (f : NetworkFilter) (engine : Engine) (r : Request)

/-- **What the URL has behind the filter's hostname**, as a slice of it. -/
def sliceBehindHostname? : Option (Option Text) := do
  if ← isAnchoredByPlace? f.hostname r.hostname then
    match r.offsetBehind? f.hostname with
    | none => some none
    | some n => (Text.sliceFrom? n (r.comparedUrl (f.mask.has .matchCase))).map some
  else some none

/-- **Whether a filter matches a request**, with the URL in slices. They are taken
only once the options match. -/
def isMatchOfSlices? : Option Bool :=
  if f.matchesOptions r then
    if f.shape.isBehindHostname then
      (f.sliceBehindHostname? r).map fun behind? => behind?.any fun t => f.compares engine t.utf8
    else some (f.compares engine (f.comparedUrl r))
  else some false

/-- **The slice behind a hostname can be taken**, and its bytes are compared. -/
theorem sliceBehindHostname?_eq :
    ∃ behind?, f.sliceBehindHostname? r = some behind? ∧
      behind?.map Text.utf8 = f.behindHostname? r := by
  unfold sliceBehindHostname? behindHostname?
  rw [isAnchoredByPlace?_eq, Option.bind_eq_bind, Option.bind_some]
  cases isAnchoredBy f.hostname r.hostname with
  | false => exact ⟨none, rfl, rfl⟩
  | true =>
    cases hoffset : r.offsetBehind? f.hostname with
    | none => exact ⟨none, rfl, rfl⟩
    | some n =>
      have boundary : Text.IsBoundary (r.comparedUrl (f.mask.has .matchCase)) n := by
        obtain ⟨lowered, given⟩ := Request.isBoundary_of_offsetBehind? hoffset
        unfold Request.comparedUrl
        split
        · exact given
        · exact lowered
      obtain ⟨before, rest, hurl, hn⟩ := boundary
      refine ⟨some rest, ?_, ?_⟩
      · show (Text.sliceFrom? n _).map some = _
        rw [hurl, Text.sliceFrom?_append before rest hn]
        rfl
      · show some rest.utf8 = some ((f.comparedUrl r).drop n)
        rw [comparedUrl, hurl, Text.utf8_append, ← hn, ← Text.length_utf8, List.drop_left]

/-- **The slices of the URL can all be taken, and decide whether the filter
matches.** -/
theorem isMatchOfSlices?_eq : f.isMatchOfSlices? engine r = some (f.isMatch engine r) := by
  obtain ⟨behind?, hslice, hbytes⟩ := f.sliceBehindHostname?_eq r
  unfold isMatchOfSlices? isMatch
  rw [matchesPattern_eq, hslice, ← hbytes, Option.any_map]
  cases f.matchesOptions r <;> cases f.shape.isBehindHostname <;> rfl

end NetworkFilter

end ContentFilter
