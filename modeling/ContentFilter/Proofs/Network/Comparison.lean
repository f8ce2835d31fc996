import ContentFilter.Network.HostsEntry
import ContentFilter.Network.Matching
import ContentFilter.Network.Rule
import ContentFilter.Proofs.Pattern.Translation
import ContentFilter.Proofs.Search.Occurrence

/-!
# One meaning for the eight shapes

A pattern is compared with a URL in one of eight ways, depending on how it is
anchored, on whether it follows a hostname, and on whether it holds wildcards
or separators. The ways differ in speed only. `NetworkFilter.compares` is the
comparison with a text, the whole URL or what is behind a hostname, and
`matchesPattern_eq` takes matching apart into the choice of that text and the
comparison. Then `compares_iff` says what all eight ways decide: whether the
pattern occurs in the text, anchored as the mask says.

That is true of filters whose shape and whose mask go with their pattern
(`NetworkFilter.IsConsistent`). All filters that are made from lines or from
entries of hosts files do; a filter that was stored and tampered with may not.

A pattern with wildcards or separators is left to an engine, which has to be
faithful, and to take the expression of the pattern (`NetworkFilter.IsTakenBy`).
A pattern without them is compared without the engine, so nothing is asked of it.
What is found is an occurrence whether or not the engine takes the expression
(`occurs_of_compares`).
-/

namespace ContentFilter

/-! ## Shapes -/

/-- Whether a shape is compared behind a hostname. -/
def Shape.isBehindHostname : Shape → Bool
  | hostnameRegex | hostnameRightAnchor | hostnameAnchored => true
  | regex | leftRightAnchor | leftAnchor | rightAnchor | plain => false

/-- The shape of a mask is compared behind a hostname if the mask says so. -/
theorem Shape.isBehindHostname_ofMask (m : Mask) :
    (Shape.ofMask m).isBehindHostname = m.has .hostnameAnchor := by
  unfold Shape.ofMask
  cases m.has .hostnameAnchor <;> cases m.has .regex <;> cases m.has .leftAnchor <;>
    cases m.has .rightAnchor <;> rfl

namespace NetworkFilter

/-- **Whether the pattern is found in a text**, in the way the shape asks
for. -/
def compares (f : NetworkFilter) (engine : Engine) (text : List UInt8) : Bool :=
  match f.shape with
  | .hostnameRegex | .regex => (f.program engine).isMatch text
  | .hostnameRightAnchor | .leftRightAnchor => text = f.pattern.utf8
  | .hostnameAnchored | .leftAnchor => Search.startsWith f.pattern.utf8 text
  | .rightAnchor => Search.endsWith f.pattern.utf8 text
  | .plain => Search.occursIn f.pattern.utf8 text

/-- **Matching is comparing with the URL**, or with what it has behind the
hostname. -/
theorem matchesPattern_eq (f : NetworkFilter) (engine : Engine) (r : Request) :
    f.matchesPattern engine r =
      if f.shape.isBehindHostname then (f.behindHostname? r).any (f.compares engine)
      else f.compares engine (f.comparedUrl r) := by
  unfold matchesPattern compares
  cases f.shape <;> rfl

/-- **What stands behind the hostname**, if the request is anchored by it, is
what follows its first occurrence in the lowered URL. -/
theorem any_behindHostname_iff {f : NetworkFilter} {r : Request} {p : List UInt8 → Bool} :
    (f.behindHostname? r).any p = true ↔
      isAnchoredBy f.hostname r.hostname = true ∧
        ∃ n, Search.IsFirstAt f.hostname.utf8 n r.lowerUrl.utf8 ∧
          p ((f.comparedUrl r).drop (n + f.hostname.byteLength)) = true := by
  unfold behindHostname? Request.offsetBehind?
  cases isAnchoredBy f.hostname r.hostname with
  | false => simp
  | true =>
    rw [if_pos rfl, Option.map_map, eq_self, true_and]
    cases hfound : Search.firstIndex? f.hostname.utf8 r.lowerUrl.utf8 with
    | none =>
      refine iff_of_false (by simp) ?_
      rintro ⟨n, hn, -⟩
      rw [Search.firstIndex?_eq_some_iff.2 hn] at hfound
      cases hfound
    | some n =>
      have first := Search.firstIndex?_eq_some_iff.1 hfound
      constructor
      · intro h
        exact ⟨n, first, h⟩
      · rintro ⟨m, hm, h⟩
        rwa [hm.eq first] at h

/-- **The shape and the mask of a filter go with its pattern.** -/
structure IsConsistent (f : NetworkFilter) : Prop where
  /-- The shape is the one of the mask. -/
  shape_eq : f.shape = Shape.ofMask f.mask
  /-- The mask says whether the pattern holds a wildcard or a separator. -/
  regex_eq : f.mask.has .regex = !Pattern.isPlain f.pattern

/-- A filter that is made goes with its pattern if its mask does. -/
theorem isConsistent_make {mask : Mask} {pattern : Text}
    (h : mask.has .regex = !Pattern.isPlain pattern) (hostname : Text)
    (domains excludedDomains : List Text) (redirect : Text) (rawLine? : Option Text) :
    (make mask pattern hostname domains excludedDomains redirect rawLine?).IsConsistent :=
  ⟨rfl, h⟩

/-- **An engine takes the pattern of a filter**, if it is asked to run it at all:
it takes the expression. -/
def IsTakenBy (f : NetworkFilter) (engine : Engine) : Prop :=
  f.mask.has .regex = true → (engine f.anchored.expression).isSome = true

/-- Whether an engine takes a pattern can be computed. -/
instance (f : NetworkFilter) (engine : Engine) : Decidable (f.IsTakenBy engine) :=
  inferInstanceAs (Decidable (_ → _))

section

variable {f : NetworkFilter} {engine : Engine} {text : List UInt8}

/-- The engine runs a pattern that holds wildcards or separators. -/
theorem compares_eq_isMatch (hf : f.IsConsistent) (hregex : f.mask.has .regex = true)
    (engine : Engine) (text : List UInt8) :
    f.compares engine text = (f.program engine).isMatch text := by
  unfold compares
  rw [hf.shape_eq, Shape.ofMask, hregex]
  cases f.mask.has .hostnameAnchor <;> rfl

/-- **Without wildcards and separators** no engine is asked: the bytes of the
pattern are compared as it is anchored. -/
theorem compares_iff_of_plain (hf : f.IsConsistent) (hplain : f.mask.has .regex = false) :
    f.compares engine text = true ↔
      Pattern.Occurs (Pattern.items f.pattern) f.anchored.left f.anchored.right text := by
  have plain : Pattern.isPlain f.pattern = true := by
    simpa [hplain] using hf.regex_eq
  rw [Pattern.items_of_isPlain plain]
  unfold compares anchored
  rw [hf.shape_eq, Shape.ofMask, hplain]
  cases f.mask.has .hostnameAnchor <;> cases f.mask.has .rightAnchor
  · cases f.mask.has .leftAnchor
    · exact Search.occursIn_iff.trans Pattern.occurs_bytes_anywhere.symm
    · exact Search.startsWith_iff.trans Pattern.occurs_bytes_atStart.symm
  · cases f.mask.has .leftAnchor
    · exact Search.endsWith_iff.trans Pattern.occurs_bytes_atEnd.symm
    · exact decide_eq_true_iff.trans Pattern.occurs_bytes_whole.symm
  · -- behind a hostname the pattern is anchored to the start, whatever the mask says
    rw [Bool.or_true]
    exact Search.startsWith_iff.trans Pattern.occurs_bytes_atStart.symm
  · rw [Bool.or_true]
    exact decide_eq_true_iff.trans Pattern.occurs_bytes_whole.symm

/-- **What is found is an occurrence of the pattern.** -/
theorem occurs_of_compares (hf : f.IsConsistent) (faithful : engine.IsFaithful)
    (h : f.compares engine text = true) :
    Pattern.Occurs (Pattern.items f.pattern) f.anchored.left f.anchored.right text := by
  cases hregex : f.mask.has .regex with
  | true =>
    rw [compares_eq_isMatch hf hregex] at h
    exact Pattern.Program.occurs_of_isMatch faithful h
  | false => exact (compares_iff_of_plain hf hregex).1 h

/-- **All shapes decide whether the pattern occurs.** -/
theorem compares_iff (hf : f.IsConsistent) (faithful : engine.IsFaithful)
    (taken : f.IsTakenBy engine) :
    f.compares engine text = true ↔
      Pattern.Occurs (Pattern.items f.pattern) f.anchored.left f.anchored.right text := by
  cases hregex : f.mask.has .regex with
  | true =>
    rw [compares_eq_isMatch hf hregex]
    exact Pattern.Program.isMatch_iff_occurs faithful (.inr (taken hregex))
  | false => exact compares_iff_of_plain hf hregex

end

end NetworkFilter

end ContentFilter
