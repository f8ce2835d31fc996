import ContentFilter.Idna.Ascii
import ContentFilter.Proofs.Network.HostsEntry
import ContentFilter.Proofs.Network.Meaning

/-!
# Comparing with and without an expression

Six of the eight shapes have no wildcard and no separator in their pattern,
and are compared without an engine: as a part of the URL, as its start, as
its end, as the whole of it, and behind a hostname as the start or the whole
of what follows. The pattern has an expression all the same, and the expression
is shown, and may be asked for.

The two ways say the same of every request
(`NetworkFilter.matchesPattern_iff_matchesBy_of_isDirect`). That is so for the
program that any faithful engine makes of the expression, unless it refuses it.
Nothing is assumed of the URL: the bytes of a pattern stand for themselves
whatever they are, and without a wildcard a line feed is a byte like any other.

Both ways decide the same thing, namely whether the pattern occurs, anchored as
the mask says (`NetworkFilter.compares_iff`, `Pattern.Program.isMatch_iff_occurs`).
The mask speaks of anchors and the shape was chosen by it, so it comes down to the
filter going with its pattern, as all filters do that were read.
-/

namespace ContentFilter

/-- **A shape that is compared without an engine.** -/
def Shape.isDirect : Shape → Bool
  | hostnameRegex | regex => false
  | hostnameRightAnchor | hostnameAnchored | leftRightAnchor | leftAnchor | rightAnchor | plain =>
    true

/-- The shape of a mask needs an engine if the mask says so. -/
theorem Shape.isDirect_ofMask (m : Mask) : (Shape.ofMask m).isDirect = !m.has .regex := by
  unfold Shape.ofMask
  cases m.has .hostnameAnchor <;> cases m.has .regex <;> cases m.has .leftAnchor <;>
    cases m.has .rightAnchor <;> rfl

namespace NetworkFilter

/-- **A filter that was read**, from a line or from an entry of a hosts file. -/
def IsRead [IdnaService] (f : NetworkFilter) : Prop :=
  (∃ line keepsLine, ofLine line keepsLine = .ok f) ∨
    ∃ entry keepsLine, ofHostsEntry entry keepsLine = .ok f

/-- **A filter that was read goes with its pattern.** -/
theorem IsRead.isConsistent [IdnaService] {f : NetworkFilter} (h : f.IsRead) : f.IsConsistent := by
  rcases h with ⟨line, keepsLine, h⟩ | ⟨entry, keepsLine, h⟩
  · obtain ⟨rule, -, hf⟩ := exists_isFilterOf_of_ofLine h
    exact hf.isConsistent
  · exact isConsistent_ofHostsEntry h

/-- **What a filter says of a request when its pattern is put to a test.** The
test is shown the whole URL; or, if the filter has to follow a hostname and the
request is anchored by it, what the URL has behind its first occurrence. -/
def MatchesBy (f : NetworkFilter) (test : List UInt8 → Bool) (r : Request) : Prop :=
  if f.shape.isBehindHostname then
    isAnchoredBy f.hostname r.hostname = true ∧
      ∃ n, Search.IsFirstAt f.hostname.utf8 n r.lowerUrl.utf8 ∧
        test ((f.comparedUrl r).drop (n + f.hostname.byteLength)) = true
  else test (f.comparedUrl r) = true

section

variable {f : NetworkFilter} {engine : Engine}

/-- **Any test of where the pattern occurs can take the place of the
comparison.** -/
theorem matchesPattern_iff_matchesBy {test : List UInt8 → Bool}
    (same : ∀ text, f.compares engine text = true ↔ test text = true) (r : Request) :
    f.matchesPattern engine r = true ↔ f.MatchesBy test r := by
  rw [matchesPattern_eq, MatchesBy]
  split
  · rw [any_behindHostname_iff]
    simp only [same]
  · exact same _

/-- A shape that needs no engine has no wildcards and separators in its pattern. -/
theorem has_regex_of_isDirect (hf : f.IsConsistent) (direct : f.shape.isDirect = true) :
    f.mask.has .regex = false := by
  rwa [hf.shape_eq, Shape.isDirect_ofMask, Bool.not_eq_true'] at direct

/-- **What is compared without an engine is what the expression matches**: for
every filter that was read and every request, by the program of every faithful
engine that takes the expression, or need not take it because the pattern matches
everything. -/
theorem matchesPattern_iff_matchesBy_of_isDirect [IdnaService] (h : f.IsRead)
    (direct : f.shape.isDirect = true) (r : Request) (engine : Engine)
    (faithful : engine.IsFaithful)
    (taken : f.anchored.matchesAll = true ∨ (engine f.anchored.expression).isSome = true) :
    f.matchesPattern engine r = true ↔ f.MatchesBy (f.program engine).isMatch r := by
  refine matchesPattern_iff_matchesBy (fun text => ?_) r
  rw [compares_iff_of_plain h.isConsistent (has_regex_of_isDirect h.isConsistent direct)]
  exact (Pattern.Program.isMatch_iff_occurs faithful taken).symm

/-- A pattern with a dot and a letter beyond ASCII, up to the end of a URL, by an
engine that tries all ways. A line feed behind it is a byte like any other. -/
theorem matchesPattern_iff_matchesBy_of_isDirect_lineFeed :
    let found : Request := .make "http://foo.com/a.é".toList "foo.com".toList [] [] [] .script
    let missed : Request := .make "http://foo.com/a.é\n".toList "foo.com".toList [] [] [] .script
    ∃ f, ofLine "||foo.com/a.é|".toList false = .ok f ∧ f.shape = .hostnameRightAnchor ∧
      (Engine.splitting f.anchored.expression).isSome = true ∧
      f.matchesPattern .splitting found = true ∧
      f.MatchesBy (f.program .splitting).isMatch found ∧
      f.matchesPattern .splitting missed = false ∧
      ¬ f.MatchesBy (f.program .splitting).isMatch missed := by
  intro found missed
  obtain ⟨f, hf, hshape, htaken, hfound, hmissed⟩ : ∃ f,
      ofLine "||foo.com/a.é|".toList false = .ok f ∧ f.shape = .hostnameRightAnchor ∧
      (Engine.splitting f.anchored.expression).isSome = true ∧
      f.matchesPattern .splitting found = true ∧ f.matchesPattern .splitting missed = false := by
    refine ⟨_, rfl, ?_, ?_, ?_, ?_⟩ <;> decide +kernel
  have read : f.IsRead := .inl ⟨_, _, hf⟩
  have direct : f.shape.isDirect = true := by rw [hshape]; rfl
  have same (r : Request) := matchesPattern_iff_matchesBy_of_isDirect read direct r .splitting
    Engine.isFaithful_splitting (.inr htaken)
  refine ⟨f, hf, hshape, htaken, hfound, (same found).1 hfound, hmissed, fun matchesBy => ?_⟩
  have hmatch := (same missed).2 matchesBy
  exact Bool.false_ne_true (hmissed.symm.trans hmatch)

end

end NetworkFilter

end ContentFilter
