import ContentFilter.Idna.Ascii
import ContentFilter.Network.Matching
import ContentFilter.Proofs.Network.Parts
import ContentFilter.Proofs.Network.Rule
import ContentFilter.Proofs.Network.WrittenOptions

/-!
# Exceptions

A line with `@@` in front cancels the rule on the rest of the line. For that the
two have to be the same rule but for the mark: what one of them matches the other
one has to match, and an error in one has to be an error in the other.

The mark is taken off before anything else is looked at, so the two lines are cut
into the same parts behind it (`NetworkLine.ofText_exception`). It becomes one
more flag of the mask and is asked for nowhere else: no other flag depends on it,
and neither do the shape, the pattern, the hostname and the domains. Of the rest of
a filter only the identity is mixed from the mask, and as no step of the mixing
forgets anything, it is never the same for the two
(`NetworkFilter.ofLine_exception`).
-/

namespace ContentFilter

/-! ## Masks with one more flag -/

namespace Mask

/-- **A mask with one more flag.** -/
def set (m : Mask) (f : Flag) : Mask :=
  ⟨m.bits ||| f.bit⟩

/-- Setting a flag sets the bit at its place. -/
theorem getLsbD_set (m : Mask) (f : Flag) {i : Nat} (h : i < 32) :
    (m.set f).bits.toBitVec.getLsbD i = (m.bits.toBitVec.getLsbD i || f.position == i) := by
  rw [set, UInt32.toBitVec_or, BitVec.getLsbD_or, Flag.getLsbD_bit f h]

/-- **Setting a flag sets no other one.** -/
@[simp] theorem has_set (m : Mask) (f g : Flag) : (m.set f).has g = (m.has g || f = g) := by
  rw [has_eq_getLsbD, getLsbD_set m f g.position_lt, ← has_eq_getLsbD, Bool.eq_iff_iff,
    Bool.or_eq_true, Bool.or_eq_true, beq_iff_eq, Flag.position_inj, decide_eq_true_eq]

/-- A flag that was not set changes the bits. -/
theorem bits_set_ne {m : Mask} {f : Flag} (h : m.has f = false) : (m.set f).bits ≠ m.bits := by
  intro same
  have hset : (m.set f).has f = true := by simp
  rw [has, same, ← has, h] at hset
  cases hset

/-- **Setting a flag** of the mask of those that hold lets it hold as well. -/
theorem set_of (p : Flag → Bool) (f : Flag) : (of p).set f = of fun g => p g || f = g := by
  show (of p).put f true = _
  rw [put_of]
  refine congrArg of (funext fun g => ?_)
  by_cases same : f = g <;> simp [same]

end Mask

/-- **The shape does not ask whether a filter is an exception.** -/
theorem Shape.ofMask_set_exception (m : Mask) : ofMask (m.set .exception) = ofMask m := by
  have other {g : Flag} (h : g ≠ .exception) : (m.set .exception).has g = m.has g := by
    rw [Mask.has_set, decide_eq_false h.symm, Bool.or_false]
  unfold ofMask
  rw [other (g := .hostnameAnchor) nofun, other (g := .regex) nofun,
    other (g := .rightAnchor) nofun, other (g := .leftAnchor) nofun]

/-! ## Mixing from different starts -/

namespace Hash

/-- Multiplying by an odd number forgets nothing. -/
theorem mul_33_injective {h h' : Hash} (same : h * 33 = h' * 33) : h = h' := by
  have inverse (x : Hash) : x * 33 * 1041204193 = x := by
    rw [UInt32.mul_assoc, show (33 : UInt32) * 1041204193 = 1 from rfl, UInt32.mul_one]
  rw [← inverse h, same, inverse]

/-- **Mixing the same words into different hashes gives different hashes.** -/
theorem mix_left_injective {h h' : Hash} {words : List UInt32}
    (same : mix h words = mix h' words) : h = h' := by
  induction words generalizing h h' with
  | nil => exact same
  | cons w words ih => exact mul_33_injective ((UInt32.xor_left_inj w).1 (ih same))

/-- Different flags give different starts. -/
theorem seed_injective {flags flags' : UInt32} (same : seed flags = seed flags') :
    flags = flags' :=
  (UInt32.xor_right_inj _).1 same

end Hash

/-! ## The rule of an exception -/

/-- **The mark of an exception is taken off first**, and the parts behind it are
those of the rest of the line. -/
theorem NetworkLine.ofText_exception {line : Text} (h : ¬ ['@', '@'] <+: line) :
    (ofText line).isException = false ∧
      ofText ('@' :: '@' :: line) = { ofText line with isException := true } := by
  have unmarked : readException line = (false, line) := readException_eq_iff.2 ⟨rfl, fun _ => h⟩
  have marked : readException ('@' :: '@' :: line) = (true, line) := rfl
  constructor
  · simp only [ofText, unmarked]
  · simp only [ofText, unmarked, marked]

namespace NetworkRule

/-- **A rule as an exception.** -/
def asException (rule : NetworkRule) : NetworkRule :=
  { rule with line := { rule.line with isException := true } }

/-- **The rule on a line with the mark** is that on the rest of the line, as an
exception; it can be read if the other one can, and with the same error if not. -/
theorem ofText_exception [IdnaService] {line : Text} (h : ¬ ['@', '@'] <+: line) :
    ofText ('@' :: '@' :: line) = (ofText line).map asException := by
  unfold ofText
  rw [(NetworkLine.ofText_exception h).2]
  obtain ⟨isException, start, pattern, anchoredEnd, options?⟩ := NetworkLine.ofText line
  cases options? with
  | none => rfl
  | some options =>
    dsimp only
    cases FilterOption.listOfText options with
    | error e => rfl
    | ok read => rfl

/-- No flag but the one for exceptions depends on the mark. -/
theorem holds_asException (rule : NetworkRule) (f : Flag) :
    rule.asException.holds f = (rule.holds f || Flag.exception = f) := by
  cases f with
  | exception => exact (Bool.or_true _).symm
  | _ => exact (Bool.or_false _).symm

/-- The mask of an exception has one more flag. -/
theorem mask_asException (rule : NetworkRule) :
    rule.asException.mask = rule.mask.set .exception := by
  rw [mask_eq, mask_eq, Mask.set_of]
  exact congrArg Mask.of (funext rule.holds_asException)

end NetworkRule

namespace NetworkFilter

/-- **A filter as an exception**: it has one more flag, and the identity that goes
with the flags. -/
def asException (f : NetworkFilter) : NetworkFilter :=
  let mask := f.mask.set .exception
  { f with
    mask := mask
    id := identity mask f.pattern f.hostname f.domains f.excludedDomains f.redirect }

/-- Making a filter and making it an exception can be exchanged. -/
theorem asException_make (mask : Mask) (pattern hostname : Text)
    (domains excludedDomains : List Text) (redirect : Text) (rawLine? : Option Text) :
    (make mask pattern hostname domains excludedDomains redirect rawLine?).asException =
      make (mask.set .exception) pattern hostname domains excludedDomains redirect rawLine? := by
  simp only [asException, make, Shape.ofMask_set_exception]

/-- **The filter of a rule as an exception** is the filter of the rule, as an
exception. -/
theorem toFilter_asException [IdnaService] (rule : NetworkRule) (rawLine? : Option Text) :
    rule.asException.toFilter rawLine? = (rule.toFilter rawLine?).map asException := by
  have pattern : rule.asException.pattern = rule.pattern := by
    rw [NetworkRule.pattern_eq, NetworkRule.pattern_eq]
    rfl
  rw [NetworkRule.toFilter_eq, NetworkRule.toFilter_eq, pattern, ← NetworkRule.mask_eq,
    ← NetworkRule.mask_eq, show rule.asException.hostname = rule.hostname from rfl]
  cases Hostname.normalize? rule.hostname with
  | none => rfl
  | some hostname =>
    show Except.ok _ = Except.ok _
    rw [asException_make, rule.mask_asException]
    rfl

/-- **An exception matches what the filter matches.** -/
theorem isMatch_asException (f : NetworkFilter) (engine : Engine) (r : Request) :
    f.asException.isMatch engine r = f.isMatch engine r := by
  have other {g : Flag} (h : g ≠ .exception) : f.asException.mask.has g = f.mask.has g := by
    rw [show f.asException.mask = f.mask.set .exception from rfl, Mask.has_set,
      decide_eq_false h.symm, Bool.or_false]
  have options : f.asException.matchesOptions r = f.matchesOptions r := by
    unfold matchesOptions
    rw [other (g := .kind r.kind) nofun, other (g := .thirdParty) nofun,
      other (g := .firstParty) nofun]
    rfl
  have url : f.asException.comparedUrl r = f.comparedUrl r := by
    unfold comparedUrl
    rw [other (g := .matchCase) nofun]
  have program : f.asException.program engine = f.program engine := by
    unfold program anchored
    rw [other (g := .leftAnchor) nofun, other (g := .hostnameAnchor) nofun,
      other (g := .rightAnchor) nofun]
    rfl
  have behind : f.asException.behindHostname? r = f.behindHostname? r := by
    unfold behindHostname?
    rw [url]
    rfl
  have pattern : f.asException.matchesPattern engine r = f.matchesPattern engine r := by
    unfold matchesPattern
    rw [url, program, behind]
    rfl
  rw [isMatch, isMatch, options, pattern]

/-- The identity of an exception is not that of the filter. -/
theorem id_asException_ne {f : NetworkFilter} (h : f.mask.has .exception = false)
    (hid : f.id = identity f.mask f.pattern f.hostname f.domains f.excludedDomains f.redirect) :
    f.asException.id ≠ f.id := by
  intro same
  rw [hid] at same
  exact Mask.bits_set_ne h (Hash.seed_injective (Hash.mix_left_injective same))

/-- **An exception repeats the rule behind its mark**: both lines are refused with
the same error, or the filter of the one is that of the other with the flag of
exceptions and the identity that goes with it, and the two match the same
requests. -/
theorem ofLine_exception [IdnaService] {line : Text} (h : ¬ ['@', '@'] <+: line) :
    (∃ e, ofLine line false = .error e ∧ ofLine ('@' :: '@' :: line) false = .error e) ∨
      ∃ f, ofLine line false = .ok f ∧ ofLine ('@' :: '@' :: line) false = .ok f.asException ∧
        f.mask.has .exception = false ∧ f.asException.id ≠ f.id ∧
        ∀ engine r, f.asException.isMatch engine r = f.isMatch engine r := by
  have marked : ofLine ('@' :: '@' :: line) false = (ofLine line false).map asException := by
    unfold ofLine
    rw [NetworkRule.ofText_exception h]
    cases NetworkRule.ofText line with
    | error e => rfl
    | ok rule => exact toFilter_asException rule none
  cases hline : ofLine line false with
  | error e =>
    refine .inl ⟨e, rfl, ?_⟩
    rw [marked, hline]
    rfl
  | ok f =>
    obtain ⟨rule, hrule, hf⟩ := exists_isFilterOf_of_ofLine hline
    have plain : f.mask.has .exception = false := by
      rw [hf.has_eq, NetworkRule.holds, (NetworkRule.ofText_eq_ok_iff.1 hrule).1]
      exact (NetworkLine.ofText_exception h).1
    have hid := congrArg id (eq_make_of_ofLine hline)
    refine .inr ⟨f, rfl, ?_, plain, id_asException_ne plain hid, isMatch_asException f⟩
    rw [marked, hline]
    rfl

/-- Marks that touch: an anchor for the start and nothing behind it. -/
theorem ofLine_exception_bar :
    ¬ ['@', '@'] <+: "|".toList ∧
      ∃ f, ofLine "|".toList false = .ok f ∧ ofLine "@@|".toList false = .ok f.asException ∧
        f.mask.has .leftAnchor = true ∧ f.mask.has .exception = false ∧
        f.asException.id ≠ f.id ∧
        ∀ engine r, f.asException.isMatch engine r = f.isMatch engine r := by
  have unmarked : ¬ ['@', '@'] <+: "|".toList := by decide
  obtain ⟨f, hf, anchored⟩ : ∃ f, ofLine "|".toList false = .ok f ∧
    f.mask.has .leftAnchor = true := ⟨_, rfl, by decide +kernel⟩
  refine ⟨unmarked, f, hf, ?_⟩
  rcases ofLine_exception unmarked with ⟨e, he, -⟩ | ⟨g, hg, hexception, rest⟩
  · rw [hf] at he
    cases he
  · rw [hf] at hg
    cases hg
    exact ⟨hexception, anchored, rest⟩

end NetworkFilter

end ContentFilter
