import ContentFilter.Request.Kind

/-!
# The mask of a network filter

Everything a network filter says by yes or no is one bit of a mask: the
kinds of requests it applies to, the parties, how its pattern is anchored,
and so on. Each such statement is a `Flag`, and each flag has its place in
the mask; the places are fixed, since masks are stored.

A mask is built from the flags that hold (`Mask.of`), and `has_of` says
that exactly these can be read off it again. Afterwards single flags are
given another value (`put`), and whole masks are joined (`union`) or taken
away (`without`). Each of the three is again the mask of some flags, and the
lemmas beside them say of which. A mask that was stored may have bits that
are no flag's; they are kept.
-/

namespace ContentFilter

/-- **What a network filter says by yes or no.** -/
inductive Flag where
  /-- The filter applies to requests of a kind. -/
  | kind (k : RequestKind)
  /-- No option named a kind, so the filter applies to all. -/
  | anyKind
  /-- The filter wins over exceptions. -/
  | important
  /-- The case of letters matters. -/
  | matchCase
  /-- A matching request is redirected. -/
  | redirect
  /-- The filter applies to requests between two parties. -/
  | thirdParty
  /-- The filter applies to requests within one party. -/
  | firstParty
  /-- The pattern holds a wildcard or a separator. -/
  | regex
  /-- The pattern starts where the URL starts. -/
  | leftAnchor
  /-- The pattern ends where the URL ends. -/
  | rightAnchor
  /-- The pattern follows a hostname of the URL. -/
  | hostnameAnchor
  /-- The filter lets requests pass that others block. -/
  | exception
  /-- The filter was made from an entry of a hosts file. -/
  | hostname
  deriving DecidableEq, Repr

namespace Flag

/-- The place of the bit of a kind. -/
def kindPosition : RequestKind → Nat
  | .image => 0
  | .media => 1
  | .object => 2
  | .objectSubrequest => 3
  | .other => 4
  | .ping => 5
  | .script => 6
  | .font => 7
  | .stylesheet => 8
  | .subdocument => 9
  | .websocket => 10
  | .xmlHttpRequest => 11

/-- **The place of a flag's bit.** -/
def position : Flag → Nat
  | kind k => kindPosition k
  | anyKind => 12
  | important => 13
  | matchCase => 14
  | redirect => 15
  | thirdParty => 16
  | firstParty => 17
  | regex => 18
  | leftAnchor => 19
  | rightAnchor => 20
  | hostnameAnchor => 21
  | exception => 22
  | hostname => 23

/-- Every flag. -/
def all : List Flag :=
  RequestKind.all.map kind ++
    [anyKind, important, matchCase, redirect, thirdParty, firstParty, regex, leftAnchor,
      rightAnchor, hostnameAnchor, exception, hostname]

/-- No flag is missing from the list of all of them. -/
@[simp] theorem mem_all (f : Flag) : f ∈ all := by
  cases f <;> simp [all]

/-- **The bit of a flag.** -/
def bit (f : Flag) : UInt32 :=
  1 <<< UInt32.ofNat f.position

/-- The bit of a flag is the one at its place. -/
theorem getLsbD_bit (f : Flag) {i : Nat} (h : i < 32) :
    f.bit.toBitVec.getLsbD i = (f.position == i) := by
  have all : ∀ f ∈ all, ∀ i : Fin 32, f.bit.toBitVec.getLsbD i = (f.position == i.val) := by
    decide
  exact all f (mem_all f) ⟨i, h⟩

/-- Every flag's place is one of the mask's. -/
theorem position_lt (f : Flag) : f.position < 32 := by
  have all : ∀ f ∈ all, f.position < 32 := by decide
  exact all f (mem_all f)

/-- Two flags do not share a place. -/
theorem position_inj {f g : Flag} : f.position = g.position ↔ f = g := by
  refine ⟨fun h => ?_, congrArg position⟩
  have all : ∀ f ∈ all, ∀ g ∈ all, f.position = g.position → f = g := by decide
  exact all f (mem_all f) g (mem_all g) h

end Flag

/-- **A mask**: 32 bits. -/
structure Mask where
  /-- The bits, as a number. -/
  bits : UInt32
  deriving DecidableEq, Repr

namespace Mask

/-- **Whether a flag's bit is set.** -/
def has (m : Mask) (f : Flag) : Bool :=
  m.bits &&& f.bit == f.bit

/-- Having a flag is having the bit at its place. -/
theorem has_eq_getLsbD (m : Mask) (f : Flag) : m.has f = m.bits.toBitVec.getLsbD f.position := by
  rw [has, Bool.eq_iff_iff, beq_iff_eq, ← UInt32.toBitVec_inj, UInt32.toBitVec_and]
  constructor
  · intro h
    have h := congrArg (·.getLsbD f.position) h
    simpa [BitVec.getLsbD_and, Flag.getLsbD_bit f f.position_lt] using h
  · intro h
    refine BitVec.eq_of_getLsbD_eq fun i hi => ?_
    rw [BitVec.getLsbD_and, Flag.getLsbD_bit f hi]
    by_cases hf : f.position = i
    · simp [← hf, h]
    · simp [hf]

/-- The bits of the flags of a list that hold. -/
def bitsOf (p : Flag → Bool) : List Flag → UInt32
  | [] => 0
  | f :: fs => (if p f then f.bit else 0) ||| bitsOf p fs

/-- **The mask of the flags that hold.** -/
def of (p : Flag → Bool) : Mask :=
  ⟨bitsOf p Flag.all⟩

/-- Such bits are set where a flag that holds has its place. -/
theorem getLsbD_bitsOf (p : Flag → Bool) (fs : List Flag) {i : Nat} (h : i < 32) :
    (bitsOf p fs).toBitVec.getLsbD i = fs.any fun f => p f && f.position == i := by
  induction fs with
  | nil => simp [bitsOf]
  | cons f fs ih =>
    rw [bitsOf, UInt32.toBitVec_or, BitVec.getLsbD_or, ih, List.any_cons]
    congr 1
    split
    · next hp => simp [hp, Flag.getLsbD_bit f h]
    · next hp => simp [hp]

/-- **Exactly the flags that hold can be read off their mask.** -/
@[simp] theorem has_of (p : Flag → Bool) (f : Flag) : (of p).has f = p f := by
  rw [has_eq_getLsbD, of, getLsbD_bitsOf p _ f.position_lt, Bool.eq_iff_iff, List.any_eq_true]
  constructor
  · rintro ⟨g, -, hg⟩
    rw [Bool.and_eq_true, beq_iff_eq, Flag.position_inj] at hg
    exact hg.2 ▸ hg.1
  · intro h
    exact ⟨f, Flag.mem_all f, by simp [h]⟩

/-! ## Changing masks -/

/-- No flag. -/
def empty : Mask := ⟨0⟩

/-- Whether no bit is set. -/
def isEmpty (m : Mask) : Bool :=
  m.bits == 0

/-- **A mask with another value of a flag.** -/
def put (m : Mask) (f : Flag) (value : Bool) : Mask :=
  if value then ⟨m.bits ||| f.bit⟩ else ⟨m.bits &&& ~~~f.bit⟩

/-- **The bits of two masks.** -/
def union (m n : Mask) : Mask :=
  ⟨m.bits ||| n.bits⟩

/-- **The bits of a mask without those of another one.** -/
def without (m n : Mask) : Mask :=
  ⟨m.bits &&& ~~~n.bits⟩

variable {p q : Flag → Bool}

/-- A mask of flags has no other bits. -/
theorem getLsbD_of {i : Nat} (h : i < 32) :
    (of p).bits.toBitVec.getLsbD i = Flag.all.any fun f => p f && f.position == i :=
  getLsbD_bitsOf p _ h

/-- A mask is that of some flags if it has their bits. -/
theorem eq_of_getLsbD {m : Mask} (h : ∀ i < 32, m.bits.toBitVec.getLsbD i =
    Flag.all.any fun f => p f && f.position == i) : m = of p := by
  refine congrArg Mask.mk (UInt32.toBitVec_inj.1 (BitVec.eq_of_getLsbD_eq fun i hi => ?_))
  exact (h i hi).trans (getLsbD_of hi).symm

/-- The flag with a place decides what a mask has there. -/
theorem any_position_eq_true_iff {i : Nat} :
    (Flag.all.any fun f => p f && f.position == i) = true ↔ ∃ f, p f = true ∧ f.position = i := by
  simp only [List.any_eq_true, Bool.and_eq_true, beq_iff_eq, Flag.mem_all, true_and]

/-- **Giving a flag a value** changes no other flag. -/
theorem put_of (f : Flag) (value : Bool) :
    (of p).put f value = of fun g => if f = g then value else p g := by
  refine eq_of_getLsbD fun i hi => ?_
  rw [Bool.eq_iff_iff, any_position_eq_true_iff, put]
  cases value with
  | true =>
    rw [if_pos rfl, UInt32.toBitVec_or, BitVec.getLsbD_or, getLsbD_of hi, Flag.getLsbD_bit f hi,
      Bool.or_eq_true, any_position_eq_true_iff, beq_iff_eq]
    constructor
    · rintro (⟨g, hg, hi⟩ | hi)
      · exact ⟨g, by rw [hg, ite_self], hi⟩
      · exact ⟨f, if_pos rfl, hi⟩
    · rintro ⟨g, hg, hi⟩
      by_cases same : f = g
      · exact .inr (same ▸ hi)
      · exact .inl ⟨g, (if_neg same).symm.trans hg, hi⟩
  | false =>
    rw [if_neg Bool.false_ne_true, UInt32.toBitVec_and, UInt32.toBitVec_not, BitVec.getLsbD_and,
      BitVec.getLsbD_not, getLsbD_of hi, Flag.getLsbD_bit f hi, Bool.and_eq_true,
      any_position_eq_true_iff, decide_eq_true hi, Bool.true_and, Bool.not_eq_true',
      beq_eq_false_iff_ne]
    constructor
    · rintro ⟨⟨g, hg, rfl⟩, other⟩
      exact ⟨g, (if_neg fun same => other (congrArg _ same)).trans hg, rfl⟩
    · rintro ⟨g, hg, rfl⟩
      by_cases same : f = g
      · rw [if_pos same] at hg
        cases hg
      · exact ⟨⟨g, (if_neg same).symm.trans hg, rfl⟩, mt Flag.position_inj.1 same⟩

/-- **Joined masks** have the flags of both. -/
theorem union_of : (of p).union (of q) = of fun f => p f || q f := by
  refine eq_of_getLsbD fun i hi => ?_
  rw [union, UInt32.toBitVec_or, BitVec.getLsbD_or, getLsbD_of hi, getLsbD_of hi, Bool.eq_iff_iff,
    Bool.or_eq_true]
  simp only [any_position_eq_true_iff, Bool.or_eq_true, or_and_right, exists_or]

/-- **Without the flags of another mask** only the others are left. -/
theorem without_of : (of p).without (of q) = of fun f => p f && !q f := by
  refine eq_of_getLsbD fun i hi => ?_
  rw [without, UInt32.toBitVec_and, UInt32.toBitVec_not, BitVec.getLsbD_and, BitVec.getLsbD_not,
    getLsbD_of hi, getLsbD_of hi, decide_eq_true hi, Bool.true_and, Bool.eq_iff_iff,
    Bool.and_eq_true, Bool.not_eq_true', ← Bool.not_eq_true]
  simp only [any_position_eq_true_iff, Bool.and_eq_true, Bool.not_eq_true']
  constructor
  · rintro ⟨⟨f, hf, hi⟩, others⟩
    exact ⟨f, ⟨hf, Bool.eq_false_iff.2 fun hq => others ⟨f, hq, hi⟩⟩, hi⟩
  · rintro ⟨f, ⟨hf, hq⟩, rfl⟩
    refine ⟨⟨f, hf, rfl⟩, ?_⟩
    rintro ⟨g, hg, same⟩
    rw [Flag.position_inj.1 same, hq] at hg
    cases hg

/-- No bit is set if no flag holds. -/
theorem isEmpty_of : (of p).isEmpty = !Flag.all.any p := by
  rw [isEmpty, Bool.eq_iff_iff, beq_iff_eq, Bool.not_eq_true', List.any_eq_false]
  constructor
  · intro none f _ holds
    have has : (of p).has f = true := by rw [has_of, holds]
    rw [Mask.has, none, UInt32.zero_and, beq_iff_eq] at has
    have bits : ∀ f ∈ Flag.all, (0 : UInt32) ≠ f.bit := by decide
    exact bits f (Flag.mem_all f) has
  · intro none
    have never : p = fun _ => false := funext fun f => Bool.eq_false_iff.2 (none f (Flag.mem_all f))
    rw [never]
    rfl

end Mask

end ContentFilter
