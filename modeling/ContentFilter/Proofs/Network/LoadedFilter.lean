import ContentFilter.Network.Matching

/-!
# Network filters in use

A filter has its pattern compiled by an engine when it first needs the program,
and keeps the program from then on. Which requests need it is for the shape of the
filter to say, and the program can be asked for as well, whatever the
shape. A `LoadedFilter` is a filter along with the place where the program
is kept; `run` puts it to any number of uses, one after the other.

Nothing of this shows from outside. The fields of a filter never change,
so what is kept is always the program of its pattern (`IsSound`), and every
use is answered as the filter alone answers it (`IsSound.yields_run`).
-/

namespace ContentFilter

open Pattern (Program)

/-- **A network filter in use.** -/
structure LoadedFilter where
  /-- The filter. -/
  filter : NetworkFilter
  /-- The program of its pattern, once it was needed. -/
  program? : Option Program

/-- **What a filter is used for.** -/
inductive FilterUse where
  /-- Its program is asked for. -/
  | program
  /-- It is compared with a request. -/
  | request (r : Request)

/-- **What comes of a use.** -/
inductive FilterAnswer where
  /-- The program. -/
  | program (p : Program)
  /-- Whether the request matches. -/
  | request (isMatch : Bool)

/-- **What a filter alone answers**, with nothing kept. -/
def NetworkFilter.answer (f : NetworkFilter) (engine : Engine) : FilterUse → FilterAnswer
  | .program => .program (f.program engine)
  | .request r => .request (f.isMatch engine r)

namespace LoadedFilter

/-- **A filter that was not used yet.** -/
def load (f : NetworkFilter) : LoadedFilter :=
  ⟨f, none⟩

section

variable (engine : Engine)

/-- **The program of the filter**: the one that is kept, or else a new one,
which is kept then. -/
def program (l : LoadedFilter) : LoadedFilter × Program :=
  match l.program? with
  | some p => (l, p)
  | none => ({ l with program? := some (l.filter.program engine) }, l.filter.program engine)

/-- Whether the program of the filter matches a text. -/
def isMatchOfProgram (l : LoadedFilter) (text : List UInt8) : LoadedFilter × Bool :=
  let (l', p) := l.program engine
  (l', p.isMatch text)

/-- **Whether the pattern matches.** Two shapes need the program, and one of
them only behind the hostname. -/
def matchesPattern (l : LoadedFilter) (r : Request) : LoadedFilter × Bool :=
  match l.filter.shape with
  | .regex => l.isMatchOfProgram engine (l.filter.comparedUrl r)
  | .hostnameRegex =>
    match l.filter.behindHostname? r with
    | some rest => l.isMatchOfProgram engine rest
    | none => (l, false)
  | _ => (l, l.filter.matchesPattern engine r)

/-- **Whether the filter matches a request.** The pattern is only looked at
if the options match. -/
def isMatch (l : LoadedFilter) (r : Request) : LoadedFilter × Bool :=
  if l.filter.matchesOptions r then l.matchesPattern engine r else (l, false)

/-- **One use of a filter.** -/
def use (l : LoadedFilter) : FilterUse → LoadedFilter × FilterAnswer
  | .program => ((l.program engine).1, .program (l.program engine).2)
  | .request r => ((l.isMatch engine r).1, .request (l.isMatch engine r).2)

/-- **Some uses of a filter**, one after the other. -/
def run (l : LoadedFilter) : List FilterUse → LoadedFilter × List FilterAnswer
  | [] => (l, [])
  | u :: uses =>
    let (l', a) := l.use engine u
    let (l'', as) := l'.run uses
    (l'', a :: as)

/-- **A filter as it can be met**: loaded, and used any number of times. -/
def IsReachable (l : LoadedFilter) : Prop :=
  ∃ uses, ((load l.filter).run engine uses).1 = l

/-- **What is kept is the program of the filter**, if anything is. -/
def IsSound (l : LoadedFilter) : Prop :=
  ∀ p ∈ l.program?, p = l.filter.program engine

/-- A filter that was not used keeps nothing. -/
theorem isSound_load (f : NetworkFilter) : (load f).IsSound engine := by
  simp [IsSound, load]

/-- What a part of a use leaves behind and gives back, if nothing of it
shows: the same filter, a sound state, and the value the filter alone
gives. -/
structure Yields {α : Type} (l : LoadedFilter) (a : α) (out : LoadedFilter × α) : Prop where
  /-- The filter is the same. -/
  filter : out.1.filter = l.filter
  /-- What is kept is its program. -/
  isSound : out.1.IsSound engine
  /-- The value is the one of the filter alone. -/
  value : out.2 = a

end

variable {engine : Engine} {l : LoadedFilter}

/-- Nothing kept, nothing shown. -/
theorem IsSound.yields_self (h : l.IsSound engine) {α : Type} (a : α) :
    l.Yields engine a (l, a) :=
  ⟨rfl, h, rfl⟩

/-- **The program is the one of the filter**, whether it was kept or not. -/
theorem IsSound.yields_program (h : l.IsSound engine) :
    l.Yields engine (l.filter.program engine) (l.program engine) := by
  obtain ⟨f, _ | p⟩ := l
  · exact ⟨rfl, by simp [IsSound, program], rfl⟩
  · exact ⟨rfl, h, h p rfl⟩

/-- The program matches what the program of the filter matches. -/
theorem IsSound.yields_isMatchOfProgram (h : l.IsSound engine) (text : List UInt8) :
    l.Yields engine ((l.filter.program engine).isMatch text) (l.isMatchOfProgram engine text) := by
  obtain ⟨filter, isSound, value⟩ := h.yields_program
  exact ⟨filter, isSound, congrArg (Program.isMatch · text) value⟩

/-- The pattern matches what the pattern of the filter matches. -/
theorem IsSound.yields_matchesPattern (h : l.IsSound engine) (r : Request) :
    l.Yields engine (l.filter.matchesPattern engine r) (l.matchesPattern engine r) := by
  cases shape : l.filter.shape with
  | regex =>
    simp only [matchesPattern, NetworkFilter.matchesPattern, shape]
    exact h.yields_isMatchOfProgram _
  | hostnameRegex =>
    simp only [matchesPattern, NetworkFilter.matchesPattern, shape]
    cases l.filter.behindHostname? r with
    | none => exact h.yields_self _
    | some rest => exact h.yields_isMatchOfProgram rest
  | _ =>
    simp only [matchesPattern, shape]
    exact h.yields_self _

/-- The filter matches the requests it matches with nothing kept. -/
theorem IsSound.yields_isMatch (h : l.IsSound engine) (r : Request) :
    l.Yields engine (l.filter.isMatch engine r) (l.isMatch engine r) := by
  rw [isMatch, NetworkFilter.isMatch]
  cases l.filter.matchesOptions r with
  | true => exact h.yields_matchesPattern r
  | false => exact h.yields_self _

/-- **One use shows nothing of what is kept.** -/
theorem IsSound.yields_use (h : l.IsSound engine) (u : FilterUse) :
    l.Yields engine (l.filter.answer engine u) (l.use engine u) := by
  cases u with
  | program =>
    obtain ⟨filter, isSound, value⟩ := h.yields_program
    exact ⟨filter, isSound, congrArg FilterAnswer.program value⟩
  | request r =>
    obtain ⟨filter, isSound, value⟩ := h.yields_isMatch r
    exact ⟨filter, isSound, congrArg FilterAnswer.request value⟩

/-- **No number of uses shows anything of what is kept.** -/
theorem IsSound.yields_run (h : l.IsSound engine) (uses : List FilterUse) :
    l.Yields engine (uses.map (l.filter.answer engine)) (l.run engine uses) := by
  induction uses generalizing l with
  | nil => exact h.yields_self []
  | cons u uses ih =>
    obtain ⟨filter, isSound, value⟩ := h.yields_use u
    -- the further uses start from what this one left behind
    obtain ⟨filter', isSound', value'⟩ := ih isSound
    refine ⟨filter'.trans filter, isSound', ?_⟩
    rw [List.map_cons, ← value, ← filter, ← value']
    rfl

/-- A filter that can be met keeps nothing but its program. -/
theorem IsReachable.isSound (h : l.IsReachable engine) : l.IsSound engine := by
  obtain ⟨uses, hl⟩ := h
  exact hl ▸ ((isSound_load engine l.filter).yields_run uses).isSound

/-- A filter goes on to be one that can be met, whatever it is used for. -/
theorem isReachable_run (engine : Engine) (f : NetworkFilter) (uses : List FilterUse) :
    ((load f).run engine uses).1.IsReachable engine := by
  refine ⟨uses, ?_⟩
  rw [((isSound_load engine f).yields_run uses).filter]
  rfl

end LoadedFilter

end ContentFilter
