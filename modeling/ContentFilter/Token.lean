import ContentFilter.Hash

/-!
# Tokens

An index of filters is keyed by the hashes of the words that occur in
them. A word is a maximal run of word characters, and which characters
count depends on what is read (`TokenClass`):

* in a *pattern* the letters and digits of ASCII count, and a run directly
  followed by `*` is passed over: the wildcard may stand for more of the
  same word, so the run need not be a word of a URL that matches;
* in a *selector* `_`, `-`, `.` and `#` count as well, and no run is passed
  over.

The words not yet read of a text are a function of the rest of the text
alone: `next?` takes the first word off a rest, and `words` is what taking
it off again and again gives (`words_eq`). Reading a copy of a rest
therefore never disturbs the rest itself.
-/

namespace ContentFilter

/-- **What counts as a word.** -/
inductive TokenClass where
  /-- Words of a URL pattern. -/
  | pattern
  /-- Words of a CSS selector. -/
  | selector
  deriving DecidableEq, Repr

namespace TokenClass

/-- The characters of a word. -/
def allows : TokenClass → Char → Bool
  | pattern, c => Text.isAlphanumeric c
  | selector, c => Text.isAlphanumeric c || c == '_' || c == '-' || c == '.' || c == '#'

/-- Whether a word directly followed by `rest` is passed over. -/
def skipsBefore : TokenClass → Text → Bool
  | pattern, rest => rest.head? == some '*'
  | selector, _ => false

/-- **The first word of a text, and the rest of the text behind it.** -/
def next? (k : TokenClass) (t : Text) : Option (Text × Text) :=
  match _h : t.dropWhile (fun c => !k.allows c) with
  | [] => none
  | c :: r =>
    let rest := r.dropWhile k.allows
    if k.skipsBefore rest then next? k rest
    else some (c :: r.takeWhile k.allows, rest)
termination_by t.length
decreasing_by
  have h₁ := (List.dropWhile_sublist k.allows (l := r)).length_le
  have h₂ := (List.dropWhile_sublist (fun c => !k.allows c) (l := t)).length_le
  simp only [_h, List.length_cons] at h₂
  omega

/-- Taking off a word leaves a shorter text. -/
theorem length_lt_of_next? {k : TokenClass} {t w rest : Text}
    (h : k.next? t = some (w, rest)) : rest.length < t.length := by
  induction t using WellFounded.induction (measure List.length).wf with
  | _ t ih =>
    rw [next?] at h
    split at h
    · simp at h
    · next c r hc =>
      have h₁ := (List.dropWhile_sublist k.allows (l := r)).length_le
      have h₂ := (List.dropWhile_sublist (fun c => !k.allows c) (l := t)).length_le
      simp only [hc, List.length_cons] at h₂
      simp only at h
      split at h
      · have h₃ := ih (r.dropWhile k.allows)
          (show (r.dropWhile k.allows).length < t.length by omega) h
        omega
      · simp only [Option.some.injEq, Prod.mk.injEq] at h
        rw [← h.2]
        omega

/-- **The words of a text**, from left to right. -/
def words (k : TokenClass) (t : Text) : List Text :=
  match _h : k.next? t with
  | none => []
  | some (w, rest) => w :: words k rest
termination_by t.length
decreasing_by exact length_lt_of_next? _h

/-- The words are the first word and the words of what is left. -/
theorem words_eq (k : TokenClass) (t : Text) :
    k.words t = match k.next? t with
      | none => []
      | some (w, rest) => w :: k.words rest := by
  rw [words]
  split <;> simp_all

end TokenClass

/-- **Tokens being read**: a class of words and the text still ahead. -/
structure Tokens where
  /-- What counts as a word. -/
  tokenClass : TokenClass
  /-- The text still to be read. -/
  rest : Text
  deriving DecidableEq, Repr

namespace Tokens

/-- **The next token, and the tokens behind it.** -/
def next? (ts : Tokens) : Option (Hash × Tokens) :=
  (ts.tokenClass.next? ts.rest).map fun (w, rest) => (Hash.ofText w, { ts with rest })

/-- **The tokens still ahead.** -/
def toList (ts : Tokens) : List Hash :=
  (ts.tokenClass.words ts.rest).map Hash.ofText

/-- The tokens ahead are the next one and those behind it. -/
theorem toList_eq (ts : Tokens) :
    ts.toList = match ts.next? with
      | none => []
      | some (h, behind) => h :: behind.toList := by
  rw [toList, TokenClass.words_eq, next?]
  cases ts.tokenClass.next? ts.rest <;> rfl

/-- **The next `n` tokens**, `none` standing for each one that is missing,
and the tokens behind them. -/
def take : Nat → Tokens → List (Option Hash) × Tokens
  | 0, ts => ([], ts)
  | n + 1, ts =>
    match ts.next? with
    | none => let (heads, behind) := take n ts; (none :: heads, behind)
    | some (h, next) => let (heads, behind) := take n next; (some h :: heads, behind)

end Tokens

/-- **The tokens of a pattern.** -/
def patternTokens (t : Text) : List Hash :=
  Tokens.toList ⟨.pattern, t⟩

/-- **The tokens of a selector.** -/
def selectorTokens (t : Text) : List Hash :=
  Tokens.toList ⟨.selector, t⟩

end ContentFilter
