import ContentFilter.Proofs.Stored.Format

/-!
# Values as JSON

The format `Json.compact` writes values as JSON without blanks. In texts it
escapes the quotation mark, the backslash and the control characters, and
leaves every other character as it is.

Its reader is a machine that takes the characters one by one and keeps the
lists and objects it is inside of. It reads what is written in this form, no
blanks, no fractions, and no escapes other than those the writer uses.

What it wrote of a value it reads as that value (`isFaithful_compact`). The
one place where a value does not end with its last character is behind the
digits of a number: the machine still waits for digits, and whatever comes
next ends the number first (`Reading.settled`).
-/

namespace ContentFilter.Stored.Json

/-! ## Writing -/

/-- The characters that have a short escape, with the character behind the
backslash. -/
def shortEscapes : List (Char × Char) :=
  [('"', '"'), ('\\', '\\'), ('\x08', 'b'), ('\x0c', 'f'), ('\n', 'n'), ('\r', 'r'), ('\t', 't')]

/-- The first character that is no control character. -/
def controlBound : Nat :=
  0x20

/-- **A character within quotation marks.** -/
def writeChar (c : Char) : Text :=
  match shortEscapes.find? (·.1 = c) with
  | some (_, e) => ['\\', e]
  | none =>
    if c.toNat < controlBound then
      ['\\', 'u', '0', '0'] ++ [Nat.digitChar (c.toNat / 16), Nat.digitChar (c.toNat % 16)]
    else [c]

/-- **A text**, within quotation marks. -/
def writeText (t : Text) : Text :=
  '"' :: t.flatMap writeChar ++ ['"']

/-- **An integer.** -/
def writeInteger : Int → Text
  | .ofNat n => Nat.toDigits 10 n
  | .negSucc n => '-' :: Nat.toDigits 10 (n + 1)

mutual

/-- **A value.** -/
def write : Value → Text
  | .null => "null".toList
  | .bool true => "true".toList
  | .bool false => "false".toList
  | .integer n => writeInteger n
  | .fraction => "0.5".toList
  | .text t => writeText t
  | .list [] => "[]".toList
  | .list (v :: vs) => '[' :: (write v ++ writeItems vs)
  | .object [] => ['{', '}']
  | .object ((name, v) :: fields) =>
    '{' :: (writeText name.toList ++ ':' :: (write v ++ writeFields fields))

/-- The further items of a list, and its end. -/
def writeItems : List Value → Text
  | [] => [']']
  | v :: vs => ',' :: (write v ++ writeItems vs)

/-- The further fields of an object, and its end. -/
def writeFields : List (String × Value) → Text
  | [] => ['}']
  | (name, v) :: fields =>
    ',' :: (writeText name.toList ++ ':' :: (write v ++ writeFields fields))

end

/-! ## Reading -/

/-- **What a value is inside of.** -/
inductive Frame where
  /-- A list, with the items before it. -/
  | list (items : List Value)
  /-- An object, with the fields before it; a name is to come. -/
  | object (fields : List (String × Value))
  /-- A field of an object, with the fields before it. -/
  | field (fields : List (String × Value)) (name : String)

/-- **What the next character is read as.** -/
inductive Mode where
  /-- The start of a value, or the end of a list without items. -/
  | value
  /-- The start of a name, or the end of an object without fields. -/
  | name
  /-- What parts a name from its value. -/
  | colon (name : String)
  /-- What stands behind a value. -/
  | behind
  /-- The rest of a word that stands for a value. -/
  | word (rest : Text) (v : Value)
  /-- The first digit of a negative number. -/
  | minus
  /-- A digit, or what stands behind a number. -/
  | number (isNegative : Bool) (n : Nat)
  /-- A character of a text, or its end. -/
  | quoted (isName : Bool) (t : Text)
  /-- What stands behind a backslash. -/
  | escaped (isName : Bool) (t : Text)
  /-- A digit of a character that is given by its number. -/
  | code (isName : Bool) (t : Text) (left n : Nat)
  /-- Nothing more, the value is complete. -/
  | complete (v : Value)

/-- **A reading**: what was read so far. -/
structure Reading where
  /-- What the next character is read as. -/
  mode : Mode
  /-- What the value that is being read is inside of, the closest first. -/
  frames : List Frame

namespace Reading

/-- **A value was read.** -/
def finish (v : Value) : List Frame → Reading
  | [] => ⟨.complete v, []⟩
  | .list items :: frames => ⟨.behind, .list (items ++ [v]) :: frames⟩
  | .field fields name :: frames => ⟨.behind, .object (fields ++ [(name, v)]) :: frames⟩
  | .object fields :: frames => ⟨.behind, .object fields :: frames⟩

/-- A text was read, as a name or as a value. -/
def finishText (isName : Bool) (t : Text) (frames : List Frame) : Reading :=
  if isName then ⟨.colon (String.ofList t), frames⟩ else finish (.text t) frames

/-- An integer. -/
def integer (isNegative : Bool) (n : Nat) : Value :=
  .integer (if isNegative then -n else n)

/-- The value of a digit. -/
def digitValue (c : Char) : Nat :=
  c.toNat - '0'.toNat

/-- The value of a digit of base 16. -/
def hexValue? (c : Char) : Option Nat :=
  if c.isDigit then some (digitValue c)
  else if 'a' ≤ c && c ≤ 'f' then some (10 + (c.toNat - 'a'.toNat))
  else none

/-- The start of a value. -/
def stepValue? (frames : List Frame) (c : Char) : Option Reading :=
  if c.isDigit then some ⟨.number false (digitValue c), frames⟩
  else match c, frames with
  | '"', _ => some ⟨.quoted false [], frames⟩
  | '[', _ => some ⟨.value, .list [] :: frames⟩
  | '{', _ => some ⟨.name, .object [] :: frames⟩
  | 'n', _ => some ⟨.word "ull".toList .null, frames⟩
  | 't', _ => some ⟨.word "rue".toList (.bool true), frames⟩
  | 'f', _ => some ⟨.word "alse".toList (.bool false), frames⟩
  | '-', _ => some ⟨.minus, frames⟩
  | ']', .list [] :: frames => some (finish (.list []) frames)
  | _, _ => none

/-- The start of a name. -/
def stepName? (frames : List Frame) (c : Char) : Option Reading :=
  match c, frames with
  | '"', _ => some ⟨.quoted true [], frames⟩
  | '}', .object [] :: frames => some (finish (.object []) frames)
  | _, _ => none

/-- What stands behind a value. -/
def stepBehind? (frames : List Frame) (c : Char) : Option Reading :=
  match frames, c with
  | .list _ :: _, ',' => some ⟨.value, frames⟩
  | .object _ :: _, ',' => some ⟨.name, frames⟩
  | .list items :: frames, ']' => some (finish (.list items) frames)
  | .object fields :: frames, '}' => some (finish (.object fields) frames)
  | _, _ => none

/-- What parts a name from its value. -/
def stepColon? (name : String) (frames : List Frame) (c : Char) : Option Reading :=
  match c, frames with
  | ':', .object fields :: frames => some ⟨.value, .field fields name :: frames⟩
  | _, _ => none

/-- The rest of a word. -/
def stepWord? (rest : Text) (v : Value) (frames : List Frame) (c : Char) : Option Reading :=
  match rest with
  | [] => none
  | [d] => if c = d then some (finish v frames) else none
  | d :: rest => if c = d then some ⟨.word rest v, frames⟩ else none

/-- A character of a text. -/
def stepQuoted? (isName : Bool) (t : Text) (frames : List Frame) (c : Char) : Option Reading :=
  if c = '"' then some (finishText isName t frames)
  else if c = '\\' then some ⟨.escaped isName t, frames⟩
  else if c.toNat < controlBound then none
  else some ⟨.quoted isName (t ++ [c]), frames⟩

/-- What stands behind a backslash. -/
def stepEscaped? (isName : Bool) (t : Text) (frames : List Frame) (c : Char) : Option Reading :=
  match shortEscapes.find? (·.2 = c) with
  | some (d, _) => some ⟨.quoted isName (t ++ [d]), frames⟩
  | none => if c = 'u' then some ⟨.code isName t 3 0, frames⟩ else none

/-- A digit of a character that is given by its number. -/
def stepCode? (isName : Bool) (t : Text) (left n : Nat) (frames : List Frame) (c : Char) :
    Option Reading :=
  (hexValue? c).map fun d =>
    match left with
    | 0 => ⟨.quoted isName (t ++ [Char.ofNat (16 * n + d)]), frames⟩
    | left + 1 => ⟨.code isName t left (16 * n + d), frames⟩

/-- **One character is read.** -/
def step? (r : Reading) (c : Char) : Option Reading :=
  match r.mode with
  | .value => stepValue? r.frames c
  | .name => stepName? r.frames c
  | .colon name => stepColon? name r.frames c
  | .behind => stepBehind? r.frames c
  | .word rest v => stepWord? rest v r.frames c
  | .minus => if c.isDigit then some ⟨.number true (digitValue c), r.frames⟩ else none
  | .number isNegative n =>
    if c.isDigit then some ⟨.number isNegative (10 * n + digitValue c), r.frames⟩
    else stepBehind? (finish (integer isNegative n) r.frames).frames c
  | .quoted isName t => stepQuoted? isName t r.frames c
  | .escaped isName t => stepEscaped? isName t r.frames c
  | .code isName t left n => stepCode? isName t left n r.frames c
  | .complete _ => none

/-- **Some characters are read**, one after the other. -/
def run? (r : Reading) (t : Text) : Option Reading :=
  t.foldlM step? r

/-- **A reading of which the number that stands last is complete.** -/
def settled (r : Reading) : Reading :=
  match r.mode with
  | .number isNegative n => finish (integer isNegative n) r.frames
  | _ => r

/-- The value that was read, if it is complete. -/
def end? (r : Reading) : Option Value :=
  match r.settled.mode with
  | .complete v => some v
  | _ => none

end Reading

/-- **The value a text stands for.** -/
def read? (t : Text) : Option Value :=
  (Reading.run? ⟨.value, []⟩ t).bind Reading.end?

/-- **JSON without blanks.** -/
def compact : Format :=
  ⟨write, read?⟩

/-! ## Reading what was written -/

namespace Reading

/-- The first character is read first. -/
theorem run?_cons (r : Reading) (c : Char) (t : Text) :
    r.run? (c :: t) = (r.step? c).bind (·.run? t) :=
  List.foldlM_cons

/-- A text is read part by part. -/
theorem run?_append (r : Reading) (s t : Text) :
    r.run? (s ++ t) = (r.run? s).bind (·.run? t) :=
  List.foldlM_append

/-! ### Texts -/

/-- No two characters have the same short escape. -/
theorem find?_shortEscapes {p : Char × Char} (h : p ∈ shortEscapes) :
    shortEscapes.find? (·.2 = p.2) = some p := by
  have all : ∀ p ∈ shortEscapes, shortEscapes.find? (·.2 = p.2) = some p := by decide
  exact all p h

/-- A digit of base 16 has its value. -/
theorem hexValue?_digitChar {n : Nat} (h : n < 16) : hexValue? (Nat.digitChar n) = some n := by
  have all : ∀ n < 16, hexValue? (Nat.digitChar n) = some n := by decide
  exact all n h

/-- A short escape is read as its character. -/
theorem run?_shortEscape {p : Char × Char} (h : p ∈ shortEscapes) (isName : Bool) (t : Text)
    (frames : List Frame) :
    run? ⟨.quoted isName t, frames⟩ ['\\', p.2] = some ⟨.quoted isName (t ++ [p.1]), frames⟩ := by
  have backslash : step? ⟨.quoted isName t, frames⟩ '\\' = some ⟨.escaped isName t, frames⟩ := rfl
  have escape : step? ⟨.escaped isName t, frames⟩ p.2 =
      some ⟨.quoted isName (t ++ [p.1]), frames⟩ := by
    simp only [step?, stepEscaped?, find?_shortEscapes h]
  simp only [run?_cons, backslash, escape, Option.bind_some]
  rfl

/-- A control character that is given by its number is read as itself. -/
theorem run?_code {c : Char} (h : c.toNat < controlBound) (isName : Bool) (t : Text)
    (frames : List Frame) :
    run? ⟨.quoted isName t, frames⟩
        (['\\', 'u', '0', '0'] ++ [Nat.digitChar (c.toNat / 16), Nat.digitChar (c.toNat % 16)]) =
      some ⟨.quoted isName (t ++ [c]), frames⟩ := by
  rw [controlBound] at h
  have start : run? ⟨.quoted isName t, frames⟩ ['\\', 'u', '0', '0'] =
      some ⟨.code isName t 1 0, frames⟩ := rfl
  have high : step? ⟨.code isName t 1 0, frames⟩ (Nat.digitChar (c.toNat / 16)) =
      some ⟨.code isName t 0 (c.toNat / 16), frames⟩ := by
    simp [step?, stepCode?, hexValue?_digitChar (show c.toNat / 16 < 16 by omega)]
  have low : step? ⟨.code isName t 0 (c.toNat / 16), frames⟩ (Nat.digitChar (c.toNat % 16)) =
      some ⟨.quoted isName (t ++ [c]), frames⟩ := by
    have whole : 16 * (c.toNat / 16) + c.toNat % 16 = c.toNat := by omega
    simp [step?, stepCode?, hexValue?_digitChar (show c.toNat % 16 < 16 by omega), whole]
  simp only [run?_append, start, run?_cons, high, low, Option.bind_some]
  rfl

/-- **A character is read back**, however it was written. -/
theorem run?_writeChar (isName : Bool) (t : Text) (frames : List Frame) (c : Char) :
    run? ⟨.quoted isName t, frames⟩ (writeChar c) = some ⟨.quoted isName (t ++ [c]), frames⟩ := by
  rw [writeChar]
  split
  · next d e found =>
    obtain rfl : d = c := by simpa using List.find?_some found
    exact run?_shortEscape (List.mem_of_find?_eq_some found) isName t frames
  · next unescaped =>
    split
    · next control => exact run?_code control isName t frames
    · next printed =>
      obtain ⟨quote, backslash⟩ : c ≠ '"' ∧ c ≠ '\\' := by
        constructor <;> rintro rfl <;> exact absurd unescaped (by decide)
      simp only [run?_cons, step?, stepQuoted?, quote, backslash, printed, if_false]
      rfl

/-- The characters of a text are read back. -/
theorem run?_flatMap_writeChar (isName : Bool) (t u : Text) (frames : List Frame) :
    run? ⟨.quoted isName t, frames⟩ (u.flatMap writeChar) =
      some ⟨.quoted isName (t ++ u), frames⟩ := by
  induction u generalizing t with
  | nil => simp [run?]
  | cons c u ih =>
    rw [List.flatMap_cons, run?_append, run?_writeChar, Option.bind_some, ih, List.append_assoc]
    rfl

/-- **A text is read back** as the name or the value that it is. -/
theorem run?_quoted (isName : Bool) (u : Text) (frames : List Frame) :
    run? ⟨.quoted isName [], frames⟩ (u.flatMap writeChar ++ ['"']) =
      some (finishText isName u frames) := by
  rw [run?_append, run?_flatMap_writeChar]
  rfl

/-- A text where a value is to come. -/
theorem run?_writeText (t : Text) (frames : List Frame) :
    run? ⟨.value, frames⟩ (writeText t) = some (finish (.text t) frames) :=
  run?_quoted false t frames

/-- A text where a name is to come. -/
theorem run?_writeText_name (name : String) (frames : List Frame) :
    run? ⟨.name, frames⟩ (writeText name.toList) = some ⟨.colon name, frames⟩ := by
  have read := run?_quoted true name.toList frames
  rwa [finishText, if_pos rfl, String.ofList_toList] at read

/-! ### Numbers -/

/-- The digits of a number are read as its value. -/
theorem run?_digits (isNegative : Bool) {ds : Text} (h : ∀ d ∈ ds, d.isDigit = true) (n : Nat)
    (frames : List Frame) :
    run? ⟨.number isNegative n, frames⟩ ds =
      some ⟨.number isNegative (Nat.ofDigitChars 10 ds n), frames⟩ := by
  induction ds generalizing n with
  | nil => rfl
  | cons d ds ih =>
    have digit : d.isDigit = true := h d List.mem_cons_self
    have step : step? ⟨.number isNegative n, frames⟩ d =
        some ⟨.number isNegative (10 * n + digitValue d), frames⟩ := by
      simp only [step?, digit, if_true]
    rw [run?_cons, step, Option.bind_some, ih fun d hd => h d (List.mem_cons_of_mem _ hd),
      Nat.ofDigitChars_cons]
    rfl

/-- **A natural number is read back**, once its first digit is read as the
start of a number. -/
theorem run?_toDigits (isNegative : Bool) (n : Nat) {r : Reading}
    (start : ∀ d : Char, d.isDigit = true →
      r.step? d = some ⟨.number isNegative (digitValue d), r.frames⟩) :
    r.run? (Nat.toDigits 10 n) = some ⟨.number isNegative n, r.frames⟩ := by
  have digits : ∀ d ∈ Nat.toDigits 10 n, d.isDigit = true := fun d =>
    Nat.isDigit_of_mem_toDigits (by omega) (by omega)
  have value : Nat.ofDigitChars 10 (Nat.toDigits 10 n) 0 = n :=
    Nat.ofDigitChars_toDigits (by omega) (by omega)
  obtain ⟨d, ds, split⟩ := List.exists_cons_of_ne_nil (Nat.toDigits_ne_nil (n := n) (b := 10))
  rw [split] at digits value ⊢
  rw [run?_cons, start d (digits d List.mem_cons_self), Option.bind_some,
    run?_digits isNegative fun d hd => digits d (List.mem_cons_of_mem _ hd)]
  rw [Nat.ofDigitChars_cons, Nat.mul_zero, Nat.zero_add] at value
  rw [digitValue, value]

/-- A value that was read is complete. -/
theorem settled_finish (v : Value) (frames : List Frame) :
    (finish v frames).settled = finish v frames := by
  cases frames with
  | nil => rfl
  | cons frame frames => cases frame <;> rfl

/-- **What is no digit ends a number.** -/
theorem step?_settled (r : Reading) {c : Char} (h : c.isDigit = false) :
    r.settled.step? c = r.step? c := by
  obtain ⟨mode, frames⟩ := r
  cases mode with
  | number isNegative n =>
    -- the number is finished first, and then it is as behind any value
    simp only [settled, step?, h, Bool.false_eq_true, if_false]
    cases frames with
    | nil => rfl
    | cons frame frames => cases frame <;> rfl
  | _ => rfl

end Reading

/-! ### Values -/

open Reading

/-- **A value is read back**, whatever it is inside of: the reader is where it
was, with the value read, as soon as its digits end. -/
def IsReadBack (v : Value) : Prop :=
  ∀ frames, ∃ r, run? ⟨.value, frames⟩ (write v) = some r ∧ r.settled = finish v frames

/-- Integers are read back. -/
theorem isReadBack_integer (n : Int) : IsReadBack (.integer n) := by
  intro frames
  cases n with
  | ofNat n =>
    refine ⟨_, run?_toDigits false n fun d hd => ?_, rfl⟩
    simp only [step?, stepValue?, hd, if_true]
  | negSucc n =>
    have minus : step? ⟨.value, frames⟩ '-' = some ⟨.minus, frames⟩ := rfl
    refine ⟨⟨.number true (n + 1), frames⟩, ?_, rfl⟩
    change run? _ ('-' :: Nat.toDigits 10 (n + 1)) = _
    rw [run?_cons, minus, Option.bind_some]
    refine run?_toDigits true (n + 1) fun d hd => ?_
    simp only [step?, hd, if_true]

/-- An item of a list is read back. -/
theorem IsReadBack.exists_item {v : Value} (h : IsReadBack v) (items : List Value)
    (frames : List Frame) :
    ∃ r : Reading, r.settled = ⟨.behind, .list (items ++ [v]) :: frames⟩ ∧
      ∀ rest, run? ⟨.value, .list items :: frames⟩ (write v ++ rest) = r.run? rest := by
  obtain ⟨r, read, settled⟩ := h (.list items :: frames)
  exact ⟨r, settled, fun rest => by rw [run?_append, read, Option.bind_some]⟩

/-- A field of an object is read back. -/
theorem IsReadBack.exists_field {v : Value} (h : IsReadBack v) (name : String)
    (fields : List (String × Value)) (frames : List Frame) :
    ∃ r : Reading, r.settled = ⟨.behind, .object (fields ++ [(name, v)]) :: frames⟩ ∧
      ∀ rest, run? ⟨.name, .object fields :: frames⟩
        (writeText name.toList ++ ':' :: (write v ++ rest)) = r.run? rest := by
  have colon : step? ⟨.colon name, .object fields :: frames⟩ ':' =
      some ⟨.value, .field fields name :: frames⟩ := rfl
  obtain ⟨r, read, settled⟩ := h (.field fields name :: frames)
  refine ⟨r, settled, fun rest => ?_⟩
  rw [run?_append, run?_writeText_name, Option.bind_some, run?_cons, colon, Option.bind_some,
    run?_append, read, Option.bind_some]

/-- **Further items of a list are read back**, if each of them is. -/
theorem run?_writeItems {vs : List Value} (hvs : ∀ v ∈ vs, IsReadBack v) (items : List Value)
    (frames : List Frame) {r : Reading} (hr : r.settled = ⟨.behind, .list items :: frames⟩) :
    r.run? (writeItems vs) = some (finish (.list (items ++ vs)) frames) := by
  induction vs generalizing items r with
  | nil =>
    rw [writeItems, run?_cons, ← step?_settled r rfl, hr, List.append_nil]
    rfl
  | cons v vs ih =>
    have comma : r.step? ',' = some ⟨.value, .list items :: frames⟩ := by
      rw [← step?_settled r rfl, hr]
      rfl
    obtain ⟨r', settled, read⟩ := (hvs v List.mem_cons_self).exists_item items frames
    rw [writeItems, run?_cons, comma, Option.bind_some, read,
      ih (fun v hv => hvs v (List.mem_cons_of_mem _ hv)) (items ++ [v]) settled,
      List.append_assoc]
    rfl

/-- **Further fields of an object are read back**, if the value of each is. -/
theorem run?_writeFields {gs : List (String × Value)} (hgs : ∀ g ∈ gs, IsReadBack g.2)
    (fields : List (String × Value)) (frames : List Frame) {r : Reading}
    (hr : r.settled = ⟨.behind, .object fields :: frames⟩) :
    r.run? (writeFields gs) = some (finish (.object (fields ++ gs)) frames) := by
  induction gs generalizing fields r with
  | nil =>
    rw [writeFields, run?_cons, ← step?_settled r rfl, hr, List.append_nil]
    rfl
  | cons g gs ih =>
    have comma : r.step? ',' = some ⟨.name, .object fields :: frames⟩ := by
      rw [← step?_settled r rfl, hr]
      rfl
    obtain ⟨r', settled, read⟩ := (hgs g List.mem_cons_self).exists_field g.1 fields frames
    rw [writeFields, run?_cons, comma, Option.bind_some, read,
      ih (fun g hg => hgs g (List.mem_cons_of_mem _ hg)) (fields ++ [g]) settled,
      List.append_assoc]
    rfl

/-- **Lists are read back**, if their items are. -/
theorem isReadBack_list {vs : List Value} (h : ∀ v ∈ vs, IsReadBack v) :
    IsReadBack (.list vs) := by
  intro frames
  cases vs with
  | nil => exact ⟨_, rfl, settled_finish _ frames⟩
  | cons v vs =>
    have bracket : step? ⟨.value, frames⟩ '[' = some ⟨.value, .list [] :: frames⟩ := rfl
    obtain ⟨r, settled, read⟩ := (h v List.mem_cons_self).exists_item [] frames
    refine ⟨_, ?_, settled_finish _ frames⟩
    change run? _ ('[' :: (write v ++ writeItems vs)) = _
    rw [run?_cons, bracket, Option.bind_some, read,
      run?_writeItems (fun w hw => h w (List.mem_cons_of_mem _ hw)) [v] frames settled]
    rfl

/-- **Objects are read back**, if the values of their fields are. -/
theorem isReadBack_object {fields : List (String × Value)} (h : ∀ f ∈ fields, IsReadBack f.2) :
    IsReadBack (.object fields) := by
  intro frames
  cases fields with
  | nil => exact ⟨_, rfl, settled_finish _ frames⟩
  | cons f fields =>
    have brace : step? ⟨.value, frames⟩ '{' = some ⟨.name, .object [] :: frames⟩ := rfl
    obtain ⟨r, settled, read⟩ := (h f List.mem_cons_self).exists_field f.1 [] frames
    refine ⟨_, ?_, settled_finish _ frames⟩
    change run? _ ('{' :: (writeText f.1.toList ++ ':' :: (write f.2 ++ writeFields fields))) = _
    rw [run?_cons, brace, Option.bind_some, read,
      run?_writeFields (fun g hg => h g (List.mem_cons_of_mem _ hg)) [f] frames settled]
    rfl

/-- **What can be stored is read back.** The recursion is on the levels a value
may have. -/
theorem isReadBack_of_isStorable : ∀ {n : Nat} {v : Value}, v.IsStorable n → IsReadBack v
  | _, .null, _ => fun frames => ⟨_, rfl, settled_finish _ frames⟩
  | _, .bool true, _ => fun frames => ⟨_, rfl, settled_finish _ frames⟩
  | _, .bool false, _ => fun frames => ⟨_, rfl, settled_finish _ frames⟩
  | _, .integer n, _ => isReadBack_integer n
  | _, .fraction, storable => absurd storable (by simp [Value.IsStorable])
  | _, .text t, _ => fun frames => ⟨_, run?_writeText t frames, settled_finish _ frames⟩
  | _ + 1, .list _, storable => isReadBack_list fun v hv => isReadBack_of_isStorable (storable v hv)
  | _ + 1, .object _, storable =>
    isReadBack_object fun f hf => isReadBack_of_isStorable (storable.2 f hf)

/-- **JSON without blanks is faithful.** -/
theorem isFaithful_compact : compact.IsFaithful := by
  intro v storable
  refine ⟨v, ?_, .refl v⟩
  obtain ⟨r, read, settled⟩ := isReadBack_of_isStorable storable []
  change (run? ⟨.value, []⟩ (write v)).bind end? = some v
  rw [read, Option.bind_some, end?, settled]
  rfl

/-- An object with a list, an escape and a number. -/
example :
    let v : Value := .object [("filter", .text ['"', 'a']), ("opt", .list [.integer 17, .null])]
    write v = "\x7b\"filter\":\"\\\"a\",\"opt\":[17,null]\x7d".toList ∧ read? (write v) = some v :=
  ⟨rfl, rfl⟩

end ContentFilter.Stored.Json
