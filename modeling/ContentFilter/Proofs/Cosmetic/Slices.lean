import ContentFilter.Proofs.Cosmetic.Separator
import ContentFilter.Proofs.Text.Slice

/-!
# Cosmetic rules in slices

A cosmetic rule is cut at its separator, and a pattern of scripts to block at the
slashes around it. `CosmeticFilter.ofSlices?` cuts both by places in the bytes of
the line. It has a value for every line, and that is the filter of the line
(`CosmeticFilter.ofSlices?_eq`).
-/

namespace ContentFilter

/-- **A text starts with another one exactly if its bytes do.** -/
theorem Text.startsWith_utf8 (p t : Text) :
    Search.startsWith p.utf8 t.utf8 = Search.startsWith p t := by
  rw [Bool.eq_iff_iff, Search.startsWith_iff, Search.startsWith_iff]
  constructor
  · rintro ⟨rest, h⟩
    obtain ⟨after, rfl, -⟩ := utf8_eq_append.1 h.symm
    exact ⟨after, rfl⟩
  · rintro ⟨rest, rfl⟩
    exact ⟨utf8 rest, (utf8_append p rest).symm⟩

namespace CosmeticLine

/-- **The separator a `#` starts**, by the bytes behind its place. -/
def separatorAt? (bs : List UInt8) (n : Nat) : Option (Option Bool) :=
  (Bytes.dropTo? (n + 1) bs).map fun rest =>
    if Search.startsWith (Text.utf8 ['#']) rest then some false
    else if Search.startsWith (Text.utf8 ['@', '#']) rest then some true
    else none

/-- Looking behind a `#` tells what separator it starts. -/
theorem separatorAt?_eq (before after : Text) :
    separatorAt? (Text.utf8 (before ++ '#' :: after)) (Text.byteLength before) =
      some ((separator? after).map (·.1)) := by
  have hrest : Bytes.dropTo? (Text.byteLength before + 1) (Text.utf8 (before ++ '#' :: after)) =
      some after.utf8 := by
    have hplace : (Text.utf8 (before ++ ['#'])).length = Text.byteLength before + 1 := by
      rw [Text.length_utf8]
      exact Text.byteLength_append before ['#']
    have cut := Bytes.dropTo?_append (Text.utf8 (before ++ ['#'])) after.utf8
    rwa [hplace, ← Text.utf8_append, List.append_assoc, List.singleton_append] at cut
  unfold separatorAt?
  rw [hrest, Option.map_some, Text.startsWith_utf8, Text.startsWith_utf8]
  cases hread : separator? after with
  | some parts =>
    obtain ⟨isUnhide, rest⟩ := parts
    rw [separator?_eq_some_iff.1 hread]
    cases isUnhide <;> rfl
  | none =>
    have unread (isUnhide : Bool) :
        ¬ Search.startsWith (separatorEnd isUnhide) after = true := by
      rw [Search.startsWith_iff]
      rintro ⟨rest, h⟩
      rw [separator?_eq_some_iff.2 h.symm] at hread
      cases hread
    exact congrArg some ((if_neg (unread false)).trans (if_neg (unread true)))

/-- **The parts of a line, in slices.** -/
def ofSlices? (line : Text) : Option (Option CosmeticLine) := do
  match ← Text.scanFrom? (separatorAt? line.utf8) line.utf8 0 with
  | none => some none
  | some (n, isUnhide) =>
    let hostnames ← Text.sliceTo? n line
    let selector ← Text.sliceFrom? (if isUnhide then n + 3 else n + 2) line
    some (some ⟨hostnames, isUnhide, selector⟩)

/-- **The slices of a line can all be taken, and are its parts.** -/
theorem ofSlices?_eq (line : Text) : ofSlices? line = some (ofText? line) := by
  have hscan : Text.scanFrom? (separatorAt? line.utf8) line.utf8 0 =
      some ((parts? line).map fun (before, m) => (Text.byteLength before, m.1)) :=
    Text.scanFrom?_eq isScan_parts? (fun m => m.1) fun before after h => by
      rw [h]
      exact separatorAt?_eq before after
  unfold ofSlices?
  rw [hscan, Option.bind_eq_bind, Option.bind_some, parts?]
  cases hread : ofText? line with
  | none => rfl
  | some l =>
    have hline := (ofText?_eq_some_iff.1 hread).eq_append
    obtain ⟨hostnames, isUnhide, selector⟩ := l
    have hfront : Text.sliceTo? (Text.byteLength hostnames) line = some hostnames := by
      rw [hline]
      exact Text.sliceTo?_append _ _ rfl
    have hback : Text.sliceFrom? (if isUnhide then Text.byteLength hostnames + 3
        else Text.byteLength hostnames + 2) line = some selector := by
      have cut := Text.sliceFrom?_append (hostnames ++ '#' :: separatorEnd isUnhide) selector rfl
      rw [List.append_assoc, List.cons_append, ← hline, Text.byteLength_append] at cut
      cases isUnhide <;> exact cut
    dsimp only [Option.map_some]
    rw [hfront, hback]
    rfl

end CosmeticLine

namespace SelectorKind

/-- **A text without a slash at both ends, in slices.** -/
def dropSlashesOfSlices? (t : Text) : Option Text :=
  if 2 ≤ t.byteLength && Search.startsWith ['/'] t && Search.endsWith ['/'] t then
    Text.slice? 1 (t.byteLength - 1) t
  else some t

/-- The two slashes of a text are different ones. -/
theorem dropSlashesOfSlices?_eq (t : Text) : dropSlashesOfSlices? t = some (dropSlashes t) := by
  unfold dropSlashesOfSlices?
  split
  · next hslashes =>
    simp only [Bool.and_eq_true, decide_eq_true_eq, Search.startsWith_iff, Search.endsWith_iff]
      at hslashes
    obtain ⟨⟨hlen, rest, rfl⟩, body, hend⟩ := hslashes
    cases body with
    | nil =>
      -- one slash alone is a single byte
      rw [← hend] at hlen
      exact absurd hlen (by decide)
    | cons c body =>
      obtain ⟨rfl, rfl⟩ : c = '/' ∧ body ++ ['/'] = rest := by simpa using hend
      have hstop : Text.byteLength (['/'] ++ (body ++ ['/'])) - 1 =
          Text.byteLength (['/'] ++ body) := by
        rw [← List.append_assoc, Text.byteLength_append _ ['/']]
        exact Nat.add_sub_cancel _ 1
      have hslice : Text.slice? 1 (Text.byteLength (['/'] ++ body)) (['/'] ++ (body ++ ['/'])) =
          some body :=
        Text.slice?_eq_some.2 ⟨['/'], ['/'], (List.append_assoc ..).symm, rfl, rfl⟩
      rw [hstop, hslice]
      show _ = some ((Search.dropEnd? ['/'] (body ++ ['/'])).getD _)
      rw [Search.dropEnd?_append]
      rfl
  · next hslashes =>
    unfold dropSlashes
    split
    · next rest =>
      cases hdrop : Search.dropEnd? ['/'] rest with
      | none => rfl
      | some body =>
        obtain rfl := Search.dropEnd?_eq_some.1 hdrop
        refine absurd ?_ hslashes
        simp only [Bool.and_eq_true, decide_eq_true_eq, Search.startsWith_iff,
          Search.endsWith_iff]
        refine ⟨⟨?_, _, rfl⟩, '/' :: body, rfl⟩
        show 2 ≤ 1 + Text.byteLength (body ++ ['/'])
        rw [Text.byteLength_append, show Text.byteLength ['/'] = 1 from rfl]
        omega
    · rfl

/-- **What a selector asks for, in slices.** Only scripts to block need one. -/
def readOfSlices? (t : Text) : Option (Except CosmeticError (SelectorKind × Text)) :=
  match Search.dropStart? "script:contains(".toList t with
  | some rest =>
    match Search.dropEnd? [')'] rest with
    | some body => (dropSlashesOfSlices? body).map fun kept => .ok (scriptBlock, kept)
    | none => some (.error .scriptNotClosed)
  | none => some (read t)

/-- The slice of a selector can be taken. -/
theorem readOfSlices?_eq (t : Text) : readOfSlices? t = some (read t) := by
  unfold readOfSlices? read
  cases Search.dropStart? "script:contains(".toList t with
  | none => rfl
  | some rest =>
    dsimp only
    cases Search.dropEnd? [')'] rest with
    | none => rfl
    | some body =>
      dsimp only
      rw [dropSlashesOfSlices?_eq]
      rfl

end SelectorKind

namespace CosmeticFilter

/-- **The cosmetic filter of a line, in slices.** -/
def ofSlices? [IdnaService] (line : Text) (keepsLine : Bool) :
    Option (Except CosmeticError CosmeticFilter) := do
  match ← CosmeticLine.ofSlices? line with
  | none => some (.error .noSeparator)
  | some l =>
    let read ← SelectorKind.readOfSlices? (Text.trim l.selector)
    some
      (match l.patterns.mapM HostnamePattern.normalize? with
      | none => .error .hostnameNotAscii
      | some hostnames =>
        if l.isUnhide && hostnames = [] then .error .unhideWithoutHostnames
        else
          match read with
          | .error e => .error e
          | .ok (kind, selector) =>
            if selector = [] then .error .emptySelector
            else .ok (.make (.of (l.holds kind)) hostnames selector
              (if keepsLine then some line else none)))

/-- **The slices of a cosmetic rule can all be taken, and give its filter.** -/
theorem ofSlices?_eq [IdnaService] (line : Text) (keepsLine : Bool) :
    ofSlices? line keepsLine = some (ofLine line keepsLine) := by
  unfold ofSlices? ofLine
  rw [CosmeticLine.ofSlices?_eq, Option.bind_eq_bind, Option.bind_some]
  cases CosmeticLine.ofText? line with
  | none => rfl
  | some l =>
    dsimp only
    rw [SelectorKind.readOfSlices?_eq]
    rfl

end CosmeticFilter

end ContentFilter
