import ContentFilter.Proofs.Search.Occurrence
import ContentFilter.Text.Blank
import Mathlib.Data.List.Basic

/-!
# What stands on the lines of a text

A text is cut at its line feeds, and three things are done to the pieces
before they are lines: a carriage return at the end of a piece is dropped,
except at the end of the last one, and a last piece that is empty is no line
at all. None of this is seen by a reader that trims what it reads and passes
over what is blank, since carriage returns are blanks. For such a reader the
lines of a text are as good as the pieces (`contents_lines`), and the pieces
of two texts with a line end between them are those of the one and then those
of the other (`contents_lines_append_lineFeed`,
`contents_lines_append_returnLineFeed`). If lines are taken out of a text by what
stands on them, it holds what is left (`contents_lines_keepLines`).
-/

namespace ContentFilter.Text

/-! ## Pieces -/

/-- **The characters of the pieces** are those of the text but for the separator. -/
theorem exists_mem_splitOn_iff {separator c : Char} {t : Text} :
    (∃ piece ∈ t.splitOn separator, c ∈ piece) ↔ c ∈ t ∧ c ≠ separator := by
  induction t with
  | nil => simp [List.splitOn_nil]
  | cons d t ih =>
    rw [List.splitOn_cons_eq_if_modifyHead]
    split
    · next hd =>
      obtain rfl := eq_of_beq hd
      rw [List.exists_mem_cons_iff, ih, List.mem_cons]
      refine ⟨fun h => ?_, fun h => .inr ⟨h.1.resolve_left h.2, h.2⟩⟩
      exact (h.resolve_left List.not_mem_nil).imp_left .inr
    · next hd =>
      obtain ⟨piece, pieces, hpieces⟩ :=
        List.exists_cons_of_ne_nil (List.splitOn_ne_nil separator t)
      rw [hpieces] at ih ⊢
      rw [List.modifyHead_cons, List.exists_mem_cons_iff, List.mem_cons, List.mem_cons, or_assoc,
        ← List.exists_mem_cons_iff (c ∈ ·), ih, or_and_right]
      refine or_congr_left ⟨fun h => ⟨h, ?_⟩, And.left⟩
      rw [h]
      exact fun he => hd (beq_iff_eq.2 he)

/-! ## Trimming -/

/-- **A blank at the end makes no difference** to what is left after
trimming. -/
theorem trim_concat {c : Char} (hc : isBlank c = true) (t : Text) : trim (t ++ [c]) = trim t := by
  unfold trim trimStart
  rw [List.dropWhile_append]
  split
  · next blank =>
    rw [List.isEmpty_iff.1 blank, List.dropWhile_cons_of_pos hc]
    rfl
  · exact Search.dropEndWhile_concat hc _

/-- Trimming takes off the carriage return that is dropped from a line. -/
theorem trim_dropReturn (piece : Text) : trim (dropReturn piece) = trim piece := by
  unfold dropReturn
  cases h : Search.dropEnd? ['\r'] piece with
  | none => rfl
  | some line =>
    rw [Search.dropEnd?_eq_some.1 h]
    exact (trim_concat rfl line).symm

/-! ## Contents -/

/-- **What stands on some lines**: the lines trimmed, without the blank
ones. -/
def contents (lines : List Text) : List Text :=
  (lines.map trim).filter (· ≠ [])

/-- What stands on the lines of two lists stands on those of the one and of
the other. -/
theorem contents_append (lines lines' : List Text) :
    contents (lines ++ lines') = contents lines ++ contents lines' := by
  unfold contents
  rw [List.map_append, List.filter_append]

/-- Lines that are the same once they are trimmed hold the same. -/
theorem contents_cons_congr {line line' : Text} (h : trim line = trim line') (rest : List Text) :
    contents (line :: rest) = contents (line' :: rest) := by
  unfold contents
  rw [List.map_cons, List.map_cons, h]

/-- **A reader that trims and passes over blanks sees only the contents** of
some lines. -/
theorem filterMap_contents {α : Type} {read : Text → Option α}
    (trims : ∀ line, read (trim line) = read line) (passes : read [] = none) (lines : List Text) :
    (contents lines).filterMap read = lines.filterMap read := by
  unfold contents
  rw [List.filterMap_filter, List.filterMap_map]
  congr 1
  funext line
  show (if decide (trim line ≠ []) = true then read (trim line) else none) = read line
  rw [← trims line]
  by_cases blank : trim line = []
  · rw [blank, passes]
    rfl
  · rw [if_pos (decide_eq_true blank)]

/-- The lines among some pieces hold what the pieces hold. -/
theorem contents_linesOfPieces (pieces : List Text) :
    contents (linesOfPieces pieces) = contents pieces := by
  fun_induction linesOfPieces pieces with
  | case1 => rfl
  | case2 => rfl
  | case3 => rfl
  | case4 piece rest _ ih =>
    rw [contents_cons_congr (trim_dropReturn piece), ← List.singleton_append, contents_append, ih,
      ← contents_append, List.singleton_append]

/-- **The lines of a text hold what stands between its line feeds.** -/
theorem contents_lines (t : Text) : contents (lines t) = contents (t.splitOn '\n') :=
  contents_linesOfPieces _

/-! ## Line ends -/

/-- **With a line feed between them**, two texts hold what the one holds and
then what the other holds. -/
theorem contents_lines_append_lineFeed (s t : Text) :
    contents (lines (s ++ '\n' :: t)) = contents (lines s) ++ contents (lines t) := by
  rw [contents_lines, contents_lines, contents_lines, List.splitOn_append_cons_self,
    contents_append]

/-- A text with no line feed holds the same with a carriage return behind
it. -/
theorem contents_splitOn_concat_return {t : Text} (h : '\n' ∉ t) :
    contents ((t ++ ['\r']).splitOn '\n') = contents (t.splitOn '\n') := by
  have single {s : Text} (hs : '\n' ∉ s) : s.splitOn '\n' = [s] := by
    rw [List.splitOn_eq_splitOnP]
    exact List.splitOnP_eq_singleton fun c hc => beq_eq_false_iff_ne.2 fun he => hs (he ▸ hc)
  have hreturn : '\n' ∉ t ++ ['\r'] := by
    rw [List.mem_append, not_or]
    exact ⟨h, by decide⟩
  rw [single h, single hreturn]
  exact contents_cons_congr (trim_concat rfl t) []

/-- A text holds the same with a carriage return behind it. -/
theorem contents_lines_concat_return (s : Text) :
    contents (lines (s ++ ['\r'])) = contents (lines s) := by
  rw [contents_lines, contents_lines]
  cases h : Search.splitLast? '\n' s with
  | none => exact contents_splitOn_concat_return (Search.splitLast?_eq_none.1 h)
  | some parts =>
    -- only what follows the last line feed is touched
    obtain ⟨hs, lacks⟩ := Search.splitLast?_eq_some.1 (show _ = some (parts.1, parts.2) from h)
    rw [hs, List.append_assoc, List.cons_append, List.splitOn_append_cons_self,
      List.splitOn_append_cons_self, contents_append, contents_append,
      contents_splitOn_concat_return lacks]

/-- **With a carriage return and a line feed between them**, two texts hold
what the one holds and then what the other holds. -/
theorem contents_lines_append_returnLineFeed (s t : Text) :
    contents (lines (s ++ '\r' :: '\n' :: t)) = contents (lines s) ++ contents (lines t) := by
  rw [show s ++ '\r' :: '\n' :: t = s ++ ['\r'] ++ '\n' :: t by rw [List.append_assoc]; rfl,
    contents_lines_append_lineFeed, contents_lines_concat_return]

/-! ## Taking lines out -/

/-- **A text with some of its lines only**: those between its line feeds that pass a
test. -/
def keepLines (p : Text → Bool) (t : Text) : Text :=
  join ['\n'] ((t.splitOn '\n').filter p)

/-- Of what stands on some lines, that passes what is on the lines that do. -/
theorem contents_filter {p : Text → Bool} (hp : ∀ line, p (trim line) = p line)
    (lines : List Text) : contents (lines.filter p) = (contents lines).filter p := by
  have trimmed : p ∘ trim = p := funext hp
  unfold contents
  rw [List.filter_comm, List.filter_map (p := p), trimmed]

/-- Pieces without line feeds, joined by them, hold what they hold. -/
theorem contents_lines_join {pieces : List Text} (free : ∀ piece ∈ pieces, '\n' ∉ piece) :
    contents (lines (join ['\n'] pieces)) = contents pieces := by
  cases pieces with
  | nil => rfl
  | cons piece pieces =>
    rw [contents_lines, join, List.splitOn_intercalate '\n' free (List.cons_ne_nil piece pieces)]

/-- **With some of its lines only, a text holds what is on them.** -/
theorem contents_lines_keepLines {p : Text → Bool} (hp : ∀ line, p (trim line) = p line)
    (t : Text) : contents (lines (keepLines p t)) = (contents (lines t)).filter p := by
  have free : ∀ piece ∈ (t.splitOn '\n').filter p, '\n' ∉ piece := fun piece hpiece h =>
    (exists_mem_splitOn_iff.1 ⟨piece, (List.mem_filter.1 hpiece).1, h⟩).2 rfl
  rw [keepLines, contents_lines_join free, contents_filter hp, contents_lines]

end ContentFilter.Text
