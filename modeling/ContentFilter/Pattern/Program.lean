import ContentFilter.Pattern.Expression

/-!
# Patterns as programs

A pattern that holds wildcards or separators is not compared with a text
directly. Its expression is handed to an engine, which makes a test of texts
of it. The engine is a service, and which expressions it takes is its own
matter; a pattern whose expression it refuses matches nothing.

One pattern is not shown to the engine at all: the empty one without an end
anchor matches everything.
-/

namespace ContentFilter

/-- **An engine**: of the text of an expression it makes a test of texts, if it
takes the expression. -/
def Engine := Text → Option (List UInt8 → Bool)

namespace Pattern

/-- **Whether an anchored pattern matches everything**, as the empty one does
that may end anywhere. -/
def Anchored.matchesAll (a : Anchored) : Bool :=
  a.pattern = [] && !a.right

/-- **What a pattern is compiled to.** -/
inductive Program where
  /-- Everything matches. -/
  | everything
  /-- The engine refused the expression, and nothing matches. -/
  | refused
  /-- The test that the engine made of the expression. -/
  | compiled (expression : Text) (test : List UInt8 → Bool)

namespace Program

/-- **The program an engine makes of an anchored pattern.** -/
def compile (engine : Engine) (a : Anchored) : Program :=
  if a.matchesAll then everything
  else
    match engine a.expression with
    | some test => compiled a.expression test
    | none => refused

/-- **Whether a text matches.** -/
def isMatch : Program → List UInt8 → Bool
  | everything, _ => true
  | refused, _ => false
  | compiled _ test, text => test text

/-- **The text a program is shown as.** -/
def text : Program → Text
  | everything => ".*".toList
  | refused => "ERROR".toList
  | compiled expression _ => expression

end Program

end Pattern

end ContentFilter
