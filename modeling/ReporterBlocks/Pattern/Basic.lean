import ReporterBlocks.Pattern.CharSet

/-!
# Patterns

A pattern describes pieces of a text. Whether one stands in a text is found by following, for all
places of the text at once, which of them a match may have come to; there is one more place than
there are characters.
-/

namespace ReporterBlocks

/-- Where a place may lie with respect to words. -/
inductive WordEdge where
  | boundary
  | noBoundary
  | start
  | finish
  /-- No word before it. -/
  | startHalf
  /-- No word after it. -/
  | finishHalf
  deriving DecidableEq, Repr

/-- What a pattern may ask of a place. -/
inductive Assertion where
  | textStart
  | textEnd
  /-- Where lines end in a carriage return and a line feed, or in either, with `crlf`; else in a
  line feed. -/
  | lineStart (crlf : Bool)
  | lineEnd (crlf : Bool)
  /-- With `everyScript` about words of letters of every script, else of ASCII. -/
  | word (everyScript : Bool) (edge : WordEdge)
  deriving DecidableEq, Repr

/-- Whether the place between two characters is as asked; none stands before the first place and
after the last. -/
def Assertion.holds (a : Assertion) (before after : Option Char) : Bool :=
  let inWord (c : Option Char) : Bool := c.any CharSet.wordChars.contains
  match a with
  | textStart => before.isNone
  | textEnd => after.isNone
  | lineStart false => before.all (· = '\n')
  | lineStart true => before.all fun c => c = '\n' || (c = '\r' && after ≠ some '\n')
  | lineEnd false => after.all (· = '\n')
  | lineEnd true => after.all fun c => c = '\r' || (c = '\n' && before ≠ some '\r')
  | word _ .boundary => inWord before != inWord after
  | word _ .noBoundary => inWord before == inWord after
  | word _ .start => !inWord before && inWord after
  | word _ .finish => inWord before && !inWord after
  | word _ .startHalf => !inWord before
  | word _ .finishHalf => !inWord after

inductive Pattern where
  | nothing
  /-- One character of a set. -/
  | one (s : CharSet)
  | place (a : Assertion)
  | seq (p q : Pattern)
  | either (p q : Pattern)
  /-- The pattern so many times in a row; without `most`, any number of times from `least` on. -/
  | times (p : Pattern) (least : Nat) (most : Option Nat)
  deriving DecidableEq, Repr

namespace Pattern

/-- Which places of a text a match may have come to. -/
abbrev Places := List Bool

/-- Whether an assertion holds at each place of a text that follows `before`. -/
def truths (a : Assertion) : Option Char → List Char → Places
  | before, [] => [a.holds before none]
  | before, c :: cs => a.holds before (some c) :: truths a (some c) cs

/-- Applies a step so many times; it may stop where the step changes nothing any more. -/
def settle (step : Places → Places) : Nat → Places → Places
  | 0, ps => ps
  | n + 1, ps =>
    let next := step ps
    if next = ps then ps else settle step n next

/-- The places after a match that began at one of the given places. As a match never goes back,
nothing new comes from repeating it more often than there are places. -/
def follow (cs : List Char) : Pattern → Places → Places
  | nothing, ps => ps
  | one s, ps => false :: List.zipWith (fun p c => p && s.contains c) ps cs
  | place a, ps => List.zipWith and ps (truths a none cs)
  | seq p q, ps => follow cs q (follow cs p ps)
  | either p q, ps => List.zipWith or (follow cs p ps) (follow cs q ps)
  | times p least most, ps =>
    let reached := settle (follow cs p) (min least ps.length) ps
    let more := match most with
      | none => ps.length
      | some m => min (m - least) ps.length
    settle (fun qs => List.zipWith or qs (follow cs p qs)) more reached

/-- Whether the pattern stands somewhere in a text. -/
def occursIn (p : Pattern) (text : String) : Bool :=
  let cs := text.toList
  (follow cs p (List.replicate (cs.length + 1) true)).any id

/-- Whether every assertion that counts can be decided, which takes words of ASCII letters. -/
def isDecidable : Pattern → Bool
  | nothing | one _ => true
  | place (.word everyScript _) => !everyScript
  | place _ => true
  | seq p q => p.isDecidable && q.isDecidable
  | either p q => p.isDecidable && q.isDecidable
  | times p _ most => most = some 0 || p.isDecidable

end Pattern

end ReporterBlocks
