import ReporterBlocks.Pattern.Basic
import ReporterBlocks.Pattern.Fault

/-!
# Written patterns

A pattern as it is written, before flags have given its parts their meaning. The parts whose meaning
may be refused know where they stand.
-/

namespace ReporterBlocks.Pattern

inductive Flag where
  | caseless
  | manyLines
  | dotAll
  | lazy
  | characters
  | crlf
  | spaced
  deriving DecidableEq, Repr

/-- The flags that are put up or taken down. -/
abbrev FlagChanges := List (Flag × Bool)

structure Letter where
  span : Span
  char : Char
  /-- Whether it is written as the two digits of a byte. -/
  asByte : Bool
  deriving DecidableEq, Repr

inductive SetOp where
  | common
  | without
  | oneOf
  deriving DecidableEq, Repr

mutual

/-- A part of a set between brackets. -/
inductive SetItem where
  | letter (l : Letter)
  | range (span : Span) (first last : Letter)
  /-- A set of ASCII characters by its name. -/
  | named (span : Span) (set : CharSet) (negated : Bool)
  /-- Digits, blanks or the characters of words, of every script. -/
  | kind (span : Span) (ascii : CharSet) (negated : Bool)
  | property (span : Span) (name : List Char)
  | inner (span : Span) (negated : Bool) (body : SetBody)

inductive SetBody where
  | union (span : Span) (items : List SetItem)
  | combine (op : SetOp) (left right : SetBody)

end

/-- A sign that asks something of a place. -/
inductive Mark where
  | caret
  | dollar
  | textStart
  | textEnd
  | word (edge : WordEdge)
  deriving DecidableEq, Repr

inductive Written where
  | letter (l : Letter)
  | dot (span : Span)
  | mark (m : Mark)
  | kind (span : Span) (ascii : CharSet) (negated : Bool)
  | property (span : Span) (name : List Char)
  | set (span : Span) (negated : Bool) (body : SetBody)
  | flags (changes : FlagChanges)
  | times (w : Written) (least : Nat) (most : Option Nat)
  | group (changes : FlagChanges) (w : Written)
  | row (ws : List Written)
  | choice (ws : List Written)

namespace SetItem

def span : SetItem → Span
  | letter l => l.span
  | range s _ _ | named s _ _ | kind s _ _ | property s _ | inner s _ _ => s

end SetItem

namespace SetBody

def span : SetBody → Span
  | union s _ => s
  | combine _ left right => ⟨left.span.first, right.span.last⟩

end SetBody

end ReporterBlocks.Pattern
