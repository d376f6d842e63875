/-!
# Slots

The kinds of argument slot a specifier can declare: the delimiters that write them, the words that
describe them, and the tokens that stand for them in a block template.
-/

namespace ReporterBlocks

/-- The character that makes the next one literal. -/
def escapeChar : Char := '_'

/-- What an argument slot accepts. -/
inductive SlotKind where
  | string
  | number
  | boolean
  deriving DecidableEq, Repr

namespace SlotKind

def opening : SlotKind → Char
  | string => '['
  | number => '('
  | boolean => '<'

def closing : SlotKind → Char
  | string => ']'
  | number => ')'
  | boolean => '>'

/-- The slot that a character opens. -/
def ofOpening? (c : Char) : Option SlotKind :=
  if c = '[' then some string
  else if c = '(' then some number
  else if c = '<' then some boolean
  else none

def describe : SlotKind → String
  | string => "string input"
  | number => "number input"
  | boolean => "boolean input"

/-- The host's placeholder for a slot. -/
def token : SlotKind → String
  | string => "%s"
  | number => "%n"
  | boolean => "%b"

theorem ofOpening?_opening (k : SlotKind) : ofOpening? k.opening = some k := by
  cases k <;> decide

theorem eq_opening_of_ofOpening? {c : Char} {k : SlotKind} (h : ofOpening? c = some k) :
    c = k.opening := by
  unfold ofOpening? at h
  split at h
  · cases h
    assumption
  split at h
  · cases h
    assumption
  split at h
  · cases h
    assumption
  · contradiction

end SlotKind

/-- A character that closes a slot of some kind. -/
def isCloser (c : Char) : Bool := c = ']' || c = ')' || c = '>'

end ReporterBlocks
