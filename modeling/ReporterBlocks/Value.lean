import ReporterBlocks.Definition.Basic
import ReporterBlocks.Number.Notation
import ReporterBlocks.Text.Quoted

/-!
# Values

What flows between blocks: text, a number or a truth value.
-/

namespace ReporterBlocks

inductive Value where
  | text (s : String)
  | number (x : Float)
  | boolean (b : Bool)

namespace Value

/-- What a cell holds before anything is written to it. -/
def empty : Value := .text ""

instance : Inhabited Value := ⟨empty⟩

/-- ASCII capitals are read as small letters. -/
def spellsFalse (s : String) : Bool := s.toList.map Char.toLower = "false".toList

/-- Zero, the empty text, `0` and `false` are false, and so is what is not a number. -/
def truthy : Value → Bool
  | text s => !(s = "" || s = "0" || spellsFalse s)
  | number x => x != 0 && !x.isNaN
  | boolean b => b

/-- Numbers compare as doubles: the two zeros are equal, and what is not a number differs from
itself. -/
def beq : Value → Value → Bool
  | text s, text t => s = t
  | number x, number y => x == y
  | boolean a, boolean b => a = b
  | _, _ => false

instance : BEq Value := ⟨beq⟩

/-- The value as a user sees it. -/
def display : Value → String
  | text s => s
  | number x => Number.plain x
  | boolean b => toString b

/-- The value as a report shows it. -/
def debug : Value → String
  | text s => "String(" ++ Text.quoted s ++ ")"
  | number x => "Number(" ++ Number.marked x ++ ")"
  | boolean b => "Boolean(" ++ toString b ++ ")"

end Value

/-- What a place of this kind keeps of a value. -/
def ValueKind.admit : ValueKind → Value → Value
  | reporter, v => v
  | boolean, v => .boolean v.truthy

end ReporterBlocks
