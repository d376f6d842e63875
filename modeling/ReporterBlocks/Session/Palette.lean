import ReporterBlocks.Block.Row

/-!
# The host's palette

The blocks that a host shows for an extension. Registering replaces them all.
-/

namespace ReporterBlocks

structure Palette where
  extension : Option String
  rows : List Row
  /-- How many times a table was registered. -/
  registrations : Nat
  deriving DecidableEq, Repr

namespace Palette

def empty : Palette := ⟨none, [], 0⟩

def register (p : Palette) (extension : String) (rows : List Row) : Palette :=
  ⟨some extension, rows, p.registrations + 1⟩

/-- Takes away the blocks of an extension; those of another one stay. -/
def unregister (p : Palette) (extension : String) : Palette :=
  if p.extension = some extension then { p with extension := none, rows := [] } else p

end Palette

end ReporterBlocks
