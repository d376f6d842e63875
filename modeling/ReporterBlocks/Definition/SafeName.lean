/-!
# Safe names

The name that a reporter is known by, made of letters, digits and underscores whatever its display
name holds.
-/

namespace ReporterBlocks

/-- What every safe name begins with, so that it begins with a letter. -/
def safeNameStart : String := "func"

/-- An ASCII letter or digit stands for itself, any other character for its code point in decimal
after an underscore. -/
def safeChar (c : Char) : List Char :=
  if c.isAlphanum then [c] else '_' :: Nat.toDigits 10 c.toNat

def safeName (display : String) : String :=
  String.ofList (safeNameStart.toList ++ display.toList.flatMap safeChar)

end ReporterBlocks
