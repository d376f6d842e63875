/-!
# JSON values
-/

namespace ReporterBlocks.Json

/-- What the characters between two quotes stand for: none if an escape names half a character. -/
abbrev Decoded := Option String

inductive Value where
  | null
  | boolean (b : Bool)
  /-- A number as it is written. -/
  | number (literal : String)
  | string (s : Decoded)
  | array (items : List Value)
  | object (fields : List (Decoded × Value))

end ReporterBlocks.Json
