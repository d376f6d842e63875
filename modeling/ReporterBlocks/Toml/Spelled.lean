import ReporterBlocks.Toml.Datetime
import ReporterBlocks.Toml.Value

/-!
# Spelled dates

A table may stand for a date or a time: its first key is the one kept for that, with the text of the
date under it. Such a table is no table to those who take values of every kind.
-/

namespace ReporterBlocks.Toml

/-- Whether a table that stands for a date may go on after it. -/
inductive Rest where
  /-- What follows is passed over. -/
  | passed
  /-- Nothing may follow. -/
  | refused
  deriving DecidableEq

/-- The date that a text spells. -/
def Datetime.ofString? (s : String) : Option Value :=
  (ofText? s.toList).map fun t => .datetime (String.ofList t)

namespace Value

/-- The date that a table stands for, whose first key is the one for dates. -/
def ofSpelling? (rest : Rest) (first : Value) (fields : Table) : Option Value :=
  if rest = .refused && !fields.isEmpty then none else first.string? >>= Datetime.ofString?

mutual

/-- A value in which no table stands for a date any more; none if one stands for no real date. -/
def resolve? (rest : Rest) : Value → Option Value
  | .array vs => (resolveItems? rest vs).map .array
  | .table [] => some (.table [])
  | .table ((k, v) :: fields) =>
    if k = datetimeKey then ofSpelling? rest v fields
    else do
      let v ← resolve? rest v
      some (.table ((k, v) :: (← resolveFields? rest fields)))
  | v => some v

def resolveItems? (rest : Rest) : List Value → Option (List Value)
  | [] => some []
  | v :: vs => do
    let v ← resolve? rest v
    some (v :: (← resolveItems? rest vs))

def resolveFields? (rest : Rest) : List (String × Value) → Option (List (String × Value))
  | [] => some []
  | (k, v) :: fields => do
    let v ← resolve? rest v
    some ((k, v) :: (← resolveFields? rest fields))

end

end Value

end ReporterBlocks.Toml
