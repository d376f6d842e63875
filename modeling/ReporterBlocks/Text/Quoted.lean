import ReporterBlocks.Text.Combining
import ReporterBlocks.Text.Ranges
import ReporterBlocks.Text.Unprintable

/-!
# Quoted text

Text as a report shows it: between double quotes, with quotes, backslashes and everything that
would not show by itself escaped.
-/

namespace ReporterBlocks.Text

/-- The Hangul fillers: letters that are drawn as nothing. -/
def fillers : List Char := ['\u115f', '\u1160', '\u3164', '\uffa0']

/-- A character that shows as itself wherever it stands. -/
def showsAlone (c : Char) : Bool :=
  (' ' ≤ c && c ≤ '~') ||
    !(fillers.contains c || inRanges unprintableRanges c.toNat ||
      inRanges combiningRanges c.toNat)

def hexDigits (n : Nat) : List Char := Nat.toDigits 16 n

def quoteChar (c : Char) : List Char :=
  match c with
  | '"' => ['\\', '"']
  | '\\' => ['\\', '\\']
  | '\n' => ['\\', 'n']
  | '\r' => ['\\', 'r']
  | '\t' => ['\\', 't']
  | '\x00' => ['\\', '0']
  | c => if showsAlone c then [c] else ['\\', 'u', '\x7b'] ++ hexDigits c.toNat ++ ['\x7d']

def quoted (s : String) : String := String.ofList ('"' :: s.toList.flatMap quoteChar ++ ['"'])

end ReporterBlocks.Text
