import ReporterBlocks.Text.Quoted

/-!
# Settings

What an extension of the host is set to: the name it registers under, and what becomes of a call
that arrives while another one waits.
-/

namespace ReporterBlocks

/-- What a reporter does with a call that arrives while a caller waits for its value. -/
inductive Overlap where
  /-- The newer call takes over, and the older caller is never answered. -/
  | supersede
  /-- Calls wait in order and are answered one by one. -/
  | queue
  deriving DecidableEq, Repr

def Overlap.name : Overlap → String
  | supersede => "Supersede"
  | queue => "Queue"

structure Settings where
  name : String
  overlap : Overlap
  /-- How many calls one reporter lets wait behind the caller that it serves. -/
  queueLimit : Nat
  deriving DecidableEq, Repr

namespace Settings

def default : Settings := ⟨"Custom Reporters", .supersede, 64⟩

instance : Inhabited Settings := ⟨default⟩

/-- The settings as a report shows them. -/
def debug (s : Settings) : String :=
  "ExtensionConfig \x7b name: " ++ Text.quoted s.name ++ ", overlap: " ++ s.overlap.name ++
    ", queue_limit: " ++ toString s.queueLimit ++ " \x7d"

end Settings

end ReporterBlocks
