import LinkTrials.Folder
import LinkTrials.Text.Quoted

/-!
Panics. A program reports a fault and ends as the fault says; at a panic it ends at once.

The only panic of a run comes from the system, which takes no text with a zero in it for a variable.
-/
namespace LinkTrials

/-- A variable that could not be set. -/
structure Panic where
  name : String
  text : String
deriving DecidableEq, Repr

namespace Panic

/-- A text as the system quotes it: single quotes are escaped as well. -/
def quoted (s : String) : String :=
  String.ofList ((Text.quoted s).toList.flatMap fun c => if c = '\'' then ['\\', c] else [c])

def message (p : Panic) : String :=
  "failed to set environment variable `" ++ quoted p.name ++ "` to `" ++ quoted p.text ++ "`: " ++
    FileFault.zeroInPath.message

end Panic

/-- Why something is not done to its end. -/
inductive Halt (ε : Type) where
  | fault (fault : ε)
  | panic (panic : Panic)
deriving DecidableEq, Repr

def Halt.map {ε δ : Type} (f : ε → δ) : Halt ε → Halt δ
  | .fault e => .fault (f e)
  | .panic p => .panic p

end LinkTrials
