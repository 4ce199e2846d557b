import CiteSync.Decimal.Fixed
import CiteSync.Text.Search

/-!
# Timed work

The line that tells how long a piece of work took.
-/

namespace CiteSync.Log

structure Timing where
  task : String
  notes : List (String × String) := []

/-- How long the work took, in seconds, and whether it was broken off. -/
def Timing.line (t : Timing) (elapsed : Float) (failed : Bool) : String :=
  let outcome := if failed then "failed" else "completed"
  let line := t.task ++ " " ++ outcome ++ " in " ++ Decimal.fixed 2 elapsed ++ "s"
  match t.notes with
  | [] => line
  | notes => line ++ " (" ++ Text.join ", " (notes.map fun n => n.1 ++ "=" ++ n.2) ++ ")"

end CiteSync.Log
