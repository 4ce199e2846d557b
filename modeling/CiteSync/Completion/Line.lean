import CiteSync.Completion.Bibliography
import CiteSync.Completion.CrossReference

/-!
# The line about a candidate
-/

namespace CiteSync.Completion

/-- The line about a candidate, with room for so many characters of its main part. -/
def Candidate.line (c : Candidate) (room : Int) : String :=
  match c.origin with
  | .none => ""
  | .work w => workLine w room
  | .reference r => r.line room

end CiteSync.Completion
