import CiteSync.Library.Check

/-!
# Replies of a remote library

What a call to a remote library comes back with: a message, or an error in words.  Either may carry
a warning for the reader of the document.
-/

namespace CiteSync.Library

structure Reply (α : Type) where
  ok : Bool := true
  /-- Meaningful only when the call succeeded. -/
  message : Option α := none
  warning : Option String := none
  error : Option String := none
  deriving Inhabited

namespace Reply

def success {α : Type} (message : α) (warning : Option String) : Reply α :=
  { message := some message, warning }

def failure {α : Type} (error : String) (warning : Option String) : Reply α :=
  { ok := false, error := some error, warning }

end Reply

def statusWord (ok : Bool) : String := if ok then "ok" else "error"

def checkStatus : Json → Check Bool
  | .str "ok" => .pass true
  | .str "error" => .pass false
  | _ => .fail [] .notChoice

/-- A reply whose message may be any value. -/
def Reply.check : Json → Check (Reply Json) :=
  record fun ms =>
    (Check.pass Reply.mk)
      |>.also (field ms "status" "status" checkStatus true)
      |>.also (field ms "message" "message" (checkOptional .pass) none)
      |>.also (field ms "warning" "warning" (checkOptional checkText) none)
      |>.also (field ms "error" "error" (checkOptional checkText) none)

end CiteSync.Library
