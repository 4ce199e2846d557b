import CiteSync.Remote.Retry

/-!
# Calls

A call on something remote ends in a value or a failure and leaves the remote in a new state.
-/

namespace CiteSync.Remote

/-- A call on a remote whose state is a `σ`. -/
abbrev Call (σ α : Type) := ExceptT Failure (StateM σ) α

namespace Call

variable {σ α : Type}

def perform (c : Call σ α) (s : σ) : Except Failure α × σ := c.run.run s

def fault (cause : Fault) : Call σ α := throw (.fault cause)

def ofResult : Except Fault α → Call σ α
  | .ok a => pure a
  | .error cause => fault cause

/-- The call with its faults made part of its value; a cancelled call stays cancelled. -/
def caught (c : Call σ α) : Call σ (Except Fault α) :=
  tryCatch (Except.ok <$> c) fun
    | .fault cause => pure (.error cause)
    | .cancelled note => throw (.cancelled note)

end Call

end CiteSync.Remote
