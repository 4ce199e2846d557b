import CiteSync.Remote.Failure
import CiteSync.Decimal.Fixed

/-!
# Repeated attempts

A call that fails with a transient fault is made again after a pause, each pause twice as long as
the one before.  Any other outcome ends the matter at once, and so does a pause that is too long to
be worked out.
-/

namespace CiteSync.Remote

structure Policy where
  attempts : Int := 3
  pause : Float := 2.0
  task : String := "Operation"

/-- A call's last outcome with what it took to get there. -/
structure Attempts (α : Type) where
  result : Except Failure α
  calls : Nat
  pauses : List Float
  records : List Log.Record

/-- The pause after the attempt of that number, counted from zero. -/
def Policy.pauseAfter (p : Policy) (attempt : Nat) : Float := p.pause * (Nat.pow 2 attempt).toFloat

/-- How many pauses there can be at most: two to the power of 1024 is no floating-point number. -/
def mostPauses : Nat := 1024

def overlongPause : Fault := .foreign "OverflowError" "int too large to convert to float"

def Policy.record (p : Policy) (attempt : Nat) (cause : Fault) : Log.Record :=
  ⟨.retry, Log.warning, p.task ++ " failed (attempt " ++ toString (attempt + 1) ++ "/" ++
    toString p.attempts ++ "): " ++ cause.message ++ ". Retrying in " ++
    Decimal.fixed 0 (p.pauseAfter attempt) ++ "s..."⟩

/-- Makes the call while attempts are left; `attempt` have been made before. -/
def attemptsFrom {σ α : Type} (p : Policy) (call : σ → Except Failure α × σ) :
    (left attempt : Nat) → σ → Attempts α × σ
  | 0, _, s => (⟨.error (.fault (.noAttempts p.task p.attempts)), 0, [], []⟩, s)
  | left + 1, attempt, s =>
    match call s with
    | (.error (.fault cause), s') =>
      if cause.isTransient && left != 0 then
        if attempt < mostPauses then
          let (rest, s'') := attemptsFrom p call left (attempt + 1) s'
          (⟨rest.result, rest.calls + 1, p.pauseAfter attempt :: rest.pauses,
            p.record attempt cause :: rest.records⟩, s'')
        -- The pause cannot be worked out, and that fault hides the one of the call.
        else (⟨.error (.fault overlongPause), 1, [], []⟩, s')
      else (⟨.error (.fault cause), 1, [], []⟩, s')
    | (result, s') => (⟨result, 1, [], []⟩, s')

def Policy.run {σ α : Type} (p : Policy) (call : σ → Except Failure α × σ) (s : σ) :
    Attempts α × σ :=
  attemptsFrom p call p.attempts.toNat 0 s

end CiteSync.Remote
