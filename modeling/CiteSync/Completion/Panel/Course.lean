import CiteSync.Completion.Panel.Operations

/-!
# The course of a panel

What is done with a panel and what happens by itself, in any order.  Things happen one at a time, so
that queries may start, gates open and activities be cancelled between any two of them.
-/

namespace CiteSync.Completion

open Remote

/-- What is done with a panel, or happens next. -/
inductive Move
  | happen
  | ask (token : String) (document : Document)
  | bringUpToDate (provider : Nat) (document : Document)
  | wait (query : Nat)
  | release (provider : Nat) (which : Panel.Which)
  | cancel (activity : Nat)
  | close
  | closeSession (provider : Nat)
  | setWarning (provider : Nat) (warning : Option String)
  | narrow (entries : List Candidate) (token : String)
  | search (provider : Nat) (token : String) (limit : Int)
  | exact (provider : Nat) (token : String)

namespace Panel

variable {σ : Type} (library : RemoteLibrary σ)

def move (p : Panel σ) : Move → Panel σ
  | .happen => p.happen library
  | .ask token document => p.ask token document
  | .bringUpToDate provider document => (p.bringUpToDate provider document).2
  | .wait query => (p.wait query).2
  | .release provider which => p.release provider which
  | .cancel activity => p.cancel activity
  | .close => p.close
  | .closeSession provider => p.closeSession provider
  | .setWarning provider warning => p.setWarning provider warning
  | .narrow entries token => (p.narrowList entries token).2
  | .search provider token limit => (p.searchOne provider token limit).2
  | .exact provider token => (p.exactOne provider token).2

def course (p : Panel σ) (moves : List Move) : Panel σ := moves.foldl (move library) p

end Panel

end CiteSync.Completion
