/-!
Locks, and what a panic makes of them.

A thread gives back every lock that it holds, also in a panic, which leaves a mark on the lock.
Whoever takes a marked lock is warned. What the locks here guard stays sound when a panic cuts an
action short, so the warning is set aside and the lock is used as any other.
-/

namespace LineHighlight

/-- A lock: free or held, and marked if a thread that held it has panicked. -/
structure Lock where
  isHeld : Bool := false
  isPoisoned : Bool := false
deriving DecidableEq, Repr, Inhabited

/-- How far what is done under a lock has come. -/
inductive Hold where
  | ended
  | panicked
  | pending
deriving DecidableEq, Repr

namespace Lock

/-- Takes the lock: it is had in either case, and the warning is that it is marked. -/
def take (l : Lock) : Except Lock Lock :=
  if l.isPoisoned then .error { l with isHeld := true } else .ok { l with isHeld := true }

/-- The lock that was taken, with a warning or without. -/
def taken : Except Lock Lock → Lock
  | .ok l | .error l => l

/-- Gives the lock back. -/
def release (l : Lock) : Lock :=
  { l with isHeld := false }

/-- Gives the lock back in a panic. -/
def poison (l : Lock) : Lock :=
  { l with isPoisoned := true }

/-- The lock after it was taken for something that has come so far. -/
def after (l : Lock) : Hold → Lock
  | .ended => l
  | .panicked => l.poison
  | .pending => taken l.take

end Lock

end LineHighlight
