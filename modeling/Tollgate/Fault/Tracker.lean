import Tollgate.Count
import Tollgate.Fault
import Tollgate.Text.Shape

namespace Tollgate

-- Counts per key, in rising rank of the keys that occurred.
abbrev Tally (κ : Type) := List (κ × Nat)

def Tally.bump {κ : Type} (rank : κ → Nat) (key : κ) : Tally κ → Tally κ
  | [] => [(key, 1)]
  | (k, n) :: rest =>
    if rank key = rank k then (k, n + 1) :: rest
    else if rank key < rank k then (key, 1) :: (k, n) :: rest
    else (k, n) :: Tally.bump rank key rest

def Tally.total {κ : Type} (t : Tally κ) : Nat := sumOf (t.map Prod.snd)

structure FaultStats where
  total : Nat := 0
  byKind : Tally FaultKind := []
  bySeverity : Tally Severity := []
  recoverable : Nat := 0
  hasLast : Bool := false
deriving Repr, Inhabited

def FaultStats.record (s : FaultStats) (f : Fault) : FaultStats where
  total := s.total + 1
  byKind := s.byKind.bump FaultKind.rank f.kind
  bySeverity := s.bySeverity.bump Severity.rank f.severity
  recoverable := if f.isRecoverable then s.recoverable + 1 else s.recoverable
  hasLast := true

structure Tracker where
  stats : FaultStats := {}
  subscribers : Nat := 0
deriving Repr, Inhabited

namespace Tracker

def record (t : Tracker) (f : Fault) : Tracker := { t with stats := t.stats.record f }

-- Who is told of a fault, in the order of subscription.
def notices (t : Tracker) (f : Fault) : List (Nat × Fault) :=
  (List.range t.subscribers).map fun n => (n, f)

def subscribe (t : Tracker) : Tracker := { t with subscribers := t.subscribers + 1 }

def reset (t : Tracker) : Tracker := { t with stats := {} }

def describe (t : Tracker) : String :=
  Text.shape "ErrorTracker"
    [("total_errors", toString t.stats.total), ("callbacks", toString t.subscribers)]

end Tracker

end Tollgate
