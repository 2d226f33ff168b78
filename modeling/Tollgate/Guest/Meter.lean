namespace Tollgate.Guest

-- Code spends as it runs, and what it spent counts once it is saved, which happens where control
-- leaves a stretch of code. Host calls see and spend only what is saved.
structure Meter where
  limit : Nat := 0
  hostCallFee : Nat
  hostCalls : Nat := 0
  used : Nat := 0
  saved : Nat := 0
deriving Repr, DecidableEq, Inhabited

namespace Meter

def arm (m : Meter) (limit : Nat) : Meter :=
  { m with limit := limit, hostCalls := 0, used := 0, saved := 0 }

def charge (m : Meter) (fee : Nat) : Meter := { m with used := m.used + fee }

def save (m : Meter) : Meter := { m with saved := m.used }

def isSpent (m : Meter) : Bool := m.limit ≤ m.used

def exhaust (m : Meter) : Meter := { m with used := m.limit, saved := m.limit }

def remaining (m : Meter) : Nat := m.limit - m.saved

def consumed (m : Meter) : Nat := m.limit - m.remaining

-- The fixed fee of a host call. A budget that does not cover it is used up.
def payHostCall (m : Meter) : Meter × Bool :=
  if m.remaining < m.hostCallFee then (m.exhaust, false)
  else
    let spent := m.limit - (m.remaining - m.hostCallFee)
    ({ m with used := spent, saved := spent, hostCalls := m.hostCalls + 1 }, true)

end Meter

end Tollgate.Guest
