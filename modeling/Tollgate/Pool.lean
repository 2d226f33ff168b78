import Tollgate.Count
import Tollgate.Instance

namespace Tollgate

structure PoolEntry where
  item : Instance
  returnedAt : Nat
deriving Repr, Inhabited

structure PoolCounts where
  hits : Nat := 0
  misses : Nat := 0
  puts : Nat := 0
  rejected : Nat := 0
  evicted : Nat := 0
  expired : Nat := 0
deriving Repr, DecidableEq, Inhabited

structure Pool where
  settings : PoolSettings
  idle : Table (List PoolEntry) := .empty
  closed : Bool := false
  counts : PoolCounts := {}
deriving Repr, Inhabited

namespace Pool

def entries (p : Pool) (moduleId : String) : List PoolEntry := (p.idle.get? moduleId).getD []

def idleCount (p : Pool) (moduleId : String) : Nat := (p.entries moduleId).length

def resident (p : Pool) : Nat := sumOf (p.idle.values.map List.length)

-- The entries of a contract; a contract without entries is not listed.
def setEntries (p : Pool) (moduleId : String) (entries : List PoolEntry) : Pool :=
  { p with idle :=
    if entries.isEmpty then p.idle.erase moduleId else p.idle.insert moduleId entries }

-- The last entry under a ceiling, and the others in their order.
def takeLast? (pages : Nat) : List PoolEntry → Option (PoolEntry × List PoolEntry)
  | [] => none
  | e :: rest =>
    match takeLast? pages rest with
    | some (taken, others) => some (taken, e :: others)
    | none => if e.item.memoryLimitPages = pages then some (e, rest) else none

def get (p : Pool) (moduleId : String) (pages : Nat) : Pool × Option Instance :=
  if p.closed then (p, none)
  else match takeLast? pages (p.entries moduleId) with
    | some (e, others) =>
      ({ p.setEntries moduleId others with
          counts := { p.counts with hits := p.counts.hits + 1 } }, some e.item)
    | none => ({ p with counts := { p.counts with misses := p.counts.misses + 1 } }, none)

-- Keeps an open instance if there is room for one more of its contract, and says whether it did.
def put (p : Pool) (i : Instance) (now : Nat) : Pool × Bool :=
  if i.isClosed || p.closed || decide (p.settings.maxPerModule ≤ p.idleCount i.moduleId) then
    ({ p with counts := { p.counts with rejected := p.counts.rejected + 1 } }, false)
  else
    ({ p.setEntries i.moduleId (p.entries i.moduleId ++ [⟨i, now⟩]) with
        counts := { p.counts with puts := p.counts.puts + 1 } }, true)

def evict (p : Pool) (moduleId : String) : Pool × Nat :=
  let count := p.idleCount moduleId
  ({ p.setEntries moduleId [] with
      counts := { p.counts with evicted := p.counts.evicted + count } }, count)

def isExpired (p : Pool) (now : Nat) (e : PoolEntry) : Bool :=
  p.settings.maxIdle * nanosPerMilli ≤ now - e.returnedAt

def cleanup (p : Pool) (now : Nat) : Pool × Nat :=
  let parts := p.idle.map fun entries => entries.partition (p.isExpired now)
  let fresh := (parts.map Prod.snd).entries.filter fun row => !row.2.isEmpty
  let expired := parts.values.flatMap Prod.fst
  ({ p with
      idle := ⟨fresh⟩
      counts := { p.counts with expired := p.counts.expired + expired.length } }, expired.length)

def close (p : Pool) : Pool :=
  if p.closed then p
  else
    { p with
      closed := true
      idle := .empty
      counts := { p.counts with evicted := p.counts.evicted + p.resident } }

def reopen (p : Pool) : Pool := { p with closed := false }

def describe (p : Pool) : String :=
  let c := p.counts
  let stats := Text.shape "PoolStats"
    [("hits", toString c.hits), ("misses", toString c.misses), ("puts", toString c.puts),
      ("rejected", toString c.rejected), ("evicted", toString c.evicted),
      ("expired", toString c.expired), ("resident", toString p.resident),
      ("modules", toString p.idle.size), ("closed", Text.shownBool p.closed)]
  Text.shape "InstancePool" [("config", p.settings.describe), ("stats", stats)]

end Pool

end Tollgate
